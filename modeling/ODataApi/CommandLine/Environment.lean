import ODataApi.Character.Blank
import ODataApi.CommandLine.Cut
import ODataApi.Json.Overlay
import ODataApi.Json.Reader
import ODataApi.Numeral

/-!
# Configuration in the environment

A variable whose name starts with `variableStart`, in upper or lower case, sets one
value of the configuration.  The rest of its name is the place of the value, in
lower case, with two underscores or a dot between the levels.  Spaces around the name
and around its rest do not count, and a name with an empty level sets nothing.

The text of a variable is a boolean, a number, a string or character in quotes, a
list in brackets or named values in braces, with blanks around it.  Names in braces
are words, or strings in quotes.  A number is whole and fits sixty-four bits, or it
has a decimal point.  Any other text up to a comma, bracket or brace is a string,
without the spaces around it.  A text that is not read to its end in this way is a
string as it stands.

Text in quotes may have escapes.  Of the characters before its first escape it keeps
as many bytes as there are characters, so characters outside ASCII push others out,
and a text that would keep part of a character is torn.
-/

namespace ODataApi.CommandLine

open Character (isBlank isSpace trim)

/-- What the names of variables start with. -/
def variableStart : String := "EDM_OPENAPI__"

/-! ## Text -/

/-- The characters that end a text without quotes. -/
def isSeparator (c : Char) : Bool :=
  c == ',' || c == '\x7b' || c == '\x7d' || c == '[' || c == ']'

/-- The characters of names without quotes. -/
def isWordCharacter (c : Char) : Bool := c.isAlphanum || c == '_' || c == '-'

/-- The characters that stand for themselves within quotes: all but the controls of
ASCII, of which only the tab does. -/
def isQuotable (c : Char) : Bool := c == '\t' || (0x20 ≤ c.toNat && c.toNat != 0x7f)

/-! ## Values -/

/-- A whole number of sixty-four bits, with a sign or without. -/
def whole? (cs : List Char) : Option JsonNumber :=
  (Numeral.signedWhole? cs).bind fun n =>
    if -0x8000000000000000 ≤ n ∧ n < 0x10000000000000000 then some (.int n) else none

/-- A number with a decimal point. -/
def fractional? (cs : List Char) : Option JsonNumber := do
  let numeral ← Numeral.read? cs
  if numeral.fraction.isSome then some (.float numeral.nearest) else none

/-- A text without quotes: a number or a string. -/
def plainValue (cs : List Char) : Json :=
  match fractional? cs <|> whole? cs with
  | some n => .number n
  | none => .string (String.ofList cs)

/-- The character with a code in hexadecimal digits. -/
def coded? (digits : List Char) : Option Char := do
  let code ← digits.foldlM (fun n c => (Json.Token.hexDigit? c).map (n * 16 + ·)) 0
  if code < 0xd800 ∨ (0xdfff < code ∧ code < 0x110000) then some (Char.ofNat code) else none

/-- What characters stand for from the first escape on. -/
def escaped? : List Char → Option (List Char)
  | [] => some []
  | '\\' :: 'u' :: a :: b :: c :: d :: rest => do
    pure ((← coded? [a, b, c, d]) :: (← escaped? rest))
  | '\\' :: 'U' :: a :: b :: c :: d :: e :: f :: g :: h :: rest => do
    pure ((← coded? [a, b, c, d, e, f, g, h]) :: (← escaped? rest))
  | '\\' :: c :: rest => do
    if c = '/' then none
    pure ((← Json.Token.simpleEscape? c) :: (← escaped? rest))
  | c :: rest => if isQuotable c then (escaped? rest).map (c :: ·) else none

/-- What the characters between quotes stand for. -/
def unquoted (cs : List Char) : Except TextFault String := do
  let plain := cs.takeWhile (· != '\\')
  if !plain.all isQuotable then throw .malformed
  if plain.length = cs.length then return String.ofList cs
  let kept ← partTo cs plain.length
  match escaped? (cs.drop plain.length) with
  | none => throw .malformed
  | some rest => return String.ofList (kept ++ rest)

/-- The characters up to the quote that closes a string, and the text after it.  A quote
behind a backslash closes nothing. -/
def splitAtQuote? : List Char → Option (List Char × List Char)
  | [] => none
  | '"' :: rest => some ([], rest)
  | '\\' :: c :: rest =>
    (splitAtQuote? rest).map fun (inside, rest) => ('\\' :: c :: inside, rest)
  | c :: rest => (splitAtQuote? rest).map fun (inside, rest) => (c :: inside, rest)

/-- A string from the text after its opening quote, and the text after it. -/
def scanQuoted (cs : List Char) : Except TextFault (String × List Char) :=
  match splitAtQuote? cs with
  | none => .error .malformed
  | some (inside, rest) => (unquoted inside).map (·, rest)

/-- A name in braces, and the text after it. -/
def scanName (cs : List Char) : Except TextFault (String × List Char) :=
  match cs with
  | '"' :: rest => scanQuoted rest
  | cs =>
    match cs.span isWordCharacter with
    | ([], _) => .error .malformed
    | (name, rest) => .ok (String.ofList name, rest)

mutual

/-- A value and the text after it.  `fuel` is above the number of characters. -/
def scanValue (fuel : Nat) (cs : List Char) : Except TextFault (Json × List Char) :=
  match fuel with
  | 0 => .error .malformed
  | fuel + 1 => do
    let (value, rest) ←
      match cs.dropWhile isBlank with
      | 't' :: 'r' :: 'u' :: 'e' :: rest => .ok (.bool true, rest)
      | 'f' :: 'a' :: 'l' :: 's' :: 'e' :: rest => .ok (.bool false, rest)
      | '"' :: rest => (scanQuoted rest).map fun (text, rest) => (.string text, rest)
      | '\'' :: c :: '\'' :: rest => .ok (.string (String.singleton c), rest)
      | '\'' :: _ => .error .malformed
      | '[' :: rest => (scanItems fuel rest).map fun (items, rest) => (.array items, rest)
      | '\x7b' :: rest =>
        (scanMembers fuel rest).map fun (members, rest) =>
          (.object (Dictionary.ofList members), rest)
      | rest =>
        let (text, rest) := rest.span fun c => !isSeparator c
        .ok (plainValue (trim isSpace text), rest)
    pure (value, rest.dropWhile isBlank)

/-- The items of a list, up to its bracket. -/
def scanItems (fuel : Nat) (cs : List Char) : Except TextFault (List Json × List Char) :=
  match fuel, cs with
  | 0, _ => .error .malformed
  | _, ']' :: rest => .ok ([], rest)
  | fuel + 1, cs => do
    let (item, rest) ← scanValue fuel cs
    match rest with
    | ',' :: rest =>
      let (items, rest) ← scanItems fuel rest
      pure (item :: items, rest)
    | ']' :: rest => pure ([item], rest)
    | _ => throw .malformed

/-- Named values, up to their brace. -/
def scanMembers (fuel : Nat) (cs : List Char) :
    Except TextFault (List (String × Json) × List Char) :=
  match fuel, cs with
  | 0, _ => .error .malformed
  | _, '\x7d' :: rest => .ok ([], rest)
  | fuel + 1, cs => do
    let (name, rest) ← scanName (cs.dropWhile isBlank)
    let '=' :: rest := rest.dropWhile isBlank | throw .malformed
    let (value, rest) ← scanValue fuel rest
    match rest with
    | ',' :: rest =>
      let (members, rest) ← scanMembers fuel rest
      pure ((name, value) :: members, rest)
    | '\x7d' :: rest => pure ([(name, value)], rest)
    | _ => throw .malformed

end

/-- The value a text stands for.  A text that is read in part only is torn all the same
if a string in that part is. -/
def variableValue (text : String) : Except TextFault Json :=
  match scanValue (text.length + 1) text.toList with
  | .ok (value, []) => .ok value
  | .ok _ | .error .malformed => .ok (.string text)
  | .error .torn => .error .torn

/-! ## Places -/

/-- The levels of the place that a variable sets. -/
def place? (name : String) : Option (List String) :=
  let (start, rest) := (trim isSpace name.toList).splitAt variableStart.length
  let place := String.ofList (trim isSpace rest)
  let levels := (place.toLower.splitOn "__").flatMap fun part => part.splitOn "."
  if (String.ofList start).toUpper != variableStart || levels.contains "" then none
  else some levels

/-- What variables set, in the order of their names. -/
def environmentLayer (environment : Dictionary String) : Except TextFault Json :=
  environment.foldlM (fun layer (name, text) =>
    match place? name with
    | some place => (variableValue text).map fun value => layer.overlay (.nest value place)
    | none => .ok layer) (.object [])

/-! ## Tests -/

/-- Whether the value of a text is a string. -/
def isString (text : String) (result : Except TextFault Json) : Bool :=
  (result.toOption.bind Json.string?) == some text

example : plainValue "3".toList = .number (.int 3) := by cbv
example : plainValue "1.0.0".toList = .string "1.0.0" := by cbv
example : isString "true story" (variableValue "true story") = true := by decide +kernel
example : isString "é\t" (variableValue "\"éé\\t\"") = true := by decide +kernel
example : (match variableValue "\"é\\t\"" with | .error .torn => true | _ => false) = true := by
  decide +kernel
example : isString "a\tb" (variableValue "\"a\tb\"") = true := by decide +kernel
example : isString "\x7ba b=1\x7d" (variableValue "\x7ba b=1\x7d") = true := by decide +kernel
example : isString "\x7b=1\x7d" (variableValue "\x7b=1\x7d") = true := by decide +kernel

end ODataApi.CommandLine
