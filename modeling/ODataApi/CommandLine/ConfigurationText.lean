import ODataApi.Json.Reader
import ODataApi.Numeral

/-!
# Configuration files

The text of a configuration file is JSON and is read as YAML.  Where the two differ
the rules of YAML hold.

* A file has no control characters but tabs and line breaks, and neither of the last
  two code points of the basic plane.  A byte order mark at its start is skipped.
* No tab stands before the object, and none after it but on the line where it ends.
* The name of a member and its colon are on one line, with at most `maxNameSize`
  bytes from the start of one to the other.
* An escape stands for a character, so surrogates have none.
* In a string, blanks around a line break are dropped.  A single line break is a
  space, and of several the first is dropped.  The line and paragraph separators of
  Unicode are line breaks that stand for themselves.  No line in a string starts
  with a document marker.
* A number beyond the binary64 numbers is a string, and minus zero is zero.
* At most `maxDepth` arrays and objects are open at once.

`read?` reads characters by recursion on fuel, of which each character needs one.
-/

namespace ODataApi.CommandLine.ConfigurationText

/-! ## Characters -/

/-- The characters of a file. -/
def isAllowed (c : Char) : Bool :=
  let code := c.toNat
  code == 0x9 || code == 0xa || code == 0xd || (0x20 ≤ code && code ≤ 0x7e) || code == 0x85
    || (0xa0 ≤ code && code ≤ 0xfffd) || 0x10000 ≤ code

/-- The line breaks after `withLineFeeds`. -/
def isBreak (c : Char) : Bool := c == '\n' || c == '\u2028' || c == '\u2029'

/-- A space or a tab. -/
def isGap (c : Char) : Bool := c == ' ' || c == '\t'

/-- The text with one line feed for each carriage return, line feed, both of them in
this order, or next line. -/
def withLineFeeds : List Char → List Char
  | '\r' :: '\n' :: rest => '\n' :: withLineFeeds rest
  | c :: rest => (if c == '\r' || c == '\u0085' then '\n' else c) :: withLineFeeds rest
  | [] => []

/-- The text from the next character on that is not blank. -/
def skipBlanks (cs : List Char) : List Char := cs.dropWhile Json.Token.isBlank

/-! ## Strings -/

/-- What a run of gaps and line breaks in a string stands for. -/
def folded (run : List Char) : List Char :=
  match run.dropWhile isGap with
  | [] => run
  | first :: rest =>
    let breaks := rest.filter isBreak
    if first != '\n' then first :: breaks else if breaks.isEmpty then [' '] else breaks

/-- Whether a line starts with a document marker. -/
def isMarker : List Char → Bool
  | a :: b :: c :: rest =>
    ([a, b, c] == ['-', '-', '-'] || [a, b, c] == ['.', '.', '.'])
      && (rest.take 1).all fun d => isGap d || isBreak d
  | _ => false

/-- The character with a code of four hexadecimal digits. -/
def coded? (a b c d : Char) : Option Char := do
  let code ← Json.Token.hexUnit? a b c d
  if 0xd800 ≤ code ∧ code < 0xe000 then none else some (Char.ofNat code)

/-- The rest of a string after its opening quote: the characters it stands for and
the text after its closing quote.  `read` holds characters in reverse, and `run`, in
reverse too, the gaps and line breaks after them. -/
def quoted? (read run : List Char) (cs : List Char) : Option (String × List Char) :=
  let join := (folded run.reverse).reverse ++ read
  match cs with
  | [] => none
  | '"' :: rest => some (String.ofList join.reverse, rest)
  | '\\' :: 'u' :: a :: b :: c :: d :: rest =>
    (coded? a b c d).bind fun char => quoted? (char :: join) [] rest
  | '\\' :: c :: rest =>
    (Json.Token.simpleEscape? c).bind fun char => quoted? (char :: join) [] rest
  | c :: rest =>
    if isGap c || isBreak c then quoted? read (c :: run) rest
    else if (run.take 1).any isBreak && isMarker (c :: rest) then none
    else quoted? (c :: join) [] rest

/-! ## Values -/

/-- Whether a character ends a value without quotes. -/
def endsPlain (c : Char) : Bool :=
  Json.Token.isBlank c || c == ',' || c == ':' || c == ']' || c == '\x7d'

/-- A value without quotes. -/
def plain? : List Char → Option Json
  | ['n', 'u', 'l', 'l'] => some .null
  | ['t', 'r', 'u', 'e'] => some (.bool true)
  | ['f', 'a', 'l', 's', 'e'] => some (.bool false)
  | cs => (Numeral.read? cs).map fun n =>
    if !n.nearest.isFinite then .string (String.ofList cs)
    else if n.isWhole then Json.ofInt (if n.negative then -n.significand else n.significand)
    else .number (.float n.nearest)

/-- The greatest number of bytes from the start of a name to its colon. -/
def maxNameSize : Nat := 1024

/-- Whether a name that starts a text can have its colon where `rest` starts. -/
def isNameOf (cs rest : List Char) : Bool :=
  let name := cs.take (cs.length - rest.length)
  (String.ofList name).utf8ByteSize ≤ maxNameSize && !name.any isBreak

/-- The number of arrays and objects that can be open at once. -/
def maxDepth : Nat := 128

mutual

/-- The value at the start of a text, and the text after it.  `depth` is how many
more arrays and objects may be open. -/
def value? : (fuel depth : Nat) → List Char → Option (Json × List Char)
  | 0, _, _ => none
  | _ + 1, _, '"' :: rest => (quoted? [] [] rest).map fun (text, rest) => (.string text, rest)
  | fuel + 1, depth + 1, '[' :: rest =>
    (items? fuel depth (skipBlanks rest)).map fun (items, rest) => (.array items, rest)
  | fuel + 1, depth + 1, '\x7b' :: rest =>
    (members? fuel depth (skipBlanks rest)).map fun (members, rest) => (.object members, rest)
  | _ + 1, _, cs =>
    let (text, rest) := cs.span fun c => !endsPlain c
    (plain? text).map (·, rest)

/-- The items of an array, up to its bracket. -/
def items? : (fuel depth : Nat) → List Char → Option (List Json × List Char)
  | _, _, ']' :: rest => some ([], rest)
  | 0, _, _ => none
  | fuel + 1, depth, cs => do
    let (item, rest) ← value? fuel depth cs
    match skipBlanks rest with
    | ',' :: rest =>
      let (items, rest) ← items? fuel depth (skipBlanks rest)
      pure (item :: items, rest)
    | ']' :: rest => pure ([item], rest)
    | _ => none

/-- The members of an object, up to its brace. -/
def members? : (fuel depth : Nat) → List Char → Option (List (String × Json) × List Char)
  | _, _, '\x7d' :: rest => some ([], rest)
  | fuel + 1, depth, '"' :: rest => do
    let (name, after) ← quoted? [] [] rest
    let ':' :: value := skipBlanks after | none
    if !isNameOf ('"' :: rest) (':' :: value) then none
    let (value, after) ← value? fuel depth (skipBlanks value)
    match skipBlanks after with
    | ',' :: rest =>
      let (members, rest) ← members? fuel depth (skipBlanks rest)
      pure ((name, value) :: members, rest)
    | '\x7d' :: rest => pure ([(name, value)], rest)
    | _ => none
  | _, _, _ => none

end

/-! ## Texts -/

/-- Whether tabs around an object are only on the line where it ends.  A text without
an object has none. -/
def hasProperTabs (cs : List Char) : Bool :=
  let after := (cs.reverse.takeWhile (· != '\x7d')).reverse
  !(cs.takeWhile (· != '\x7b')).contains '\t' && !(after.dropWhile (!isBreak ·)).contains '\t'

/-- The value of a text.  A blank text is an object without members. -/
def read? (text : String) : Option Json := do
  let cs := withLineFeeds (if text.startsWith "\ufeff" then text.toList.drop 1 else text.toList)
  if !cs.all isAllowed || !hasProperTabs cs then none
  match skipBlanks cs with
  | [] => some (.object [])
  | cs =>
    let (json, rest) ← value? (cs.length + 1) maxDepth cs
    if (skipBlanks rest).isEmpty then some json else none

/-! ## Tests -/

example : folded " \n ".toList = [' '] ∧ folded "\n \n\n".toList = ['\n', '\n'] := by
  decide +kernel
example : folded " \u2028\n ".toList = ['\u2028', '\n'] ∧ folded "  ".toList = [' ', ' '] := by
  decide +kernel
example : quoted? [] [] "a\n---\"".toList = some ("a ---", []) := by decide +kernel
example : quoted? [] [] "a\n--- b\"".toList = none := by decide +kernel
example : quoted? [] [] "\\ud83d\\ude00\"".toList = none := by decide +kernel
example : hasProperTabs " \t\x7b\x7d".toList = false := by decide +kernel
example : hasProperTabs "\x7b\t\x7d\t\n ".toList = true := by decide +kernel

end ODataApi.CommandLine.ConfigurationText
