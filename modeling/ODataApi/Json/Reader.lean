import ODataApi.Json

/-!
# Reading JSON text

The text is strict JSON: one value, with blanks around it and nothing else.  No
byte order mark, no comma before a closing bracket, no control character and no
lone surrogate in a string, no leading zero, no plus sign.

Reading has two phases.  `Token.scan` cuts the text into tokens; each token is
found by recursion on the characters left.  `read?` then reads the value off the
tokens.  The nesting of arrays and objects is bounded by `maxDepth`.  The fuel of
the second phase is twice the number of tokens: a call on a value and the call
on the rest of its container lie at most one token apart.

A number is scanned into a whole significand and a power of ten.  The
significand stops at sixty-four bits: further digits count towards the power of
ten before the decimal point and not at all after it.
-/

namespace ODataApi

namespace Json

/-! ## Tokens -/

/-- A token of JSON text. -/
inductive Token
  | openArray
  | closeArray
  | openObject
  | closeObject
  | comma
  | colon
  | null
  | bool (value : Bool)
  | number (value : JsonNumber)
  | string (value : String)
deriving DecidableEq, Repr

namespace Token

/-- The four blank characters of JSON. -/
def isBlank (c : Char) : Bool := c == ' ' || c == '\n' || c == '\t' || c == '\r'

/-- The value of a hexadecimal digit. -/
def hexDigit? (c : Char) : Option Nat :=
  if '0' ≤ c ∧ c ≤ '9' then some (c.toNat - '0'.toNat)
  else if 'a' ≤ c ∧ c ≤ 'f' then some (c.toNat - 'a'.toNat + 10)
  else if 'A' ≤ c ∧ c ≤ 'F' then some (c.toNat - 'A'.toNat + 10)
  else none

/-- The value of the four hexadecimal digits of an escape. -/
def hexUnit? (a b c d : Char) : Option Nat := do
  let a ← hexDigit? a
  let b ← hexDigit? b
  let c ← hexDigit? c
  let d ← hexDigit? d
  pure (((a * 16 + b) * 16 + c) * 16 + d)

/-- The character a backslash and one letter stand for. -/
def simpleEscape? : Char → Option Char
  | '"' => some '"'
  | '\\' => some '\\'
  | '/' => some '/'
  | 'b' => some '\x08'
  | 'f' => some '\x0c'
  | 'n' => some '\n'
  | 'r' => some '\r'
  | 't' => some '\t'
  | _ => none

/-- The character of two surrogates, the high one first. -/
def surrogatePair? (high low : Nat) : Option Char :=
  if 0xd800 ≤ high ∧ high < 0xdc00 ∧ 0xdc00 ≤ low ∧ low < 0xe000 then
    some (Char.ofNat (0x10000 + (high - 0xd800) * 0x400 + (low - 0xdc00)))
  else none

/-- The rest of a string after its opening quote: the characters it stands for,
in reverse before `read`, and the text after its closing quote. -/
def scanString (read : List Char) : List Char → Option (String × List Char)
  | [] => none
  | '"' :: rest => some (String.ofList read.reverse, rest)
  | '\\' :: 'u' :: a :: b :: c :: d :: rest =>
    match hexUnit? a b c d with
    | none => none
    | some unit =>
      if 0xd800 ≤ unit ∧ unit < 0xe000 then
        match rest with
        | '\\' :: 'u' :: a :: b :: c :: d :: rest =>
          match (hexUnit? a b c d).bind (surrogatePair? unit) with
          | none => none
          | some char => scanString (char :: read) rest
        | _ => none
      else scanString (Char.ofNat unit :: read) rest
  | '\\' :: c :: rest =>
    match simpleEscape? c with
    | none => none
    | some char => scanString (char :: read) rest
  | c :: rest => if c.toNat < 0x20 then none else scanString (c :: read) rest

/-! ## Numbers -/

/-- The first whole number that does not fit sixty-four bits. -/
def significandLimit : Nat := 0x10000000000000000

/-- The greatest exponent that is told apart from larger ones. -/
def exponentLimit : Nat := 0x7fffffff

/-- The value of a decimal digit. -/
def digitValue (c : Char) : Nat := c.toNat - '0'.toNat

/-- A significand and a power of ten, while digits are added. -/
structure Magnitude where
  /-- The digits kept. -/
  significand : Nat
  /-- The power of ten of the last digit kept. -/
  exponent : Int
  /-- Whether a digit has been left out. -/
  full : Bool

/-- Another digit before the decimal point. -/
def Magnitude.pushWhole (m : Magnitude) (c : Char) : Magnitude :=
  let next := m.significand * 10 + digitValue c
  if m.full ∨ significandLimit ≤ next then ⟨m.significand, m.exponent + 1, true⟩
  else ⟨next, m.exponent, false⟩

/-- Another digit after the decimal point. -/
def Magnitude.pushFraction (m : Magnitude) (c : Char) : Magnitude :=
  let next := m.significand * 10 + digitValue c
  if m.full ∨ significandLimit ≤ next then ⟨m.significand, m.exponent, true⟩
  else ⟨next, m.exponent - 1, false⟩

/-- A sign: the minus sign and the plus sign are optional, and without either a
number is positive. -/
def scanSign : List Char → Bool × List Char
  | '-' :: rest => (true, rest)
  | '+' :: rest => (false, rest)
  | rest => (false, rest)

/-- A finite magnitude with its sign. -/
def signed (negative : Bool) (x : Binary64) : JsonNumber :=
  .float (if negative then x.neg else x)

/-- The number of a magnitude with an explicit exponent.  An exponent beyond
`exponentLimit` leaves zero, unless it is positive and the significand is not
zero: then there is no number. -/
def withExponent? (negative : Bool) (m : Magnitude) (negativeExponent : Bool) (exponent : Nat) :
    Option JsonNumber :=
  if exponentLimit < exponent then
    if m.significand ≠ 0 ∧ !negativeExponent then none
    else some (signed negative (Binary64.ofNat 0))
  else
    let shift : Int := if negativeExponent then -exponent else exponent
    (Binary64.ofDecimal? m.significand (m.exponent + shift)).map (signed negative)

/-- A whole number as it is kept: exactly, if it fits sixty-four bits.  A
negative zero is a binary64 number. -/
def wholeNumber (negative : Bool) (significand : Nat) : JsonNumber :=
  if !negative then .int significand
  else if 0 < significand ∧ significand ≤ 0x8000000000000000 then .int (-significand)
  else signed true (Binary64.ofNat significand)

/-- The exponent part of a number, after the letter that opens it. -/
def scanExponent? (negative : Bool) (m : Magnitude) (cs : List Char) :
    Option (JsonNumber × List Char) :=
  let (negativeExponent, cs) := scanSign cs
  match cs.span Char.isDigit with
  | ([], _) => none
  | (digits, rest) =>
    let exponent := digits.foldl (fun n c => n * 10 + digitValue c) 0
    (withExponent? negative m negativeExponent exponent).map (·, rest)

/-- What follows the whole part of a number: a fraction, an exponent or both. -/
def scanTail? (negative : Bool) (m : Magnitude) (cs : List Char) :
    Option (JsonNumber × List Char) :=
  match cs with
  | '.' :: cs =>
    match cs.span Char.isDigit with
    | ([], _) => none
    | (digits, rest) =>
      -- Digits left out before the point do not keep the fraction from being read.
      let m := digits.foldl Magnitude.pushFraction { m with full := false }
      match rest with
      | 'e' :: rest | 'E' :: rest => scanExponent? negative m rest
      | rest =>
        (Binary64.ofDecimal? m.significand m.exponent).map fun x => (signed negative x, rest)
  | 'e' :: cs | 'E' :: cs => scanExponent? negative m cs
  | cs =>
    if m.full then
      (Binary64.ofDecimal? m.significand m.exponent).map fun x => (signed negative x, cs)
    else some (wholeNumber negative m.significand, cs)

/-- A number.  Its whole part is a single zero or does not start with one. -/
def scanNumber? (cs : List Char) : Option (JsonNumber × List Char) :=
  let (negative, cs) :=
    match cs with
    | '-' :: rest => (true, rest)
    | cs => (false, cs)
  match cs.span Char.isDigit with
  | ([], _) => none
  | ('0' :: _ :: _, _) => none
  | (digits, rest) => scanTail? negative (digits.foldl Magnitude.pushWhole ⟨0, 0, false⟩) rest

/-! ## The scanner -/

/-- The first token of a text that does not start with a blank, and the text
after it. -/
def next? : List Char → Option (Token × List Char)
  | '[' :: rest => some (.openArray, rest)
  | ']' :: rest => some (.closeArray, rest)
  | '\x7b' :: rest => some (.openObject, rest)
  | '\x7d' :: rest => some (.closeObject, rest)
  | ',' :: rest => some (.comma, rest)
  | ':' :: rest => some (.colon, rest)
  | 'n' :: 'u' :: 'l' :: 'l' :: rest => some (.null, rest)
  | 't' :: 'r' :: 'u' :: 'e' :: rest => some (.bool true, rest)
  | 'f' :: 'a' :: 'l' :: 's' :: 'e' :: rest => some (.bool false, rest)
  | '"' :: rest => (scanString [] rest).map fun (text, rest) => (.string text, rest)
  | cs => (scanNumber? cs).map fun (value, rest) => (.number value, rest)

/-- The tokens of a text.  Each takes at least one character, so a text has at
most `fuel` of them when it has no more than `fuel` characters. -/
def scanFrom (read : List Token) : (fuel : Nat) → List Char → Option (List Token)
  | _, [] => some read.reverse
  | 0, _ :: _ => none
  | fuel + 1, c :: rest =>
    if isBlank c then scanFrom read fuel rest
    else match next? (c :: rest) with
      | none => none
      | some (token, rest) => scanFrom (token :: read) fuel rest

/-- The tokens of a text, if it consists of tokens and blanks. -/
def scan? (text : String) : Option (List Token) :=
  scanFrom [] text.length text.toList

end Token

/-! ## Values -/

mutual

/-- The value at the head of the tokens, and the tokens after it.  `depth` is how
many more arrays and objects may be open at once. -/
def readValue : (fuel depth : Nat) → List Token → Option (Json × List Token)
  | 0, _, _ => none
  | _ + 1, _, .null :: rest => some (.null, rest)
  | _ + 1, _, .bool value :: rest => some (.bool value, rest)
  | _ + 1, _, .number value :: rest => some (.number value, rest)
  | _ + 1, _, .string value :: rest => some (.string value, rest)
  | _ + 1, depth + 1, .openArray :: .closeArray :: rest =>
    if depth = 0 then none else some (.array [], rest)
  | fuel + 1, depth + 1, .openArray :: rest =>
    if depth = 0 then none
    else (readItems fuel depth rest).map fun (items, rest) => (.array items, rest)
  | _ + 1, depth + 1, .openObject :: .closeObject :: rest =>
    if depth = 0 then none else some (.object [], rest)
  | fuel + 1, depth + 1, .openObject :: rest =>
    if depth = 0 then none
    else (readMembers fuel depth rest).map fun (members, rest) => (.object members, rest)
  | _, _, _ => none

/-- The items of an array, up to its closing bracket. -/
def readItems : (fuel depth : Nat) → List Token → Option (List Json × List Token)
  | 0, _, _ => none
  | fuel + 1, depth, tokens =>
    match readValue fuel depth tokens with
    | some (item, .comma :: rest) =>
      (readItems fuel depth rest).map fun (items, rest) => (item :: items, rest)
    | some (item, .closeArray :: rest) => some ([item], rest)
    | _ => none

/-- The members of an object, up to its closing brace. -/
def readMembers : (fuel depth : Nat) → List Token → Option (List (String × Json) × List Token)
  | 0, _, _ => none
  | fuel + 1, depth, .string name :: .colon :: tokens =>
    match readValue fuel depth tokens with
    | some (value, .comma :: rest) =>
      (readMembers fuel depth rest).map fun (members, rest) => ((name, value) :: members, rest)
    | some (value, .closeObject :: rest) => some ([(name, value)], rest)
    | _ => none
  | _ + 1, _, _ => none

end

/-- The number of open arrays and objects at which a text is refused. -/
def maxDepth : Nat := 128

/-- The value a text holds, if it nests less than `depth` levels deep. -/
def readWithin? (depth : Nat) (text : String) : Option Json := do
  let tokens ← Token.scan? text
  match readValue (2 * tokens.length + 1) depth tokens with
  | some (json, []) => some json
  | _ => none

/-- The value a text holds. -/
def read? (text : String) : Option Json := readWithin? maxDepth text

end Json

end ODataApi
