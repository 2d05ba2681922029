import ODataApi.Json
import ODataApi.Binary64.Shortest

/-!
# Writing JSON text

`render` writes a value on one line without blanks.  `pretty` puts every item and
member on a line of its own, two blanks deeper than its container; an empty
container stays on one line.

Inside a string a quote, a backslash and the control characters are escaped, all
else stands for itself.  A number that is not whole has the shortest digits that
read back.  What is not a number has no JSON text: it is written as `null`.
-/

namespace ODataApi

namespace Json

/-! ## Scalars -/

/-- A hexadecimal digit, in lower case. -/
def hexDigit (n : Nat) : Char :=
  if n < 10 then Char.ofNat ('0'.toNat + n) else Char.ofNat ('a'.toNat + (n - 10))

/-- A character inside a string. -/
def escape (c : Char) : List Char :=
  match c with
  | '"' => ['\\', '"']
  | '\\' => ['\\', '\\']
  | '\x08' => ['\\', 'b']
  | '\x0c' => ['\\', 'f']
  | '\n' => ['\\', 'n']
  | '\r' => ['\\', 'r']
  | '\t' => ['\\', 't']
  | c =>
    if c.toNat < 0x20 then ['\\', 'u', '0', '0', hexDigit (c.toNat / 16), hexDigit (c.toNat % 16)]
    else [c]

/-- A string between quotes. -/
def quote (text : String) : String :=
  String.ofList ('"' :: text.toList.flatMap escape ++ ['"'])

/-- A number. -/
def renderNumber : JsonNumber → String
  | .int value => toString value
  | .float value => if value.isFinite then value.text else "null"

/-! ## One line -/

mutual

/-- A value on one line. -/
def render : Json → String
  | .null => "null"
  | .bool true => "true"
  | .bool false => "false"
  | .number value => renderNumber value
  | .string value => quote value
  | .array items => "[" ++ ",".intercalate (renderItems items) ++ "]"
  | .object members => "\x7b" ++ ",".intercalate (renderMembers members) ++ "\x7d"

/-- The items of an array. -/
def renderItems : List Json → List String
  | [] => []
  | item :: rest => render item :: renderItems rest

/-- The members of an object. -/
def renderMembers : List (String × Json) → List String
  | [] => []
  | (name, value) :: rest => (quote name ++ ":" ++ render value) :: renderMembers rest

end

/-! ## Indented -/

/-- A container with every entry on a line of its own, the entries at depth
`depth + 1`. -/
def indented (opening closing : String) (depth : Nat) (entries : List String) : String :=
  match entries with
  | [] => opening ++ closing
  | entries =>
    let blanks (n : Nat) : String := "\n" ++ String.ofList (List.replicate (2 * n) ' ')
    opening ++ ",".intercalate (entries.map (blanks (depth + 1) ++ ·)) ++ blanks depth ++ closing

mutual

/-- A value whose containers close at `depth`. -/
def prettyAt (depth : Nat) : Json → String
  | .array items => indented "[" "]" depth (prettyItems depth items)
  | .object members => indented "\x7b" "\x7d" depth (prettyMembers depth members)
  | json => render json

/-- The items of an array at `depth`. -/
def prettyItems (depth : Nat) : List Json → List String
  | [] => []
  | item :: rest => prettyAt (depth + 1) item :: prettyItems depth rest

/-- The members of an object at `depth`. -/
def prettyMembers (depth : Nat) : List (String × Json) → List String
  | [] => []
  | (name, value) :: rest =>
    (quote name ++ ": " ++ prettyAt (depth + 1) value) :: prettyMembers depth rest

end

/-- A value over several lines. -/
def pretty (json : Json) : String := prettyAt 0 json

/-! ## Tests -/

example : render (.array [.null, ofInt (-3), .object [("a\n", .bool true)]])
    = "[null,-3,\x7b\"a\\n\":true\x7d]" := by decide +kernel
example : pretty (.object [("a", .array []), ("b", .array [.null])])
    = "\x7b\n  \"a\": [],\n  \"b\": [\n    null\n  ]\n\x7d" := by decide +kernel

end Json

end ODataApi
