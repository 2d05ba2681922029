import ODataApi.Binary64
import ODataApi.Dictionary

/-!
# JSON values

A value keeps what was written: an object is the list of its members in order,
repeated names included, so each reader decides what a repetition means.  Whole
numbers are kept exactly as long as they fit sixty-four bits, signed or
unsigned; every other number is a binary64 number.
-/

namespace ODataApi

/-- A JSON number. -/
inductive JsonNumber
  /-- A whole number, written without fraction and exponent. -/
  | int (value : Int)
  /-- Any other number. -/
  | float (value : Binary64)
deriving DecidableEq, Inhabited, Repr

/-- A JSON value. -/
inductive Json
  | null
  | bool (value : Bool)
  | number (value : JsonNumber)
  | string (value : String)
  | array (items : List Json)
  /-- The members in the order they are written. -/
  | object (members : List (String × Json))
deriving Inhabited, Repr

namespace Json

/-- A whole number. -/
def ofInt (n : Int) : Json := .number (.int n)

/-- A natural number. -/
def ofNat (n : Nat) : Json := ofInt n

/-- An array of strings. -/
def ofStrings (items : List String) : Json := .array (items.map .string)

/-- The value if there is one, and `null` otherwise. -/
def ofOption {α : Type} (encode : α → Json) : Option α → Json
  | none => .null
  | some value => encode value

/-- A member of an object.  Of repeated names the last one counts. -/
def member? (name : String) : Json → Option Json
  | .object members => (members.reverse.lookup name)
  | _ => none

/-! ## Reading a single value -/

/-- A boolean. -/
def bool? : Json → Option Bool
  | .bool value => some value
  | _ => none

/-- A string. -/
def string? : Json → Option String
  | .string value => some value
  | _ => none

/-- A whole number. -/
def int? : Json → Option Int
  | .number (.int value) => some value
  | _ => none

/-- The items of an array. -/
def array? : Json → Option (List Json)
  | .array items => some items
  | _ => none

/-- The members of an object. -/
def object? : Json → Option (List (String × Json))
  | .object members => some members
  | _ => none

/-- A list, each item read in the same way. -/
def listOf? {α : Type} (read : Json → Option α) (json : Json) : Option (List α) :=
  json.array?.bind fun items => items.mapM read

/-- A value that may be `null`. -/
def nullable? {α : Type} (read : Json → Option α) : Json → Option (Option α)
  | .null => some none
  | json => (read json).map some

/-! ## Canonical form -/

mutual

/-- The value in which every object is a dictionary: its members are sorted by
name, and of a repeated name the last member is kept. -/
def canonical : Json → Json
  | .array items => .array (canonicalItems items)
  | .object members => .object (Dictionary.ofList (canonicalMembers members))
  | json => json

/-- The canonical items of an array. -/
def canonicalItems : List Json → List Json
  | [] => []
  | item :: rest => canonical item :: canonicalItems rest

/-- The members of an object with canonical values, as they are written. -/
def canonicalMembers : List (String × Json) → List (String × Json)
  | [] => []
  | (name, value) :: rest => (name, canonical value) :: canonicalMembers rest

end

end Json

end ODataApi
