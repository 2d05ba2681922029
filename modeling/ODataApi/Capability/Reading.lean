import ODataApi.Expression
import ODataApi.Name

/-!
# Reading annotation values leniently

A value that does not have the expected shape is reported and counts as absent;
what surrounds it is read all the same.  So a reader gives a value, or none, and
the list of mismatches it met, in the order it met them.

A mismatch is located by the steps that lead to it from the value being read.  A
reader never knows where its value stands: whoever reads a field or an item puts
that step in front of the locations.  `locationText` turns steps into text below a
given location.

A field that is missing or `null` is absent and no mismatch.
-/

namespace ODataApi

/-! ## Mismatches -/

/-- A step from a value to a part of it. -/
inductive Step
  /-- To the field of a record. -/
  | field (name : String)
  /-- To the item of a collection, counted from zero. -/
  | item (index : Nat)
deriving DecidableEq, Repr

/-- The text of the location that a step leads to. -/
def Step.extend (location : String) : Step → String
  | .field name => if location = "" then name else location ++ "." ++ name
  | .item index => location ++ "[" ++ toString index ++ "]"

/-- The text of the location that steps lead to from `base`. -/
def locationText (base : String) (steps : List Step) : String := steps.foldl Step.extend base

/-- A value that did not have the expected shape. -/
structure Mismatch where
  /-- The steps to the value. -/
  location : List Step
  /-- What was expected. -/
  expected : String
  /-- The shape that was found. -/
  found : String
deriving DecidableEq, Repr

/-! ## Readings -/

/-- A value with the mismatches met on the way to it. -/
structure Reading (α : Type) where
  /-- The value. -/
  value : α
  /-- The mismatches, the first one met in front. -/
  mismatches : List Mismatch

namespace Reading

instance : Monad Reading where
  pure value := ⟨value, []⟩
  bind reading next :=
    let rest := next reading.value
    ⟨rest.value, reading.mismatches ++ rest.mismatches⟩

/-- The reading of a part, located within the whole. -/
def within {α : Type} (step : Step) (reading : Reading α) : Reading α :=
  ⟨reading.value, reading.mismatches.map fun m => { m with location := step :: m.location }⟩

/-- No value, because this one does not have the expected shape. -/
def mismatch {α : Type} (expected : String) (found : Expression) : Reading (Option α) :=
  ⟨none, [⟨[], expected, found.shape⟩]⟩

end Reading

/-- How a value is read. -/
abbrev Reader (α : Type) := Expression → Reading (Option α)

namespace Reader

open Reading (mismatch)

/-! ## Plain values -/

/-- A boolean. -/
def bool : Reader Bool
  | .bool value => pure (some value)
  | other => mismatch "bool" other

/-- A whole number. -/
def int : Reader Int
  | .int value => pure (some value)
  | other => mismatch "int" other

/-- A string. -/
def string : Reader String
  | .string value => pure (some value)
  | other => mismatch "string" other

/-- A path.  A string is taken for one. -/
def path : Reader String
  | .path value | .string value => pure (some value)
  | other => mismatch "path" other

/-- A member of an enumeration, without the enumeration.  A string is taken for
one. -/
def enumMember : Reader String
  | .enumMember value | .string value => pure (some (Name.last value))
  | other => mismatch "enum member" other

/-- Any value that has a JSON form. -/
def json : Reader Json := fun value =>
  match value.toJson? with
  | some json => pure (some json)
  | none => mismatch "finite value" value

/-- A boolean.  The bare annotation, whose value is `null`, stands for true. -/
def tag : Reader Bool
  | .bool value => pure (some value)
  | .null => pure (some true)
  | other => mismatch "bool" other

/-! ## Collections -/

/-- The items from position `index` on, without those that cannot be read. -/
def items {α : Type} (read : Reader α) : (index : Nat) → List Expression → Reading (List α)
  | _, [] => pure []
  | index, item :: rest => do
    let value ← (read item).within (.item index)
    let values ← items read (index + 1) rest
    pure (value.toList ++ values)

/-- A collection. -/
def listOf {α : Type} (read : Reader α) : Reader (List α)
  | .collection values => do pure (some (← items read 0 values))
  | other => mismatch "collection" other

/-- A collection of paths. -/
def paths : Reader (List String) := listOf path

/-! ## Records -/

/-- A record, read off its fields. -/
def record {α : Type} (read : Dictionary Expression → Reading (Option α)) : Reader α
  | .record _ fields => read fields
  | other => mismatch "record" other

end Reader

/-- The field of a record, if it is there and not `null`. -/
def readField {α : Type} (fields : Dictionary Expression) (name : String) (read : Reader α) :
    Reading (Option α) :=
  match fields.get? name with
  | none | some .null => pure none
  | some value => (read value).within (.field name)

/-! ## Tests -/

example : locationText "" [.field "A", .item 2, .field "B"] = "A[2].B" := by decide +kernel
example : locationText "X" [.field "A"] = "X.A" := by decide +kernel
example : (Reader.paths (.collection [.path "a", .null, .string "b"])).value = some ["a", "b"] := by
  decide +kernel
example : (Reader.paths (.collection [.path "a", .null])).mismatches
    = [⟨[.item 1], "path", "null"⟩] := by decide +kernel

end ODataApi
