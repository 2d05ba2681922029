import ODataApi.Json

/-!
# Reading a value with named fields

A value with named fields is written as an object or, in the order of the fields,
as an array.  An object may leave out any field but has none of another name and
none twice.  An array may leave out trailing fields and has no further items.
Which fields may be left out is for the reader of the value to say: `required?`
and `optional?` read a field that was found or left out.
-/

namespace ODataApi

namespace Json

/-- Whether no name stands twice in a list. -/
def distinct : List String → Bool
  | [] => true
  | name :: rest => !rest.contains name && distinct rest

/-- The values of the named fields, in the order of the names, if the value has
no other fields. -/
def fields? (names : List String) : Json → Option (List (Option Json))
  | .object members =>
    let written := members.map (·.1)
    if written.all names.contains && distinct written then
      some (names.map fun name => members.lookup name)
    else none
  | .array items =>
    if items.length ≤ names.length then
      some (items.map some ++ List.replicate (names.length - items.length) none)
    else none
  | _ => none

/-- A field that must be there. -/
def required? {α : Type} (read : Json → Option α) : Option Json → Option α
  | none => none
  | some json => read json

/-- A field that stands for a value of its own when it is left out. -/
def optional? {α : Type} (read : Json → Option α) (absent : α) : Option Json → Option α
  | none => some absent
  | some json => read json

/-- A list that is empty when it is left out. -/
def optionalList? {α : Type} (read : Json → Option α) : Option Json → Option (List α) :=
  optional? (listOf? read) []

/-- A value that may be `null` or left out. -/
def optionalNullable? {α : Type} (read : Json → Option α) : Option Json → Option (Option α) :=
  optional? (nullable? read) none

/-! ## Tests -/

example : (fields? ["a", "b"] (.object [("b", .null)])).map (·.map Option.isSome)
    = some [false, true] := by decide
example : (fields? ["a", "b"] (.array [.null])).map (·.map Option.isSome)
    = some [true, false] := by decide
example : (fields? ["a"] (.object [("a", .null), ("a", .null)])).isSome = false := by decide
example : (fields? ["a"] (.object [("b", .null)])).isSome = false := by decide
example : (fields? ["a"] (.array [.null, .null])).isSome = false := by decide

end Json

end ODataApi
