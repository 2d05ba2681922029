import ODataApi.Dictionary
import ODataApi.Json

/-!
# Annotation expressions

The value of an annotation is an expression: a constant, a path, a member of an
enumeration, a record or a collection.  An expression says nothing about the
vocabulary term it stands under; what it means there is for the decoder of the
term.

`ofJson` reads the JSON form.  A path is an object with the one member `$Path` or
another of `pathMembers`, a member of an enumeration one with `$EnumMember`, and
every other object is a record.  A record may name its type in `@type`; all other
members that start with `@` or `$` are no fields.  A whole number that fits
sixty-four bits, sign included, is an integer, any other number a float.

`toJson?` writes the value without what JSON has no place for: paths and members
of an enumeration become strings and records lose their type.  A float that is
not finite has no JSON form.
-/

namespace ODataApi

/-- The value of an annotation. -/
inductive Expression
  | null
  | bool (value : Bool)
  /-- A whole number of sixty-four bits. -/
  | int (value : Int)
  | float (value : Binary64)
  | string (value : String)
  /-- A path to a property, a navigation property or an annotation. -/
  | path (value : String)
  /-- A member of an enumeration, with or without the enumeration in front. -/
  | enumMember (value : String)
  /-- Fields sorted by name, each name once, and the type if it is given. -/
  | record (type : Option String) (fields : List (String × Expression))
  | collection (items : List Expression)
deriving Inhabited, Repr

namespace Expression

/-- What kind of value it is, in words. -/
def shape : Expression → String
  | null => "null"
  | bool _ => "bool"
  | int _ => "int"
  | float _ => "float"
  | string _ => "string"
  | path _ => "path"
  | enumMember _ => "enum member"
  | record _ _ => "record"
  | collection _ => "collection"

/-- A collection of paths. -/
def paths (items : List String) : Expression := collection (items.map path)

/-! ## From JSON -/

/-- The members that make an object a path. -/
def pathMembers : List String :=
  ["$Path", "$PropertyPath", "$NavigationPropertyPath", "$AnnotationPath"]

/-- Whether a number is kept as an integer. -/
def isInt64 (n : Int) : Bool := -0x8000000000000000 ≤ n && n < 0x8000000000000000

/-- A number. -/
def ofNumber : JsonNumber → Expression
  | .int value =>
    if isInt64 value then int value
    else
      let magnitude := Binary64.ofNat value.natAbs
      float (if value < 0 then magnitude.neg else magnitude)
  | .float value => float value

/-- An object with a single member that is a path or a member of an enumeration. -/
def ofWrapper? : List (String × Json) → Option Expression
  | [(name, .string value)] =>
    if pathMembers.contains name then some (path value)
    else if name = "$EnumMember" then some (enumMember value)
    else none
  | _ => none

/-- Whether a member of an object is no field of the record. -/
def isControl (name : String) : Bool :=
  match name.toList with
  | '@' :: _ | '$' :: _ => true
  | _ => false

/-- The type a record names. -/
def typeName? (members : List (String × Json)) : Option String :=
  ((Json.object members).member? "@type").bind Json.string?

mutual

/-- The expression of a JSON value. -/
def ofJson : Json → Expression
  | .null => null
  | .bool value => bool value
  | .number value => ofNumber value
  | .string value => string value
  | .array items => collection (ofItems items)
  | .object members =>
    (ofWrapper? (Dictionary.ofList members)).getD
      (record (typeName? members) (Dictionary.ofList (ofMembers members)))

/-- The expressions of the items of an array. -/
def ofItems : List Json → List Expression
  | [] => []
  | item :: rest => ofJson item :: ofItems rest

/-- The fields among the members of an object, as they are written. -/
def ofMembers : List (String × Json) → List (String × Expression)
  | [] => []
  | (name, value) :: rest =>
    if isControl name then ofMembers rest else (name, ofJson value) :: ofMembers rest

end

/-! ## To JSON -/

mutual

/-- The JSON form of an expression whose floats are finite. -/
def toJson? : Expression → Option Json
  | null => some .null
  | bool value => some (.bool value)
  | int value => some (Json.ofInt value)
  | float value => if value.isFinite then some (.number (.float value)) else none
  | string value => some (.string value)
  | path value => some (.string value)
  | enumMember value => some (.string value)
  | record _ fields => (membersOf? fields).map .object
  | collection items => (itemsOf? items).map .array

/-- The items of a collection. -/
def itemsOf? : List Expression → Option (List Json)
  | [] => some []
  | item :: rest => do
    let item ← toJson? item
    let rest ← itemsOf? rest
    pure (item :: rest)

/-- The fields of a record. -/
def membersOf? : List (String × Expression) → Option (List (String × Json))
  | [] => some []
  | (name, value) :: rest => do
    let value ← toJson? value
    let rest ← membersOf? rest
    pure ((name, value) :: rest)

end

/-! ## Tests -/

example : ofJson (.object [("$Path", .string "a/b")]) = path "a/b" := by
  simp [ofJson, Dictionary.ofList, Dictionary.insert, ofWrapper?, pathMembers]
example : (toJson? (float Binary64.infinity)).isNone = true := by decide +kernel

end Expression

end ODataApi
