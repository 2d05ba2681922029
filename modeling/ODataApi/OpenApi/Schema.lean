import ODataApi.Json

/-!
# Schemas

A schema of an OpenAPI document says what a value looks like.  It is a reference to
a component of the document, a single value, an array or an object.  An object has
its properties sorted by name; it may require one more than once, and a list with
no items is not written.
-/

namespace ODataApi.OpenApi

/-- The types of single values. -/
inductive ScalarType
  | boolean
  | integer
  | number
  | string
deriving DecidableEq, Repr, Inhabited

/-- The name of a type. -/
def ScalarType.text : ScalarType → String
  | boolean => "boolean"
  | integer => "integer"
  | number => "number"
  | string => "string"

/-- A schema. -/
inductive Schema
  /-- The component of a name. -/
  | component (name : String)
  /-- A single value. -/
  | scalar (type : ScalarType) (format : Option String) (title : Option String)
  /-- Any number of values. -/
  | array (items : Schema)
  /-- Values by name. -/
  | object (properties : List (String × Schema)) (required : List String) (title : Option String)
deriving Inhabited, Repr

namespace Schema

/-- A single value of a type. -/
def plain (type : ScalarType) : Schema := .scalar type none none

/-- An object with properties, of which the last of a name counts. -/
def record (properties : List (String × Schema)) (required : List String := [])
    (title : Option String := none) : Schema :=
  .object (Dictionary.ofList properties) required title

/-- Where a document keeps its component schemas. -/
def componentPath : String := "#/components/schemas/"

/-- A member that is there if there is a value. -/
def optionalMember (name : String) (value : Option String) : List (String × Json) :=
  (value.map fun value => (name, .string value)).toList

/-- A member that is there if the list has items. -/
def listMember (name : String) (items : List String) : List (String × Json) :=
  if items.isEmpty then [] else [(name, Json.ofStrings items)]

mutual

/-- A schema as JSON. -/
def toJson : Schema → Json
  | component name => .object [("$ref", .string (componentPath ++ name))]
  | scalar type format title =>
    .object ([("type", .string type.text)] ++ optionalMember "format" format
      ++ optionalMember "title" title)
  | array items => .object [("type", .string "array"), ("items", toJson items)]
  | object properties required title =>
    .object ([("type", .string "object")]
      ++ (if properties.isEmpty then [] else [("properties", .object (membersOf properties))])
      ++ listMember "required" required ++ optionalMember "title" title)

/-- The properties of an object as JSON. -/
def membersOf : List (String × Schema) → List (String × Json)
  | [] => []
  | (name, schema) :: rest => (name, toJson schema) :: membersOf rest

end

mutual

/-- The components that a schema refers to. -/
def references : Schema → List String
  | component name => [name]
  | scalar _ _ _ => []
  | array items => references items
  | object properties _ _ => propertyReferences properties

/-- The components that properties refer to. -/
def propertyReferences : List (String × Schema) → List String
  | [] => []
  | (_, schema) :: rest => references schema ++ propertyReferences rest

end

end Schema

end ODataApi.OpenApi
