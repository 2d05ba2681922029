import ODataApi.Model.Hierarchy
import ODataApi.OpenApi.Schema

/-!
# Schemas of types

A provider gives the schema of a type that is no entity type, by name, and the
component schema of an entity type.  `edm` is the provider that knows the primitive
types and lists what an entity type has: its properties, those of its base types
first, and its navigation properties.  It requires the key.

Wherever the name of an entity type stands, its component is referred to.
-/

namespace ODataApi.OpenApi

/-- Where the schemas of types come from. -/
structure SchemaProvider where
  /-- The schema of a type by name. -/
  primitive : String → Schema
  /-- The component schema of an entity type. -/
  entity : Model → EntityTypeHandle → Schema

namespace Schema

/-- One value, or any number of them. -/
def many (collection : Bool) (schema : Schema) : Schema :=
  if collection then .array schema else schema

/-- The schema of a named type. -/
def ofType (primitive : String → Schema) (m : Model) (name : String) (collection : Bool) :
    Schema :=
  many collection <|
    match m.findEntityType? name with
    | some _ => .component name
    | none => primitive name

end Schema

namespace SchemaProvider

/-- The schema of a primitive type.  A type without a schema of its own is a
string. -/
def edmPrimitive (name : String) : Schema :=
  match name with
  | "Edm.Boolean" => .plain .boolean
  | "Edm.Byte" | "Edm.SByte" | "Edm.Int16" | "Edm.Int32" => .scalar .integer "int32" none
  | "Edm.Int64" => .scalar .integer "int64" none
  | "Edm.Single" => .scalar .number "float" none
  | "Edm.Double" | "Edm.Decimal" => .scalar .number "double" none
  | "Edm.Guid" => .scalar .string "uuid" none
  | "Edm.Date" => .scalar .string "date" none
  | "Edm.DateTimeOffset" => .scalar .string "date-time" none
  | "Edm.Binary" => .scalar .string "byte" none
  | _ => .plain .string

/-- The structural properties of an entity type, those of its base types first. -/
def edmProperties (m : Model) (t : EntityTypeHandle) : List (String × Schema) :=
  (m.typeChain t).reverse.flatMap fun u =>
    (m.entityType u).properties.map fun p => (p.name, Schema.ofType edmPrimitive m p.type false)

/-- The navigation properties of an entity type. -/
def edmNavigation (m : Model) (t : EntityTypeHandle) : List (String × Schema) :=
  (m.navigationProperties t).map fun n =>
    let property := m.navigation n
    (property.name,
      Schema.many property.collection (.component (m.entityType property.target).qualifiedName))

/-- The component schema of an entity type. -/
def edmEntity (m : Model) (t : EntityTypeHandle) : Schema :=
  .record (edmProperties m t ++ edmNavigation m t) (m.key t) (some (m.entityType t).qualifiedName)

/-- The provider of the primitive types and of entity types by what they have. -/
def edm : SchemaProvider := ⟨edmPrimitive, edmEntity⟩

end SchemaProvider

end ODataApi.OpenApi
