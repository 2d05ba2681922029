import ODataApi.Conversion
import ODataApi.OpenApi.Document
import ODataApi.OpenApi.SchemaProvider

/-!
# The OpenAPI document of a conversion

Every path that has endpoints becomes an item, every endpoint an operation.  Paths
with one template share an item, to which a later path adds the methods that are
missing.

The name of an operation is the name of its endpoint for the first endpoint of that
name.  The second one and all others have their number after it.

The components are the error, the entity types that a path leads to and the types
their navigation properties lead to.  Of types with one qualified name the last
declared counts.
-/

namespace ODataApi.OpenApi

/-- A model and where the schemas of its types come from. -/
structure View where
  /-- The model. -/
  model : Model
  /-- The provider. -/
  provider : SchemaProvider

/-! ## Bodies -/

/-- An object that holds items as its value. -/
def valueWrapper (items : Schema) : Schema := .record [("value", .array items)]

/-- A reference to an entity. -/
def referenceSchema : Schema := .record [("@odata.id", .plain .string)] ["@odata.id"]

/-- The name of the component that describes errors. -/
def errorComponent : String := "ODataError"

/-- An error. -/
def errorSchema : Schema :=
  .record
    [("error", .record
      [("code", .plain .string), ("message", .plain .string), ("target", .plain .string)]
      ["code", "message"])]
    ["error"]

namespace View

/-- The schema of a named type. -/
def typeSchema (v : View) (name : String) (collection : Bool) : Schema :=
  Schema.ofType v.provider.primitive v.model name collection

/-- The schema of a body. -/
def payloadSchema (v : View) : Payload → Schema
  | .entity type => .component type
  | .entityCollection type => valueWrapper (.component type)
  | .value type true => valueWrapper (v.typeSchema type false)
  | .value type false => v.typeSchema type false
  | .parameters parameters =>
    .record (parameters.map fun p => (p.name, v.typeSchema p.type p.collection))
      ((parameters.filter fun p => !p.nullable).map (·.name))
  | .count => .scalar .integer "int64" none
  | .reference => referenceSchema
  | .referenceCollection => valueWrapper referenceSchema
  | .error => .component errorComponent

/-! ## Operations -/

/-- The schema of a parameter. -/
def parameterSchema (v : View) : ParameterType → Schema
  | .primitive name => v.provider.primitive name
  | .integer => .plain .integer
  | .boolean => .plain .boolean
  | .string => .plain .string
  | .stringList => .array (.plain .string)

/-- A description followed by constraints. -/
def withConstraints (description : String) (constraints : List Constraint) : String :=
  constraints.foldl (fun text constraint =>
    (if text.isEmpty then "" else text ++ "; ") ++ constraint.text) description

/-- A parameter. -/
def parameter (v : View) (p : EndpointParameter) : Parameter where
  name := p.name
  place := p.place
  required := p.required
  description := withConstraints (p.description.getD "") p.constraints
  schema := v.parameterSchema p.type
  examples := p.examples

/-- The body of a request. -/
def requestBody (v : View) (body : ODataApi.RequestBody) : RequestBody where
  description := body.description
  content := ⟨body.contentType, v.payloadSchema body.payload⟩
  required := body.required

/-- A response. -/
def response (v : View) (r : ODataApi.Response) : Response where
  description := r.description
  content := r.payload.map fun payload => ⟨r.contentType, v.payloadSchema payload⟩

/-- The operation of an endpoint, under the name `id`. -/
def operation (v : View) (e : Endpoint) (id : String) : Operation where
  operationId := id
  summary := e.summary
  description := e.description
  tags := e.tags
  parameters := e.parameters.map v.parameter
  requestBody := e.requestBody.map v.requestBody
  responses := Dictionary.ofList (e.responses.map fun r => (r.status.text, v.response r))
  security := e.security
  constraints := e.constraints.map (·.text)

end View

/-! ## Names of operations -/

/-- The name of an operation whose endpoint's name has been given `uses` times. -/
def numberedId (id : String) (uses : Nat) : String :=
  if uses = 0 then id else id ++ "-" ++ toString (uses + 1)

/-- The names of operations, when the names in `used` have been given. -/
def operationIds (used : List String) : List String → List String
  | [] => []
  | id :: rest => numberedId id (used.count id) :: operationIds (id :: used) rest

namespace View

/-! ## Items -/

/-- The item of a path, when the names in `used` have been given. -/
def item (v : View) (used : List String) (endpoints : List Endpoint) : PathItem :=
  endpoints.zipWith (fun e id => (e.method, v.operation e id))
    (operationIds used (endpoints.map (·.operationId)))

/-- The items of paths with endpoints, when the names in `used` have been given. -/
def items (v : View) (used : List String) :
    List (ResourcePath × List Endpoint) → List (String × PathItem)
  | [] => []
  | (_, []) :: rest => v.items used rest
  | (path, endpoints) :: rest =>
    (path.template, v.item used endpoints)
      :: v.items ((endpoints.map (·.operationId)).reverse ++ used) rest

/-- Items by template, with one more. -/
def addItem (paths : Dictionary PathItem) (entry : String × PathItem) : Dictionary PathItem :=
  match paths.get? entry.1 with
  | some item => paths.insert entry.1 (item.merge entry.2)
  | none => paths.insert entry.1 entry.2

/-! ## Components -/

/-- The entity types that a path leads to, and the targets of their navigation
properties. -/
def typesOf (v : View) (path : ResourcePath) : List EntityTypeHandle :=
  path.entityType.toList.flatMap fun t =>
    t :: (v.model.navigationProperties t).map fun n => (v.model.navigation n).target

/-- The entity types that paths lead to, as they are declared. -/
def referencedTypes (v : View) (paths : List ResourcePath) : List EntityTypeHandle :=
  let referenced := (paths.flatMap v.typesOf).eraseDups
  v.model.entityTypeHandles.filter fun t => referenced.contains t

/-- The component schemas. -/
def schemas (v : View) (paths : List ResourcePath) : Dictionary Schema :=
  Dictionary.ofList ((errorComponent, errorSchema)
    :: (v.referencedTypes paths).map fun t =>
      ((v.model.entityType t).qualifiedName, v.provider.entity v.model t))

/-- The authorization schemes of endpoints, sorted. -/
def schemes (endpoints : List Endpoint) : List String :=
  (Dictionary.ofList (endpoints.flatMap fun e => e.security.map fun r => (r.scheme, ()))).map (·.1)

end View

/-- The document of a conversion of a model. -/
def Document.ofConversion (m : Model) (conversion : Conversion) (info : Info)
    (provider : SchemaProvider := .edm) : Document :=
  let v : View := ⟨m, provider⟩
  { info
    paths := (v.items [] conversion.groups).foldl View.addItem []
    schemas := v.schemas conversion.paths
    schemes := View.schemes conversion.endpoints }

end ODataApi.OpenApi
