import ODataApi.Endpoint
import ODataApi.Json.Shape
import ODataApi.OpenApi.Schema

/-!
# OpenAPI documents

A document describes the operations of a service, one item for each URL template
with an operation for each method, and the component schemas that the operations
refer to.  `toJson` writes a document; what is empty or absent is left out where
the format allows it.
-/

namespace ODataApi.OpenApi

/-! ## Metadata -/

/-- What a document says of itself. -/
structure Info where
  /-- The title. -/
  title : String := "OData Service"
  /-- The version of the service. -/
  version : String := "1.0.0"
  /-- What the service does. -/
  description : Option String := none
  /-- The address of the service. -/
  serverUrl : Option String := none
deriving DecidableEq, Repr, Inhabited

namespace Info

/-- The names of the fields. -/
def names : List String := ["title", "version", "description", "server_url"]

/-- Metadata, with defaults for what is left out. -/
def ofJson? (json : Json) : Option Info := do
  let [title, version, description, serverUrl] ← json.fields? names | none
  let defaults : Info := {}
  pure {
    title := ← Json.optional? Json.string? defaults.title title
    version := ← Json.optional? Json.string? defaults.version version
    description := ← Json.optionalNullable? Json.string? description
    serverUrl := ← Json.optionalNullable? Json.string? serverUrl }

/-- Metadata as an object with every field. -/
def toJson (info : Info) : Json :=
  .object (names.zip [.string info.title, .string info.version,
    Json.ofOption .string info.description, Json.ofOption .string info.serverUrl])

end Info

/-! ## Operations -/

/-- A parameter of an operation. -/
structure Parameter where
  /-- The name. -/
  name : String
  /-- Where it stands in a request. -/
  place : ParameterPlace
  /-- Whether a request must have it. -/
  required : Bool
  /-- What it is for, with its constraints. -/
  description : String
  /-- What it holds. -/
  schema : Schema
  /-- Example values. -/
  examples : List ExampleValue
deriving Repr, Inhabited

/-- A body: its media type and what it holds. -/
structure Content where
  /-- The media type. -/
  mediaType : String
  /-- What it holds. -/
  schema : Schema
deriving Repr, Inhabited

/-- The body of a request. -/
structure RequestBody where
  /-- What it is for. -/
  description : Option String
  /-- The body. -/
  content : Content
  /-- Whether a request must have it. -/
  required : Bool
deriving Repr, Inhabited

/-- A response. -/
structure Response where
  /-- When it is given. -/
  description : String
  /-- Its body, if it has one. -/
  content : Option Content
deriving Repr, Inhabited

/-- An operation: a method on a URL template. -/
structure Operation where
  /-- The name, with a number after it if it was given before. -/
  operationId : String
  /-- What it does, in a few words. -/
  summary : String
  /-- What it does, at length. -/
  description : Option String
  /-- The groups it belongs to. -/
  tags : List String
  /-- What it takes. -/
  parameters : List Parameter
  /-- The body it takes. -/
  requestBody : Option RequestBody
  /-- What it answers, by status. -/
  responses : Dictionary Response
  /-- The ways to be authorized for it. -/
  security : List SecurityRequirement
  /-- What it cannot do, in words. -/
  constraints : List String
deriving Repr, Inhabited

/-- The operations on a URL template, each method once. -/
abbrev PathItem := List (Method × Operation)

namespace PathItem

/-- The operations of two items.  Of a method that both have the first one's
operation is kept. -/
def merge (first second : PathItem) : PathItem :=
  first ++ second.filter fun (method, _) => (first.lookup method).isNone

end PathItem

/-! ## Documents -/

/-- A document. -/
structure Document where
  /-- What it says of itself. -/
  info : Info
  /-- The operations, by URL template. -/
  paths : Dictionary PathItem
  /-- The component schemas, by name. -/
  schemas : Dictionary Schema
  /-- The authorization schemes, sorted. -/
  schemes : List String
deriving Repr, Inhabited

namespace Document

/-- Every operation, template by template. -/
def operations (document : Document) : List Operation :=
  document.paths.flatMap fun (_, item) => item.map (·.2)

/-- The version of the format. -/
def formatVersion : String := "3.1.0"

end Document

/-! ## JSON -/

/-- The place of a parameter. -/
def placeText : ParameterPlace → String
  | .path => "path"
  | .query => "query"
  | .header => "header"

/-- The name of a method. -/
def methodText : Method → String
  | .get => "get"
  | .post => "post"
  | .put => "put"
  | .patch => "patch"
  | .delete => "delete"

/-- A member that is there if the text is not empty. -/
def textMember (name text : String) : List (String × Json) :=
  if text.isEmpty then [] else [(name, .string text)]

/-- A member that is there if the list has items. -/
def arrayMember (name : String) (items : List Json) : List (String × Json) :=
  if items.isEmpty then [] else [(name, .array items)]

/-- An example value as JSON. -/
def exampleJson (e : ExampleValue) : Json :=
  .object (textMember "description" (e.description.getD "")
    ++ (e.value.map fun value => ("value", value)).toList
    ++ textMember "externalValue" (e.externalValue.getD ""))

/-- Example values, numbered from one. -/
def examplesMember (examples : List ExampleValue) : List (String × Json) :=
  if examples.isEmpty then []
  else
    let numbered := examples.mapIdx fun i value =>
      ("example-" ++ toString (i + 1), exampleJson value)
    [("examples", .object numbered)]

/-- A parameter as JSON. -/
def Parameter.toJson (p : Parameter) : Json :=
  .object ([("name", .string p.name), ("in", .string (placeText p.place)),
      ("required", .bool p.required), ("schema", p.schema.toJson)]
    ++ textMember "description" p.description ++ examplesMember p.examples)

/-- A body as JSON. -/
def Content.toJson (content : Content) : Json :=
  .object [(content.mediaType, .object [("schema", content.schema.toJson)])]

/-- The body of a request as JSON. -/
def RequestBody.toJson (body : RequestBody) : Json :=
  .object (Schema.optionalMember "description" body.description
    ++ [("content", body.content.toJson), ("required", .bool body.required)])

/-- A response as JSON. -/
def Response.toJson (response : Response) : Json :=
  .object ([("description", .string response.description)]
    ++ (response.content.map fun content => ("content", content.toJson)).toList)

/-- An operation as JSON. -/
def Operation.toJson (operation : Operation) : Json :=
  .object ([("operationId", .string operation.operationId), ("summary", .string operation.summary),
      ("tags", Json.ofStrings operation.tags),
      ("responses", .object (operation.responses.map fun (status, r) => (status, r.toJson)))]
    ++ Schema.optionalMember "description" operation.description
    ++ arrayMember "parameters" (operation.parameters.map Parameter.toJson)
    ++ (operation.requestBody.map fun body => ("requestBody", body.toJson)).toList
    ++ arrayMember "security" (operation.security.map fun requirement =>
        .object [(requirement.scheme, Json.ofStrings requirement.scopes)])
    ++ Schema.listMember "x-constraints" operation.constraints)

/-- The operations on a URL template as JSON. -/
def PathItem.toJson (item : PathItem) : Json :=
  .object (item.map fun (method, operation) => (methodText method, operation.toJson))

namespace Document

/-- The component schemas and the authorization schemes as JSON. -/
def componentsJson (document : Document) : Json :=
  let bearer : Json := .object [("type", .string "http"), ("scheme", .string "bearer")]
  .object ([("schemas", .object (document.schemas.map fun (name, schema) => (name, schema.toJson)))]
    ++ (if document.schemes.isEmpty then []
        else [("securitySchemes", .object (document.schemes.map (·, bearer)))]))

/-- A document as JSON. -/
def toJson (document : Document) : Json :=
  let info := document.info
  .object ([("openapi", .string formatVersion),
      ("info", .object ([("title", .string info.title), ("version", .string info.version)]
        ++ Schema.optionalMember "description" info.description)),
      ("paths", .object (document.paths.map fun (template, item) => (template, item.toJson))),
      ("components", document.componentsJson)]
    ++ (info.serverUrl.map fun url =>
        ("servers", .array [.object [("url", .string url)]])).toList)

end Document

end ODataApi.OpenApi
