import ODataApi.Endpoint.Parameters

/-!
# The endpoints of a path

What a path addresses decides which methods can be there, and each is left out when
a restriction says so.

* An entity set or a collection behind a navigation property: GET and POST.
* An entity addressed by key: GET, PATCH or PUT, DELETE, and none of them if it
  cannot be addressed by key.
* A singleton: GET, PATCH or PUT.
* A single entity behind a navigation property: GET, PATCH or PUT, and DELETE if it
  is contained.
* A cast and a count: GET.
* A reference: GET; POST and DELETE in a collection, else PUT and DELETE.
* A function: GET.  An action: POST.

Where the root of a path excludes the navigation path from inserting, updating,
deleting or counting, the method that does it is left out too.
-/

namespace ODataApi

/-! ## Responses and bodies -/

/-- The response to whatever goes wrong. -/
def errorResponse : Response := ⟨.other, applicationJson, "Error", some .error⟩

/-- A response with a body. -/
def okResponse (status : Nat) (description : String) (payload : Option Payload) : Response :=
  ⟨.code status, applicationJson, description, payload⟩

/-- A response without a body. -/
def noContentResponse : Response := ⟨.code 204, applicationJson, "Success", none⟩

/-- The body that holds a reference. -/
def referenceBody : RequestBody :=
  ⟨applicationJson, some "New navigation property ref value", .reference, true⟩

namespace PathContext

/-! ## What a context says -/

/-- An entity of the type of the path. -/
def entityPayload (c : PathContext) : Option Payload := c.typeName.map .entity

/-- Entities of the type of the path. -/
def collectionPayload (c : PathContext) : Option Payload := c.typeName.map .entityCollection

/-- A body that holds an entity. -/
def entityBody (c : PathContext) (description : String) : Option RequestBody :=
  c.entityPayload.map fun payload => ⟨applicationJson, some description, payload, true⟩

/-- Whether the root excludes the navigation path from inserting. -/
def excludesInsert (c : PathContext) : Bool :=
  c.root.any fun root => root.insert.excludesNavigation c.navigationPath

/-- Whether the root excludes the navigation path from updating. -/
def excludesUpdate (c : PathContext) : Bool :=
  c.root.any fun root => root.update.excludesNavigation c.navigationPath

/-- Whether the root excludes the navigation path from deleting. -/
def excludesDelete (c : PathContext) : Bool :=
  c.root.any fun root => root.delete.excludesNavigation c.navigationPath

/-- Whether the root excludes the navigation path from counting. -/
def excludesCount (c : PathContext) : Bool :=
  c.root.any fun root => root.count.excludesNavigation c.navigationPath

/-! ## Building an endpoint -/

/-- An endpoint that takes the parameters of the template and answers as given, or
with an error. -/
def endpoint (c : PathContext) (method : Method) (verb summary : String) (response : Response) :
    Endpoint where
  method
  path := c.path
  operationId := c.tag ++ "." ++ verb ++ c.typeLabel
  summary
  description := none
  tags := [c.tag]
  parameters := c.path.parameters.map .ofTemplate
  requestBody := none
  responses := [response, errorResponse]
  security := []
  constraints := []

end PathContext

namespace Endpoint

/-- The endpoint with more parameters. -/
def taking (e : Endpoint) (parameters : List EndpointParameter) : Endpoint :=
  { e with parameters := e.parameters ++ parameters }

/-- The endpoint with parameters of the service's own and permissions. -/
def withCustom (e : Endpoint) (permissions : Option (List Permission))
    (headers options : Option (List CustomParameter)) : Endpoint :=
  { e.taking (EndpointParameter.ofCustoms headers options) with
    security := e.security ++ securityOf permissions }

/-- The endpoint under a record that governs reading. -/
def underRead (e : Endpoint) (r : ReadRestrictionsBase) : Endpoint :=
  { e.withCustom r.permissions r.customHeaders r.customQueryOptions with
    description := e.description <|> r.description }

end Endpoint

namespace PathContext

/-! ## Reading -/

/-- GET of a collection. -/
def list (c : PathContext) : Endpoint :=
  ((c.endpoint .get "List" ("List " ++ c.tag)
    (okResponse 200 "Retrieved entities" c.collectionPayload)).taking
      c.restrictions.collectionOptions).underRead c.restrictions.read.value.base

/-- GET of a single entity, under the record that governs it. -/
def get (c : PathContext) (r : ReadRestrictionsBase) : Endpoint :=
  ((c.endpoint .get "Get" ("Get " ++ c.tag)
    (okResponse 200 "Retrieved entity" c.entityPayload)).taking
      c.restrictions.entityOptions).underRead r

/-- GET of a collection as a derived type. -/
def listCast (c : PathContext) : Endpoint :=
  ((c.endpoint .get "List" ("List " ++ c.tag ++ " as " ++ c.typeLabel)
    (okResponse 200 "Retrieved entities" c.collectionPayload)).taking
      c.restrictions.collectionOptions).underRead c.restrictions.read.value.base

/-- GET of a single entity as a derived type. -/
def getCast (c : PathContext) : Endpoint :=
  ((c.endpoint .get "Get" ("Get " ++ c.tag ++ " as " ++ c.typeLabel)
    (okResponse 200 "Retrieved entity" c.entityPayload)).taking
      c.restrictions.entityOptions).underRead c.restrictions.read.value.base

/-- GET of a number of entities. -/
def getCount (c : PathContext) : Endpoint :=
  ((c.endpoint .get "GetCount" ("Get the number of " ++ c.tag)
    ⟨.code 200, textPlain, "The count of the resource", some .count⟩).taking
      (c.restrictions.searchOption ++ c.restrictions.filterOption)).underRead
        c.restrictions.read.value.base

/-! ## Modifying -/

/-- POST of a new entity. -/
def create (c : PathContext) : Endpoint :=
  let r := c.restrictions.insert.value
  { ((c.endpoint .post "Create" ("Create " ++ c.typeLabel)
      (okResponse 201 "Created entity" c.entityPayload)).taking
        (c.restrictions.modificationOptions r.queryOptions)).withCustom
          r.permissions r.customHeaders r.customQueryOptions with
    description := r.description
    requestBody := c.entityBody "New entity"
    constraints := listConstraint r.nonInsertableProperties .nonInsertableProperties
      ++ listConstraint r.nonInsertableNavigationProperties .nonInsertableNavigationProperties
      ++ deepLevels r.maxLevels }

/-- PATCH or PUT of an entity. -/
def update (c : PathContext) : Endpoint :=
  let r := c.restrictions.update.value
  let (method, verb) : Method × String :=
    match r.method with
    | .patch => (.patch, "Update")
    | .put => (.put, "Set")
  { ((c.endpoint method verb ("Update " ++ c.tag) noContentResponse).taking
      (c.restrictions.modificationOptions r.queryOptions)).withCustom
        r.permissions r.customHeaders r.customQueryOptions with
    description := r.description
    requestBody := c.entityBody "New property values"
    constraints :=
      listConstraint r.nonUpdatableNavigationProperties .nonUpdatableNavigationProperties
        ++ deepLevels r.maxLevels }

/-- The header that tells the state of the entity a client has seen. -/
def ifMatch : EndpointParameter :=
  ⟨"If-Match", .header, false, some "ETag", .string, [], []⟩

/-- DELETE of an entity. -/
def delete (c : PathContext) : Endpoint :=
  let r := c.restrictions.delete.value
  { ((c.endpoint .delete "Delete" ("Delete " ++ c.tag) noContentResponse).taking
      [ifMatch]).withCustom r.permissions r.customHeaders r.customQueryOptions with
    description := r.description
    constraints :=
      listConstraint r.nonDeletableNavigationProperties .nonDeletableNavigationProperties
        ++ deepLevels r.maxLevels }

/-! ## References -/

/-- GET of a reference or of references. -/
def getRef (c : PathContext) : Endpoint :=
  let summary := "Get ref of " ++ c.tag
  if c.path.collection then
    (c.endpoint .get "GetRef" summary
      (okResponse 200 "Retrieved reference" (some .referenceCollection))).taking
        c.restrictions.itemOptions
  else
    c.endpoint .get "GetRef" summary (okResponse 200 "Retrieved reference" (some .reference))

/-- POST of a new reference. -/
def createRef (c : PathContext) : Endpoint :=
  { c.endpoint .post "CreateRef" ("Create new navigation property ref to " ++ c.tag)
      noContentResponse with
    requestBody := some referenceBody }

/-- PUT of a reference. -/
def setRef (c : PathContext) : Endpoint :=
  { c.endpoint .put "SetRef" ("Update the ref of " ++ c.tag) noContentResponse with
    requestBody := some referenceBody }

/-- The option that tells which reference of a collection to delete. -/
def refId : EndpointParameter := .option "$id" "The delete Uri" .string [] true

/-- DELETE of a reference. -/
def deleteRef (c : PathContext) : Endpoint :=
  (c.endpoint .delete "DeleteRef" ("Delete ref of " ++ c.tag) noContentResponse).taking
    (if c.path.collection then [refId] else [])

/-! ## Operations -/

/-- The operation at the end of a path and the name it is called by. -/
def operation? (m : Model) (c : PathContext) : Option (Operation × String) :=
  match c.path.segments.getLast? with
  | some (.operation o) => some (m.operation o, (m.operation o).qualifiedName)
  | some (.operationImport i) =>
    some (m.operation (m.operationImport i).operation, (m.operationImport i).name)
  | _ => none

/-- The response of an operation. -/
def operationResponse (operation : Operation) : Response :=
  match operation.returnType with
  | some result => okResponse 200 "Success" (some (.value result.type result.collection))
  | none => noContentResponse

/-- The query options of a function: those of a collection if it returns entities. -/
def functionOptions (c : PathContext) (operation : Operation) : List EndpointParameter :=
  if operation.returnsCollection && c.typeName.isSome then c.restrictions.collectionOptions else []

/-- The body of an action, if it has parameters. -/
def actionBody (operation : Operation) : Option RequestBody :=
  match operation.parameters with
  | [] => none
  | parameters => some ⟨applicationJson, some "Action parameters", .parameters parameters, true⟩

/-- The call of an operation.  An import is named by the operation alone, a bound
operation after what it is bound to. -/
def invoke (c : PathContext) (operation : Operation) (name : String) : Endpoint :=
  let response := operationResponse operation
  let endpoint : Endpoint :=
    match operation.kind with
    | .function =>
      (c.endpoint .get "" ("Invoke function " ++ name) response).taking
        (c.functionOptions operation)
    | .action =>
      { c.endpoint .post "" ("Invoke action " ++ name) response with
        requestBody := actionBody operation }
  { endpoint with
    operationId :=
      if c.path.kind = .operationImport then operation.name else c.tag ++ "." ++ operation.name }

/-! ## Endpoints by kind -/

/-- An endpoint, if a condition holds. -/
def provided (condition : Bool) (endpoint : Endpoint) : List Endpoint :=
  if condition then [endpoint] else []

/-- The endpoints of a collection. -/
def ofCollection (c : PathContext) : List Endpoint :=
  provided c.restrictions.read.value.isReadable c.list
    ++ provided (c.restrictions.insert.value.isInsertable && !c.excludesInsert) c.create

/-- The endpoints of an entity addressed by key. -/
def ofEntity (c : PathContext) : List Endpoint :=
  let r := c.restrictions
  if !r.indexable.value.isSupported then []
  else
    provided r.read.value.isReadableByKey (c.get r.read.value.byKey)
      ++ provided (r.update.value.isUpdatable && !c.excludesUpdate) c.update
      ++ provided (r.delete.value.isDeletable && !c.excludesDelete) c.delete

/-- The endpoints of a singleton. -/
def ofSingleton (c : PathContext) : List Endpoint :=
  let r := c.restrictions
  provided r.read.value.isReadable (c.get r.read.value.base)
    ++ provided r.update.value.isUpdatable c.update

/-- The endpoints of a single entity behind a navigation property. -/
def ofSingleNavigation (c : PathContext) : List Endpoint :=
  let r := c.restrictions
  provided r.read.value.isReadable (c.get r.read.value.base)
    ++ provided (r.update.value.isUpdatable && !c.excludesUpdate) c.update
    ++ provided (c.path.containment && r.delete.value.isDeletable && !c.excludesDelete) c.delete

/-- The endpoint of a cast. -/
def ofCast (c : PathContext) : List Endpoint :=
  provided c.restrictions.read.value.isReadable
    (if c.path.collection then c.listCast else c.getCast)

/-- The endpoint of a count. -/
def ofCount (c : PathContext) : List Endpoint :=
  provided (c.restrictions.count.value.isCountable && !c.excludesCount) c.getCount

/-- The endpoints of a reference. -/
def ofRef (c : PathContext) : List Endpoint :=
  provided c.restrictions.read.value.isReadable c.getRef
    ++ provided (c.path.collection && !c.excludesInsert) c.createRef
    ++ provided (!c.path.collection && !c.excludesUpdate) c.setRef
    ++ provided (!c.excludesDelete) c.deleteRef

/-- The endpoint of an operation. -/
def ofOperation (m : Model) (c : PathContext) : List Endpoint :=
  match c.operation? m with
  | some (operation, name) => [c.invoke operation name]
  | none => []

/-- The endpoints of a path whose root does not forbid it. -/
def endpoints (m : Model) (c : PathContext) : List Endpoint :=
  match c.path.kind with
  | .entitySet => c.ofCollection
  | .navigationProperty => if c.path.collection then c.ofCollection else c.ofSingleNavigation
  | .entity => c.ofEntity
  | .singleton => c.ofSingleton
  | .typeCast => c.ofCast
  | .count => c.ofCount
  | .ref => c.ofRef
  | .operation | .operationImport => c.ofOperation m

end PathContext

/-- The endpoints of a path. -/
def Model.synthesize (m : Model) (path : ResourcePath) :
    StateM AnnotationCache (List Endpoint) := do
  match ← m.pathContext? path with
  | none => pure []
  | some c => pure (c.endpoints m)

end ODataApi
