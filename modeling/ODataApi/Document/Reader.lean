import ODataApi.Document
import ODataApi.Json.Reader
import ODataApi.Json.Shape

/-!
# Reading a document from JSON

Every declaration is a value with named fields, so it has an object form and an
array form.  Names are required; lists and flags may be left out, and what may be
missing altogether may also be `null`.  An annotation needs its value, which may be
`null` like any other value.

Bindings are an object with a name for each path; of a path written twice the last
name counts.
-/

namespace ODataApi

open Json (required? optional? optionalList? optionalNullable?)

/-- A kind of operation: its name, or an object with that name alone and `null`. -/
def OperationKind.ofJson? : Json → Option OperationKind
  | .string "action" | .object [("action", .null)] => some .action
  | .string "function" | .object [("function", .null)] => some .function
  | _ => none

/-- A property may have no value unless it says otherwise. -/
def Property.ofJson? (json : Json) : Option Property := do
  let [name, type, nullable] ← json.fields? ["name", "type", "nullable"] | none
  pure {
    name := ← required? Json.string? name
    type := ← required? Json.string? type
    nullable := ← optional? Json.bool? true nullable }

/-- A parameter is a single value that may be missing unless it says otherwise. -/
def Parameter.ofJson? (json : Json) : Option Parameter := do
  let [name, type, collection, nullable] ←
    json.fields? ["name", "type", "collection", "nullable"] | none
  pure {
    name := ← required? Json.string? name
    type := ← required? Json.string? type
    collection := ← optional? Json.bool? false collection
    nullable := ← optional? Json.bool? true nullable }

/-- A return type. -/
def ReturnType.ofJson? (json : Json) : Option ReturnType := do
  let [type, collection] ← json.fields? ["type", "collection"] | none
  pure {
    type := ← required? Json.string? type
    collection := ← optional? Json.bool? false collection }

/-- A navigation property. -/
def NavigationDeclaration.ofJson? (json : Json) : Option NavigationDeclaration := do
  let [name, type, collection, containsTarget, partner] ←
    json.fields? ["name", "type", "collection", "containsTarget", "partner"] | none
  pure {
    name := ← required? Json.string? name
    type := ← required? Json.string? type
    collection := ← optional? Json.bool? false collection
    containsTarget := ← optional? Json.bool? false containsTarget
    partner := ← optionalNullable? Json.string? partner }

/-- An entity type. -/
def EntityTypeDeclaration.ofJson? (json : Json) : Option EntityTypeDeclaration := do
  let [name, base, isAbstract, key, properties, navigationProperties] ←
    json.fields? ["name", "baseType", "abstract", "key", "properties", "navigationProperties"]
    | none
  pure {
    name := ← required? Json.string? name
    base := ← optionalNullable? Json.string? base
    isAbstract := ← optional? Json.bool? false isAbstract
    key := ← optionalList? Json.string? key
    properties := ← optionalList? Property.ofJson? properties
    navigationProperties := ← optionalList? NavigationDeclaration.ofJson? navigationProperties }

/-- An operation. -/
def OperationDeclaration.ofJson? (json : Json) : Option OperationDeclaration := do
  let [name, kind, bound, parameters, returnType, composable] ←
    json.fields? ["name", "kind", "bound", "parameters", "returnType", "composable"] | none
  pure {
    name := ← required? Json.string? name
    kind := ← required? OperationKind.ofJson? kind
    bound := ← optional? Json.bool? false bound
    parameters := ← optionalList? Parameter.ofJson? parameters
    returnType := ← optionalNullable? ReturnType.ofJson? returnType
    composable := ← optional? Json.bool? false composable }

/-- The names that an object gives to paths. -/
def bindingsOfJson? (json : Json) : Option (Dictionary String) := do
  let members ← json.object?
  let entries ← members.mapM fun (path, target) => target.string?.map (path, ·)
  pure (Dictionary.ofList entries)

/-- An entity set or singleton. -/
def SourceDeclaration.ofJson? (json : Json) : Option SourceDeclaration := do
  let [name, type, bindings] ← json.fields? ["name", "type", "navigationBindings"] | none
  pure {
    name := ← required? Json.string? name
    type := ← required? Json.string? type
    bindings := ← optional? bindingsOfJson? [] bindings }

/-- An operation import. -/
def ImportDeclaration.ofJson? (json : Json) : Option ImportDeclaration := do
  let [name, operation, entitySet] ← json.fields? ["name", "operation", "entitySet"] | none
  pure {
    name := ← required? Json.string? name
    operation := ← required? Json.string? operation
    entitySet := ← optionalNullable? Json.string? entitySet }

/-- A container. -/
def ContainerDeclaration.ofJson? (json : Json) : Option ContainerDeclaration := do
  let [name, entitySets, singletons, imports] ←
    json.fields? ["name", "entitySets", "singletons", "operationImports"] | none
  pure {
    name := ← required? Json.string? name
    entitySets := ← optionalList? SourceDeclaration.ofJson? entitySets
    singletons := ← optionalList? SourceDeclaration.ofJson? singletons
    imports := ← optionalList? ImportDeclaration.ofJson? imports }

/-- An annotation. -/
def AnnotationDeclaration.ofJson? (json : Json) : Option AnnotationDeclaration := do
  let [target, term, value] ← json.fields? ["target", "term", "value"] | none
  pure {
    target := ← required? Json.string? target
    term := ← required? Json.string? term
    value := ← required? (fun json => some (Expression.ofJson json)) value }

namespace Document

/-- A document. -/
def ofJson? (json : Json) : Option Document := do
  let [ns, entityTypes, operations, containers, annotations] ←
    json.fields? ["namespace", "entityTypes", "operations", "containers", "annotations"] | none
  pure {
    ns := ← required? Json.string? ns
    entityTypes := ← optionalList? EntityTypeDeclaration.ofJson? entityTypes
    operations := ← optionalList? OperationDeclaration.ofJson? operations
    containers := ← optionalList? ContainerDeclaration.ofJson? containers
    annotations := ← optionalList? AnnotationDeclaration.ofJson? annotations }

/-- The document a text holds. -/
def read? (text : String) : Option Document := (Json.read? text).bind ofJson?

end Document

end ODataApi
