import ODataApi.Document
import ODataApi.Model.Hierarchy

/-!
# From a document to a model

Resolution replaces every name by a handle and refuses the document at the first
reference that leads nowhere.  It goes through the document in this order.

* The qualified names of the types are distinct.
* Base types and navigation targets are types, type by type.
* No chain of base types is infinite.  The first type whose chain is infinite is
  named, whether it lies on a cycle or leads into one.
* A bound operation has a first parameter, and its type is an entity type.
* Container by container: the types of sets and singletons, whose names are
  distinct; then the targets of their bindings; then the imports.  An import calls
  the first unbound operation of its qualified name.
* The target of every annotation is an element.

A reference is qualified with the namespace of the document when it has no
namespace.  What the model stores of the name of a type or operation is its simple
name, whatever namespace it was declared with; a container keeps the name as
written.  Sets and singletons count through all containers.
-/

namespace ODataApi

/-- Why a document is refused. -/
inductive ModelError
  /-- Two types, or two members of a container, have one name. -/
  | duplicateName (name : String)
  /-- A reference to a type leads nowhere. -/
  | unknownType (name referencedBy : String)
  /-- The chain of base types of a type is infinite. -/
  | baseTypeCycle (name : String)
  /-- A bound operation has no parameter. -/
  | missingBindingParameter (name : String)
  /-- An import names no unbound operation. -/
  | unknownOperation (name importName : String)
  /-- A binding or an import names no set or singleton of its container. -/
  | unknownBindingTarget (owner path target : String)
  /-- An annotation stands on no element. -/
  | unknownTarget (target : String)
deriving DecidableEq, Repr

namespace ModelError

/-- An error in words. -/
def message : ModelError → String
  | duplicateName name => "duplicate element name '" ++ name ++ "'"
  | unknownType name referencedBy =>
    "unknown type '" ++ name ++ "' referenced by '" ++ referencedBy ++ "'"
  | baseTypeCycle name => "base type cycle detected at '" ++ name ++ "'"
  | missingBindingParameter name =>
    "bound operation '" ++ name ++ "' declares no binding parameter"
  | unknownOperation name importName =>
    "operation import '" ++ importName ++ "' refers to unknown operation '" ++ name ++ "'"
  | unknownBindingTarget owner path target =>
    "navigation binding '" ++ path ++ "' on '" ++ owner ++ "' targets unknown '" ++ target ++ "'"
  | unknownTarget target =>
    "annotation target '" ++ target ++ "' does not resolve to a model element"

end ModelError

/-! ## Names of types -/

/-- What the names of a document refer to. -/
structure Scope where
  /-- The namespace of the document. -/
  ns : String
  /-- The qualified names of the types, in the order of their declaration. -/
  typeNames : List String

namespace Scope

/-- The qualified form of a name. -/
def qualify (scope : Scope) (name : String) : String := Name.qualify scope.ns name

/-- The type of a name. -/
def type? (scope : Scope) (name : String) : Option EntityTypeHandle :=
  (scope.typeNames.findIdx? (· == scope.qualify name)).map Handle.mk

/-- The type of a name that `referencedBy` refers to. -/
def typeOf (scope : Scope) (name referencedBy : String) : Except ModelError EntityTypeHandle :=
  match scope.type? name with
  | some handle => .ok handle
  | none => .error (.unknownType name referencedBy)

/-- The scope of a document. -/
def ofDocument (document : Document) : Scope where
  ns := document.ns
  typeNames := document.entityTypes.map fun type => Name.qualify document.ns type.name

end Scope

/-- The first name that has occurred before. -/
def firstRepeated? (seen : List String) : List String → Option String
  | [] => none
  | name :: rest => if seen.contains name then some name else firstRepeated? (name :: seen) rest

/-! ## Types -/

/-- A navigation property of a type. -/
def NavigationDeclaration.resolve (d : NavigationDeclaration) (scope : Scope) (owner : String) :
    Except ModelError NavigationProperty := do
  let target ← scope.typeOf d.type (Name.member owner d.name)
  pure {
    name := d.name
    target
    collection := d.collection
    containsTarget := d.containsTarget
    partner := d.partner }

/-- An entity type. -/
def EntityTypeDeclaration.resolve (d : EntityTypeDeclaration) (scope : Scope) :
    Except ModelError EntityType := do
  let owner := scope.qualify d.name
  let base ← d.base.mapM fun base => scope.typeOf base owner
  let navigationProperties ← d.navigationProperties.mapM fun navigation =>
    navigation.resolve scope owner
  pure {
    ns := scope.ns
    name := Name.simple d.name
    base
    isAbstract := d.isAbstract
    key := d.key
    properties := d.properties
    navigationProperties }

/-- Whether a walk along the bases is given up at the next one: it is back at `start`, or the next
step is one more than the `left` steps that it may make. -/
def givesUp (types : List EntityType) (start : EntityTypeHandle) :
    (left : Nat) → (next : Option EntityTypeHandle) → Bool
  | 0, next => next.isSome
  | left + 1, next =>
    match next with
    | none => false
    | some base => base == start || givesUp types start left (types[base.index]?.getD default).base

/-- The first type from which the walk is given up.  A walk may make as many steps as there are
types. -/
def endlessType? (types : List EntityType) : Option EntityTypeHandle :=
  (Model.handles .entityType types.length).find? fun t =>
    givesUp types t types.length (types[t.index]?.getD default).base

/-- Refuse types with an infinite chain. -/
def checkBases (types : List EntityType) : Except ModelError Unit :=
  match endlessType? types with
  | none => .ok ()
  | some t => .error (.baseTypeCycle (types[t.index]?.getD default).qualifiedName)

/-! ## Operations -/

/-- The binding parameter and the other parameters of an operation. -/
def OperationDeclaration.resolveParameters (d : OperationDeclaration) (scope : Scope) :
    Except ModelError (Option BindingParameter × List Parameter) :=
  if d.bound then
    match d.parameters with
    | [] => .error (.missingBindingParameter (scope.qualify d.name))
    | first :: rest => do
      let type ← scope.typeOf first.type (scope.qualify d.name)
      pure (some { name := first.name, type, collection := first.collection }, rest)
  else .ok (none, d.parameters)

/-- An operation. -/
def OperationDeclaration.resolve (d : OperationDeclaration) (scope : Scope) :
    Except ModelError Operation := do
  let (binding, parameters) ← d.resolveParameters scope
  pure {
    ns := scope.ns
    name := Name.simple d.name
    kind := d.kind
    binding
    parameters
    returnType := d.returnType
    composable := d.composable }

/-! ## Containers -/

/-- The types of sets and singletons whose names are not among `seen`. -/
def memberTypes (scope : Scope) (owner : String) (seen : List String) :
    List SourceDeclaration → Except ModelError (List EntityTypeHandle)
  | [] => .ok []
  | member :: rest => do
    let type ← scope.typeOf member.type (Name.member owner member.name)
    if seen.contains member.name then
      throw (.duplicateName (Name.member owner member.name))
    let types ← memberTypes scope owner (member.name :: seen) rest
    pure (type :: types)

/-- The bindings of a set or singleton. -/
def SourceDeclaration.resolveBindings (d : SourceDeclaration) (owner : String)
    (members : List (String × Element)) : Except ModelError (List NavigationBinding) :=
  d.bindings.mapM fun (path, target) =>
    match members.lookup target with
    | some element => .ok { path, target := element }
    | none => .error (.unknownBindingTarget (Name.member owner d.name) path target)

/-- An operation import. -/
def ImportDeclaration.resolve (d : ImportDeclaration) (scope : Scope)
    (operations : List Operation) (owner : String) (members : List (String × Element)) :
    Except ModelError OperationImport := do
  let wanted := scope.qualify d.operation
  let operation ←
    match operations.findIdx? fun o => !o.isBound && o.qualifiedName == wanted with
    | some index => .ok ⟨index⟩
    | none => .error (.unknownOperation d.operation d.name)
  let entitySet ← d.entitySet.mapM fun name =>
    match members.lookup name with
    | some (.entitySet set) => .ok set
    | _ => .error (.unknownBindingTarget (Name.member owner d.name) d.name name)
  pure { name := d.name, operation, entitySet }

/-- A container with the sets and singletons it owns. -/
structure ContainerContent where
  /-- The container. -/
  container : Container
  /-- Its entity sets. -/
  entitySets : List NavigationSource
  /-- Its singletons. -/
  singletons : List NavigationSource
deriving Repr, Inhabited

/-- The container at position `index`, after `setCount` sets and `singletonCount`
singletons of other containers. -/
def ContainerDeclaration.resolve (d : ContainerDeclaration) (scope : Scope)
    (operations : List Operation) (index setCount singletonCount : Nat) :
    Except ModelError ContainerContent := do
  let owner := scope.qualify d.name
  let types ← memberTypes scope owner [] (d.entitySets ++ d.singletons)
  let setHandles := (List.range d.entitySets.length).map fun i => ⟨setCount + i⟩
  let singletonHandles := (List.range d.singletons.length).map fun i => ⟨singletonCount + i⟩
  let elements := setHandles.map Element.entitySet ++ singletonHandles.map Element.singleton
  let members := ((d.entitySets ++ d.singletons).map (·.name)).zip elements
  let bindings ← (d.entitySets ++ d.singletons).mapM fun source =>
    source.resolveBindings owner members
  let imports ← d.imports.mapM fun entry => entry.resolve scope operations owner members
  let source (d : SourceDeclaration) (type : EntityTypeHandle)
      (bindings : List NavigationBinding) : NavigationSource :=
    { name := d.name, container := ⟨index⟩, type, bindings }
  let sources := List.zipWith (fun d (type, bindings) => source d type bindings)
    (d.entitySets ++ d.singletons) (types.zip bindings)
  pure {
    container := {
      ns := scope.ns
      name := d.name
      entitySets := setHandles
      singletons := singletonHandles
      imports }
    entitySets := sources.take d.entitySets.length
    singletons := sources.drop d.entitySets.length }

/-- The containers from position `index` on. -/
def resolveContainers (scope : Scope) (operations : List Operation)
    (index setCount singletonCount : Nat) :
    List ContainerDeclaration → Except ModelError (List ContainerContent)
  | [] => .ok []
  | d :: rest => do
    let content ← d.resolve scope operations index setCount singletonCount
    let contents ← resolveContainers scope operations (index + 1)
      (setCount + content.entitySets.length) (singletonCount + content.singletons.length) rest
    pure (content :: contents)

/-! ## Annotation targets -/

/-- The set, singleton or import of a container that has a name. -/
def Model.memberOf? (m : Model) (c : ContainerHandle) (name : String) : Option Element :=
  let set := ((m.container c).entitySets.find? fun s => (m.entitySet s).name == name).map
    Element.entitySet
  let singleton := ((m.container c).singletons.find? fun s => (m.singleton s).name == name).map
    Element.singleton
  let imported := ((m.importHandles c).find? fun i => (m.operationImport i).name == name).map
    Element.operationImport
  set <|> singleton <|> imported

/-- The navigation property of a name that a type declares itself. -/
def Model.declaredNavigation? (m : Model) (t : EntityTypeHandle) (name : String) :
    Option Element :=
  ((m.declaredNavigation t).find? fun n => (m.navigation n).name == name).map
    Element.navigationProperty

/-- The first container of a qualified name. -/
def Model.findContainer? (m : Model) (name : String) : Option ContainerHandle :=
  m.containerHandles.find? fun c => (m.container c).qualifiedName == name

/-- The elements that an annotation target names: a member of a container or, if
there is no such container, of a type; else a type, a container or every operation
of that name. -/
def Scope.targets (scope : Scope) (m : Model) (target : String) : List Element :=
  match Name.splitMember? target with
  | some (head, name) =>
    match m.findContainer? (scope.qualify head) with
    | some c => (m.memberOf? c name).toList
    | none =>
      match scope.type? head with
      | some t => (m.declaredNavigation? t name).toList
      | none => []
  | none =>
    match scope.type? target with
    | some t => [.entityType t]
    | none =>
      match m.findContainer? (scope.qualify target) with
      | some c => [.container c]
      | none =>
        (m.operationHandles.filter fun o =>
          (m.operation o).qualifiedName == scope.qualify target).map .operation

/-- An annotation on every element it reaches. -/
def AnnotationDeclaration.resolve (d : AnnotationDeclaration) (scope : Scope) (m : Model) :
    Except ModelError (List Annotation) :=
  match scope.targets m d.target with
  | [] => .error (.unknownTarget d.target)
  | elements => .ok (elements.map fun element => { element, term := d.term, value := d.value })

/-! ## Documents -/

namespace Document

/-- The model of a document, without its annotations. -/
def resolveElements (document : Document) (id : ModelId) : Except ModelError Model := do
  let scope := Scope.ofDocument document
  match firstRepeated? [] scope.typeNames with
  | some name => throw (.duplicateName name)
  | none => pure ()
  let entityTypes ← document.entityTypes.mapM fun d => d.resolve scope
  checkBases entityTypes
  let operations ← document.operations.mapM fun d => d.resolve scope
  let contents ← resolveContainers scope operations 0 0 0 document.containers
  pure {
    id
    entityTypes
    entitySets := contents.flatMap (·.entitySets)
    singletons := contents.flatMap (·.singletons)
    operations
    containers := contents.map (·.container)
    subtypeIndex := Model.indexSubtypes entityTypes
    annotations := [] }

/-- The model of a document.  Its identity is `id`. -/
def resolve (document : Document) (id : ModelId) : Except ModelError Model := do
  let m ← document.resolveElements id
  let annotations ← document.annotations.mapM fun d =>
    d.resolve (Scope.ofDocument document) m
  pure { m with annotations := annotations.flatten }

end Document

end ODataApi
