import ODataApi.Expression
import ODataApi.Model.Element
import ODataApi.Name

/-!
# Models

A model is the resolved description of a service: its types, operations and
containers, with every reference turned into a handle.  Handles index lists of the
model, so looking one up is total, with an empty element for a handle that belongs
to no element.  A model read from a document has no such handle.

Annotations are kept in the order they are written, once for every element they
reach, and the first one of a term on an element counts.
-/

namespace ODataApi

/-! ## Types -/

/-- A structural property of an entity type. -/
structure Property where
  /-- The name. -/
  name : String
  /-- The name of its type, primitive or not. -/
  type : String
  /-- Whether it may have no value. -/
  nullable : Bool
deriving DecidableEq, Repr, Inhabited

/-- A relationship from one entity type to another. -/
structure NavigationProperty where
  /-- The name. -/
  name : String
  /-- The type it leads to. -/
  target : EntityTypeHandle
  /-- Whether it leads to any number of entities. -/
  collection : Bool
  /-- Whether the entities it leads to belong to the one it starts from. -/
  containsTarget : Bool
  /-- The navigation property that leads back. -/
  partner : Option String
deriving DecidableEq, Repr, Inhabited

/-- An entity type. -/
structure EntityType where
  /-- The namespace. -/
  ns : String
  /-- The simple name. -/
  name : String
  /-- The type it extends. -/
  base : Option EntityTypeHandle
  /-- Whether it has no entities of its own. -/
  isAbstract : Bool
  /-- The names of the key properties declared here, none if the key is inherited. -/
  key : List String
  /-- The structural properties declared here. -/
  properties : List Property
  /-- The navigation properties declared here. -/
  navigationProperties : List NavigationProperty
deriving DecidableEq, Repr, Inhabited

/-- The namespace and the name. -/
def EntityType.qualifiedName (type : EntityType) : String := Name.join type.ns type.name

/-! ## Operations -/

/-- Actions may change what they act on, functions may not. -/
inductive OperationKind
  | action
  | function
deriving DecidableEq, Repr, Inhabited

/-- A parameter of an operation. -/
structure Parameter where
  /-- The name. -/
  name : String
  /-- The name of its type. -/
  type : String
  /-- Whether it takes any number of values. -/
  collection : Bool
  /-- Whether it may have no value. -/
  nullable : Bool
deriving DecidableEq, Repr, Inhabited

/-- The parameter through which a bound operation is called. -/
structure BindingParameter where
  /-- The name. -/
  name : String
  /-- The type of the entity, or of the entities. -/
  type : EntityTypeHandle
  /-- Whether the operation is called on a collection. -/
  collection : Bool
deriving DecidableEq, Repr, Inhabited

/-- What an operation returns. -/
structure ReturnType where
  /-- The name of the type. -/
  type : String
  /-- Whether it returns any number of values. -/
  collection : Bool
deriving DecidableEq, Repr, Inhabited

/-- An action or function. -/
structure Operation where
  /-- The namespace. -/
  ns : String
  /-- The simple name. -/
  name : String
  /-- Action or function. -/
  kind : OperationKind
  /-- The binding parameter of a bound operation. -/
  binding : Option BindingParameter
  /-- The other parameters. -/
  parameters : List Parameter
  /-- The return type, if there is a result. -/
  returnType : Option ReturnType
  /-- Whether a path may go on after it. -/
  composable : Bool
deriving DecidableEq, Repr, Inhabited

namespace Operation

/-- The namespace and the name. -/
def qualifiedName (operation : Operation) : String := Name.join operation.ns operation.name

/-- Whether it is called on an entity or a collection. -/
def isBound (operation : Operation) : Bool := operation.binding.isSome

/-- Whether it returns any number of values. -/
def returnsCollection (operation : Operation) : Bool :=
  match operation.returnType with
  | some result => result.collection
  | none => false

end Operation

/-! ## Containers -/

/-- Where navigation from a set or singleton leads. -/
structure NavigationBinding where
  /-- The navigation properties and casts that lead there. -/
  path : String
  /-- A set or singleton of the same container. -/
  target : Element
deriving DecidableEq, Repr, Inhabited

/-- An entity set or a singleton: a place where entities live. -/
structure NavigationSource where
  /-- The name. -/
  name : String
  /-- The container it belongs to. -/
  container : ContainerHandle
  /-- The type of its entities, or of its only one. -/
  type : EntityTypeHandle
  /-- Its navigation bindings, in the order of their paths. -/
  bindings : List NavigationBinding
deriving DecidableEq, Repr, Inhabited

/-- An unbound operation that can be called through a container. -/
structure OperationImport where
  /-- The name. -/
  name : String
  /-- The operation called. -/
  operation : OperationHandle
  /-- The set that holds the entities it returns. -/
  entitySet : Option EntitySetHandle
deriving DecidableEq, Repr, Inhabited

/-- A container. -/
structure Container where
  /-- The namespace. -/
  ns : String
  /-- The name, as it is written. -/
  name : String
  /-- Its entity sets. -/
  entitySets : List EntitySetHandle
  /-- Its singletons. -/
  singletons : List SingletonHandle
  /-- Its operation imports. -/
  imports : List OperationImport
deriving DecidableEq, Repr, Inhabited

/-- The namespace and the name. -/
def Container.qualifiedName (container : Container) : String :=
  Name.join container.ns container.name

/-! ## Models -/

/-- A value that a vocabulary term gives to an element. -/
structure Annotation where
  /-- The element it stands on. -/
  element : Element
  /-- The qualified name of the term. -/
  term : String
  /-- The value. -/
  value : Expression
deriving Repr, Inhabited

/-- What tells two models apart. -/
structure ModelId where
  /-- A number no other model has. -/
  number : Nat
deriving DecidableEq, Repr, Inhabited

/-- A resolved model. -/
structure Model where
  /-- What tells it from other models. -/
  id : ModelId
  /-- The entity types. -/
  entityTypes : List EntityType
  /-- The entity sets of all containers. -/
  entitySets : List NavigationSource
  /-- The singletons of all containers. -/
  singletons : List NavigationSource
  /-- The operations. -/
  operations : List Operation
  /-- The containers. -/
  containers : List Container
  /-- The direct subtypes of each entity type, in the order of the entity types. -/
  subtypeIndex : List (List EntityTypeHandle)
  /-- The annotations, in the order they are written. -/
  annotations : List Annotation
deriving Repr, Inhabited

namespace Model

/-! ## Elements by handle -/

/-- The container at a handle. -/
def container (m : Model) (c : ContainerHandle) : Container := m.containers[c.index]?.getD default

/-- The entity set at a handle. -/
def entitySet (m : Model) (s : EntitySetHandle) : NavigationSource :=
  m.entitySets[s.index]?.getD default

/-- The singleton at a handle. -/
def singleton (m : Model) (s : SingletonHandle) : NavigationSource :=
  m.singletons[s.index]?.getD default

/-- The entity type at a handle. -/
def entityType (m : Model) (t : EntityTypeHandle) : EntityType :=
  m.entityTypes[t.index]?.getD default

/-- The operation at a handle. -/
def operation (m : Model) (o : OperationHandle) : Operation := m.operations[o.index]?.getD default

/-- The navigation property at a handle. -/
def navigation (m : Model) (n : NavigationHandle) : NavigationProperty :=
  (m.entityType n.declaring).navigationProperties[n.index]?.getD default

/-- The operation import at a handle. -/
def operationImport (m : Model) (i : ImportHandle) : OperationImport :=
  (m.container i.container).imports[i.index]?.getD default

/-! ## All elements of a kind -/

/-- The first `count` handles of a kind. -/
def handles (kind : ElementKind) (count : Nat) : List (Handle kind) :=
  (List.range count).map Handle.mk

/-- The handles of the containers. -/
def containerHandles (m : Model) : List ContainerHandle := handles .container m.containers.length

/-- The handles of the entity sets. -/
def entitySetHandles (m : Model) : List EntitySetHandle := handles .entitySet m.entitySets.length

/-- The handles of the singletons. -/
def singletonHandles (m : Model) : List SingletonHandle := handles .singleton m.singletons.length

/-- The handles of the entity types. -/
def entityTypeHandles (m : Model) : List EntityTypeHandle :=
  handles .entityType m.entityTypes.length

/-- The handles of the operations. -/
def operationHandles (m : Model) : List OperationHandle := handles .operation m.operations.length

/-- The handles of the navigation properties a type declares. -/
def declaredNavigation (m : Model) (t : EntityTypeHandle) : List NavigationHandle :=
  (List.range (m.entityType t).navigationProperties.length).map (NavigationHandle.mk t)

/-- The handles of the imports of a container. -/
def importHandles (m : Model) (c : ContainerHandle) : List ImportHandle :=
  (List.range (m.container c).imports.length).map (ImportHandle.mk c)

/-- Every element, kind by kind. -/
def elements (m : Model) : List Element :=
  m.containerHandles.map .container ++ m.entitySetHandles.map .entitySet
    ++ m.singletonHandles.map .singleton ++ m.entityTypeHandles.map .entityType
    ++ (m.entityTypeHandles.flatMap m.declaredNavigation).map .navigationProperty
    ++ m.operationHandles.map .operation
    ++ (m.containerHandles.flatMap m.importHandles).map .operationImport

/-! ## Elements by name -/

/-- The entity type of a qualified name. -/
def findEntityType? (m : Model) (name : String) : Option EntityTypeHandle :=
  m.entityTypeHandles.find? fun t => (m.entityType t).qualifiedName == name

/-- The first entity set of a name. -/
def findEntitySet? (m : Model) (name : String) : Option EntitySetHandle :=
  m.entitySetHandles.find? fun s => (m.entitySet s).name == name

/-- The first singleton of a name. -/
def findSingleton? (m : Model) (name : String) : Option SingletonHandle :=
  m.singletonHandles.find? fun s => (m.singleton s).name == name

/-! ## What an element tells -/

/-- The type of the entities an element stands for. -/
def elementType? (m : Model) : Element → Option EntityTypeHandle
  | .entitySet s => some (m.entitySet s).type
  | .singleton s => some (m.singleton s).type
  | .entityType t => some t
  | .navigationProperty n => some (m.navigation n).target
  | .operationImport i => (m.operationImport i).entitySet.map fun s => (m.entitySet s).type
  | .container _ | .operation _ => none

/-- The container an element belongs to.  A container belongs to itself. -/
def containerOf? (m : Model) : Element → Option ContainerHandle
  | .container c => some c
  | .entitySet s => some (m.entitySet s).container
  | .singleton s => some (m.singleton s).container
  | .operationImport i => some i.container
  | .entityType _ | .navigationProperty _ | .operation _ => none

/-- The navigation bindings of an element. -/
def bindings (m : Model) : Element → List NavigationBinding
  | .entitySet s => (m.entitySet s).bindings
  | .singleton s => (m.singleton s).bindings
  | _ => []

/-- The set or singleton that an element binds to a path. -/
def navigationBinding? (m : Model) (owner : Element) (path : String) : Option Element :=
  ((m.bindings owner).find? fun binding => binding.path == path).map (·.target)

/-- The value a term gives to an element itself. -/
def annotation? (m : Model) (element : Element) (term : String) : Option Expression :=
  (m.annotations.find? fun a => a.element == element && a.term == term).map (·.value)

/-- The qualified name of an element, a member after a slash. -/
def elementName (m : Model) : Element → String
  | .container c => (m.container c).qualifiedName
  | .entitySet s =>
    Name.member (m.container (m.entitySet s).container).qualifiedName (m.entitySet s).name
  | .singleton s =>
    Name.member (m.container (m.singleton s).container).qualifiedName (m.singleton s).name
  | .entityType t => (m.entityType t).qualifiedName
  | .navigationProperty n =>
    Name.member (m.entityType n.declaring).qualifiedName (m.navigation n).name
  | .operation o => (m.operation o).qualifiedName
  | .operationImport i =>
    Name.member (m.container i.container).qualifiedName (m.operationImport i).name

end Model

end ODataApi
