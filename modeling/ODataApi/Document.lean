import ODataApi.Model

/-!
# Model documents

A document describes a model by names.  Types, operations and containers may be
named with or without the namespace of the document.  `Resolve` turns a document
into a model, `Reader` reads one from JSON.

The declarations come with functions that build them step by step.  A binding
parameter is the first parameter of its operation, and a navigation binding belongs
to the entity set declared last.
-/

namespace ODataApi

/-! ## Declarations -/

/-- The declaration of a navigation property. -/
structure NavigationDeclaration where
  /-- The name. -/
  name : String
  /-- The name of the type it leads to. -/
  type : String
  /-- Whether it leads to any number of entities. -/
  collection : Bool := false
  /-- Whether the entities it leads to belong to the one it starts from. -/
  containsTarget : Bool := false
  /-- The navigation property that leads back. -/
  partner : Option String := none
deriving DecidableEq, Repr, Inhabited

/-- The declaration of an entity type. -/
structure EntityTypeDeclaration where
  /-- The name. -/
  name : String
  /-- The name of the type it extends. -/
  base : Option String := none
  /-- Whether it has no entities of its own. -/
  isAbstract : Bool := false
  /-- The names of its key properties. -/
  key : List String := []
  /-- Its structural properties. -/
  properties : List Property := []
  /-- Its navigation properties. -/
  navigationProperties : List NavigationDeclaration := []
deriving DecidableEq, Repr, Inhabited

/-- The declaration of an operation. -/
structure OperationDeclaration where
  /-- The name. -/
  name : String
  /-- Action or function. -/
  kind : OperationKind
  /-- Whether the first parameter is a binding parameter. -/
  bound : Bool := false
  /-- The parameters. -/
  parameters : List Parameter := []
  /-- The return type, if there is a result. -/
  returnType : Option ReturnType := none
  /-- Whether a path may go on after it. -/
  composable : Bool := false
deriving DecidableEq, Repr, Inhabited

/-- The declaration of an entity set or singleton. -/
structure SourceDeclaration where
  /-- The name. -/
  name : String
  /-- The name of its type. -/
  type : String
  /-- The name of a set or singleton of the same container for each path. -/
  bindings : Dictionary String := []
deriving DecidableEq, Repr, Inhabited

/-- The declaration of an operation import. -/
structure ImportDeclaration where
  /-- The name. -/
  name : String
  /-- The name of the operation. -/
  operation : String
  /-- The name of the set that holds the entities it returns. -/
  entitySet : Option String := none
deriving DecidableEq, Repr, Inhabited

/-- The declaration of a container. -/
structure ContainerDeclaration where
  /-- The name. -/
  name : String
  /-- Its entity sets. -/
  entitySets : List SourceDeclaration := []
  /-- Its singletons. -/
  singletons : List SourceDeclaration := []
  /-- Its operation imports. -/
  imports : List ImportDeclaration := []
deriving DecidableEq, Repr, Inhabited

/-- An annotation: what it stands on, the term and the value. -/
structure AnnotationDeclaration where
  /-- The path of an element. -/
  target : String
  /-- The qualified name of a term. -/
  term : String
  /-- The value. -/
  value : Expression
deriving Repr, Inhabited

/-- A model document. -/
structure Document where
  /-- The namespace that names without one belong to. -/
  ns : String
  /-- The entity types. -/
  entityTypes : List EntityTypeDeclaration := []
  /-- The operations. -/
  operations : List OperationDeclaration := []
  /-- The containers. -/
  containers : List ContainerDeclaration := []
  /-- The annotations. -/
  annotations : List AnnotationDeclaration := []
deriving Repr, Inhabited

/-! ## Building declarations -/

namespace EntityTypeDeclaration

/-- Extend a type. -/
def extending (d : EntityTypeDeclaration) (base : String) : EntityTypeDeclaration :=
  { d with base := some base }

/-- Have no entities of its own. -/
def abstracted (d : EntityTypeDeclaration) : EntityTypeDeclaration := { d with isAbstract := true }

/-- Have this key and no other. -/
def keyed (d : EntityTypeDeclaration) (key : List String) : EntityTypeDeclaration :=
  { d with key }

/-- One more property, which may have no value. -/
def withProperty (d : EntityTypeDeclaration) (name type : String) : EntityTypeDeclaration :=
  { d with properties := d.properties ++ [⟨name, type, true⟩] }

/-- One more navigation property. -/
def withNavigation (d : EntityTypeDeclaration) (navigation : NavigationDeclaration) :
    EntityTypeDeclaration :=
  { d with navigationProperties := d.navigationProperties ++ [navigation] }

end EntityTypeDeclaration

namespace OperationDeclaration

/-- Be bound to a type by a parameter in front of all others. -/
def boundTo (d : OperationDeclaration) (type : String) (collection : Bool) :
    OperationDeclaration :=
  { d with
    bound := true
    parameters := ⟨"bindingParameter", type, collection, false⟩ :: d.parameters }

/-- One more parameter, a single value that may be missing. -/
def withParameter (d : OperationDeclaration) (name type : String) : OperationDeclaration :=
  { d with parameters := d.parameters ++ [⟨name, type, false, true⟩] }

/-- Return values of a type. -/
def returning (d : OperationDeclaration) (type : String) (collection : Bool) :
    OperationDeclaration :=
  { d with returnType := some ⟨type, collection⟩ }

end OperationDeclaration

namespace ContainerDeclaration

/-- One more entity set. -/
def withEntitySet (d : ContainerDeclaration) (name type : String) : ContainerDeclaration :=
  { d with entitySets := d.entitySets ++ [{ name, type }] }

/-- One more singleton. -/
def withSingleton (d : ContainerDeclaration) (name type : String) : ContainerDeclaration :=
  { d with singletons := d.singletons ++ [{ name, type }] }

/-- One more operation import. -/
def withImport (d : ContainerDeclaration) (name operation : String) : ContainerDeclaration :=
  { d with imports := d.imports ++ [{ name, operation }] }

/-- Bind a path of the entity set declared last.  Without an entity set nothing
changes. -/
def withBinding (d : ContainerDeclaration) (path target : String) : ContainerDeclaration :=
  { d with
    entitySets := d.entitySets.modify (d.entitySets.length - 1) fun set =>
      { set with bindings := Dictionary.insert path target set.bindings } }

end ContainerDeclaration

end ODataApi
