import ODataApi.Proofs.Document.Containers
import Mathlib.Logic.Relation

/-!
# Valid documents

A document is valid (`Document.Valid`) if its names lead where they should.  Everything here is
about the declarations and their names.  There are no handles, no order in which parts are looked
at and no errors.

A name refers to the type whose name has the same qualified form.  Containers and operations are
known by names of their own: the namespace of the document before the name of the container as it
is written, or before the simple name of the operation.
-/

namespace ODataApi

/-- The names of what a container declares. -/
def ContainerDeclaration.memberNames (d : ContainerDeclaration) : List String :=
  d.sources.map (·.name) ++ d.imports.map (·.name)

namespace Document

/-! ## What names refer to -/

/-- The qualified form of a name in a document. -/
def qualify (document : Document) (name : String) : String := Name.qualify document.ns name

/-- A name refers to a type that is declared. -/
def DeclaresType (document : Document) (name : String) : Prop :=
  ∃ d ∈ document.entityTypes, document.qualify d.name = document.qualify name

/-- A name refers to an operation that is declared without a binding parameter. -/
def DeclaresUnbound (document : Document) (name : String) : Prop :=
  ∃ d ∈ document.operations, d.bound = false ∧
    Name.join document.ns (Name.simple d.name) = document.qualify name

/-- The first container with the qualified form of a name. -/
def containerNamed? (document : Document) (name : String) : Option ContainerDeclaration :=
  document.containers.find? fun d => Name.join document.ns d.name == document.qualify name

/-- The type of a qualified name is declared with a base of a qualified name. -/
def Extends (document : Document) (name base : String) : Prop :=
  ∃ d ∈ document.entityTypes, document.qualify d.name = name ∧
    d.base.map document.qualify = some base

/-- There is something that an annotation can stand on.  A container hides a type of its name from
annotations on members, a type hides a container of its name otherwise, and both hide operations. -/
inductive Annotatable (document : Document) (target : String) : Prop
  | containerMember {head name : String} {d : ContainerDeclaration}
      (hsplit : Name.splitMember? target = some (head, name))
      (hcontainer : document.containerNamed? head = some d) (hname : name ∈ d.memberNames)
  | typeMember {head name : String} {d : EntityTypeDeclaration}
      (hsplit : Name.splitMember? target = some (head, name))
      (hcontainer : document.containerNamed? head = none)
      (hd : d ∈ document.entityTypes) (htype : document.qualify d.name = document.qualify head)
      (hname : name ∈ d.navigationProperties.map (·.name))
  | entityType (hsplit : Name.splitMember? target = none) (htype : document.DeclaresType target)
  | container {d : ContainerDeclaration} (hsplit : Name.splitMember? target = none)
      (hcontainer : document.containerNamed? target = some d)
  | operation {d : OperationDeclaration} (hsplit : Name.splitMember? target = none)
      (hd : d ∈ document.operations)
      (hname : Name.join document.ns (Name.simple d.name) = document.qualify target)

end Document

/-! ## Valid declarations -/

/-- An entity type refers to types only. -/
structure EntityTypeDeclaration.Valid (d : EntityTypeDeclaration) (document : Document) : Prop where
  base_declared : ∀ base, d.base = some base → document.DeclaresType base
  target_declared : ∀ n ∈ d.navigationProperties, document.DeclaresType n.type

/-- A bound operation has a first parameter, of a declared type. -/
def OperationDeclaration.Valid (d : OperationDeclaration) (document : Document) : Prop :=
  d.bound = true → ∃ first rest, d.parameters = first :: rest ∧ document.DeclaresType first.type

/-- An import calls an unbound operation and names a set of its own container. -/
structure ImportDeclaration.Valid (d : ImportDeclaration) (container : ContainerDeclaration)
    (document : Document) : Prop where
  operation_declared : document.DeclaresUnbound d.operation
  entitySet_declared : ∀ name, d.entitySet = some name → name ∈ container.entitySets.map (·.name)

/-- A container has sets and singletons of different names, bound among themselves. -/
structure ContainerDeclaration.Valid (d : ContainerDeclaration) (document : Document) : Prop where
  names_nodup : (d.sources.map (·.name)).Nodup
  type_declared : ∀ source ∈ d.sources, document.DeclaresType source.type
  binding_declared : ∀ source ∈ d.sources, ∀ binding ∈ source.bindings,
    binding.2 ∈ d.sources.map (·.name)
  imports_valid : ∀ i ∈ d.imports, i.Valid d document

/-- A document whose names all lead somewhere, without cycles of base types. -/
structure Document.Valid (document : Document) : Prop where
  names_nodup : (document.entityTypes.map fun d => document.qualify d.name).Nodup
  entityTypes_valid : ∀ d ∈ document.entityTypes, d.Valid document
  bases_acyclic : ∀ name, ¬ Relation.TransGen document.Extends name name
  operations_valid : ∀ d ∈ document.operations, d.Valid document
  containers_valid : ∀ d ∈ document.containers, d.Valid document
  annotations_annotatable : ∀ a ∈ document.annotations, document.Annotatable a.target

end ODataApi
