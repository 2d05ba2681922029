/-!
# Elements of a model

A model keeps its elements in one list per kind.  A handle is a position in such a
list and carries the kind in its type, so the handle of a set is never taken for
the handle of a type.  Navigation properties are counted within the type that
declares them, operation imports within their container.
-/

namespace ODataApi

/-- The kinds of elements that a model counts on their own. -/
inductive ElementKind
  | container
  | entitySet
  | singleton
  | entityType
  | operation
deriving DecidableEq, Repr

/-- The position of an element among those of its kind. -/
structure Handle (kind : ElementKind) where
  /-- The position, from zero. -/
  index : Nat
deriving DecidableEq, Hashable, Repr, Inhabited

/-- The position of a container. -/
abbrev ContainerHandle := Handle .container
/-- The position of an entity set. -/
abbrev EntitySetHandle := Handle .entitySet
/-- The position of a singleton. -/
abbrev SingletonHandle := Handle .singleton
/-- The position of an entity type. -/
abbrev EntityTypeHandle := Handle .entityType
/-- The position of an operation. -/
abbrev OperationHandle := Handle .operation

/-- A navigation property: the type that declares it and its position there. -/
structure NavigationHandle where
  /-- The declaring type. -/
  declaring : EntityTypeHandle
  /-- The position among the declared navigation properties. -/
  index : Nat
deriving DecidableEq, Hashable, Repr, Inhabited

/-- An operation import: its container and its position there. -/
structure ImportHandle where
  /-- The container. -/
  container : ContainerHandle
  /-- The position among the imports. -/
  index : Nat
deriving DecidableEq, Hashable, Repr, Inhabited

/-- An element of a model, that is, what an annotation can stand on. -/
inductive Element
  | container (handle : ContainerHandle)
  | entitySet (handle : EntitySetHandle)
  | singleton (handle : SingletonHandle)
  | entityType (handle : EntityTypeHandle)
  | navigationProperty (handle : NavigationHandle)
  | operation (handle : OperationHandle)
  | operationImport (handle : ImportHandle)
deriving DecidableEq, Hashable, Repr, Inhabited

namespace Element

/-- The kind of an element, as a label. -/
def kind : Element → String
  | container _ => "container"
  | entitySet _ => "entity_set"
  | singleton _ => "singleton"
  | entityType _ => "entity_type"
  | navigationProperty _ => "navigation_property"
  | operation _ => "operation"
  | operationImport _ => "operation_import"

end Element

end ODataApi
