import ODataApi.Model

/-!
# The hierarchy of entity types

Every type has at most one base, so following the bases from a type gives a chain.
Where no chain is infinite, none is longer than the number of types, and that
number bounds every walk here.  The way down is stored: one pass over the types
enters each among the subtypes of its base.

A type has what its base types have: a key, properties, navigation properties and
bound operations.
-/

namespace ODataApi

namespace Model

/-! ## Chains -/

/-- A type and at most `steps` of its base types, the most derived first. -/
def chainWithin (types : List EntityType) :
    (steps : Nat) → EntityTypeHandle → List EntityTypeHandle
  | 0, t => [t]
  | steps + 1, t =>
    match (types[t.index]?.getD default).base with
    | none => [t]
    | some base => t :: chainWithin types steps base

/-- A type and its base types, the most derived first. -/
def typeChain (m : Model) (t : EntityTypeHandle) : List EntityTypeHandle :=
  chainWithin m.entityTypes m.entityTypes.length t

/-- The base types of a type, the most derived first. -/
def baseTypes (m : Model) (t : EntityTypeHandle) : List EntityTypeHandle := (m.typeChain t).tail

/-- Whether a type is `ancestor` or extends it, directly or not. -/
def isSubtypeOf (m : Model) (t ancestor : EntityTypeHandle) : Bool :=
  (m.typeChain t).contains ancestor

/-! ## Derived types -/

/-- Enter a type, given with its position, among the subtypes of its base. -/
def enterSubtype (index : List (List EntityTypeHandle)) (entry : EntityType × Nat) :
    List (List EntityTypeHandle) :=
  match entry.1.base with
  | none => index
  | some base => index.modify base.index (· ++ [⟨entry.2⟩])

/-- The direct subtypes of each type: all types entered, one after the other. -/
def indexSubtypes (types : List EntityType) : List (List EntityTypeHandle) :=
  types.zipIdx.foldl enterSubtype (List.replicate types.length [])

/-- The direct subtypes of a type, as they are stored. -/
def subtypes (m : Model) (t : EntityTypeHandle) : List EntityTypeHandle :=
  m.subtypeIndex[t.index]?.getD []

/-- A level of the hierarchy and at most `depth` levels below it. -/
def levelsFrom (m : Model) : (depth : Nat) → List EntityTypeHandle → List EntityTypeHandle
  | 0, level => level
  | depth + 1, level =>
    match level with
    | [] => []
    | level => level ++ m.levelsFrom depth (level.flatMap m.subtypes)

/-- The types that extend `t`, directly or not, level by level. -/
def derivedTypes (m : Model) (t : EntityTypeHandle) : List EntityTypeHandle :=
  m.levelsFrom m.entityTypes.length (m.subtypes t)

/-! ## What a type inherits -/

/-- The key of a type: the one declared closest to it. -/
def key (m : Model) (t : EntityTypeHandle) : List String :=
  ((m.typeChain t).find? fun u => !(m.entityType u).key.isEmpty).elim [] fun u =>
    (m.entityType u).key

/-- The structural property of a name, the one declared closest to the type. -/
def property? (m : Model) (t : EntityTypeHandle) (name : String) : Option Property :=
  (m.typeChain t).findSome? fun u => (m.entityType u).properties.find? fun p => p.name == name

/-- The navigation properties of a type, those of its base types first. -/
def navigationProperties (m : Model) (t : EntityTypeHandle) : List NavigationHandle :=
  (m.typeChain t).reverse.flatMap m.declaredNavigation

/-- The navigation property of a name. -/
def findNavigation? (m : Model) (t : EntityTypeHandle) (name : String) :
    Option NavigationHandle :=
  (m.navigationProperties t).find? fun n => (m.navigation n).name == name

/-- Whether an operation is bound to entities of a type, or to collections of
them, by a binding parameter of that type or one of its base types. -/
def isBoundTo (m : Model) (operation : Operation) (t : EntityTypeHandle) (collection : Bool) :
    Bool :=
  match operation.binding with
  | some binding => binding.collection == collection && m.isSubtypeOf t binding.type
  | none => false

/-- The operations bound to a type. -/
def boundOperations (m : Model) (t : EntityTypeHandle) (collection : Bool) :
    List OperationHandle :=
  m.operationHandles.filter fun o => m.isBoundTo (m.operation o) t collection

end Model

end ODataApi
