import ODataApi.Path
import ODataApi.Restriction.Cache

/-!
# Which record governs a resource

A term may be said of the element itself, of its type or of its container.  The
candidates are taken in this order, the type with its base types, the most derived
first; the first one whose annotation can be decoded governs, and the ones after it
are not looked up.  Without one the defaults of the term govern.

A type or container is no element of its own here: it is looked up in its turn.
-/

namespace ODataApi

/-- A record and where it comes from. -/
structure Resolved (α : Type) where
  /-- The record. -/
  value : α
  /-- The element that says so, none for the defaults. -/
  origin : Option Element
deriving Repr, Inhabited

namespace Resolved

/-- A record that replaces what a look-up would give. -/
def overridden {α : Type} (value : α) (origin : Element) : Resolved α := ⟨value, some origin⟩

/-- Whether an element says so. -/
def isPresent {α : Type} (resolved : Resolved α) : Bool := resolved.origin.isSome

end Resolved

namespace Model

/-- Elements that are not types or containers. -/
def isDirect : Element → Bool
  | .entityType _ | .container _ => false
  | _ => true

/-- Elements, then a type with its base types, then a container. -/
def candidates (m : Model) (direct : List Element) (type : Option EntityTypeHandle)
    (container : Option ContainerHandle) : List Element :=
  direct.filter isDirect ++ (type.toList.flatMap m.typeChain).map .entityType
    ++ container.toList.map .container

/-- The candidates for an element, with a type in place of its own if one is
given. -/
def elementCandidates (m : Model) (element : Element) (type : Option EntityTypeHandle := none) :
    List Element :=
  m.candidates [element] (type <|> m.elementType? element) (m.containerOf? element)

/-- The candidates for the resource of a path: the element it leads to, the set or
singleton bound there, the type, and the container of the root. -/
def pathCandidates (m : Model) (path : ResourcePath) : List Element :=
  m.candidates (path.target :: path.binding.toList) path.entityType (m.containerOf? path.root)

/-- The first record that a candidate gives. -/
def firstResolved (m : Model) (term : Term) :
    List Element → StateM AnnotationCache (Resolved term.Record)
  | [] => pure ⟨term.defaults, none⟩
  | element :: rest => do
    match ← m.resolve element term with
    | some record => pure ⟨record, some element⟩
    | none => m.firstResolved term rest

/-- What governs an element, with a type in place of its own if one is given. -/
def resolveFor (m : Model) (term : Term) (element : Element)
    (type : Option EntityTypeHandle := none) : StateM AnnotationCache (Resolved term.Record) :=
  m.firstResolved term (m.elementCandidates element type)

/-- What governs the resource of a path. -/
def resolvePath (m : Model) (term : Term) (path : ResourcePath) :
    StateM AnnotationCache (Resolved term.Record) :=
  m.firstResolved term (m.pathCandidates path)

end Model

end ODataApi
