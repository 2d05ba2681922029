import ODataApi.Capability.Record
import ODataApi.Model
import Std.Data.DHashMap

/-!
# Decoded annotations

The cache keeps what looking up a term on an element has given, also that there is
nothing, so an annotation is decoded once and its issues are noted once.  It serves
one model at a time: looking something up in another model empties it first.
-/

namespace ODataApi

/-- An element and a term: what is looked up. -/
abbrev AnnotationKey := Element × Term

/-- Decoded annotations of one model. -/
structure AnnotationCache where
  /-- The model, if anything has been looked up. -/
  model : Option ModelId := none
  /-- What each look-up has given. -/
  entries : Std.DHashMap AnnotationKey (fun key => Option key.2.Record) := {}
  /-- The issues met, in the order they were met. -/
  issues : List DecodeIssue := []

namespace AnnotationCache

/-- The cache in use for a model. -/
def bind (cache : AnnotationCache) (model : ModelId) : AnnotationCache :=
  if cache.model = some model then cache else { model := some model }

/-- Everything forgotten, the model too. -/
def clear (_ : AnnotationCache) : AnnotationCache := {}

/-- The number of look-ups remembered. -/
def size (cache : AnnotationCache) : Nat := cache.entries.size

/-- What looking up a term on an element of a model has given, if that is
remembered. -/
def find? (cache : AnnotationCache) (model : ModelId) (element : Element) (term : Term) :
    Option (Option term.Record) :=
  (cache.bind model).entries.get? (element, term)

/-- Remember what a look-up has given. -/
def remember (cache : AnnotationCache) (element : Element) (term : Term)
    (record : Option term.Record) (issues : List DecodeIssue) : AnnotationCache :=
  { cache with
    entries := cache.entries.insert (element, term) record
    issues := cache.issues ++ issues }

end AnnotationCache

namespace Model

/-- What an element says of a term itself: the record and the issues.  `read` need
not be the reader of the term. -/
def decode (m : Model) (element : Element) (term : Term) (read : Reader term.Record) :
    Option term.Record × List DecodeIssue :=
  match m.annotation? element term.qualifiedName with
  | none => (none, [])
  | some value =>
    let reading := read value
    (reading.value, reading.mismatches.map fun mismatch =>
      mismatch.issue term (m.elementName element) "")

/-- What an element says of a term itself, remembered from the first look-up on. -/
def resolve (m : Model) (element : Element) (term : Term)
    (read : Reader term.Record := term.read) : StateM AnnotationCache (Option term.Record) := do
  let cache := (← get).bind m.id
  match cache.entries.get? (element, term) with
  | some record =>
    set cache
    pure record
  | none =>
    let (record, issues) := m.decode element term read
    set (cache.remember element term record issues)
    pure record

/-- Whether looking a term up on an element decodes its annotation. -/
def decodes (m : Model) (cache : AnnotationCache) (element : Element) (term : Term) : Bool :=
  (cache.find? m.id element term).isNone && (m.annotation? element term.qualifiedName).isSome

end Model

end ODataApi
