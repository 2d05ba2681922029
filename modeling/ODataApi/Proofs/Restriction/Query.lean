import ODataApi.Endpoint.Synthesis
import ODataApi.Proofs.Restriction.Cache

/-!
# What a path looks up

Everything that is read off annotations goes through `Model.resolve`.  A `Query` is the
same computation without a cache: the value it comes to and the keys it looks up.
`Reads` says that a computation with a cache is a query, whatever a cache that agrees
with the model remembers, and it passes through sequencing (`Reads.bind`).

The computations of `Restriction.Lookup`, `Restriction.Context` and
`Endpoint.Synthesis` are queries, up to the endpoints of a path (`synthesize_reads`),
and no path goes without a look-up (`queryEndpoints_keys_ne_nil`).
-/

namespace ODataApi

/-- A value with the keys looked up on the way to it. -/
structure Query (α : Type) where
  /-- The value. -/
  value : α
  /-- The keys, the first one in front. -/
  keys : List AnnotationKey

instance : Monad Query where
  pure value := ⟨value, []⟩
  bind query next :=
    let rest := next query.value
    ⟨rest.value, query.keys ++ rest.keys⟩

namespace Query

variable {α β : Type}

@[simp] theorem value_pure (value : α) : (Pure.pure value : Query α).value = value := rfl

@[simp] theorem value_bind (query : Query α) (next : α → Query β) :
    (query >>= next).value = (next query.value).value := rfl

@[simp] theorem keys_pure (value : α) : (Pure.pure value : Query α).keys = [] := rfl

@[simp] theorem keys_bind (query : Query α) (next : α → Query β) :
    (query >>= next).keys = query.keys ++ (next query.value).keys := rfl

end Query

/-! ## Queries of a model -/

namespace Model

/-- One look-up. -/
def query (m : Model) (element : Element) (term : Term) : Query (Option term.Record) :=
  ⟨m.record element term, [(element, term)]⟩

/-- The first record that a candidate gives. -/
def queryFirst (m : Model) (term : Term) : List Element → Query (Resolved term.Record)
  | [] => pure ⟨term.defaults, none⟩
  | element :: rest => do
    match ← m.query element term with
    | some record => pure ⟨record, some element⟩
    | none => m.queryFirst term rest

/-- What governs an element. -/
def queryFor (m : Model) (term : Term) (element : Element) : Query (Resolved term.Record) :=
  m.queryFirst term (m.elementCandidates element)

/-- What governs the resource of a path. -/
def queryPath (m : Model) (term : Term) (path : ResourcePath) : Query (Resolved term.Record) :=
  m.queryFirst term (m.pathCandidates path)

/-- What governs a path unless the entry of its root replaces it. -/
def queryOr (m : Model) (term : Term) (path : ResourcePath) (replacement : Option term.Record) :
    Query (Resolved term.Record) :=
  match replacement with
  | some record => pure (.overridden record path.root)
  | none => m.queryPath term path

/-- The records that govern the resource of a path. -/
def queryRestrictions (m : Model) (path : ResourcePath)
    (entry : Option NavigationPropertyRestriction) : Query PathRestrictions := do
  let tag (value : Option Bool) : Option Tag := value.map fun value => ⟨some value⟩
  pure {
    read := ← m.queryOr .readRestrictions path (entry.bind (·.readRestrictions))
    insert := ← m.queryOr .insertRestrictions path (entry.bind (·.insertRestrictions))
    update := ← m.queryOr .updateRestrictions path (entry.bind (·.updateRestrictions))
    delete := ← m.queryOr .deleteRestrictions path (entry.bind (·.deleteRestrictions))
    count := ← m.queryOr .countRestrictions path (entry.bind (·.countRestrictions))
    filter := ← m.queryOr .filterRestrictions path (entry.bind (·.filterRestrictions))
    search := ← m.queryOr .searchRestrictions path (entry.bind (·.searchRestrictions))
    sort := ← m.queryOr .sortRestrictions path (entry.bind (·.sortRestrictions))
    select := ← m.queryPath .selectSupport path
    expand := ← m.queryPath .expandRestrictions path
    top := ← m.queryOr .topSupported path (tag (entry.bind (·.topSupported)))
    skip := ← m.queryOr .skipSupported path (tag (entry.bind (·.skipSupported)))
    indexable := ← m.queryOr .indexableByKey path (tag (entry.bind (·.indexableByKey))) }

/-- What the root of a path says of the navigation path, if it does not forbid it. -/
def queryNavigation? (m : Model) (path : ResourcePath) (navigationPath : String) :
    Query (Option NavigationContext) := do
  let navigation ← m.queryFor .navigationRestrictions path.root
  if navigation.value.allowsPath navigationPath path.depth then
    pure (some {
      entry := navigation.value.entry? navigationPath
      root := {
        insert := (← m.queryFor .insertRestrictions path.root).value
        update := (← m.queryFor .updateRestrictions path.root).value
        delete := (← m.queryFor .deleteRestrictions path.root).value
        count := (← m.queryFor .countRestrictions path.root).value } })
  else pure none

/-- The context of a path under what its root says. -/
def queryContext (m : Model) (path : ResourcePath) (navigation : Option NavigationContext) :
    Query PathContext := do
  let restrictions ← m.queryRestrictions path (navigation.bind (·.entry))
  pure {
    path
    restrictions
    root := navigation.map (·.root)
    navigationPath := path.navigationPath m
    typeName := path.entityType.map fun t => (m.entityType t).qualifiedName
    typeLabel := (path.entityType.map fun t => (m.entityType t).name).getD ""
    tag := path.tag m }

/-- The context of a path, none if its root forbids it. -/
def queryContext? (m : Model) (path : ResourcePath) : Query (Option PathContext) := do
  if path.depth = 0 then
    pure (some (← m.queryContext path none))
  else
    match ← m.queryNavigation? path (path.navigationPath m) with
    | none => pure none
    | some navigation => pure (some (← m.queryContext path (some navigation)))

/-- The endpoints of a path. -/
def queryEndpoints (m : Model) (path : ResourcePath) : Query (List Endpoint) := do
  match ← m.queryContext? path with
  | none => pure []
  | some c => pure (c.endpoints m)

end Model

/-! ## Computations with a cache -/

/-- A computation is a query: with a cache that agrees with the model it gives the value
and remembers the keys. -/
def Reads {α : Type} (m : Model) (f : StateM AnnotationCache α) (query : Query α) : Prop :=
  ∀ cache : AnnotationCache, cache.Agrees m →
    f.run cache = (query.value, cache.touchAll m query.keys)

namespace Reads

variable {α β : Type} {m : Model}

theorem pure (value : α) : Reads m (Pure.pure value) (Pure.pure value) := fun _ _ => rfl

theorem bind {f : StateM AnnotationCache α} {query : Query α} {g : α → StateM AnnotationCache β}
    {next : α → Query β} (hf : Reads m f query)
    (hg : Reads m (g query.value) (next query.value)) : Reads m (f >>= g) (query >>= next) := by
  intro cache h
  rw [StateT.run_bind, hf cache h]
  show (g query.value).run (cache.touchAll m query.keys) = _
  rw [hg _ h.touchAll, ← AnnotationCache.touchAll_append]
  rfl

end Reads

namespace Model

variable {m : Model}

theorem resolve_reads (element : Element) (term : Term) :
    Reads m (m.resolve element term) (m.query element term) := by
  intro cache h
  exact resolve_run h element term

theorem firstResolved_reads (term : Term) :
    ∀ elements : List Element, Reads m (m.firstResolved term elements) (m.queryFirst term elements)
  | [] => Reads.pure _
  | element :: rest => by
      refine (resolve_reads element term).bind ?_
      cases (m.query element term).value with
      | some record => exact Reads.pure _
      | none => exact firstResolved_reads term rest

theorem resolveFor_reads (term : Term) (element : Element) :
    Reads m (m.resolveFor term element) (m.queryFor term element) :=
  firstResolved_reads term (m.elementCandidates element)

theorem resolvePath_reads (term : Term) (path : ResourcePath) :
    Reads m (m.resolvePath term path) (m.queryPath term path) :=
  firstResolved_reads term (m.pathCandidates path)

theorem resolveOr_reads (term : Term) (path : ResourcePath) (replacement : Option term.Record) :
    Reads m (m.resolveOr term path replacement) (m.queryOr term path replacement) := by
  cases replacement with
  | none => exact resolvePath_reads term path
  | some record => exact Reads.pure _

theorem pathRestrictions_reads (path : ResourcePath)
    (entry : Option NavigationPropertyRestriction) :
    Reads m (m.pathRestrictions path entry) (m.queryRestrictions path entry) := by
  refine (resolveOr_reads .readRestrictions path _).bind ?_
  refine (resolveOr_reads .insertRestrictions path _).bind ?_
  refine (resolveOr_reads .updateRestrictions path _).bind ?_
  refine (resolveOr_reads .deleteRestrictions path _).bind ?_
  refine (resolveOr_reads .countRestrictions path _).bind ?_
  refine (resolveOr_reads .filterRestrictions path _).bind ?_
  refine (resolveOr_reads .searchRestrictions path _).bind ?_
  refine (resolveOr_reads .sortRestrictions path _).bind ?_
  refine (resolvePath_reads .selectSupport path).bind ?_
  refine (resolvePath_reads .expandRestrictions path).bind ?_
  refine (resolveOr_reads .topSupported path _).bind ?_
  refine (resolveOr_reads .skipSupported path _).bind ?_
  refine (resolveOr_reads .indexableByKey path _).bind ?_
  exact Reads.pure _

theorem navigationContext?_reads (path : ResourcePath) (navigationPath : String) :
    Reads m (m.navigationContext? path navigationPath)
      (m.queryNavigation? path navigationPath) := by
  refine (resolveFor_reads .navigationRestrictions path.root).bind ?_
  split
  · refine (resolveFor_reads .insertRestrictions path.root).bind ?_
    refine (resolveFor_reads .updateRestrictions path.root).bind ?_
    refine (resolveFor_reads .deleteRestrictions path.root).bind ?_
    refine (resolveFor_reads .countRestrictions path.root).bind ?_
    exact Reads.pure _
  · exact Reads.pure _

theorem contextUnder_reads (path : ResourcePath) (navigation : Option NavigationContext) :
    Reads m (m.contextUnder path navigation) (m.queryContext path navigation) :=
  (pathRestrictions_reads path _).bind (Reads.pure _)

theorem pathContext?_reads (path : ResourcePath) :
    Reads m (m.pathContext? path) (m.queryContext? path) := by
  rw [pathContext?, queryContext?]
  split
  · exact (contextUnder_reads path none).bind (Reads.pure _)
  · refine (navigationContext?_reads path _).bind ?_
    cases (m.queryNavigation? path (path.navigationPath m)).value with
    | none => exact Reads.pure _
    | some navigation => exact (contextUnder_reads path (some navigation)).bind (Reads.pure _)

/-- The endpoints of a path are told by what the model says. -/
theorem synthesize_reads (path : ResourcePath) :
    Reads m (m.synthesize path) (m.queryEndpoints path) := by
  refine (pathContext?_reads path).bind ?_
  cases (m.queryContext? path).value with
  | none => exact Reads.pure _
  | some c => exact Reads.pure _

/-- A path that is not forbidden has the endpoints of a context. -/
theorem queryContext?_value_cases (m : Model) (path : ResourcePath) :
    (m.queryContext? path).value = none ∨ ∃ navigation,
      (m.queryContext? path).value = some (m.queryContext path navigation).value := by
  rw [queryContext?]
  split
  · exact Or.inr ⟨none, rfl⟩
  · rw [Query.value_bind]
    cases (m.queryNavigation? path (path.navigationPath m)).value with
    | none => exact Or.inl rfl
    | some navigation => exact Or.inr ⟨some navigation, rfl⟩

theorem queryEndpoints_value (m : Model) (path : ResourcePath) :
    (m.queryEndpoints path).value
      = (m.queryContext? path).value.elim [] (·.endpoints m) := by
  rw [queryEndpoints, Query.value_bind]
  cases (m.queryContext? path).value with
  | none => rfl
  | some c => rfl

theorem queryEndpoints_value_cases (m : Model) (path : ResourcePath) :
    (m.queryEndpoints path).value = [] ∨ ∃ navigation,
      (m.queryEndpoints path).value = (m.queryContext path navigation).value.endpoints m := by
  rw [queryEndpoints_value]
  rcases m.queryContext?_value_cases path with h | ⟨navigation, h⟩
  · rw [h]
    exact Or.inl rfl
  · rw [h]
    exact Or.inr ⟨navigation, rfl⟩

end Model

/-! ## Every path looks something up -/

namespace Model

variable {m : Model} {path : ResourcePath}

theorem queryFirst_keys_ne_nil (term : Term) {elements : List Element} (h : elements ≠ []) :
    (m.queryFirst term elements).keys ≠ [] := by
  cases elements with
  | nil => exact absurd rfl h
  | cons element rest => exact List.cons_ne_nil (element, term) _

theorem candidates_ne_nil {element : Element} {direct : List Element}
    {type : Option EntityTypeHandle} {container : Option ContainerHandle}
    (h : isDirect element = true) : m.candidates (element :: direct) type container ≠ [] := by
  rw [candidates, List.filter_cons_of_pos h]
  exact List.cons_ne_nil element _

theorem queryContext_keys_ne_nil (navigation : Option NavigationContext)
    (h : isDirect path.target = true) : (m.queryContext path navigation).keys ≠ [] := by
  have hselect : (m.queryPath .selectSupport path).keys ≠ [] :=
    queryFirst_keys_ne_nil .selectSupport (candidates_ne_nil h)
  simp [queryContext, queryRestrictions, hselect]

theorem queryContext?_keys_ne_nil (hroot : isDirect path.root = true)
    (htarget : isDirect path.target = true) : (m.queryContext? path).keys ≠ [] := by
  rw [queryContext?]
  split
  · simp [queryContext_keys_ne_nil none htarget]
  · have hnavigation : (m.queryFor .navigationRestrictions path.root).keys ≠ [] :=
      queryFirst_keys_ne_nil .navigationRestrictions (candidates_ne_nil hroot)
    simp [queryNavigation?, hnavigation]

theorem queryEndpoints_keys_ne_nil (hroot : isDirect path.root = true)
    (htarget : isDirect path.target = true) : (m.queryEndpoints path).keys ≠ [] := by
  simp [queryEndpoints, queryContext?_keys_ne_nil hroot htarget]

end Model

end ODataApi
