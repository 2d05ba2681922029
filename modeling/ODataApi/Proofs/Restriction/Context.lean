import ODataApi.Proofs.Restriction.Query

/-!
# What governs a path, term by term

A look-up with a new cache gives the record in effect (`Model.effective`, `Model.governing`).  The
restrictions on a path are one record for each term: the one that the entry of its root has, else
the one that is looked up (`queryRestrictions_value`).

A path without navigation properties has a context whatever its root says
(`queryContext?_of_root`).  A path with some has one exactly if its root allows it
(`queryContext?_of_navigation`), and then the context knows what the root excludes
(`queryEndpoints_cases_of_navigation`).

So the endpoints of a path are those of the records in effect on it (`Model.restrictionsOn`), or
there are none (`queryEndpoints_restrictionsOn`).
-/

namespace ODataApi

/-! ## One record for each term -/

/-- The record that an entry has in place of the one looked up.  Selecting, expanding and
navigation have no place in an entry. -/
def NavigationPropertyRestriction.record? (entry : NavigationPropertyRestriction) :
    (term : Term) → Option term.Record
  | .readRestrictions => entry.readRestrictions
  | .insertRestrictions => entry.insertRestrictions
  | .updateRestrictions => entry.updateRestrictions
  | .deleteRestrictions => entry.deleteRestrictions
  | .countRestrictions => entry.countRestrictions
  | .filterRestrictions => entry.filterRestrictions
  | .searchRestrictions => entry.searchRestrictions
  | .sortRestrictions => entry.sortRestrictions
  | .topSupported => entry.topSupported.map fun value => ⟨some value⟩
  | .skipSupported => entry.skipSupported.map fun value => ⟨some value⟩
  | .indexableByKey => entry.indexableByKey.map fun value => ⟨some value⟩
  | .selectSupport | .expandRestrictions | .navigationRestrictions => none

/-- Restrictions with a record for each term. -/
def PathRestrictions.ofTerms (record : (term : Term) → Resolved term.Record) :
    PathRestrictions where
  read := record .readRestrictions
  insert := record .insertRestrictions
  update := record .updateRestrictions
  delete := record .deleteRestrictions
  count := record .countRestrictions
  filter := record .filterRestrictions
  search := record .searchRestrictions
  sort := record .sortRestrictions
  select := record .selectSupport
  expand := record .expandRestrictions
  top := record .topSupported
  skip := record .skipSupported
  indexable := record .indexableByKey

namespace Model

/-- The record in effect for an element. -/
def effective (m : Model) (term : Term) (element : Element) : term.Record :=
  ((m.resolveFor term element).run {}).1.value

/-- The record in effect for the resource of a path, as far as its root does not replace it. -/
def governing (m : Model) (term : Term) (path : ResourcePath) : Resolved term.Record :=
  ((m.resolvePath term path).run {}).1

/-- The record in effect on a path whose root has an entry for it. -/
def governingUnder (m : Model) (path : ResourcePath)
    (entry : Option NavigationPropertyRestriction) (term : Term) : Resolved term.Record :=
  match entry.bind (·.record? term) with
  | some record => .overridden record path.root
  | none => m.governing term path

/-- What the root of a path says of the navigation path, whether it allows it or not. -/
def rootContext (m : Model) (path : ResourcePath) : NavigationContext where
  entry := NavigationRestrictions.entry? (m.effective .navigationRestrictions path.root)
    (path.navigationPath m)
  root := {
    insert := m.effective .insertRestrictions path.root
    update := m.effective .updateRestrictions path.root
    delete := m.effective .deleteRestrictions path.root
    count := m.effective .countRestrictions path.root }

variable {m : Model} {path : ResourcePath} {term : Term}

theorem effective_eq (element : Element) :
    m.effective term element = (m.queryFor term element).value.value := by
  rw [effective, resolveFor_reads term element {} (AnnotationCache.agrees_empty m)]

theorem governing_eq : m.governing term path = (m.queryPath term path).value := by
  rw [governing, resolvePath_reads term path {} (AnnotationCache.agrees_empty m)]

theorem queryRestrictions_value (path : ResourcePath)
    (entry : Option NavigationPropertyRestriction) :
    (m.queryRestrictions path entry).value = .ofTerms (m.governingUnder path entry) := by
  have hunder : ∀ term, m.governingUnder path entry term
      = (m.queryOr term path (entry.bind (·.record? term))).value := by
    intro term
    rw [governingUnder, governing_eq]
    cases entry.bind (·.record? term) with
    | none => rfl
    | some record => rfl
  rw [funext hunder]
  cases entry with
  | none => rfl
  | some entry => rfl

/-! ## Contexts -/

theorem queryContext_restrictions (path : ResourcePath) (navigation : Option NavigationContext) :
    (m.queryContext path navigation).value.restrictions
      = .ofTerms (m.governingUnder path (navigation.bind (·.entry))) := by
  rw [← queryRestrictions_value]
  rfl

theorem queryContext?_of_root (h : path.depth = 0) :
    (m.queryContext? path).value = some (m.queryContext path none).value := by
  rw [queryContext?, if_pos h]
  rfl

theorem queryContext?_of_navigation (h : path.depth ≠ 0) :
    (m.queryContext? path).value =
      if (m.effective .navigationRestrictions path.root).allowsPath (path.navigationPath m)
          path.depth then
        some (m.queryContext path (some (m.rootContext path))).value
      else none := by
  simp only [rootContext, effective_eq]
  rw [queryContext?, if_neg h, Query.value_bind, queryNavigation?, Query.value_bind]
  cases (m.queryFor .navigationRestrictions path.root).value.value.allowsPath
      (path.navigationPath m) path.depth with
  | false => rfl
  | true => rfl

/-- A path behind navigation properties has no endpoints or those of a context that excludes what
the records of its root list. -/
theorem queryEndpoints_cases_of_navigation (h : path.depth ≠ 0) :
    (m.queryEndpoints path).value = [] ∨ ∃ c : PathContext,
      (m.queryEndpoints path).value = c.endpoints m ∧ c.path = path ∧
        c.root = some (m.rootContext path).root ∧ c.navigationPath = path.navigationPath m := by
  rw [queryEndpoints_value, queryContext?_of_navigation h]
  split
  · exact Or.inr ⟨(m.queryContext path (some (m.rootContext path))).value, rfl, rfl, rfl, rfl⟩
  · exact Or.inl rfl

/-- A path that its root allows has endpoints under the records that its entry states and those
that are looked up. -/
theorem pathContext?_of_allowed (hdepth : path.depth ≠ 0)
    (hallowed : (m.effective .navigationRestrictions path.root).allowsPath (path.navigationPath m)
      path.depth = true) :
    ∃ c, ((m.pathContext? path).run {}).1 = some c ∧
      (m.queryEndpoints path).value = c.endpoints m ∧
      c.restrictions = .ofTerms (m.governingUnder path <|
        NavigationRestrictions.entry? (m.effective .navigationRestrictions path.root)
          (path.navigationPath m)) := by
  have hcontext := queryContext?_of_navigation (m := m) hdepth
  rw [if_pos hallowed] at hcontext
  refine ⟨(m.queryContext path (some (m.rootContext path))).value, ?_, ?_, ?_⟩
  · rw [pathContext?_reads path {} (AnnotationCache.agrees_empty m)]
    exact hcontext
  · rw [queryEndpoints_value, hcontext]
    rfl
  · exact queryContext_restrictions path (some (m.rootContext path))

/-! ## What is in effect on a path -/

/-- The entry that the root of a path has for it, if the path follows navigation properties. -/
def entryOn? (m : Model) (path : ResourcePath) : Option NavigationPropertyRestriction :=
  if path.depth = 0 then none else (m.rootContext path).entry

/-- The records in effect on a path: those that the entry of its root states and those that are
looked up. -/
def restrictionsOn (m : Model) (path : ResourcePath) : PathRestrictions :=
  .ofTerms (m.governingUnder path (m.entryOn? path))

/-- The records in effect on a path by look-ups without a cache. -/
theorem restrictionsOn_eq (m : Model) (path : ResourcePath) :
    m.restrictionsOn path = (m.queryRestrictions path
      (if path.depth = 0 then none
        else NavigationRestrictions.entry?
          (m.queryFor .navigationRestrictions path.root).value.value
          (path.navigationPath m))).value := by
  rw [restrictionsOn, entryOn?, queryRestrictions_value, rootContext, effective_eq]

/-- A path has the endpoints of the records in effect on it, or none if its root forbids it. -/
theorem queryEndpoints_restrictionsOn (m : Model) (path : ResourcePath) :
    (m.queryEndpoints path).value = [] ∨ ∃ c : PathContext,
      (m.queryEndpoints path).value = c.endpoints m ∧ c.path = path ∧
        c.restrictions = m.restrictionsOn path := by
  rw [queryEndpoints_value, restrictionsOn, entryOn?]
  by_cases hdepth : path.depth = 0
  · rw [queryContext?_of_root hdepth, if_pos hdepth]
    exact Or.inr ⟨_, rfl, rfl, queryContext_restrictions path none⟩
  · rw [queryContext?_of_navigation hdepth, if_neg hdepth]
    split
    · exact Or.inr ⟨_, rfl, rfl, queryContext_restrictions path _⟩
    · exact Or.inl rfl

end Model

end ODataApi
