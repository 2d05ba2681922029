import ODataApi.Proofs.Conversion.Lookup
import ODataApi.Proofs.Document.Coherent

/-!
# What annotations reach

Paths are made of names and types; annotations have no part in them (`annotated_paths`).  What is
looked up for a path is looked up on the candidates of its resource and of its root, and on nothing
else, so the endpoints of a path stay the same as long as these say the same
(`queryEndpoints_value_congr`).

A set or singleton is a candidate of its own paths and of those bound to it
(`mem_lookedUp_iff_of_isSource`).  So its annotations change nothing on any other path
(`convert_besides`).
-/

namespace ODataApi

/-- Whether an element is a set or a singleton. -/
def Element.isSource : Element → Bool
  | entitySet _ | singleton _ => true
  | _ => false

namespace Model

variable {m m' : Model} {term : Term}

/-- A model with other annotations. -/
def annotated (m : Model) (id : ModelId) (annotations : List Annotation) : Model :=
  { m with id, annotations }

/-! ## Paths without annotations -/

section

variable (m : Model) (id : ModelId) (annotations : List Annotation) (settings : Settings)

theorem annotated_derivedTypes (t : EntityTypeHandle) :
    (m.annotated id annotations).derivedTypes t = m.derivedTypes t := by
  rw [derivedTypes, derivedTypes, levelsFrom_eq_levelsBelow, levelsFrom_eq_levelsBelow]
  rfl

theorem annotated_castChildren (path : ResourcePath) (t : EntityTypeHandle) :
    path.castChildren settings (m.annotated id annotations) t = path.castChildren settings m t := by
  rw [ResourcePath.castChildren, ResourcePath.castChildren, annotated_derivedTypes]
  rfl

theorem annotated_children :
    ResourcePath.children settings (m.annotated id annotations)
      = ResourcePath.children settings m := by
  funext path
  simp only [ResourcePath.children, annotated_castChildren]
  rfl

theorem annotated_containerPaths (c : ContainerHandle) :
    (m.annotated id annotations).containerPaths settings c = m.containerPaths settings c := by
  rw [containerPaths, containerPaths, Settings.levels_eq_levelsBelow,
    Settings.levels_eq_levelsBelow, annotated_children]
  rfl

/-- Annotations have no part in paths. -/
theorem annotated_paths : (m.annotated id annotations).paths settings = m.paths settings := by
  rw [paths, paths, funext (annotated_containerPaths m id annotations settings)]
  rfl

end

/-! ## What is looked up -/

/-- The candidates for the resource of a path and for its root. -/
def lookedUp (m : Model) (path : ResourcePath) : List Element :=
  m.pathCandidates path ++ m.elementCandidates path.root

/-- Two models say the same of elements. -/
def SayAlike (m m' : Model) (elements : List Element) : Prop :=
  ∀ e ∈ elements, ∀ term, m'.record e term = m.record e term

theorem queryFirst_value_congr :
    ∀ {elements : List Element}, (∀ e ∈ elements, m'.record e term = m.record e term) →
      (m'.queryFirst term elements).value = (m.queryFirst term elements).value
  | [], _ => rfl
  | element :: rest, h => by
      obtain ⟨helement, hrest⟩ := List.forall_mem_cons.mp h
      rw [queryFirst, queryFirst, Query.value_bind, Query.value_bind]
      simp only [query, helement]
      cases m.record element term with
      | some record => rfl
      | none => exact queryFirst_value_congr hrest

section

variable {id : ModelId} {annotations : List Annotation} {path : ResourcePath}
  (h : SayAlike m (m.annotated id annotations) (m.lookedUp path))

include h

theorem queryPath_value_congr :
    ((m.annotated id annotations).queryPath term path).value = (m.queryPath term path).value :=
  queryFirst_value_congr fun e he => h e (List.mem_append_left _ he) term

theorem queryFor_value_congr :
    ((m.annotated id annotations).queryFor term path.root).value
      = (m.queryFor term path.root).value :=
  queryFirst_value_congr fun e he => h e (List.mem_append_right _ he) term

theorem queryOr_value_congr (replacement : Option term.Record) :
    ((m.annotated id annotations).queryOr term path replacement).value
      = (m.queryOr term path replacement).value := by
  cases replacement with
  | none => exact queryPath_value_congr h
  | some record => rfl

theorem queryRestrictions_value_congr (entry : Option NavigationPropertyRestriction) :
    ((m.annotated id annotations).queryRestrictions path entry).value
      = (m.queryRestrictions path entry).value := by
  simp only [queryRestrictions, Query.value_bind, Query.value_pure, queryPath_value_congr h,
    queryOr_value_congr h]

theorem queryNavigation?_value_congr (navigationPath : String) :
    ((m.annotated id annotations).queryNavigation? path navigationPath).value
      = (m.queryNavigation? path navigationPath).value := by
  simp only [queryNavigation?, Query.value_bind, queryFor_value_congr h]
  split
  · simp only [Query.value_bind, Query.value_pure, queryFor_value_congr h]
  · rfl

theorem queryContext_value_congr (navigation : Option NavigationContext) :
    ((m.annotated id annotations).queryContext path navigation).value
      = (m.queryContext path navigation).value := by
  simp only [queryContext, Query.value_bind, Query.value_pure, queryRestrictions_value_congr h]
  rfl

theorem queryContext?_value_congr :
    ((m.annotated id annotations).queryContext? path).value = (m.queryContext? path).value := by
  rw [queryContext?, queryContext?]
  split
  · rw [Query.value_bind, Query.value_bind, queryContext_value_congr h]
  · have hpath : path.navigationPath (m.annotated id annotations) = path.navigationPath m := rfl
    rw [Query.value_bind, Query.value_bind, queryNavigation?_value_congr h, hpath]
    cases (m.queryNavigation? path (path.navigationPath m)).value with
    | none => rfl
    | some navigation =>
        rw [Query.value_bind, Query.value_bind, queryContext_value_congr h]

/-- The endpoints of a path are told by what is looked up for it. -/
theorem queryEndpoints_value_congr :
    ((m.annotated id annotations).queryEndpoints path).value = (m.queryEndpoints path).value := by
  rw [queryEndpoints_value, queryEndpoints_value, queryContext?_value_congr h]
  rfl

end

/-! ## Sets and singletons -/

variable {settings : Settings} {paths : List ResourcePath} {path : ResourcePath} {S : Element}

/-- A path that leads to a set or singleton is a path from there. -/
theorem root_eq_of_target_isSource (h : m.paths settings = .ok paths) :
    ∀ path ∈ paths, path.target.isSource = true → path.root = path.target := by
  refine paths_forall ?_ ?_ h
  · intro c _ path hpath _
    rcases mem_rootPaths.mp hpath with (⟨s, -, rfl⟩ | ⟨s, -, rfl⟩) | ⟨i, -, rfl⟩
    · rfl
    · rfl
    · simp [ResourcePath.ofImport, ResourcePath.ofRoot]
  · intro path child hpath _ hfollow htarget
    cases hfollow with
    | key _ _ h =>
        obtain ⟨_, _, _, _, -, rfl⟩ := ResourcePath.withKey?_eq_some h
        exact hpath htarget
    | navigation | operation => cases htarget
    | typeCast | count | ref => exact hpath htarget

theorem mem_candidates_of_isSource {direct : List Element} {type : Option EntityTypeHandle}
    {container : Option ContainerHandle} (hS : S.isSource = true)
    (h : S ∈ m.candidates direct type container) : S ∈ direct := by
  rw [candidates, List.mem_append, List.mem_append] at h
  rcases h with (h | h) | h
  · exact List.mem_of_mem_filter h
  · obtain ⟨t, -, rfl⟩ := List.mem_map.mp h
    cases hS
  · obtain ⟨c, -, rfl⟩ := List.mem_map.mp h
    cases hS

/-- A set or singleton is looked up for its own paths and for those bound to it. -/
theorem eq_of_mem_lookedUp (h : m.paths settings = .ok paths) (hpath : path ∈ paths)
    (hS : S.isSource = true) (hmem : S ∈ m.lookedUp path) :
    path.root = S ∨ path.binding = some S := by
  rcases List.mem_append.mp hmem with hmem | hmem
  · rcases List.mem_cons.mp (mem_candidates_of_isSource hS hmem) with rfl | hbinding
    · exact Or.inl (root_eq_of_target_isSource h path hpath hS)
    · exact Or.inr (Option.mem_toList.mp hbinding)
  · exact Or.inl (List.mem_singleton.mp (mem_candidates_of_isSource hS hmem)).symm

/-! ## Annotations of one element -/

/-- The annotations of other elements. -/
def annotationsBesides (m : Model) (S : Element) : List Annotation :=
  m.annotations.filter fun a => a.element != S

theorem annotation?_eq_besides {e : Element} (he : e ≠ S) (name : String) :
    m.annotation? e name
      = ((m.annotationsBesides S).find? fun a => a.element == e && a.term == name).map
          (·.value) := by
  rw [annotation?, annotationsBesides, List.find?_filter]
  congr 2
  funext a
  rw [Bool.eq_iff_iff]
  by_cases ha : a.element = e
  · simp [ha, he]
  · simp [ha]

theorem record_congr {e : Element} (he : e ≠ S)
    (hsame : m'.annotationsBesides S = m.annotationsBesides S) :
    m'.record e term = m.record e term := by
  have hannotation : m'.annotation? e term.qualifiedName = m.annotation? e term.qualifiedName := by
    rw [annotation?_eq_besides he, annotation?_eq_besides he, hsame]
  rw [record_eq, record_eq, hannotation]

/-- What is said of a set or singleton is of no concern to other paths. -/
theorem queryEndpoints_besides {id : ModelId} {annotations : List Annotation}
    (h : m.paths settings = .ok paths) (hpath : path ∈ paths) (hS : S.isSource = true)
    (hroot : path.root ≠ S) (hbinding : path.binding ≠ some S)
    (hsame : (m.annotated id annotations).annotationsBesides S = m.annotationsBesides S) :
    ((m.annotated id annotations).queryEndpoints path).value = (m.queryEndpoints path).value := by
  refine queryEndpoints_value_congr fun e he term => record_congr ?_ hsame
  rintro rfl
  exact (eq_of_mem_lookedUp h hpath hS he).elim hroot hbinding

end Model

/-! ## Documents -/

namespace Document

variable {document : Document} {annotations : List AnnotationDeclaration} {id id' : ModelId}
  {m m' : Model} {S : Element} {settings : Settings}

/-- The annotations that do not stand on just this element. -/
def annotationsBesides (document : Document) (m : Model) (S : Element) :
    List AnnotationDeclaration :=
  document.annotations.filter fun d => (Scope.ofDocument document).targets m d.target != [S]

/-- Of the annotations that do not stand on an element none is lost with those that do. -/
theorem annotationsBesides_of_resolve (h : document.resolve id = .ok m) :
    m.annotationsBesides S = (document.annotationsBesides m S).flatMap fun d =>
      (document.annotationsFor m d).filter fun a => a.element != S := by
  rw [Model.annotationsBesides, annotations_of_resolve h, List.filter_flatMap, annotationsBesides]
  induction document.annotations with
  | nil => rfl
  | cons d rest ih =>
      rw [List.flatMap_cons, ih, List.filter_cons]
      split
      case isTrue => rw [List.flatMap_cons]
      case isFalse htargets =>
          rw [bne_iff_ne, not_not] at htargets
          simp [annotationsFor, htargets]

/-- Documents that differ in annotations give models that differ in annotations. -/
theorem eq_annotated_of_resolve (h : document.resolve id = .ok m)
    (h' : { document with annotations }.resolve id' = .ok m') :
    m' = m.annotated id' m'.annotations := by
  obtain ⟨-, helements, -, -⟩ := resolve_eq_ok h
  obtain ⟨-, helements', -, -⟩ := resolve_eq_ok h'
  obtain ⟨types, operations, contents, htypes, -, hoperations, hcontents, hm⟩ :=
    resolveElements_eq_ok helements
  obtain ⟨types', operations', contents', htypes', -, hoperations', hcontents', hm'⟩ :=
    resolveElements_eq_ok helements'
  obtain rfl : types = types' := Except.ok.inj (htypes.symm.trans htypes')
  obtain rfl : operations = operations' := Except.ok.inj (hoperations.symm.trans hoperations')
  obtain rfl : contents = contents' := Except.ok.inj (hcontents.symm.trans hcontents')
  -- without annotations, the two differ in what tells them apart
  have heq : { m' with annotations := [] } = m.annotated id' [] :=
    hm'.trans (congrArg (fun m : Model => { m with id := id' }) hm).symm
  exact congrArg (fun n : Model => { n with annotations := m'.annotations }) heq

end Document

/-- Two documents that differ in annotations of one set or singleton have the same paths.  A path
that neither starts there nor is bound there has the same endpoints. -/
theorem convert_besides {document : Document} {annotations : List AnnotationDeclaration}
    {id id' : ModelId} {m m' : Model} {S : Element} {settings : Settings}
    (hload : document.resolve id = .ok m)
    (hload' : { document with annotations }.resolve id' = .ok m') (hS : S.isSource = true)
    (hsame : { document with annotations }.annotationsBesides m S
      = document.annotationsBesides m S)
    (hdepth : 0 ≤ settings.maxNavigationDepth) :
    ∃ conversion conversion', m.convert settings = .ok conversion ∧
      m'.convert settings = .ok conversion' ∧ conversion'.paths = conversion.paths ∧
      ∀ path endpoints, path.root ≠ S → path.binding ≠ some S →
        ((path, endpoints) ∈ conversion'.byPath ↔ (path, endpoints) ∈ conversion.byPath) := by
  have hbesides : m'.annotationsBesides S = m.annotationsBesides S := by
    have heq := Document.eq_annotated_of_resolve hload hload'
    rw [Document.annotationsBesides_of_resolve hload,
      Document.annotationsBesides_of_resolve hload', heq]
    exact congrArg _ hsame
  rw [Document.eq_annotated_of_resolve hload hload'] at hbesides ⊢
  have hconvert := m.convert_of_depth hdepth
  have hconvert' := (m.annotated id' m'.annotations).convert_of_depth hdepth
  have hpaths := Model.paths_of_convert hconvert
  have hpaths' := Model.paths_of_convert hconvert'
  rw [Model.annotated_paths] at hpaths'
  have heq := Except.ok.inj (hpaths'.symm.trans hpaths)
  refine ⟨_, _, hconvert, hconvert', heq, fun path endpoints hroot hbinding => ?_⟩
  rw [Model.mem_byPath_iff hconvert, Model.mem_byPath_iff hconvert', heq]
  refine and_congr_right fun hpath => ?_
  rw [Model.queryEndpoints_besides hpaths hpath hS hroot hbinding hbesides]

/-- People and the places where they live. -/
def homesDocument : Document where
  ns := "A"
  entityTypes := [
    { name := "Person", key := ["Id"]
      navigationProperties := [{ name := "home", type := "Place" }] },
    { name := "Place", key := ["Id"] }]
  containers := [
    { name := "C", entitySets := [
        { name := "People", type := "Person", bindings := [("home", "Places")] },
        { name := "Places", type := "Place" }] }]

/-- Places cannot be read. -/
def unreadablePlaces : List AnnotationDeclaration :=
  [⟨"A.C/Places", "Org.OData.Capabilities.V1.ReadRestrictions",
    .record none [("Readable", .bool false)]⟩]

/-- The model of `homesDocument`. -/
def homesModel : Model := homesDocument.loaded ⟨0⟩

/-- The model of `homesDocument` with places that cannot be read. -/
def closedHomesModel : Model := { homesDocument with annotations := unreadablePlaces }.loaded ⟨1⟩

/-- Four endpoints are gone: they read the places, a place, the home of someone, or a reference to
it.  The paths that do not lead to places keep theirs. -/
theorem closedHomesModel_besides :
    homesDocument.resolve ⟨0⟩ = .ok homesModel ∧
      { homesDocument with annotations := unreadablePlaces }.resolve ⟨1⟩ = .ok closedHomesModel ∧
      ∃ conversion conversion', homesModel.convert {} = .ok conversion ∧
        closedHomesModel.convert {} = .ok conversion' ∧ conversion'.paths = conversion.paths ∧
        conversion.endpoints.length = 17 ∧ conversion'.endpoints.length = 13 ∧
        ∀ path endpoints, path.root ≠ .entitySet ⟨1⟩ → path.binding ≠ some (.entitySet ⟨1⟩) →
          ((path, endpoints) ∈ conversion'.byPath ↔ (path, endpoints) ∈ conversion.byPath) := by
  have hdepth : 0 ≤ ({} : Settings).maxNavigationDepth := by decide
  have hload : homesDocument.resolve ⟨0⟩ = .ok homesModel := rfl
  have hload' : { homesDocument with annotations := unreadablePlaces }.resolve ⟨1⟩
      = .ok closedHomesModel := rfl
  obtain ⟨conversion, conversion', hconvert, hconvert', hpaths, hsame⟩ :=
    convert_besides (S := .entitySet ⟨1⟩) hload hload' rfl rfl hdepth
  refine ⟨hload, hload', conversion, conversion', hconvert, hconvert', hpaths, ?_, ?_, hsame⟩
  · rw [Model.convert_of_depth _ hdepth] at hconvert
    cases hconvert
    decide +kernel
  · rw [Model.convert_of_depth _ hdepth] at hconvert'
    cases hconvert'
    decide +kernel

end ODataApi
