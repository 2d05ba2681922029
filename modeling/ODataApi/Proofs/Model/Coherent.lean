import ODataApi.Proofs.Model.WellFormed

/-!
# Coherent models

A model is full of handles.  `Model.Mentions` goes through all the places where one is stored, and
in a coherent model every one of them belongs to an element.  Moreover each set and singleton
stands once in the list of one container, the one it names itself; navigation bindings and the
sets of imports stay within their container; what an import calls is not bound; and the index of
subtypes has one list for each type, with the types of that base as they are declared.

`Model.Linked` says the same handle by handle, container by container, as a model is put together.
-/

namespace ODataApi

/-- The sets and singletons of a container. -/
def Container.sources (container : Container) : List Element :=
  container.entitySets.map .entitySet ++ container.singletons.map .singleton

namespace Model

/-- Where the handle of an element is stored. -/
inductive Mentions (m : Model) : Element → Prop
  | base {t b : EntityTypeHandle} (ht : t ∈ m.entityTypeHandles) (h : m.Extends t b) :
      Mentions m (.entityType b)
  | subtype {subtypes : List EntityTypeHandle} {u : EntityTypeHandle}
      (hsubtypes : subtypes ∈ m.subtypeIndex) (h : u ∈ subtypes) : Mentions m (.entityType u)
  | navigationTarget {t : EntityTypeHandle} {n : NavigationHandle} (ht : t ∈ m.entityTypeHandles)
      (h : n ∈ m.declaredNavigation t) : Mentions m (.entityType (m.navigation n).target)
  | bindingParameter {o : OperationHandle} {b : BindingParameter} (ho : o ∈ m.operationHandles)
      (h : (m.operation o).binding = some b) : Mentions m (.entityType b.type)
  | entitySetType {s : EntitySetHandle} (hs : s ∈ m.entitySetHandles) :
      Mentions m (.entityType (m.entitySet s).type)
  | singletonType {s : SingletonHandle} (hs : s ∈ m.singletonHandles) :
      Mentions m (.entityType (m.singleton s).type)
  | entitySetContainer {s : EntitySetHandle} (hs : s ∈ m.entitySetHandles) :
      Mentions m (.container (m.entitySet s).container)
  | singletonContainer {s : SingletonHandle} (hs : s ∈ m.singletonHandles) :
      Mentions m (.container (m.singleton s).container)
  | binding {owner : Element} {b : NavigationBinding} (howner : owner ∈ m.elements)
      (h : b ∈ m.bindings owner) : Mentions m b.target
  | containerEntitySet {c : ContainerHandle} {s : EntitySetHandle} (hc : c ∈ m.containerHandles)
      (h : s ∈ (m.container c).entitySets) : Mentions m (.entitySet s)
  | containerSingleton {c : ContainerHandle} {s : SingletonHandle} (hc : c ∈ m.containerHandles)
      (h : s ∈ (m.container c).singletons) : Mentions m (.singleton s)
  | importOperation {c : ContainerHandle} {i : OperationImport} (hc : c ∈ m.containerHandles)
      (h : i ∈ (m.container c).imports) : Mentions m (.operation i.operation)
  | importEntitySet {c : ContainerHandle} {i : OperationImport} {s : EntitySetHandle}
      (hc : c ∈ m.containerHandles) (h : i ∈ (m.container c).imports)
      (hs : i.entitySet = some s) : Mentions m (.entitySet s)
  | annotation {a : Annotation} (h : a ∈ m.annotations) : Mentions m a.element

/-- The handles of a model lead to elements, and to the right ones. -/
structure Coherent (m : Model) : Prop where
  /-- Every handle that is stored belongs to an element. -/
  mentioned_mem : ∀ e, m.Mentions e → e ∈ m.elements
  /-- Entity sets are listed once, by the container they name. -/
  entitySet_listed : ∀ s ∈ m.entitySetHandles,
    (m.containerHandles.flatMap fun c => (m.container c).entitySets).count s = 1 ∧
      s ∈ (m.container (m.entitySet s).container).entitySets
  /-- Singletons are listed once, by the container they name. -/
  singleton_listed : ∀ s ∈ m.singletonHandles,
    (m.containerHandles.flatMap fun c => (m.container c).singletons).count s = 1 ∧
      s ∈ (m.container (m.singleton s).container).singletons
  /-- Bindings stay within the container of their owner. -/
  binding_within : ∀ owner ∈ m.elements, ∀ b ∈ m.bindings owner, ∃ c,
    m.containerOf? owner = some c ∧ m.containerOf? b.target = some c ∧
      b.target ∈ (m.container c).sources
  /-- The set of an import belongs to the container of the import. -/
  import_within : ∀ c ∈ m.containerHandles, ∀ i ∈ (m.container c).imports, ∀ s,
    i.entitySet = some s → (m.entitySet s).container = c ∧ s ∈ (m.container c).entitySets
  /-- Imports call operations that are not bound. -/
  import_unbound : ∀ c ∈ m.containerHandles, ∀ i ∈ (m.container c).imports,
    (m.operation i.operation).isBound = false
  /-- The index of subtypes has one list for each type. -/
  subtypeIndex_length : m.subtypeIndex.length = m.entityTypes.length
  /-- The subtypes of a type are the types with that base. -/
  mem_subtypes_iff : ∀ t u, u ∈ m.subtypes t ↔ (m.entityType u).base = some t
  /-- Subtypes are in the order of their declaration. -/
  subtypes_ordered : ∀ t, (m.subtypes t).Pairwise fun u v => u.index < v.index

/-- What resolving a document comes to, beyond a well-formed model. -/
structure Linked (m : Model) : Prop extends WellFormed m where
  /-- The types of binding parameters exist. -/
  bindingParameter_mem : ∀ o ∈ m.operationHandles, ∀ b, (m.operation o).binding = some b →
    b.type ∈ m.entityTypeHandles
  /-- Entity sets name the container that lists them. -/
  entitySet_container : ∀ c ∈ m.containerHandles, ∀ s ∈ (m.container c).entitySets,
    (m.entitySet s).container = c
  /-- Singletons name the container that lists them. -/
  singleton_container : ∀ c ∈ m.containerHandles, ∀ s ∈ (m.container c).singletons,
    (m.singleton s).container = c
  /-- Bindings of entity sets stay within the container. -/
  entitySet_binding : ∀ c ∈ m.containerHandles, ∀ s ∈ (m.container c).entitySets,
    ∀ b ∈ (m.entitySet s).bindings, b.target ∈ (m.container c).sources
  /-- Bindings of singletons stay within the container. -/
  singleton_binding : ∀ c ∈ m.containerHandles, ∀ s ∈ (m.container c).singletons,
    ∀ b ∈ (m.singleton s).bindings, b.target ∈ (m.container c).sources
  /-- Imports call operations that are not bound. -/
  import_operation : ∀ c ∈ m.containerHandles, ∀ i ∈ (m.container c).imports,
    i.operation ∈ m.operationHandles ∧ (m.operation i.operation).isBound = false
  /-- The sets of imports stay within the container. -/
  import_entitySet : ∀ c ∈ m.containerHandles, ∀ i ∈ (m.container c).imports, ∀ s,
    i.entitySet = some s → s ∈ (m.container c).entitySets
  /-- Annotations stand on elements. -/
  annotation_mem : ∀ a ∈ m.annotations, a.element ∈ m.elements

variable {m : Model}

/-! ## Elements of each kind -/

theorem container_mem_elements {c : ContainerHandle} :
    .container c ∈ m.elements ↔ c ∈ m.containerHandles := by
  simp [elements]

theorem entitySet_mem_elements {s : EntitySetHandle} :
    .entitySet s ∈ m.elements ↔ s ∈ m.entitySetHandles := by
  simp [elements]

theorem singleton_mem_elements {s : SingletonHandle} :
    .singleton s ∈ m.elements ↔ s ∈ m.singletonHandles := by
  simp [elements]

theorem entityType_mem_elements {t : EntityTypeHandle} :
    .entityType t ∈ m.elements ↔ t ∈ m.entityTypeHandles := by
  simp [elements]

theorem navigationProperty_mem_elements {n : NavigationHandle} :
    .navigationProperty n ∈ m.elements ↔ ∃ t ∈ m.entityTypeHandles, n ∈ m.declaredNavigation t := by
  simp [elements]

theorem operation_mem_elements {o : OperationHandle} :
    .operation o ∈ m.elements ↔ o ∈ m.operationHandles := by
  simp [elements]

theorem operationImport_mem_elements {i : ImportHandle} :
    .operationImport i ∈ m.elements ↔ ∃ c ∈ m.containerHandles, i ∈ m.importHandles c := by
  simp [elements]

namespace Linked

/-! ## Where sets and singletons stand -/

theorem exists_container_of_entitySet (hm : m.Linked) {s : EntitySetHandle}
    (hs : s ∈ m.entitySetHandles) :
    ∃ c ∈ m.containerHandles, s ∈ (m.container c).entitySets ∧ (m.entitySet s).container = c := by
  rw [← hm.entitySets_listed, ← containerHandles_map_container, List.flatMap_map,
    List.mem_flatMap] at hs
  obtain ⟨c, hc, hs⟩ := hs
  exact ⟨c, hc, hs, hm.entitySet_container c hc s hs⟩

theorem exists_container_of_singleton (hm : m.Linked) {s : SingletonHandle}
    (hs : s ∈ m.singletonHandles) :
    ∃ c ∈ m.containerHandles, s ∈ (m.container c).singletons ∧ (m.singleton s).container = c := by
  rw [← hm.singletons_listed, ← containerHandles_map_container, List.flatMap_map,
    List.mem_flatMap] at hs
  obtain ⟨c, hc, hs⟩ := hs
  exact ⟨c, hc, hs, hm.singleton_container c hc s hs⟩

theorem entitySet_listed (hm : m.Linked) {s : EntitySetHandle} (hs : s ∈ m.entitySetHandles) :
    (m.containerHandles.flatMap fun c => (m.container c).entitySets).count s = 1 ∧
      s ∈ (m.container (m.entitySet s).container).entitySets := by
  obtain ⟨c, hc, hlisted, hcontainer⟩ := hm.exists_container_of_entitySet hs
  constructor
  · exact List.count_eq_one_of_mem hm.entitySets_nodup (List.mem_flatMap.mpr ⟨c, hc, hlisted⟩)
  · rw [hcontainer]
    exact hlisted

theorem singleton_listed (hm : m.Linked) {s : SingletonHandle} (hs : s ∈ m.singletonHandles) :
    (m.containerHandles.flatMap fun c => (m.container c).singletons).count s = 1 ∧
      s ∈ (m.container (m.singleton s).container).singletons := by
  obtain ⟨c, hc, hlisted, hcontainer⟩ := hm.exists_container_of_singleton hs
  constructor
  · exact List.count_eq_one_of_mem hm.singletons_nodup (List.mem_flatMap.mpr ⟨c, hc, hlisted⟩)
  · rw [hcontainer]
    exact hlisted

/-! ## Bindings -/

theorem containerOf?_of_mem_sources (hm : m.Linked) {c : ContainerHandle}
    (hc : c ∈ m.containerHandles) {e : Element} (he : e ∈ (m.container c).sources) :
    e ∈ m.elements ∧ m.containerOf? e = some c := by
  rw [Container.sources, List.mem_append] at he
  rcases he with he | he
  · obtain ⟨s, hs, rfl⟩ := List.mem_map.mp he
    exact ⟨entitySet_mem_elements.mpr (hm.mem_entitySetHandles hc hs),
      congrArg some (hm.entitySet_container c hc s hs)⟩
  · obtain ⟨s, hs, rfl⟩ := List.mem_map.mp he
    exact ⟨singleton_mem_elements.mpr (hm.mem_singletonHandles hc hs),
      congrArg some (hm.singleton_container c hc s hs)⟩

/-- What a set or singleton is bound to stands in its container. -/
theorem binding_target_mem (hm : m.Linked) {owner : Element} (howner : owner ∈ m.elements)
    {b : NavigationBinding} (hb : b ∈ m.bindings owner) :
    ∃ c ∈ m.containerHandles, m.containerOf? owner = some c ∧
      b.target ∈ (m.container c).sources := by
  cases owner with
  | entitySet s =>
      have hs := entitySet_mem_elements.mp howner
      obtain ⟨c, hc, hlisted, hcontainer⟩ := hm.exists_container_of_entitySet hs
      exact ⟨c, hc, congrArg some hcontainer, hm.entitySet_binding c hc s hlisted b hb⟩
  | singleton s =>
      have hs := singleton_mem_elements.mp howner
      obtain ⟨c, hc, hlisted, hcontainer⟩ := hm.exists_container_of_singleton hs
      exact ⟨c, hc, congrArg some hcontainer, hm.singleton_binding c hc s hlisted b hb⟩
  | container | entityType | navigationProperty | operation | operationImport =>
      exact absurd hb List.not_mem_nil

/-! ## Coherence -/

theorem mentioned_mem (hm : m.Linked) {e : Element} (h : m.Mentions e) : e ∈ m.elements := by
  cases h with
  | base ht h => exact entityType_mem_elements.mpr (hm.base_mem _ _ h)
  | subtype hsubtypes h =>
      obtain ⟨t, ht⟩ := exists_subtypes_eq hsubtypes
      rw [← ht, hm.mem_subtypes] at h
      exact entityType_mem_elements.mpr h.mem_entityTypeHandles
  | @navigationTarget t n ht h =>
      rw [mem_declaredNavigation] at h
      have hmem := hm.target_mem _ (entityType_mem (h.1 ▸ ht)) _ (navigation_mem (h.1 ▸ h.2))
      exact entityType_mem_elements.mpr hmem
  | bindingParameter ho h => exact entityType_mem_elements.mpr (hm.bindingParameter_mem _ ho _ h)
  | entitySetType hs =>
      exact entityType_mem_elements.mpr (hm.entitySet_type_mem _ (entitySet_mem hs))
  | singletonType hs =>
      exact entityType_mem_elements.mpr (hm.singleton_type_mem _ (singleton_mem hs))
  | entitySetContainer hs =>
      obtain ⟨c, hc, -, hcontainer⟩ := hm.exists_container_of_entitySet hs
      rw [hcontainer]
      exact container_mem_elements.mpr hc
  | singletonContainer hs =>
      obtain ⟨c, hc, -, hcontainer⟩ := hm.exists_container_of_singleton hs
      rw [hcontainer]
      exact container_mem_elements.mpr hc
  | binding howner h =>
      obtain ⟨c, hc, -, htarget⟩ := hm.binding_target_mem howner h
      exact (hm.containerOf?_of_mem_sources hc htarget).1
  | containerEntitySet hc h =>
      exact entitySet_mem_elements.mpr (hm.mem_entitySetHandles hc h)
  | containerSingleton hc h =>
      exact singleton_mem_elements.mpr (hm.mem_singletonHandles hc h)
  | importOperation hc h => exact operation_mem_elements.mpr (hm.import_operation _ hc _ h).1
  | importEntitySet hc h hs =>
      have hlisted := hm.import_entitySet _ hc _ h _ hs
      exact entitySet_mem_elements.mpr (hm.mem_entitySetHandles hc hlisted)
  | annotation h => exact hm.annotation_mem _ h

theorem coherent (hm : m.Linked) : m.Coherent where
  mentioned_mem _ := hm.mentioned_mem
  entitySet_listed _ := hm.entitySet_listed
  singleton_listed _ := hm.singleton_listed
  binding_within := by
    intro owner howner b hb
    obtain ⟨c, hc, hcontainer, htarget⟩ := hm.binding_target_mem howner hb
    exact ⟨c, hcontainer, (hm.containerOf?_of_mem_sources hc htarget).2, htarget⟩
  import_within := by
    intro c hc i hi s hs
    have hlisted := hm.import_entitySet c hc i hi s hs
    exact ⟨hm.entitySet_container c hc s hlisted, hlisted⟩
  import_unbound c hc i hi := (hm.import_operation c hc i hi).2
  subtypeIndex_length := hm.length_subtypeIndex
  mem_subtypes_iff _ _ := hm.mem_subtypes
  subtypes_ordered := hm.subtypes_ordered

end Linked

end Model

end ODataApi
