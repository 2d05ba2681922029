import ODataApi.Proofs.Model.Hierarchy

/-!
# Well-formed models

Every look-up in a model is total, so nothing but `Model.WellFormed` says that the
handles in it belong to elements.  Base types, targets of navigation properties,
types of sets and singletons and the sets of operation imports exist, chains of base
types end, and the containers list the sets and singletons of the model in order,
each once.
-/

namespace ODataApi

namespace Model

/-- Every handle in the model belongs to an element, no chain of base types is
infinite, the index of subtypes is filled, and every set and singleton has its place in
one container. -/
structure WellFormed (m : Model) : Prop extends Hierarchical m where
  /-- Navigation properties lead to types that exist. -/
  target_mem : ∀ t ∈ m.entityTypes, ∀ n ∈ t.navigationProperties,
    n.target ∈ m.entityTypeHandles
  /-- The types of entity sets exist. -/
  entitySet_type_mem : ∀ s ∈ m.entitySets, s.type ∈ m.entityTypeHandles
  /-- The types of singletons exist. -/
  singleton_type_mem : ∀ s ∈ m.singletons, s.type ∈ m.entityTypeHandles
  /-- The sets of operation imports exist. -/
  import_entitySet_mem : ∀ c ∈ m.containers, ∀ i ∈ c.imports, ∀ s, i.entitySet = some s →
    s ∈ m.entitySetHandles
  /-- The containers list the entity sets in order. -/
  entitySets_listed : m.containers.flatMap (·.entitySets) = m.entitySetHandles
  /-- The containers list the singletons in order. -/
  singletons_listed : m.containers.flatMap (·.singletons) = m.singletonHandles

variable {m : Model}

/-! ## Elements by handle -/

theorem entityType_mem {t : EntityTypeHandle} (h : t ∈ m.entityTypeHandles) :
    m.entityType t ∈ m.entityTypes := by
  rw [entityTypeHandles, mem_handles] at h
  rw [entityType, List.getElem?_eq_getElem h]
  exact List.getElem_mem h

theorem entitySet_mem {s : EntitySetHandle} (h : s ∈ m.entitySetHandles) :
    m.entitySet s ∈ m.entitySets := by
  rw [entitySetHandles, mem_handles] at h
  rw [entitySet, List.getElem?_eq_getElem h]
  exact List.getElem_mem h

theorem singleton_mem {s : SingletonHandle} (h : s ∈ m.singletonHandles) :
    m.singleton s ∈ m.singletons := by
  rw [singletonHandles, mem_handles] at h
  rw [singleton, List.getElem?_eq_getElem h]
  exact List.getElem_mem h

theorem container_mem {c : ContainerHandle} (h : c ∈ m.containerHandles) :
    m.container c ∈ m.containers := by
  rw [containerHandles, mem_handles] at h
  rw [container, List.getElem?_eq_getElem h]
  exact List.getElem_mem h

theorem operationImport_mem {i : ImportHandle}
    (h : i.index < (m.container i.container).imports.length) :
    m.operationImport i ∈ (m.container i.container).imports := by
  rw [operationImport, List.getElem?_eq_getElem h]
  exact List.getElem_mem h

theorem navigation_mem {n : NavigationHandle}
    (h : n.index < (m.entityType n.declaring).navigationProperties.length) :
    m.navigation n ∈ (m.entityType n.declaring).navigationProperties := by
  rw [navigation, List.getElem?_eq_getElem h]
  exact List.getElem_mem h

/-- A type that declares a navigation property is a type of the model. -/
theorem mem_entityTypeHandles_of_navigation {t : EntityTypeHandle} {i : Nat}
    (h : i < (m.entityType t).navigationProperties.length) : t ∈ m.entityTypeHandles := by
  rw [entityTypeHandles, mem_handles]
  by_contra hlt
  have hnone : m.entityTypes[t.index]? = none := List.getElem?_eq_none (Nat.le_of_not_lt hlt)
  rw [entityType, hnone] at h
  exact absurd h (Nat.not_lt_zero i)

theorem findEntityType?_mem {name : String} {t : EntityTypeHandle}
    (h : m.findEntityType? name = some t) : t ∈ m.entityTypeHandles :=
  List.mem_of_find?_eq_some h

theorem findEntityType?_name {name : String} {t : EntityTypeHandle}
    (h : m.findEntityType? name = some t) : (m.entityType t).qualifiedName = name := by
  have hname := List.find?_some h
  exact beq_iff_eq.mp hname

/-! ## Containers -/

theorem map_range_getElem? {α : Type} [Inhabited α] (xs : List α) :
    (List.range xs.length).map (fun i => xs[i]?.getD default) = xs := by
  refine List.ext_getElem (by simp) ?_
  intro i h h'
  simp [List.getElem?_eq_getElem h']

/-- Containers by handle are the containers of the model. -/
theorem containerHandles_map_container : m.containerHandles.map m.container = m.containers := by
  rw [containerHandles, handles, List.map_map]
  exact map_range_getElem? m.containers

theorem operationHandles_map_operation : m.operationHandles.map m.operation = m.operations := by
  rw [operationHandles, handles, List.map_map]
  exact map_range_getElem? m.operations

theorem declaredNavigation_map_navigation (t : EntityTypeHandle) :
    (m.declaredNavigation t).map m.navigation = (m.entityType t).navigationProperties := by
  rw [declaredNavigation, List.map_map]
  exact map_range_getElem? (m.entityType t).navigationProperties

theorem importHandles_map_operationImport (c : ContainerHandle) :
    (m.importHandles c).map m.operationImport = (m.container c).imports := by
  rw [importHandles, List.map_map]
  exact map_range_getElem? (m.container c).imports

namespace WellFormed

/-! ## Where elements lead -/

theorem navigation_target_mem (hm : m.WellFormed) {t : EntityTypeHandle} {n : NavigationHandle}
    (h : n ∈ m.navigationProperties t) : (m.navigation n).target ∈ m.entityTypeHandles := by
  rw [mem_navigationProperties] at h
  have hdeclaring := mem_entityTypeHandles_of_navigation h.2
  exact hm.target_mem _ (entityType_mem hdeclaring) _ (navigation_mem h.2)

theorem derivedTypes_subset (hm : m.WellFormed) {t u : EntityTypeHandle}
    (h : u ∈ m.derivedTypes t) : u ∈ m.entityTypeHandles := by
  obtain ⟨hne, hinherits⟩ := (mem_derivedTypes_iff hm.toHierarchical).mp h
  rcases inherits_iff.mp hinherits with heq | ⟨b, hb, -⟩
  · exact absurd heq hne
  · exact hb.mem_entityTypeHandles

theorem mem_entitySetHandles (hm : m.WellFormed) {c : ContainerHandle} {s : EntitySetHandle}
    (hc : c ∈ m.containerHandles) (h : s ∈ (m.container c).entitySets) :
    s ∈ m.entitySetHandles := by
  rw [← hm.entitySets_listed, List.mem_flatMap]
  exact ⟨m.container c, container_mem hc, h⟩

theorem mem_singletonHandles (hm : m.WellFormed) {c : ContainerHandle} {s : SingletonHandle}
    (hc : c ∈ m.containerHandles) (h : s ∈ (m.container c).singletons) :
    s ∈ m.singletonHandles := by
  rw [← hm.singletons_listed, List.mem_flatMap]
  exact ⟨m.container c, container_mem hc, h⟩

/-- No entity set is listed twice. -/
theorem entitySets_nodup (hm : m.WellFormed) :
    (m.containerHandles.flatMap fun c => (m.container c).entitySets).Nodup := by
  rw [← List.flatMap_map, containerHandles_map_container, hm.entitySets_listed]
  exact handles_nodup _ _

/-- No singleton is listed twice. -/
theorem singletons_nodup (hm : m.WellFormed) :
    (m.containerHandles.flatMap fun c => (m.container c).singletons).Nodup := by
  rw [← List.flatMap_map, containerHandles_map_container, hm.singletons_listed]
  exact handles_nodup _ _

end WellFormed

end Model

end ODataApi
