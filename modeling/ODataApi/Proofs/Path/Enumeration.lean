import ODataApi.Proofs.Document.Resolve
import ODataApi.Proofs.Path.Children
import Mathlib.Data.List.Induction
import Mathlib.Data.List.Pairwise

/-!
# The paths of a model are the addressable segments

`Traced` says of a path that its fields are in step with its segments.  It holds of the
roots and passes from a path to the paths directly below it, so every path is addressable
(`traced_of_mem_levelBelow`).  Segment by segment the converse holds too
(`exists_mem_levelBelow_of_addressable`), and addressable segments are never longer than
the levels that are read (`length_le_maxLength_of_addressable`): `Position.reach` bounds
how far a position still goes and drops with every segment.

The result is `paths_eq_addressable`: the paths of a model read from a document are the
addressable segments of its containers, each once.  A queue visits them in the same order
(`Model.queueWalk_containerPaths`), and since no segments occur twice, there is nothing to pass over
on the way (`Model.WellFormed.labelledWalk_containerPaths`).
-/

namespace ODataApi

variable {settings : Settings} {m : Model} {c : ContainerHandle}

/-! ## Roots -/

namespace Model

/-- The first segments of the paths of a container. -/
def rootSegments (m : Model) (c : ContainerHandle) : List Segment :=
  (m.container c).entitySets.map .entitySet ++ (m.container c).singletons.map .singleton
    ++ (m.importHandles c).map .operationImport

theorem mem_rootSegments_iff {segment : Segment} :
    segment ∈ m.rootSegments c ↔ m.IsRoot c segment := by
  rw [rootSegments, List.mem_append, List.mem_append]
  cases segment <;> simp [IsRoot, mem_importHandles]

end Model

namespace ResourcePath

/-- The view of a path of one segment. -/
def rootView (m : Model) (segment : Segment) : List Segment × Position :=
  ([segment], Position.ofRoot m segment)

theorem ofImport_view (i : ImportHandle) :
    (ofImport m i).view = rootView m (.operationImport i) := by
  have hsegments : (ofImport m i).segments = [.operationImport i] :=
    call_segments (m.operation (m.operationImport i).operation) _
  have hlast : (ofImport m i).isTerminal = true := by
    simp [isTerminal, hsegments, Segment.isTerminal]
  rw [view, rootView, position_of_terminal hlast, hsegments]
  rfl

theorem rootPaths_view : (m.rootPaths c).map view = (m.rootSegments c).map (rootView m) := by
  rw [Model.rootPaths, Model.rootSegments]
  simp only [List.map_append, List.map_map]
  congr 1
  exact List.map_congr_left fun i _ => ofImport_view i

theorem rootPaths_segments :
    (m.rootPaths c).map (·.segments) = (m.rootSegments c).map fun segment => [segment] := by
  have hviews := congrArg (List.map Prod.fst) (rootPaths_view (m := m) (c := c))
  rw [List.map_map, List.map_map] at hviews
  exact hviews

theorem exists_root_of_mem_rootPaths {path : ResourcePath} (h : path ∈ m.rootPaths c) :
    ∃ root, m.IsRoot c root ∧ path.segments = [root] := by
  have hsegments : path.segments ∈ (m.rootPaths c).map (·.segments) := List.mem_map_of_mem h
  rw [rootPaths_segments, List.mem_map] at hsegments
  obtain ⟨root, hroot, heq⟩ := hsegments
  exact ⟨root, Model.mem_rootSegments_iff.mp hroot, heq.symm⟩

theorem length_segments_of_mem_rootPaths {path : ResourcePath} (h : path ∈ m.rootPaths c) :
    path.segments.length = 1 := by
  obtain ⟨root, -, hsegments⟩ := exists_root_of_mem_rootPaths h
  rw [hsegments, List.length_singleton]

/-- What stands before the last segment of a child is its parent. -/
theorem dropLast_segments_of_mem_children {path child : ResourcePath}
    (h : child ∈ path.children settings m) : child.segments.dropLast = path.segments := by
  obtain ⟨segment, -, hsegments, -⟩ := exists_of_mem_children h
  rw [hsegments, List.dropLast_concat]

theorem length_segments_of_mem_children {path child : ResourcePath}
    (h : child ∈ path.children settings m) :
    child.segments.length = path.segments.length + 1 := by
  obtain ⟨segment, -, hsegments, -⟩ := exists_of_mem_children h
  rw [hsegments, List.length_append, List.length_singleton]

end ResourcePath

/-! ## Paths in step with their segments -/

/-- The fields of a path are what its segments say. -/
structure Traced (m : Model) (settings : Settings) (c : ContainerHandle) (path : ResourcePath) :
    Prop where
  /-- The segments are addressable. -/
  addressable : Addressable m settings c path.segments
  /-- The position is that of the segments. -/
  position : path.position = Position.ofSegments m path.segments
  /-- A cast knows the type before it. -/
  castKnown : path.CastKnown

namespace ResourcePath

theorem castKnown_of_mem_rootPaths {path : ResourcePath} (h : path ∈ m.rootPaths c) :
    path.CastKnown := by
  refine castKnown_of_kind_ne ?_
  simp only [Model.rootPaths, List.mem_append, List.mem_map] at h
  rcases h with (⟨s, -, rfl⟩ | ⟨s, -, rfl⟩) | ⟨i, -, rfl⟩
  · simp [ofEntitySet, ofRoot]
  · simp [ofSingleton, ofRoot]
  · simp [ofImport, ofRoot]

end ResourcePath

/-! ## Every path is addressable -/

theorem Traced.segments_ne_nil {path : ResourcePath} (h : Traced m settings c path) :
    path.segments ≠ [] := by
  intro hnil
  have haddressable := h.addressable
  rw [hnil] at haddressable
  exact haddressable

theorem traced_of_mem_rootPaths {path : ResourcePath} (h : path ∈ m.rootPaths c) :
    Traced m settings c path := by
  have hview : path.view ∈ (m.rootPaths c).map ResourcePath.view := List.mem_map_of_mem h
  rw [ResourcePath.rootPaths_view, List.mem_map] at hview
  obtain ⟨root, hroot, heq⟩ := hview
  obtain ⟨hsegments, hposition⟩ : [root] = path.segments ∧ Position.ofRoot m root = path.position :=
    Prod.ext_iff.mp heq
  refine ⟨?_, ?_, ResourcePath.castKnown_of_mem_rootPaths h⟩
  · rw [← hsegments]
    exact ⟨Model.mem_rootSegments_iff.mp hroot, trivial⟩
  · rw [← hsegments, ← hposition]
    rfl

theorem Traced.child (hm : m.Hierarchical) {path : ResourcePath} (h : Traced m settings c path) :
    ∀ child ∈ path.children settings m, Traced m settings c child := by
  intro child hchild
  obtain ⟨segment, hsegment, hsegments, hposition⟩ := ResourcePath.exists_of_mem_children hchild
  rw [ResourcePath.mem_nextSegments_iff hm h.castKnown, h.position] at hsegment
  refine ⟨?_, ?_, ResourcePath.castKnown_of_mem_children hchild⟩
  · rw [hsegments, addressable_append h.segments_ne_nil]
    exact ⟨h.addressable, hsegment⟩
  · rw [hsegments, Position.ofSegments_append h.segments_ne_nil, hposition, h.position]

theorem traced_of_mem_levelBelow (hm : m.Hierarchical) (k : Nat) :
    ∀ path ∈ levelBelow (ResourcePath.children settings m) k (m.rootPaths c),
      Traced m settings c path :=
  levelBelow_forall _ (fun _ => traced_of_mem_rootPaths) (fun _ h => h.child hm) k

theorem traced_of_mem_containerPaths (hm : m.Hierarchical) :
    ∀ path ∈ m.containerPaths settings c, Traced m settings c path := by
  intro path hpath
  rw [Model.containerPaths, Settings.levels_eq_levelsBelow] at hpath
  obtain ⟨k, -, hk⟩ := mem_levelsBelow.mp hpath
  exact traced_of_mem_levelBelow hm k path hk

/-! ## Every addressable sequence is that of a path -/

theorem exists_mem_levelBelow_of_addressable (hm : m.Hierarchical) (root : Segment) :
    ∀ rest : List Segment, Addressable m settings c (root :: rest) →
      ∃ path ∈ levelBelow (ResourcePath.children settings m) rest.length (m.rootPaths c),
        path.segments = root :: rest := by
  intro rest
  induction rest using List.reverseRecOn with
  | nil =>
      intro h
      have hview : ResourcePath.rootView m root
          ∈ (m.rootSegments c).map (ResourcePath.rootView m) :=
        List.mem_map_of_mem (Model.mem_rootSegments_iff.mpr h.1)
      rw [← ResourcePath.rootPaths_view, List.mem_map] at hview
      obtain ⟨path, hpath, heq⟩ := hview
      exact ⟨path, hpath, (Prod.ext_iff.mp heq).1⟩
  | append_singleton rest segment ih =>
      intro h
      rw [← List.cons_append, addressable_append (List.cons_ne_nil root rest)] at h
      obtain ⟨path, hpath, hsegments⟩ := ih h.1
      have htraced := traced_of_mem_levelBelow hm _ path hpath
      have hnext : segment ∈ path.nextSegments settings m := by
        rw [ResourcePath.mem_nextSegments_iff hm htraced.castKnown, htraced.position, hsegments]
        exact h.2
      obtain ⟨child, hchild, hchildSegments⟩ := ResourcePath.exists_mem_children hnext
      refine ⟨child, ?_, ?_⟩
      · rw [List.length_append, List.length_singleton, levelBelow_succ, List.mem_flatMap]
        exact ⟨path, hpath, hchild⟩
      · rw [hchildSegments, hsegments, List.cons_append]

/-! ## The levels that are read are enough -/

namespace Position

/-- The greatest number of segments that can follow: for each navigation property left a
key and a cast may come with it, and one segment that nothing can follow may end it. -/
def reach (settings : Settings) (p : Position) : Nat :=
  match p.type with
  | none => 0
  | some _ =>
    3 * (settings.navigationDepth - p.navigations)
      + if p.castFrom.isSome then 1 else if p.collection then 3 else 2

theorem reach_le (settings : Settings) (p : Position) :
    p.reach settings ≤ 3 * (settings.navigationDepth - p.navigations) + 3 := by
  rw [reach]
  cases p.type with
  | none => exact Nat.zero_le _
  | some t =>
      simp only
      split
      · omega
      · split <;> omega

theorem lt_reach (settings : Settings) {p : Position} (h : p.type ≠ none) :
    3 * (settings.navigationDepth - p.navigations) < p.reach settings := by
  rw [reach]
  cases ht : p.type with
  | none => exact absurd ht h
  | some t =>
      simp only
      split
      · omega
      · split <;> omega

theorem reach_final_lt {p : Position} (h : p.type ≠ none) :
    final.reach settings < p.reach settings :=
  Nat.lt_of_le_of_lt (Nat.zero_le _) (lt_reach settings h)

/-- A segment leaves less to go. -/
theorem reach_after_lt {p : Position} {segment : Segment} (h : p.Allows m settings segment) :
    (p.after m segment).reach settings < p.reach settings := by
  cases segment with
  | entitySet => exact absurd h id
  | singleton => exact absurd h id
  | operationImport => exact absurd h id
  | key t names =>
      obtain ⟨ht, hcollection, hcast, -⟩ := h
      simp [reach, after, ht, hcollection, hcast]
  | navigation n =>
      obtain ⟨t, ht, hcollection, hdepth, -⟩ := h
      have hleft : p.navigations < settings.navigationDepth := by
        rw [Settings.navigationDepth]
        omega
      have hafter := reach_le settings (p.after m (.navigation n))
      have hbefore := lt_reach settings (p := p) (by simp [ht])
      simp only [after] at hafter ⊢
      omega
  | typeCast u =>
      obtain ⟨t, ht, -, hcast, -⟩ := h
      simp only [reach, after, ht, hcast, Option.isSome_none, Option.isSome_some, if_true,
        Bool.false_eq_true, if_false]
      split <;> omega
  | operation o =>
      obtain ⟨t, ht, -⟩ := h
      exact reach_final_lt (by simp [ht])
  | count => exact reach_final_lt h.1
  | ref => exact reach_final_lt h.1

theorem Admits.length_le_reach {p : Position} {segments : List Segment}
    (h : p.Admits m settings segments) : segments.length ≤ p.reach settings := by
  induction segments generalizing p with
  | nil => exact Nat.zero_le _
  | cons segment rest ih =>
      have hlt := reach_after_lt h.1
      have hle := ih h.2
      rw [List.length_cons]
      omega

theorem reach_ofRoot_lt (root : Segment) :
    (ofRoot m root).reach settings < settings.maxLength := by
  rw [Settings.maxLength]
  cases root <;> simp [ofRoot, reach, final]

end Position

theorem length_le_maxLength_of_addressable {root : Segment} {rest : List Segment}
    (h : Addressable m settings c (root :: rest)) : rest.length < settings.maxLength :=
  Nat.lt_of_le_of_lt h.2.length_le_reach (Position.reach_ofRoot_lt root)

theorem mem_containerPaths_segments_iff (hm : m.Hierarchical) {segments : List Segment} :
    segments ∈ (m.containerPaths settings c).map (·.segments) ↔
      Addressable m settings c segments := by
  rw [List.mem_map]
  constructor
  · rintro ⟨path, hpath, rfl⟩
    exact (traced_of_mem_containerPaths hm path hpath).addressable
  · intro h
    rw [Model.containerPaths, Settings.levels_eq_levelsBelow]
    cases segments with
    | nil => exact absurd h id
    | cons root rest =>
        obtain ⟨path, hpath, hsegments⟩ := exists_mem_levelBelow_of_addressable hm root rest h
        exact ⟨path, mem_levelsBelow.mpr ⟨_, length_le_maxLength_of_addressable h, hpath⟩,
          hsegments⟩

/-! ## The queue of the paths -/

namespace Model

/-- Below the levels that are read there is nothing. -/
theorem levelBelow_eq_nil (hm : m.Hierarchical) {k : Nat} (hk : settings.maxLength ≤ k) :
    levelBelow (ResourcePath.children settings m) k (m.rootPaths c) = [] := by
  rw [List.eq_nil_iff_forall_not_mem]
  intro path hpath
  have hlength : path.segments.length = 1 + k :=
    distance_levelBelow (f := ResourcePath.segments) (d := List.length)
      (fun _ => ResourcePath.length_segments_of_mem_rootPaths)
      (fun _ _ => ResourcePath.length_segments_of_mem_children) k path hpath
  have haddressable := (traced_of_mem_levelBelow hm k path hpath).addressable
  cases hsegments : path.segments with
  | nil =>
      rw [hsegments] at haddressable
      exact haddressable
  | cons root rest =>
      rw [hsegments] at haddressable hlength
      have hlt := length_le_maxLength_of_addressable haddressable
      rw [List.length_cons] at hlength
      omega

/-- Taking paths from a queue and putting the paths directly below each at its end visits the paths
of a container. -/
theorem queueWalk_containerPaths (hm : m.Hierarchical) (c : ContainerHandle) :
    QueueWalk (ResourcePath.children settings m) (m.rootPaths c) (m.containerPaths settings c) := by
  rw [containerPaths, Settings.levels_eq_levelsBelow]
  exact queueWalk_levelsBelow (levelBelow_eq_nil hm (Nat.le_refl _))

end Model

/-! ## No segments twice -/

/-- Lists that share no element tell where an element comes from. -/
theorem eq_of_mem_of_nodup_flatMap {α β : Type} {l : List α} {f : α → List β}
    (h : (l.flatMap f).Nodup) {x y : α} (hx : x ∈ l) (hy : y ∈ l) {a : β} (ha : a ∈ f x)
    (ha' : a ∈ f y) : x = y := by
  by_contra hne
  have : Std.Symm (Function.onFun List.Disjoint f) := ⟨fun _ _ hd _ hb hb' => hd hb' hb⟩
  exact (List.nodup_flatMap.mp h).2.forall hx hy hne ha ha'

namespace Model

/-- A segment starts paths of one container only. -/
theorem WellFormed.isRoot_unique (hm : m.WellFormed) {c' : ContainerHandle}
    (hc : c ∈ m.containerHandles) (hc' : c' ∈ m.containerHandles) {root : Segment}
    (h : m.IsRoot c root) (h' : m.IsRoot c' root) : c = c' := by
  cases root with
  | entitySet s => exact eq_of_mem_of_nodup_flatMap hm.entitySets_nodup hc hc' h h'
  | singleton s => exact eq_of_mem_of_nodup_flatMap hm.singletons_nodup hc hc' h h'
  | operationImport i => exact h.1.symm.trans h'.1
  | _ => cases h

theorem WellFormed.rootSegments_nodup (hm : m.WellFormed) (hc : c ∈ m.containerHandles) :
    (m.rootSegments c).Nodup := by
  have hsets : ((m.container c).entitySets.map Segment.entitySet).Nodup := by
    refine ((List.nodup_flatMap.mp hm.entitySets_nodup).1 c hc).map ?_
    intro s s' h
    exact Segment.entitySet.inj h
  have hsingletons : ((m.container c).singletons.map Segment.singleton).Nodup := by
    refine ((List.nodup_flatMap.mp hm.singletons_nodup).1 c hc).map ?_
    intro s s' h
    exact Segment.singleton.inj h
  have himports : ((m.importHandles c).map Segment.operationImport).Nodup := by
    refine (importHandles_nodup c).map ?_
    intro i i' h
    exact Segment.operationImport.inj h
  rw [rootSegments, List.nodup_append, List.nodup_append]
  refine ⟨⟨hsets, hsingletons, ?_⟩, himports, ?_⟩
  · simp
  · simp only [List.mem_append, List.mem_map]
    rintro _ (⟨s, -, rfl⟩ | ⟨s, -, rfl⟩) _ ⟨i, -, rfl⟩
    · exact Segment.noConfusion
    · exact Segment.noConfusion

theorem WellFormed.containerPaths_segments_nodup (hm : m.WellFormed)
    (hc : c ∈ m.containerHandles) :
    ((m.containerPaths settings c).map (·.segments)).Nodup := by
  rw [containerPaths, Settings.levels_eq_levelsBelow]
  refine levelsBelow_nodup (p := List.dropLast) (d := List.length) (r := 1) ?_ ?_ ?_ ?_ ?_ _
  · rw [ResourcePath.rootPaths_segments]
    refine (hm.rootSegments_nodup hc).map ?_
    intro s s' h
    exact List.singleton_inj.mp h
  · exact fun _ => ResourcePath.length_segments_of_mem_rootPaths
  · intro path
    rw [ResourcePath.children_segments]
    refine (ResourcePath.nextSegments_nodup hm.toHierarchical).map ?_
    intro s s' h
    exact List.singleton_inj.mp (List.append_cancel_left h)
  · exact fun _ _ => ResourcePath.dropLast_segments_of_mem_children
  · exact fun _ _ => ResourcePath.length_segments_of_mem_children

theorem WellFormed.paths_segments_nodup (hm : m.WellFormed) :
    ((m.containerHandles.flatMap (m.containerPaths settings)).map (·.segments)).Nodup := by
  rw [List.map_flatMap, List.nodup_flatMap]
  refine ⟨fun c hc => hm.containerPaths_segments_nodup hc, ?_⟩
  refine List.Pairwise.imp_of_mem ?_ (handles_nodup .container m.containers.length)
  intro c c' hc hc' hne segments h h'
  rw [mem_containerPaths_segments_iff hm.toHierarchical] at h h'
  cases segments with
  | nil => exact h
  | cons root rest => exact hne (hm.isRoot_unique hc hc' h.1 h'.1)

/-- A walk through the containers that passes over segments it has seen, in this container or in one
before, passes over no path. -/
theorem WellFormed.labelledWalk_containerPaths (hm : m.WellFormed)
    {before after : List ContainerHandle} (h : m.containerHandles = before ++ c :: after) :
    LabelledWalk (ResourcePath.children settings m) (·.segments)
      ((before.flatMap (m.containerPaths settings)).map (·.segments)) (m.rootPaths c)
      (m.containerPaths settings c) := by
  refine (queueWalk_containerPaths hm.toHierarchical c).labelledWalk ?_
  have hnodup :
      ((m.containerHandles.flatMap (m.containerPaths settings)).map (·.segments)).Nodup :=
    hm.paths_segments_nodup
  rw [h, List.flatMap_append, List.flatMap_cons, ← List.append_assoc, List.map_append,
    List.map_append] at hnodup
  exact hnodup.of_append_left

end Model

/-! ## The paths of a model -/

/-- The paths of a model read from a document are the addressable segments of its
containers, container by container and each once. -/
theorem paths_eq_addressable (document : Document) (id : ModelId) (m : Model) (settings : Settings)
    (hload : document.resolve id = .ok m) (hdepth : 0 ≤ settings.maxNavigationDepth) :
    m.paths settings = .ok (m.containerHandles.flatMap (m.containerPaths settings)) ∧
      ((m.containerHandles.flatMap (m.containerPaths settings)).map (·.segments)).Nodup ∧
      ∀ c ∈ m.containerHandles, ∀ segments,
        segments ∈ (m.containerPaths settings c).map (·.segments) ↔
          Addressable m settings c segments := by
  have hm := Document.resolve_wellFormed hload
  refine ⟨?_, hm.paths_segments_nodup,
    fun c _ segments => mem_containerPaths_segments_iff hm.toHierarchical⟩
  rw [Model.paths, Settings.validate, if_neg (Int.not_lt.mpr hdepth)]
  rfl

/-- A type that leads to itself, a type that extends it and an action on its
collections. -/
def cyclicDocument : Document where
  ns := "A"
  entityTypes := [
    { name := "Node", key := ["Id"], navigationProperties := [
        { name := "next", type := "Node" },
        { name := "parts", type := "Node", collection := true, containsTarget := true }] },
    { name := "Leaf", base := some "Node", navigationProperties := [
        { name := "owner", type := "Node" }] }]
  operations := [
    { name := "sort", kind := .action, bound := true, parameters := [⟨"it", "Node", true, false⟩] }]
  containers := [
    { name := "C", entitySets := [{ name := "nodes", type := "Node" }],
      singletons := [{ name := "top", type := "Leaf" }] }]

/-- The model of `cyclicDocument`. -/
def cyclicModel : Model := cyclicDocument.loaded ⟨0⟩

/-- All kinds of paths, with at most two navigation properties. -/
def twoDeep : Settings := { maxNavigationDepth := 2 }

/-- The owner of a node that is a leaf, among the parts of a node. -/
def ownerSegments : List Segment :=
  [.entitySet ⟨0⟩, .key ⟨0⟩ ["Id"], .navigation ⟨⟨0⟩, 1⟩, .key ⟨0⟩ ["Node-Id"], .typeCast ⟨1⟩,
    .navigation ⟨⟨1⟩, 0⟩]

/-- The owner is addressed by keys, navigation properties and a cast; a key after a cast of the set
is not addressable. -/
theorem cyclicModel_paths :
    cyclicDocument.resolve ⟨0⟩ = .ok cyclicModel ∧
      cyclicModel.paths twoDeep
        = .ok (cyclicModel.containerHandles.flatMap (cyclicModel.containerPaths twoDeep)) ∧
      ((cyclicModel.containerHandles.flatMap (cyclicModel.containerPaths twoDeep)).map
        (·.segments)).Nodup ∧
      (cyclicModel.containerPaths twoDeep ⟨0⟩).length = 112 ∧
      Addressable cyclicModel twoDeep ⟨0⟩ ownerSegments ∧
      ((cyclicModel.containerPaths twoDeep ⟨0⟩).find? (·.segments == ownerSegments)).map
        (·.template)
          = some "/nodes/\x7bId\x7d/parts/\x7bNode-Id\x7d/A.Leaf/owner" ∧
      ¬ Addressable cyclicModel twoDeep ⟨0⟩ [.entitySet ⟨0⟩, .typeCast ⟨1⟩, .key ⟨1⟩ ["Id"]] := by
  have hload : cyclicDocument.resolve ⟨0⟩ = .ok cyclicModel := rfl
  obtain ⟨hpaths, hnodup, hmem⟩ :=
    paths_eq_addressable cyclicDocument ⟨0⟩ cyclicModel twoDeep hload (by decide)
  have hcontainer : (⟨0⟩ : ContainerHandle) ∈ cyclicModel.containerHandles := by decide
  refine ⟨hload, hpaths, hnodup, by decide +kernel, ?_, by decide +kernel, ?_⟩
  · exact (hmem ⟨0⟩ hcontainer _).mp (by decide +kernel)
  · intro h
    have hlisted := (hmem ⟨0⟩ hcontainer _).mpr h
    revert hlisted
    decide +kernel

end ODataApi
