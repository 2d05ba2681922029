import ODataApi.Proofs.Path.Enumeration
import ODataApi.Proofs.Path.Produced

/-!
# Narrower settings

Settings decide which paths there are and nothing else about them.  Going one segment further,
narrower settings leave out some of the paths and keep the others as they are, in the same order
(`ResourcePath.children_eq_filter`).  What they leave out is told by the segments
(`Settings.keeps`), and a path has no fewer of these than the path it goes on from.

So the paths of a model with narrower settings are those with wider settings that
`Settings.keeps` keeps (`paths_eq_filter`).
-/

namespace ODataApi

/-- Whether a segment follows a navigation property. -/
def Segment.isNavigation : Segment → Bool
  | navigation _ => true
  | _ => false

/-! ## What settings keep -/

namespace Settings

/-- Settings allow no more than others. -/
structure Within (narrow wide : Settings) : Prop where
  /-- No more navigation properties. -/
  depth : narrow.maxNavigationDepth ≤ wide.maxNavigationDepth
  /-- No casts that the others leave out. -/
  typeCastPaths : narrow.typeCastPaths = true → wide.typeCastPaths = true
  /-- No bound operations that the others leave out. -/
  operationPaths : narrow.operationPaths = true → wide.operationPaths = true
  /-- No counts that the others leave out. -/
  countPaths : narrow.countPaths = true → wide.countPaths = true

/-- Whether segments of a kind are switched on. -/
def enables (settings : Settings) : Segment → Bool
  | .typeCast _ => settings.typeCastPaths
  | .operation _ => settings.operationPaths
  | .count => settings.countPaths
  | _ => true

/-- Whether segments follow no more navigation properties than the settings allow, and none of
them is of a kind that is switched off. -/
def keeps (settings : Settings) (segments : List Segment) : Bool :=
  decide ((segments.countP Segment.isNavigation : Int) ≤ settings.maxNavigationDepth)
    && segments.all settings.enables

variable {settings : Settings} {segments : List Segment}

theorem keeps_append (segment : Segment) :
    settings.keeps (segments ++ [segment]) = true ↔
      ((segments.countP Segment.isNavigation + if segment.isNavigation then 1 else 0 : Nat) : Int)
          ≤ settings.maxNavigationDepth ∧
        segments.all settings.enables = true ∧ settings.enables segment = true := by
  rw [keeps, List.countP_append, List.countP_singleton, List.all_append, Bool.and_eq_true,
    decide_eq_true_eq, Bool.and_eq_true, List.all_cons, List.all_nil, Bool.and_true]

/-- Nothing is kept that goes on from what is dropped. -/
theorem keeps_of_append {segment : Segment} (h : settings.keeps (segments ++ [segment]) = true) :
    settings.keeps segments = true := by
  obtain ⟨hdepth, hall, -⟩ := (keeps_append segment).mp h
  rw [keeps, Bool.and_eq_true, decide_eq_true_eq]
  refine ⟨?_, hall⟩
  omega

theorem keeps_append_of_ne {segment : Segment} (h : settings.keeps segments = true)
    (hsegment : segment.isNavigation = false) :
    settings.keeps (segments ++ [segment]) = settings.enables segment := by
  rw [keeps, Bool.and_eq_true, decide_eq_true_eq] at h
  rw [Bool.eq_iff_iff, keeps_append, hsegment]
  simp [h]

end Settings

/-! ## One segment further -/

theorem filter_eq_of_forall {α : Type} {items : List α} {keep : α → Bool} {b : Bool}
    (h : ∀ item ∈ items, keep item = b) : items.filter keep = if b then items else [] := by
  cases b with
  | true => exact List.filter_eq_self.mpr h
  | false =>
      refine List.filter_eq_nil_iff.mpr fun item hitem => ?_
      rw [h item hitem]
      exact Bool.false_ne_true

namespace ResourcePath

variable {narrow wide : Settings} {m : Model} {path : ResourcePath} {t : EntityTypeHandle}

/-- The depth of a path is the number of navigation properties it follows. -/
def DepthCounted (path : ResourcePath) : Prop :=
  path.depth = path.segments.countP Segment.isNavigation

theorem DepthCounted.push (h : path.DepthCounted) {child : ResourcePath} (segment : Segment)
    (hsegments : child.segments = path.segments ++ [segment])
    (hdepth : child.depth = path.depth + if segment.isNavigation then 1 else 0) :
    child.DepthCounted := by
  rw [DepthCounted, hsegments, List.countP_append, List.countP_singleton, hdepth, h]

@[simp] theorem call_depth (operation : Operation) (name : String) :
    (path.call operation name).depth = path.depth := by
  rw [call]
  cases operation.kind with
  | action => rfl
  | function => rfl

theorem withOperation_segments (o : OperationHandle) :
    (path.withOperation m o).segments = path.segments ++ [.operation o] :=
  call_segments (m.operation o) _

theorem DepthCounted.follows (h : path.DepthCounted) {child : ResourcePath}
    (hfollows : Follows wide m path child) : child.DepthCounted := by
  cases hfollows with
  | key _ _ hkey =>
      obtain ⟨t, names, _, _, -, rfl⟩ := withKey?_eq_some hkey
      exact h.push (.key t names) rfl rfl
  | navigation => exact h.push _ rfl rfl
  | typeCast => exact h.push _ rfl rfl
  | operation =>
      refine h.push _ (withOperation_segments _) ?_
      simp [withOperation, ResourcePath.push, Segment.isNavigation]
  | count => exact h.push _ rfl rfl
  | ref => exact h.push _ rfl rfl

theorem depthCounted_of_mem_rootPaths {c : ContainerHandle} (h : path ∈ m.rootPaths c) :
    path.DepthCounted := by
  rcases Model.mem_rootPaths.mp h with (⟨s, -, rfl⟩ | ⟨s, -, rfl⟩) | ⟨i, -, rfl⟩
  · rfl
  · rfl
  · simp [DepthCounted, ofImport, ofRoot, Segment.isNavigation]

theorem depthCounted_of_mem_paths {paths : List ResourcePath} (h : m.paths wide = .ok paths) :
    ∀ path ∈ paths, path.DepthCounted :=
  Model.paths_forall (fun _ _ _ => depthCounted_of_mem_rootPaths)
    (fun _ _ hcounted _ hfollows => hcounted.follows hfollows) h

theorem DepthCounted.depth_ne_zero_iff (h : path.DepthCounted) :
    path.depth ≠ 0 ↔ ∃ n, .navigation n ∈ path.segments := by
  rw [h, ne_eq, List.countP_eq_zero, not_forall]
  constructor
  · rintro ⟨segment, hsegment⟩
    obtain ⟨hmem, hnavigation⟩ := Classical.not_imp.mp hsegment
    cases segment with
    | navigation n => exact ⟨n, hmem⟩
    | _ => exact absurd nofun hnavigation
  · rintro ⟨n, hn⟩
    exact ⟨.navigation n, fun hnot => hnot hn rfl⟩

/-! ### Kind by kind -/

section

variable (hpath : narrow.keeps path.segments = true)

include hpath

theorem keyChildren_filter :
    (path.keyChildren m).filter (fun child => narrow.keeps child.segments)
      = path.keyChildren m := by
  refine filter_eq_of_forall (b := true) fun child hchild => ?_
  rw [keyChildren, List.mem_ite_nil_right, Option.mem_toList] at hchild
  obtain ⟨t, names, _, _, -, rfl⟩ := withKey?_eq_some hchild.2
  exact Settings.keeps_append_of_ne hpath rfl

theorem navigationChildren_filter (hcounted : path.DepthCounted) (hwithin : narrow.Within wide) :
    (path.navigationChildren wide m t).filter (fun child => narrow.keeps child.segments)
      = path.navigationChildren narrow m t := by
  have hkeep : ∀ child ∈ path.navigationChildren wide m t,
      narrow.keeps child.segments = decide (path.depth < narrow.navigationDepth) := by
    intro child hchild
    rw [navigationChildren, List.mem_ite_nil_right] at hchild
    obtain ⟨n, -, rfl⟩ := List.mem_map.mp hchild.2
    rw [Settings.keeps, Bool.and_eq_true] at hpath
    rw [Bool.eq_iff_iff, decide_eq_true_eq, Settings.lt_navigationDepth_iff]
    show narrow.keeps (path.segments ++ [.navigation n]) = true ↔ _
    rw [Settings.keeps_append, ← hcounted]
    simp only [Segment.isNavigation, if_true, hpath.2, Settings.enables, and_true]
    omega
  rw [filter_eq_of_forall hkeep, navigationChildren, navigationChildren]
  simp only [Settings.lt_navigationDepth_iff, decide_eq_true_eq, Bool.and_eq_true]
  have hdepth := hwithin.depth
  split
  case isTrue hnarrow =>
    have hwide : (path.depth : Int) < wide.maxNavigationDepth := Int.lt_of_lt_of_le hnarrow hdepth
    simp [hnarrow, hwide]
  case isFalse hnarrow => simp [hnarrow]

theorem castChildren_filter (hwithin : narrow.Within wide) :
    (path.castChildren wide m t).filter (fun child => narrow.keeps child.segments)
      = path.castChildren narrow m t := by
  have hkeep : ∀ child ∈ path.castChildren wide m t,
      narrow.keeps child.segments = narrow.typeCastPaths := by
    intro child hchild
    rw [castChildren, List.mem_ite_nil_right] at hchild
    obtain ⟨u, -, rfl⟩ := List.mem_map.mp hchild.2
    exact Settings.keeps_append_of_ne hpath rfl
  rw [filter_eq_of_forall hkeep, castChildren, castChildren]
  cases henabled : narrow.typeCastPaths with
  | false => rfl
  | true => rw [hwithin.typeCastPaths henabled, if_pos rfl]

theorem operationChildren_filter (hwithin : narrow.Within wide) :
    (path.operationChildren wide m t).filter (fun child => narrow.keeps child.segments)
      = path.operationChildren narrow m t := by
  have hkeep : ∀ child ∈ path.operationChildren wide m t,
      narrow.keeps child.segments = narrow.operationPaths := by
    intro child hchild
    rw [operationChildren, List.mem_ite_nil_right] at hchild
    obtain ⟨o, -, rfl⟩ := List.mem_map.mp hchild.2
    rw [withOperation_segments]
    exact Settings.keeps_append_of_ne hpath rfl
  rw [filter_eq_of_forall hkeep, operationChildren, operationChildren]
  cases henabled : narrow.operationPaths with
  | false => rfl
  | true => rw [hwithin.operationPaths henabled, if_pos rfl]

theorem countChildren_filter (hwithin : narrow.Within wide) :
    (path.countChildren wide).filter (fun child => narrow.keeps child.segments)
      = path.countChildren narrow := by
  have hkeep : ∀ child ∈ path.countChildren wide,
      narrow.keeps child.segments = narrow.countPaths := by
    intro child hchild
    rw [countChildren, List.mem_ite_nil_right, List.mem_singleton] at hchild
    obtain ⟨-, rfl⟩ := hchild
    exact Settings.keeps_append_of_ne hpath rfl
  rw [filter_eq_of_forall hkeep, countChildren, countChildren]
  cases henabled : narrow.countPaths with
  | false => rfl
  | true => rw [hwithin.countPaths henabled, if_pos rfl]

theorem refChildren_filter :
    path.refChildren.filter (fun child => narrow.keeps child.segments) = path.refChildren := by
  refine filter_eq_of_forall (b := true) fun child hchild => ?_
  rw [refChildren, List.mem_ite_nil_right, List.mem_singleton] at hchild
  obtain ⟨-, rfl⟩ := hchild
  exact Settings.keeps_append_of_ne hpath rfl

/-- Below a path that is kept, the narrower settings have what is kept of the paths that the wider
ones have. -/
theorem children_eq_filter (hcounted : path.DepthCounted) (hwithin : narrow.Within wide) :
    path.children narrow m
      = (path.children wide m).filter fun child => narrow.keeps child.segments := by
  rw [children, children]
  cases path.isTerminal with
  | true => rfl
  | false =>
      cases path.entityType with
      | none => rfl
      | some t =>
          simp only [Bool.false_eq_true, if_false, List.filter_append]
          rw [keyChildren_filter hpath, navigationChildren_filter hpath hcounted hwithin,
            castChildren_filter hpath hwithin, operationChildren_filter hpath hwithin,
            countChildren_filter hpath hwithin, refChildren_filter hpath]

end

theorem keeps_eq_false_of_mem_children (h : narrow.keeps path.segments = false) :
    ∀ child ∈ path.children wide m, narrow.keeps child.segments = false := by
  intro child hchild
  obtain ⟨segment, -, hsegments, -⟩ := exists_of_mem_children hchild
  rw [Bool.eq_false_iff] at h ⊢
  rw [hsegments]
  exact fun hkeeps => h (Settings.keeps_of_append hkeeps)

end ResourcePath

/-! ## Whole trees -/

namespace Model

variable {narrow wide : Settings} {m : Model} {c : ContainerHandle}

theorem rootPaths_filter (hdepth : 0 ≤ narrow.maxNavigationDepth) :
    (m.rootPaths c).filter (fun path => narrow.keeps path.segments) = m.rootPaths c := by
  refine filter_eq_of_forall (b := true) fun path hpath => ?_
  obtain ⟨root, hroot, hsegments⟩ := ResourcePath.exists_root_of_mem_rootPaths hpath
  rw [hsegments]
  cases root with
  | entitySet => simpa [Settings.keeps, Segment.isNavigation, Settings.enables] using hdepth
  | singleton => simpa [Settings.keeps, Segment.isNavigation, Settings.enables] using hdepth
  | operationImport => simpa [Settings.keeps, Segment.isNavigation, Settings.enables] using hdepth
  | _ => cases hroot

theorem maxLength_le_of_within (hwithin : narrow.Within wide) :
    narrow.maxLength ≤ wide.maxLength := by
  have hdepth := hwithin.depth
  rw [Settings.maxLength, Settings.maxLength, Settings.navigationDepth, Settings.navigationDepth]
  omega

theorem containerPaths_eq_filter (hm : m.Hierarchical) (hdepth : 0 ≤ narrow.maxNavigationDepth)
    (hwithin : narrow.Within wide) :
    m.containerPaths narrow c
      = (m.containerPaths wide c).filter fun path => narrow.keeps path.segments := by
  have hroots : ∀ path ∈ m.rootPaths c, path.DepthCounted :=
    fun path hpath => ResourcePath.depthCounted_of_mem_rootPaths hpath
  have hnext : ∀ path : ResourcePath, path.DepthCounted →
      ∀ child ∈ path.children wide m, child.DepthCounted :=
    fun path hcounted child hchild =>
      hcounted.follows (ResourcePath.follows_of_mem_children hchild).2
  have hkept : ∀ path : ResourcePath, path.DepthCounted → narrow.keeps path.segments = true →
      path.children narrow m
        = (path.children wide m).filter fun child => narrow.keeps child.segments :=
    fun path hcounted hpath => ResourcePath.children_eq_filter hpath hcounted hwithin
  have hdropped : ∀ path : ResourcePath, path.DepthCounted →
      narrow.keeps path.segments = false →
      ∀ child ∈ path.children wide m, narrow.keeps child.segments = false :=
    fun path _ hpath => ResourcePath.keeps_eq_false_of_mem_children hpath
  -- the narrower tree is read through as many levels as the wider one
  rw [containerPaths, containerPaths, Settings.levels_eq_levelsBelow,
    Settings.levels_eq_levelsBelow, ← levelsBelow_eq_of_le (maxLength_le_of_within hwithin)
      fun k hk => levelBelow_eq_nil hm hk, ← levelsBelow_filter hroots hnext hkept hdropped,
    rootPaths_filter hdepth]

end Model

/-! ## The paths of a model -/

/-- The paths of a model with narrower settings are those with wider settings that follow no more
navigation properties than the narrower settings allow and have no segment that these switch off,
with everything that belongs to them and in their order. -/
theorem paths_eq_filter (document : Document) (id : ModelId) (m : Model) (narrow wide : Settings)
    (hload : document.resolve id = .ok m) (hdepth : 0 ≤ narrow.maxNavigationDepth)
    (hwithin : narrow.Within wide) :
    ∃ paths, m.paths wide = .ok paths ∧
      m.paths narrow = .ok (paths.filter fun path => narrow.keeps path.segments) := by
  have hm := (Document.resolve_wellFormed hload).toHierarchical
  refine ⟨_, m.paths_eq_flatMap (Int.le_trans hdepth hwithin.depth), ?_⟩
  rw [m.paths_eq_flatMap hdepth, List.filter_flatMap]
  exact congrArg Except.ok
    (List.flatMap_congr fun _ _ => Model.containerPaths_eq_filter hm hdepth hwithin)

/-- Of thirty-four paths that follow one navigation property at most, four are left without
navigation properties, casts and counts. -/
theorem cyclicModel_paths_narrowed :
    cyclicDocument.resolve ⟨0⟩ = .ok cyclicModel ∧
      (cyclicModel.containerPaths ⟨1, true, true, true⟩ ⟨0⟩).length = 34 ∧
      (cyclicModel.containerPaths ⟨0, false, true, false⟩ ⟨0⟩).length = 4 ∧
      ∃ paths, cyclicModel.paths ⟨1, true, true, true⟩ = .ok paths ∧
        cyclicModel.paths ⟨0, false, true, false⟩
          = .ok (paths.filter fun path => Settings.keeps ⟨0, false, true, false⟩ path.segments) :=
  ⟨rfl, by decide +kernel, by decide +kernel,
    paths_eq_filter cyclicDocument ⟨0⟩ cyclicModel _ _ rfl (by decide)
      ⟨by decide, nofun, fun h => h, nofun⟩⟩

end ODataApi
