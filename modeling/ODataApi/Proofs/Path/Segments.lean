import ODataApi.Proofs.Conversion
import ODataApi.Proofs.Path.Narrowing

/-!
# What the segments of a path tell

Two paths are the same if their segments are.  That is sound because a path carries nothing that
its segments do not tell: `ResourcePath.ofSegments?` is given segments and nothing else, goes from
the root along them, and every path of a model is where its own segments lead
(`ResourcePath.Retraced`).

Settings have no part in this.  So paths with the same segments are the same path, also where they
come from different settings, and the navigation properties among the segments tell the depth, the
last navigation property and its containment (`same_segments_same_path`).
-/

namespace ODataApi

/-- The navigation property that a segment follows. -/
def Segment.navigation? : Segment → Option NavigationHandle
  | navigation n => some n
  | _ => none

theorem Segment.isNavigation_eq (segment : Segment) :
    segment.isNavigation = segment.navigation?.isSome := by
  cases segment <;> rfl

namespace ResourcePath

variable {settings : Settings} {m : Model} {path child : ResourcePath}

/-! ## Along segments -/

/-- The path of one segment, if the segment can start one. -/
def start? (m : Model) : Segment → Option ResourcePath
  | .entitySet s => some (ofEntitySet m s)
  | .singleton s => some (ofSingleton m s)
  | .operationImport i => some (ofImport m i)
  | .key _ _ | .navigation _ | .typeCast _ | .operation _ | .count | .ref => none

/-- The path one segment further.  Of a key no more is taken than that it is one: type and names
are found again. -/
def goOn? (m : Model) (path : ResourcePath) : Segment → Option ResourcePath
  | .key _ _ => path.withKey? m
  | .navigation n => some (path.withNavigation m n)
  | .typeCast t => some (path.withCast m t)
  | .operation o => some (path.withOperation m o)
  | .count => some path.withCount
  | .ref => some path.withRef
  | .entitySet _ | .singleton _ | .operationImport _ => none

/-- The path that segments lead to. -/
def ofSegments? (m : Model) : List Segment → Option ResourcePath
  | [] => none
  | root :: rest => (start? m root).bind (rest.foldlM (goOn? m))

theorem ofSegments?_append {segments : List Segment} (h : segments ≠ []) (segment : Segment) :
    ofSegments? m (segments ++ [segment])
      = (ofSegments? m segments).bind fun path => path.goOn? m segment := by
  cases segments with
  | nil => exact absurd rfl h
  | cons root rest =>
      rw [List.cons_append, ofSegments?, ofSegments?, Option.bind_assoc]
      refine congrArg (Option.bind _) (funext fun path => ?_)
      rw [List.foldlM_append]
      refine congrArg (Option.bind _) (funext fun path => ?_)
      exact bind_pure (path.goOn? m segment)

/-! ## Paths are where their segments lead -/

/-- The path is where its segments lead. -/
def Retraced (m : Model) (path : ResourcePath) : Prop := ofSegments? m path.segments = some path

theorem Retraced.segments_ne_nil (h : path.Retraced m) : path.segments ≠ [] := by
  intro hnil
  rw [Retraced, hnil] at h
  cases h

theorem Retraced.goOn (h : path.Retraced m) (segment : Segment)
    (hsegments : child.segments = path.segments ++ [segment])
    (hchild : path.goOn? m segment = some child) : child.Retraced m := by
  rw [Retraced, hsegments, ofSegments?_append h.segments_ne_nil, h, Option.bind_some, hchild]

theorem Retraced.follows (h : path.Retraced m) (hfollow : Follows settings m path child) :
    child.Retraced m := by
  cases hfollow with
  | key _ _ hkey =>
      obtain ⟨t, names, _, _, -, hchild⟩ := withKey?_eq_some hkey
      refine h.goOn (.key t names) ?_ hkey
      rw [hchild]
      rfl
  | navigation | typeCast | count | ref => exact h.goOn _ rfl rfl
  | @operation _ o => exact h.goOn (.operation o) (withOperation_segments o) rfl

theorem retraced_of_mem_rootPaths {c : ContainerHandle} (h : path ∈ m.rootPaths c) :
    path.Retraced m := by
  rcases Model.mem_rootPaths.mp h with (⟨s, -, rfl⟩ | ⟨s, -, rfl⟩) | ⟨i, -, rfl⟩
  · rfl
  · rfl
  · have hsegments : (ofImport m i).segments = [.operationImport i] := call_segments _ _
    rw [Retraced, hsegments]
    rfl

/-! ## Navigation properties -/

/-- The navigation properties that a path follows, in order. -/
def navigations (path : ResourcePath) : List NavigationHandle :=
  path.segments.filterMap Segment.navigation?

theorem length_navigations (path : ResourcePath) :
    path.navigations.length = path.segments.countP Segment.isNavigation := by
  rw [navigations, List.length_filterMap_eq_countP]
  refine List.countP_congr fun segment _ => ?_
  rw [segment.isNavigation_eq]

/-- The navigation properties among the segments tell which one a path followed last. -/
structure NavigationTold (m : Model) (path : ResourcePath) : Prop where
  /-- The navigation property of a path is the last one. -/
  navigation : path.navigation = path.navigations.getLast?
  /-- The containment is that of the last one, if there is one. -/
  containment : path.containment =
    path.navigations.getLast?.any fun n => (m.navigation n).containsTarget

section

variable (operation : Operation) (name : String)

@[simp] theorem call_navigation : (path.call operation name).navigation = path.navigation := by
  rw [call]
  cases operation.kind with
  | action => rfl
  | function => rfl

@[simp] theorem call_containment :
    (path.call operation name).containment = path.containment := by
  rw [call]
  cases operation.kind with
  | action => rfl
  | function => rfl

end

theorem navigations_append {segment : Segment}
    (h : child.segments = path.segments ++ [segment]) :
    child.navigations = path.navigations ++ segment.navigation?.toList := by
  rw [navigations, h, List.filterMap_append, navigations]
  cases segment <;> rfl

theorem NavigationTold.push (h : path.NavigationTold m) (segment : Segment)
    (hsegments : child.segments = path.segments ++ [segment])
    (hother : segment.navigation? = none) (hnavigation : child.navigation = path.navigation)
    (hcontainment : child.containment = path.containment) : child.NavigationTold m := by
  have hsame : child.navigations = path.navigations := by
    rw [navigations_append hsegments, hother, Option.toList_none, List.append_nil]
  constructor
  · rw [hnavigation, hsame, h.navigation]
  · rw [hcontainment, hsame, h.containment]

theorem withNavigation_navigationTold (n : NavigationHandle) :
    (path.withNavigation m n).NavigationTold m := by
  have hsegments : (path.withNavigation m n).segments = path.segments ++ [.navigation n] := rfl
  have hlast : (path.withNavigation m n).navigations = path.navigations ++ [n] :=
    navigations_append hsegments
  constructor
  · rw [hlast, List.getLast?_concat]
    rfl
  · rw [hlast, List.getLast?_concat]
    rfl

theorem NavigationTold.follows (h : path.NavigationTold m)
    (hfollow : Follows settings m path child) : child.NavigationTold m := by
  cases hfollow with
  | key _ _ hkey =>
      obtain ⟨t, names, _, _, -, rfl⟩ := withKey?_eq_some hkey
      exact h.push (.key t names) rfl rfl rfl rfl
  | navigation => exact withNavigation_navigationTold _
  | typeCast | count | ref => exact h.push _ rfl rfl rfl rfl
  | @operation _ o =>
      exact h.push (.operation o) (withOperation_segments o) rfl (call_navigation _ _)
        (call_containment _ _)

theorem ofImport_navigations (i : ImportHandle) : (ofImport m i).navigations = [] := by
  simp [navigations, ofImport, ofRoot, Segment.navigation?]

theorem navigationTold_of_mem_rootPaths {c : ContainerHandle} (h : path ∈ m.rootPaths c) :
    path.NavigationTold m := by
  rcases Model.mem_rootPaths.mp h with (⟨s, -, rfl⟩ | ⟨s, -, rfl⟩) | ⟨i, -, rfl⟩
  · exact ⟨rfl, rfl⟩
  · exact ⟨rfl, rfl⟩
  · constructor
    · rw [ofImport_navigations]
      exact call_navigation _ _
    · rw [ofImport_navigations]
      exact call_containment _ _

end ResourcePath

/-! ## The paths of a model -/

namespace Model

variable {settings : Settings} {m : Model} {paths : List ResourcePath}

theorem retraced_of_mem_paths (h : m.paths settings = .ok paths) :
    ∀ path ∈ paths, path.Retraced m :=
  paths_forall (fun _ _ _ => ResourcePath.retraced_of_mem_rootPaths)
    (fun _ _ hretraced _ hfollow => hretraced.follows hfollow) h

theorem navigationTold_of_mem_paths (h : m.paths settings = .ok paths) :
    ∀ path ∈ paths, path.NavigationTold m :=
  paths_forall (fun _ _ _ => ResourcePath.navigationTold_of_mem_rootPaths)
    (fun _ _ htold _ hfollow => htold.follows hfollow) h

end Model

/-- Paths of a model with the same segments are the same in everything, whatever settings each of
them comes from.  The depth of a path is the number of navigation properties among its segments,
and its navigation property and containment are those of the last one. -/
theorem same_segments_same_path (m : Model) (settings settings' : Settings)
    (hdepth : 0 ≤ settings.maxNavigationDepth) (hdepth' : 0 ≤ settings'.maxNavigationDepth) :
    ∃ paths paths', m.paths settings = .ok paths ∧ m.paths settings' = .ok paths' ∧
      (∀ path ∈ paths, ∀ path' ∈ paths', path.segments = path'.segments → path = path') ∧
      ∀ path ∈ paths, path.depth = path.navigations.length ∧
        path.navigation = path.navigations.getLast? ∧
        path.containment =
          path.navigations.getLast?.any fun n => (m.navigation n).containsTarget := by
  have hpaths := m.paths_of_depth hdepth
  have hpaths' := m.paths_of_depth hdepth'
  refine ⟨_, _, hpaths, hpaths', ?_, ?_⟩
  · intro path hpath path' hpath' hsegments
    have hretraced := Model.retraced_of_mem_paths hpaths path hpath
    have hretraced' := Model.retraced_of_mem_paths hpaths' path' hpath'
    rw [ResourcePath.Retraced, hsegments] at hretraced
    exact Option.some.inj (hretraced.symm.trans hretraced')
  · intro path hpath
    have hcounted := ResourcePath.depthCounted_of_mem_paths hpaths path hpath
    have htold := Model.navigationTold_of_mem_paths hpaths path hpath
    exact ⟨hcounted.trans path.length_navigations.symm, htold.navigation, htold.containment⟩

/-- The parts of the node after a node have a path under both settings, and it is the same one. -/
theorem cyclicModel_same_path :
    0 ≤ (⟨2, false, false, false⟩ : Settings).maxNavigationDepth ∧
      0 ≤ (⟨3, true, true, true⟩ : Settings).maxNavigationDepth ∧
      ∃ paths paths', cyclicModel.paths ⟨2, false, false, false⟩ = .ok paths ∧
        cyclicModel.paths ⟨3, true, true, true⟩ = .ok paths' ∧
        ∃ path ∈ paths, path ∈ paths' ∧
          path.template = "/nodes/\x7bId\x7d/next/parts/\x7bNode-Id\x7d" ∧
          path.depth = path.navigations.length ∧ path.navigations.length = 2 ∧
          path.containment = true := by
  have hdepth : 0 ≤ (⟨2, false, false, false⟩ : Settings).maxNavigationDepth := by decide
  have hdepth' : 0 ≤ (⟨3, true, true, true⟩ : Settings).maxNavigationDepth := by decide
  have hparts : ∃ path ∈ cyclicModel.allPaths ⟨2, false, false, false⟩,
      path.template = "/nodes/\x7bId\x7d/next/parts/\x7bNode-Id\x7d" ∧
        path.navigations.length = 2 ∧ path.containment = true ∧
        ∃ path' ∈ cyclicModel.allPaths ⟨3, true, true, true⟩,
          path.segments = path'.segments := by decide +kernel
  obtain ⟨paths, paths', hpaths, hpaths', hsame, htold⟩ :=
    same_segments_same_path cyclicModel _ _ hdepth hdepth'
  obtain rfl := Except.ok.inj ((cyclicModel.paths_of_depth hdepth).symm.trans hpaths)
  obtain rfl := Except.ok.inj ((cyclicModel.paths_of_depth hdepth').symm.trans hpaths')
  obtain ⟨path, hpath, htemplate, hlength, hcontainment, path', hpath', hsegments⟩ := hparts
  refine ⟨hdepth, hdepth', _, _, hpaths, hpaths', path, hpath, ?_, htemplate,
    (htold path hpath).1, hlength, hcontainment⟩
  rw [hsame path hpath path' hpath' hsegments]
  exact hpath'

end ODataApi
