import ODataApi.Proofs.Path.LastNavigation

/-!
# What a path is bound to

A set or singleton binds navigation paths.  Of a path that follows one navigation property two
things are of interest: its binding, which is looked up when the property is followed and carried
on behind it, and its navigation path, which is read off its segments.

* The binding is what the root binds to the name of the property alone (`BindingTold`).  The
  invariant says what it is for any number of properties.
* The navigation path has the casts before the property too (`navigationNames_of_navigations`), and
  it is the name alone only where there are none (`navigationPath_eq_name_iff`).

So a root that binds a path with a cast in it binds it in vain.
-/

namespace ODataApi

namespace ResourcePath

variable {settings : Settings} {m : Model} {path child : ResourcePath} {n : NavigationHandle}

/-! ## The binding -/

/-- What the root binds to the name of the only navigation property that is followed. -/
def onlyBinding? (m : Model) (path : ResourcePath) : Option Element :=
  match path.navigations with
  | [n] => m.navigationBinding? path.root (m.navigation n).name
  | _ => none

/-- Unless a path ends with a bound operation, its binding is that of its only navigation
property. -/
def BindingTold (m : Model) (path : ResourcePath) : Prop :=
  path.kind ≠ .operation → path.binding = path.onlyBinding? m

theorem BindingTold.push (h : path.BindingTold m) (hkind : path.kind ≠ .operation)
    (segment : Segment) (hsegments : child.segments = path.segments ++ [segment])
    (hother : segment.navigation? = none) (hroot : child.root = path.root)
    (hbinding : child.binding = path.binding) : child.BindingTold m := by
  have hsame : child.navigations = path.navigations := by
    rw [navigations_append hsegments, hother, Option.toList_none, List.append_nil]
  intro _
  rw [hbinding, h hkind, onlyBinding?, onlyBinding?, hsame, hroot]

theorem withNavigation_bindingTold (hcounted : path.DepthCounted) (n : NavigationHandle) :
    (path.withNavigation m n).BindingTold m := by
  intro _
  have hsegments : (path.withNavigation m n).segments = path.segments ++ [.navigation n] := rfl
  have hnavigations : (path.withNavigation m n).navigations = path.navigations ++ [n] :=
    navigations_append hsegments
  have hdepth : path.depth = path.navigations.length := by
    rw [length_navigations]
    exact hcounted
  rw [onlyBinding?, hnavigations]
  cases hbefore : path.navigations with
  | nil =>
      rw [hbefore] at hdepth
      exact if_pos hdepth
  | cons first rest =>
      rw [hbefore] at hdepth
      have hne : path.depth ≠ 0 := by
        rw [hdepth]
        exact Nat.succ_ne_zero _
      cases rest with
      | nil => exact if_neg hne
      | cons => exact if_neg hne

/-- A path that goes on does not end with an operation. -/
theorem Ended.kind_ne_operation (h : path.Ended m) (hlast : path.isTerminal = false) :
    path.kind ≠ .operation := by
  intro hkind
  cases h with
  | @operation o hfound =>
      rw [isTerminal, hfound] at hlast
      cases hlast
  | entitySet _ hother | singleton _ hother | key _ hother | typeCast _ hother
  | operationImport _ hother | count _ hother | navigation _ hother | ref _ _ hother =>
      exact absurd (hkind.symm.trans hother) (by decide)

theorem BindingTold.follows (h : path.BindingTold m) (hcounted : path.DepthCounted)
    (hkind : path.kind ≠ .operation) (hfollow : Follows settings m path child) :
    child.BindingTold m := by
  cases hfollow with
  | key _ _ hkey =>
      obtain ⟨t, names, _, _, -, rfl⟩ := withKey?_eq_some hkey
      exact h.push hkind (.key t names) rfl rfl rfl rfl
  | navigation => exact withNavigation_bindingTold hcounted _
  | typeCast | count | ref => exact h.push hkind _ rfl rfl rfl rfl
  | operation =>
      intro hother
      exact absurd (call_kind _ _) hother

theorem bindingTold_of_mem_rootPaths {c : ContainerHandle} (h : path ∈ m.rootPaths c) :
    path.BindingTold m := by
  intro _
  rcases Model.mem_rootPaths.mp h with (⟨s, -, rfl⟩ | ⟨s, -, rfl⟩) | ⟨i, -, rfl⟩
  · rfl
  · rfl
  · rw [onlyBinding?, ofImport_navigations]
    exact call_binding _ _

end ResourcePath

namespace Model

variable {settings : Settings} {m : Model} {paths : List ResourcePath}

theorem bindingTold_of_mem_paths (h : m.paths settings = .ok paths) :
    ∀ path ∈ paths, path.BindingTold m := by
  intro path hpath
  refine (paths_forall
    (P := fun path => path.Ended m ∧ path.DepthCounted ∧ path.BindingTold m) ?_ ?_ h path hpath).2.2
  · intro c hc path hpath
    exact ⟨ResourcePath.ended_of_mem_rootPaths hpath,
      ResourcePath.depthCounted_of_mem_rootPaths hpath,
      ResourcePath.bindingTold_of_mem_rootPaths hpath⟩
  · rintro path child ⟨hended, hcounted, htold⟩ hlast hfollow
    exact ⟨hended.follows hfollow, hcounted.follows hfollow,
      htold.follows hcounted (hended.kind_ne_operation hlast) hfollow⟩

end Model

namespace ResourcePath

variable {m : Model} {path : ResourcePath} {n : NavigationHandle}

/-! ## The navigation path -/

/-- The casts before the first navigation property, as navigation paths write them. -/
def leadingCasts (m : Model) (path : ResourcePath) : List String :=
  (path.segments.tail.takeWhile fun segment => !segment.isNavigation).filterMap (navigationName? m)

/-- A path with one navigation property is cut at it. -/
theorem exists_segments_of_navigations (h : path.navigations = [n]) :
    ∃ before after, path.segments = before ++ .navigation n :: after ∧
      (∀ segment ∈ before, segment.navigation? = none) ∧
      ∀ segment ∈ after, segment.navigation? = none := by
  obtain ⟨before, segment, after, hsegments, hbefore, hsegment, hafter⟩ :=
    List.filterMap_eq_cons_iff.mp h
  cases segment with
  | navigation n' =>
      cases hsegment
      exact ⟨before, after, hsegments, hbefore, List.filterMap_eq_nil_iff.mp hafter⟩
  | _ => cases hsegment

theorem leadingCasts_eq (hrooted : path.Rooted) {before after : List Segment}
    (hsegments : path.segments = before ++ .navigation n :: after)
    (hbefore : ∀ segment ∈ before, segment.navigation? = none) :
    path.leadingCasts m = namesAlong m before := by
  obtain ⟨root, between, rfl, hroot⟩ := hrooted.exists_root (m := m) hsegments
  have hpass : ∀ segment ∈ between, (!segment.isNavigation) = true := by
    intro segment hsegment
    rw [segment.isNavigation_eq, hbefore segment (List.mem_cons_of_mem _ hsegment)]
    rfl
  rw [leadingCasts, hsegments, List.cons_append, List.tail_cons,
    List.takeWhile_append_of_pos hpass,
    List.takeWhile_cons_of_neg (by simp [Segment.isNavigation]), List.append_nil, hroot, namesAlong]

theorem navigationNames_of_navigations (hrooted : path.Rooted) (h : path.navigations = [n]) :
    path.navigationNames m =
      if Name.isQualified (m.navigation n).name then []
      else path.leadingCasts m ++ [(m.navigation n).name] := by
  obtain ⟨before, after, hsegments, hbefore, hafter⟩ := exists_segments_of_navigations h
  rw [navigationNames_of_last hrooted hsegments hafter, namesAlong_concat, List.rdropWhile_concat,
    leadingCasts_eq hrooted hsegments hbefore]
  split
  case isTrue =>
    -- all names before the property are casts
    exact rdropWhile_append_of_forall (isQualified_of_mem_namesAlong hbefore) []
  case isFalse => rfl

/-- The navigation path of a path with one navigation property. -/
theorem navigationPath_of_navigations (hcounted : path.DepthCounted) (hrooted : path.Rooted)
    (h : path.navigations = [n]) :
    path.navigationPath m =
      if Name.isQualified (m.navigation n).name then ""
      else "/".intercalate (path.leadingCasts m ++ [(m.navigation n).name]) := by
  have hdepth : path.depth ≠ 0 := by
    rw [hcounted, ← length_navigations, h]
    exact Nat.one_ne_zero
  rw [navigationPath_eq hdepth, navigationNames_of_navigations hrooted h]
  split
  case isTrue => exact String.intercalate_nil
  case isFalse => rfl

/-- Only a name without casts before it and without a dot in it is a navigation path. -/
theorem navigationPath_eq_name_iff (hcounted : path.DepthCounted) (hrooted : path.Rooted)
    (h : path.navigations = [n]) :
    path.navigationPath m = (m.navigation n).name ↔
      path.leadingCasts m = [] ∧ Name.isQualified (m.navigation n).name = false := by
  rw [navigationPath_of_navigations hcounted hrooted h]
  split
  case isTrue hdot =>
    refine ⟨fun hname => ?_, fun hplain => ?_⟩
    · rw [← hname] at hdot
      cases hdot
    · rw [hplain.2] at hdot
      cases hdot
  case isFalse hdot =>
    cases hcasts : path.leadingCasts m with
    | nil => simpa using hdot
    | cons cast casts =>
        refine ⟨fun hname => ?_, fun hplain => absurd hplain.1 (List.cons_ne_nil _ _)⟩
        -- the casts and a slash are in front of the name
        have hlength := congrArg String.length hname
        rw [String.intercalate_append_of_ne_nil (List.cons_ne_nil _ _) (List.cons_ne_nil _ _),
          String.intercalate_singleton, String.length_append, String.length_append] at hlength
        have hslash : "/".length = 1 := rfl
        omega

end ResourcePath

/-! ## Bindings of paths with casts -/

/-- A path that follows one navigation property is bound to what its root binds to the name of the
property.  Its navigation path has the casts before the property in front of the name, and nothing
at all if there is a dot in the name.  So the root binds the navigation path to the same element
where there is neither; elsewhere the binding is looked up under another path. -/
theorem binding_passes_over_casts (m : Model) (settings : Settings)
    (hdepth : 0 ≤ settings.maxNavigationDepth) :
    ∃ paths, m.paths settings = .ok paths ∧
      ∀ path ∈ paths, path.depth = 1 → path.kind ≠ .operation →
        ∃ n, path.navigation = some n ∧
          path.binding = m.navigationBinding? path.root (m.navigation n).name ∧
          path.navigationPath m =
            (if Name.isQualified (m.navigation n).name then ""
              else "/".intercalate (path.leadingCasts m ++ [(m.navigation n).name])) ∧
          (path.navigationPath m = (m.navigation n).name ↔
            path.leadingCasts m = [] ∧ Name.isQualified (m.navigation n).name = false) ∧
          (path.leadingCasts m = [] → Name.isQualified (m.navigation n).name = false →
            path.binding = m.navigationBinding? path.root (path.navigationPath m)) := by
  have hpaths := m.paths_of_depth hdepth
  refine ⟨_, hpaths, fun path hpath hone hkind => ?_⟩
  have hcounted := ResourcePath.depthCounted_of_mem_paths hpaths path hpath
  have hrooted := Model.rooted_of_mem_paths hpaths path hpath
  have htold := Model.navigationTold_of_mem_paths hpaths path hpath
  have hbinding := Model.bindingTold_of_mem_paths hpaths path hpath hkind
  obtain ⟨n, hn⟩ : ∃ n, path.navigations = [n] := by
    rw [← List.length_eq_one_iff, ResourcePath.length_navigations, ← hcounted]
    exact hone
  rw [ResourcePath.onlyBinding?, hn] at hbinding
  have hname := ResourcePath.navigationPath_eq_name_iff (m := m) hcounted hrooted hn
  refine ⟨n, ?_, hbinding, ResourcePath.navigationPath_of_navigations hcounted hrooted hn, hname,
    fun hcasts hplain => ?_⟩
  · rw [htold.navigation, hn]
    rfl
  · rw [hname.mpr ⟨hcasts, hplain⟩]
    exact hbinding

/-- A singleton that binds the manager of employees, who are some of the persons. -/
def staffDocument : Document where
  ns := "A"
  entityTypes := [
    { name := "Person" },
    { name := "Employee", base := some "Person",
      navigationProperties := [{ name := "manager", type := "Person" }] }]
  containers := [
    { name := "C",
      singletons := [
        { name := "Me", type := "Person", bindings := [("A.Employee/manager", "Boss")] },
        { name := "Boss", type := "Person" }] }]

/-- The model of `staffDocument`. -/
def staffModel : Model := staffDocument.loaded ⟨0⟩

/-- The singleton binds the navigation path of its manager, but the path there has no binding. -/
theorem staffModel_binding :
    staffDocument.resolve ⟨0⟩ = .ok staffModel ∧
      0 ≤ (⟨1, true, true, true⟩ : Settings).maxNavigationDepth ∧
      ∃ paths, staffModel.paths ⟨1, true, true, true⟩ = .ok paths ∧ ∃ path ∈ paths,
        path.template = "/Me/A.Employee/manager" ∧ path.depth = 1 ∧ path.kind ≠ .operation ∧
        path.navigationPath staffModel = "A.Employee/manager" ∧ path.binding = none ∧
        staffModel.navigationBinding? path.root (path.navigationPath staffModel)
          = some (.singleton ⟨1⟩) := by
  have hdepth : 0 ≤ (⟨1, true, true, true⟩ : Settings).maxNavigationDepth := by decide
  have hmanager : ∃ path ∈ staffModel.allPaths ⟨1, true, true, true⟩,
      path.template = "/Me/A.Employee/manager" ∧ path.depth = 1 ∧ path.kind ≠ .operation ∧
        path.navigation = some ⟨⟨1⟩, 0⟩ ∧ path.leadingCasts staffModel = ["A.Employee"] ∧
        path.root = .singleton ⟨0⟩ := by decide +kernel
  obtain ⟨paths, hpaths, hall⟩ := binding_passes_over_casts staffModel _ hdepth
  obtain rfl := Except.ok.inj ((staffModel.paths_of_depth hdepth).symm.trans hpaths)
  obtain ⟨path, hpath, htemplate, hone, hkind, hmanager, hcasts, hroot⟩ := hmanager
  obtain ⟨n, hn, hbinding, hname, -, -⟩ := hall path hpath hone hkind
  obtain rfl := Option.some.inj (hmanager.symm.trans hn)
  rw [hcasts] at hname
  rw [hroot] at hbinding
  refine ⟨rfl, hdepth, _, hpaths, path, hpath, htemplate, hone, hkind, hname, hbinding, ?_⟩
  rw [hroot, hname]
  rfl

end ODataApi
