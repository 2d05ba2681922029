import ODataApi.Proofs.Path.NavigationPath
import ODataApi.Proofs.Path.Segments

/-!
# Up to the last navigation property

Casts after the last navigation property are no part of a navigation path.  They are looked for
among the names, where a dot tells them from navigation properties, and names of navigation
properties may have a dot too.

What comes after the last navigation property is left out in any case
(`ResourcePath.navigationNames_of_last`).  The name of the property itself stays where there is no
dot in it, and with it everything before it.  Where there is one, the name goes as the casts do, and
so do the names with a dot in front of it (`last_navigation_kept_iff`): the navigation path is then
that of an earlier property, or nothing at all.
-/

namespace ODataApi

/-! ## Lists of names -/

/-- What is left out at the end may be left out one part after the other. -/
theorem rdropWhile_append_of_forall {α : Type} {p : α → Bool} {rest : List α}
    (h : ∀ item ∈ rest, p item = true) (items : List α) :
    (items ++ rest).rdropWhile p = items.rdropWhile p := by
  rw [List.rdropWhile, List.reverse_append,
    List.dropWhile_append_of_pos fun item hitem => h item (List.mem_reverse.mp hitem),
    List.rdropWhile]

theorem length_intercalate_lt {names rest : List String} (hnames : names ≠ []) (hrest : rest ≠ []) :
    ("/".intercalate names).length < ("/".intercalate (names ++ rest)).length := by
  rw [String.intercalate_append_of_ne_nil hnames hrest, String.length_append, String.length_append]
  have hslash : "/".length = 1 := rfl
  omega

theorem intercalate_concat_ne_empty {name : String} (h : name ≠ "") (names : List String) :
    "/".intercalate (names ++ [name]) ≠ "" := by
  cases names with
  | nil =>
      rw [List.nil_append, String.intercalate_singleton]
      exact h
  | cons first names =>
      intro hempty
      have hlt := length_intercalate_lt (List.cons_ne_nil first names) (List.cons_ne_nil name [])
      rw [hempty] at hlt
      exact Nat.not_lt_zero _ hlt

/-- Names are joined in full only if nothing at their end is left out. -/
theorem intercalate_rdropWhile_eq_iff {names : List String} {name : String} :
    "/".intercalate ((names ++ [name]).rdropWhile Name.isQualified)
        = "/".intercalate (names ++ [name])
      ↔ Name.isQualified name = false := by
  rw [List.rdropWhile_concat]
  split
  case isFalse hdot => exact ⟨fun _ => Bool.eq_false_iff.mpr hdot, fun _ => rfl⟩
  case isTrue hdot =>
    refine ⟨fun hjoined => ?_, fun hplain => absurd (hplain.symm.trans hdot) Bool.false_ne_true⟩
    obtain ⟨rest, hrest⟩ := List.rdropWhile_prefix Name.isQualified names
    cases hkept : names.rdropWhile Name.isQualified with
    | nil =>
        have hname : name ≠ "" := by
          rintro rfl
          cases hdot
        rw [hkept, String.intercalate_nil] at hjoined
        exact absurd hjoined.symm (intercalate_concat_ne_empty hname names)
    | cons first kept =>
        -- the slash before the name makes the difference
        have hlt := length_intercalate_lt (List.cons_ne_nil first kept)
          (List.concat_ne_nil name rest)
        rw [hkept] at hrest hjoined
        rw [← List.append_assoc, hrest, ← hjoined] at hlt
        exact absurd hlt (lt_irrefl _)

namespace ResourcePath

variable {m : Model} {path : ResourcePath} {n : NavigationHandle} {before after : List Segment}

/-! ## Names along segments -/

/-- The names of the navigation properties and casts among segments, in order. -/
def namesAlong (m : Model) (segments : List Segment) : List String :=
  segments.filterMap (navigationName? m)

theorem namesAlong_concat :
    namesAlong m (before ++ [.navigation n]) = namesAlong m before ++ [(m.navigation n).name] :=
  List.filterMap_append

theorem isQualified_of_mem_namesAlong {segments : List Segment}
    (h : ∀ segment ∈ segments, segment.navigation? = none) :
    ∀ name ∈ namesAlong m segments, Name.isQualified name = true := by
  intro name hname
  obtain ⟨segment, hsegment, hnamed⟩ := List.mem_filterMap.mp hname
  cases segment with
  | navigation n => exact absurd (h _ hsegment) nofun
  | typeCast t =>
      cases hnamed
      exact Name.isQualified_join
  | _ => cases hnamed

/-- Before a navigation property is the root, which has no name on the navigation path. -/
theorem Rooted.exists_root (h : path.Rooted)
    (hsegments : path.segments = before ++ .navigation n :: after) :
    ∃ root between, before = root :: between ∧
      ∀ segments, namesAlong m (root :: segments) = namesAlong m segments := by
  rw [Rooted, hsegments] at h
  cases before with
  | nil => cases h
  | cons root between =>
      refine ⟨root, between, rfl, fun segments => ?_⟩
      cases root with
      | entitySet | singleton | operationImport => rfl
      | _ => cases h

/-- A path with navigation properties is cut behind the last one. -/
theorem exists_last_navigation (h : path.navigations ≠ []) :
    ∃ before n after, path.segments = before ++ .navigation n :: after ∧
      ∀ segment ∈ after, segment.navigation? = none := by
  obtain ⟨first, n, hlast⟩ := (List.eq_nil_or_concat' path.navigations).resolve_left h
  obtain ⟨before, rest, hsegments, -, hrest⟩ := List.filterMap_eq_append_iff.mp hlast
  obtain ⟨between, segment, after, rfl, -, hsegment, hafter⟩ := List.filterMap_eq_cons_iff.mp hrest
  cases segment with
  | navigation n' =>
      refine ⟨before ++ between, n', after, ?_, List.filterMap_eq_nil_iff.mp hafter⟩
      rw [hsegments, List.append_assoc]
  | _ => cases hsegment

theorem NavigationTold.navigation_of_last (htold : path.NavigationTold m)
    (hsegments : path.segments = before ++ .navigation n :: after)
    (hafter : ∀ segment ∈ after, segment.navigation? = none) : path.navigation = some n := by
  have hnavigations : path.navigations = before.filterMap Segment.navigation? ++ [n] := by
    rw [navigations, hsegments, List.append_cons, List.filterMap_append, List.filterMap_append,
      List.filterMap_eq_nil_iff.mpr hafter, List.append_nil]
    rfl
  rw [htold.navigation, hnavigations, List.getLast?_concat]

/-- What comes after the last navigation property is no part of the navigation path. -/
theorem navigationNames_of_last (hrooted : path.Rooted)
    (hsegments : path.segments = before ++ .navigation n :: after)
    (hafter : ∀ segment ∈ after, segment.navigation? = none) :
    path.navigationNames m =
      (namesAlong m (before ++ [.navigation n])).rdropWhile Name.isQualified := by
  obtain ⟨root, between, rfl, hroot⟩ := hrooted.exists_root (m := m) hsegments
  have htail : path.segments.tail = (between ++ [.navigation n]) ++ after := by
    rw [hsegments, List.cons_append, List.tail_cons, List.append_cons]
  have hnames : namesAlong m path.segments.tail
      = namesAlong m (between ++ [.navigation n]) ++ namesAlong m after := by
    rw [htail]
    exact List.filterMap_append
  rw [navigationNames, ← namesAlong, hnames,
    rdropWhile_append_of_forall (isQualified_of_mem_namesAlong hafter), List.cons_append, hroot]

end ResourcePath

/-! ## The last name -/

/-- The navigation path of a path with navigation properties joins the names of its navigation
properties and casts up to the last navigation property, and leaves out at the end those with a dot
in them.  So it is the path up to the last navigation property exactly where there is no dot in the
name of that. -/
theorem last_navigation_kept_iff (m : Model) (settings : Settings)
    (hdepth : 0 ≤ settings.maxNavigationDepth) :
    ∃ paths, m.paths settings = .ok paths ∧
      ∀ path ∈ paths, path.navigations ≠ [] →
        ∃ before n after, path.segments = before ++ .navigation n :: after ∧
          (∀ segment ∈ after, segment.navigation? = none) ∧
          path.navigation = some n ∧
          path.navigationPath m = "/".intercalate
            ((ResourcePath.namesAlong m (before ++ [.navigation n])).rdropWhile Name.isQualified) ∧
          (path.navigationPath m = "/".intercalate
              (ResourcePath.namesAlong m (before ++ [.navigation n])) ↔
            Name.isQualified (m.navigation n).name = false) := by
  have hpaths := m.paths_of_depth hdepth
  refine ⟨_, hpaths, fun path hpath hnavigations => ?_⟩
  have hcounted := ResourcePath.depthCounted_of_mem_paths hpaths path hpath
  have hrooted := Model.rooted_of_mem_paths hpaths path hpath
  have htold := Model.navigationTold_of_mem_paths hpaths path hpath
  obtain ⟨before, n, after, hsegments, hafter⟩ :=
    ResourcePath.exists_last_navigation hnavigations
  have hne : path.depth ≠ 0 := by
    rw [hcounted, ← ResourcePath.length_navigations]
    exact mt List.length_eq_zero_iff.mp hnavigations
  rw [ResourcePath.navigationPath_eq hne,
    ResourcePath.navigationNames_of_last hrooted hsegments hafter]
  refine ⟨before, n, after, hsegments, hafter, htold.navigation_of_last hsegments hafter, rfl, ?_⟩
  rw [ResourcePath.namesAlong_concat]
  exact intercalate_rdropWhile_eq_iff

/-- A box with a tray in it, and the lid of the tray under a name with a dot. -/
def boxDocument : Document where
  ns := "A"
  entityTypes := [
    { name := "Box", navigationProperties := [{ name := "inner", type := "Tray" }] },
    { name := "Tray", navigationProperties := [{ name := "the.lid", type := "Lid" }] },
    { name := "Lid" }]
  containers := [{ name := "C", singletons := [{ name := "Box", type := "Box" }] }]

/-- The model of `boxDocument`. -/
def boxModel : Model := boxDocument.loaded ⟨0⟩

/-- The path to the lid has the navigation path of the tray, which is not the path up to the lid. -/
theorem boxModel_lid :
    boxDocument.resolve ⟨0⟩ = .ok boxModel ∧
      0 ≤ (⟨2, true, true, true⟩ : Settings).maxNavigationDepth ∧
      ∃ paths, boxModel.paths ⟨2, true, true, true⟩ = .ok paths ∧ ∃ path ∈ paths,
        path.template = "/Box/inner/the.lid" ∧ path.navigations ≠ [] ∧
        path.navigationPath boxModel = "inner" ∧
        ∃ before n after, path.segments = before ++ .navigation n :: after ∧
          (∀ segment ∈ after, segment.navigation? = none) ∧
          (boxModel.navigation n).name = "the.lid" ∧
          path.navigationPath boxModel ≠
            "/".intercalate (ResourcePath.namesAlong boxModel (before ++ [.navigation n])) := by
  have hdepth : 0 ≤ (⟨2, true, true, true⟩ : Settings).maxNavigationDepth := by decide
  have hlid : ∃ path ∈ boxModel.allPaths ⟨2, true, true, true⟩,
      path.template = "/Box/inner/the.lid" ∧ path.navigations ≠ [] ∧
        path.navigationPath boxModel = "inner" ∧ path.navigation = some ⟨⟨1⟩, 0⟩ := by
    decide +kernel
  obtain ⟨paths, hpaths, hall⟩ := last_navigation_kept_iff boxModel _ hdepth
  obtain rfl := Except.ok.inj ((boxModel.paths_of_depth hdepth).symm.trans hpaths)
  obtain ⟨path, hpath, htemplate, hnavigations, hname, hlid⟩ := hlid
  obtain ⟨before, n, after, hsegments, hafter, hn, -, hkept⟩ := hall path hpath hnavigations
  obtain rfl := Option.some.inj (hlid.symm.trans hn)
  refine ⟨rfl, hdepth, _, hpaths, path, hpath, htemplate, hnavigations, hname, before, _, after,
    hsegments, hafter, rfl, ?_⟩
  intro hjoined
  exact absurd (hkept.mp hjoined) (by decide)

end ODataApi
