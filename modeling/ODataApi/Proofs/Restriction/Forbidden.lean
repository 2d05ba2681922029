import ODataApi.Proofs.Path.NavigationPath
import ODataApi.Proofs.Restriction.Context

/-!
# Below forbidden navigation

A navigability forbids no less on longer paths (`Navigability.allowsDepth_of_le`), so what an
element forbids with its own navigability or with the entry of a first part stays forbidden on
every path below that has no entry of its own.

The entry of a path of several parts speaks of that path alone.  Below it the first part and the
element decide again (`forbidden_below_iff`), and they may allow what goes on from a forbidden path
(`linkedModel_allows_below_forbidden`).
-/

namespace ODataApi

theorem Navigability.allowsDepth_of_le {navigability : Navigability} {depth deeper : Nat}
    (hle : depth ≤ deeper) (h : navigability.allowsDepth depth = false) :
    navigability.allowsDepth deeper = false := by
  cases navigability with
  | recursive => cases h
  | single =>
      rw [allowsDepth, decide_eq_false_iff_not] at h ⊢
      omega
  | none => rfl

namespace NavigationRestrictions

variable {r : NavigationRestrictions} {start path : String} {depth deeper : Nat}

/-- The navigability of a path whose own entry states none: what the entry of its first part
states, else that of the element. -/
def inherited (r : NavigationRestrictions) (path : String) : Navigability :=
  (r.statedFor? (head path)).getD r.effectiveNavigability

theorem allowsPath_eq :
    r.allowsPath path depth = ((r.statedFor? path).getD (r.inherited path)).allowsDepth depth := by
  rw [allowsPath, inherited]
  cases r.statedFor? path with
  | none => rfl
  | some navigability => rfl

theorem statedFor?_eq_none (h : ∀ entry ∈ r.entries, entry.navigationProperty ≠ path) :
    r.statedFor? path = none := by
  have hentry : r.entry? path = none :=
    List.find?_eq_none.mpr fun entry hmem => by simpa using h entry hmem
  rw [statedFor?, hentry, Option.bind_none]

theorem allowsPath_of_le (hle : depth ≤ deeper) (h : r.allowsPath path depth = false) :
    r.allowsPath path deeper = false := by
  rw [allowsPath_eq] at h ⊢
  exact Navigability.allowsDepth_of_le hle h

section

variable (hbegins : start = "" ∨ Begins start path)
  (hsilent : ∀ part, Begins part path → start.length < part.length → r.statedFor? part = none)

include hbegins

theorem eq_or_length_lt_of_begins : start = path ∨ start.length < path.length := by
  obtain rfl | hbegins := hbegins
  · by_cases hpath : path = ""
    · exact Or.inl hpath.symm
    · exact Or.inr (Nat.pos_of_ne_zero fun h => hpath (String.length_eq_zero_iff.mp h))
  · exact hbegins.eq_or_length_lt

include hsilent

/-- Paths with the same first part inherit the same. -/
theorem inherited_eq_of_begins (hstart : r.statedFor? start = none) :
    r.inherited path = r.inherited start := by
  obtain rfl | hbegins := hbegins
  · have hhead : r.statedFor? (head path) = none := by
      by_cases hempty : head path = ""
      · rw [hempty]
        exact hstart
      · refine hsilent _ (Begins.head path) (Nat.pos_of_ne_zero fun h => ?_)
        exact hempty (String.length_eq_zero_iff.mp h)
    rw [inherited, inherited, hhead]
    exact congrArg (Option.getD · _) hstart.symm
  · rw [inherited, inherited, hbegins.head_eq]

/-- If the longer initial parts of a path state nothing, the path is forbidden below a forbidden
one as soon as that one is forbidden by more than an entry for several parts. -/
theorem allowsPath_eq_false_iff (hle : depth ≤ deeper) (h : r.allowsPath start depth = false) :
    r.allowsPath path deeper = false ↔
      r.statedFor? start = none ∨ start = head path ∨ start = path ∨
        (r.inherited path).allowsDepth deeper = false := by
  obtain rfl | hlength := eq_or_length_lt_of_begins hbegins
  · exact ⟨fun _ => Or.inr (Or.inr (Or.inl rfl)), fun _ => allowsPath_of_le hle h⟩
  have hpath : r.allowsPath path deeper = (r.inherited path).allowsDepth deeper := by
    rw [allowsPath_eq, hsilent path (Begins.refl path) hlength, Option.getD_none]
  rw [hpath]
  refine ⟨fun hrefused => Or.inr (Or.inr (Or.inr hrefused)), ?_⟩
  rw [allowsPath_eq] at h
  rintro (hstart | rfl | rfl | hrefused)
  · rw [hstart, Option.getD_none] at h
    rw [inherited_eq_of_begins hbegins hsilent hstart]
    exact Navigability.allowsDepth_of_le hle h
  · -- the entry of the first part is the one that forbids it, or else the element does
    rw [inherited, (Begins.head path).head_eq.symm] at h
    rw [inherited]
    refine Navigability.allowsDepth_of_le hle ?_
    cases hhead : r.statedFor? (head path) with
    | none =>
        rw [hhead] at h
        exact h
    | some navigability =>
        rw [hhead] at h
        exact h
  · exact absurd hlength (Nat.lt_irrefl _)
  · exact hrefused

end

end NavigationRestrictions

/-! ## Paths of a model -/

/-- A path that goes on from a forbidden one, with nothing stated for the parts in between, is
forbidden if and only if the entry of the forbidden path states nothing itself, is that of the first
part or of the whole path, or what the longer path inherits forbids it. -/
theorem forbidden_below_iff (r : NavigationRestrictions) {m : Model} {settings : Settings}
    {paths : List ResourcePath} {path below : ResourcePath}
    (h : m.paths settings = .ok paths) (hpath : path ∈ paths) (hmem : below ∈ paths)
    (hbelow : path.segments <+: below.segments) (hdepth : path.depth ≠ 0)
    (hforbidden : r.allowsPath (path.navigationPath m) path.depth = false)
    (hsilent : ∀ part, Begins part (below.navigationPath m) →
      (path.navigationPath m).length < part.length → r.statedFor? part = none) :
    r.allowsPath (below.navigationPath m) below.depth = false ↔
      r.statedFor? (path.navigationPath m) = none ∨
        path.navigationPath m = NavigationRestrictions.head (below.navigationPath m) ∨
        path.navigationPath m = below.navigationPath m ∨
        (r.inherited (below.navigationPath m)).allowsDepth below.depth = false := by
  have hcounted := ResourcePath.depthCounted_of_mem_paths h path hpath
  have hle := hcounted.depth_le (ResourcePath.depthCounted_of_mem_paths h below hmem) hbelow
  have hbegins := ResourcePath.begins_navigationPath (m := m) hbelow
    (hcounted.segments_ne_nil hdepth) hdepth (by omega)
  exact NavigationRestrictions.allowsPath_eq_false_iff hbegins hsilent hle hforbidden

/-- Someone with a friend, who has a friend.  The friend of the friend is out of reach. -/
def linkedDocument : Document where
  ns := "A"
  entityTypes := [
    { name := "Person", navigationProperties := [
        { name := "friend", type := "Person", containsTarget := true }] }]
  containers := [{ name := "C", singletons := [{ name := "Me", type := "Person" }] }]
  annotations := [
    ⟨"A.C/Me", "Org.OData.Capabilities.V1.NavigationRestrictions",
      .record none [("RestrictedProperties", .collection [
        .record none [("NavigationProperty", .path "friend/friend"),
          ("Navigability", .enumMember "None")]])]⟩]

/-- The model of `linkedDocument`. -/
def linkedModel : Model := linkedDocument.loaded ⟨0⟩

/-- A path of `linkedModel` along so many friends. -/
def linkedPath (friends : Nat) : ResourcePath :=
  (List.replicate friends ⟨⟨0⟩, 0⟩).foldl (ResourcePath.withNavigation linkedModel)
    (.ofSingleton linkedModel ⟨0⟩)

/-- An entry that forbids the friend forbids the friends behind. -/
theorem linkedModel_forbidden_below :
    ∃ (r : NavigationRestrictions) (paths : List ResourcePath),
      linkedModel.paths { maxNavigationDepth := 3 } = .ok paths ∧
        linkedPath 1 ∈ paths ∧ linkedPath 3 ∈ paths ∧
        (linkedPath 1).segments <+: (linkedPath 3).segments ∧ (linkedPath 1).depth ≠ 0 ∧
        r.allowsPath ((linkedPath 1).navigationPath linkedModel) (linkedPath 1).depth = false ∧
        r.allowsPath ((linkedPath 3).navigationPath linkedModel) (linkedPath 3).depth = false := by
  let r : NavigationRestrictions :=
    { restrictedProperties := some [
        { navigationProperty := "friend", navigability := some .none }] }
  have hpaths : linkedModel.paths { maxNavigationDepth := 3 } = .ok
      (linkedModel.containerHandles.flatMap
        (linkedModel.containerPaths { maxNavigationDepth := 3 })) :=
    linkedModel.paths_eq_flatMap (by decide)
  have hpath : linkedPath 1 ∈ linkedModel.containerHandles.flatMap
      (linkedModel.containerPaths { maxNavigationDepth := 3 }) := by decide +kernel
  have hmem : linkedPath 3 ∈ linkedModel.containerHandles.flatMap
      (linkedModel.containerPaths { maxNavigationDepth := 3 }) := by decide +kernel
  have hbelow : (linkedPath 1).segments <+: (linkedPath 3).segments := by decide +kernel
  have hname : (linkedPath 1).navigationPath linkedModel = "friend" := by decide +kernel
  have hforbidden : r.allowsPath ((linkedPath 1).navigationPath linkedModel)
      (linkedPath 1).depth = false := by decide +kernel
  have hsilent : ∀ part, Begins part ((linkedPath 3).navigationPath linkedModel) →
      ((linkedPath 1).navigationPath linkedModel).length < part.length →
        r.statedFor? part = none := by
    intro part _ hlength
    rw [hname] at hlength
    refine NavigationRestrictions.statedFor?_eq_none fun entry hentry => ?_
    obtain rfl := List.mem_singleton.mp hentry
    rintro rfl
    exact absurd hlength (Nat.lt_irrefl _)
  exact ⟨r, _, hpaths, hpath, hmem, hbelow, by decide, hforbidden,
    (forbidden_below_iff r hpaths hpath hmem hbelow (by decide) hforbidden hsilent).mpr
      (Or.inr (Or.inl (by decide +kernel)))⟩

/-- The only entry forbids the friend of the friend.  Nothing is stated for paths further on, and
the friend behind that one can be read. -/
theorem linkedModel_allows_below_forbidden :
    linkedDocument.resolve ⟨0⟩ = .ok linkedModel ∧
      ∃ (r : NavigationRestrictions) (paths : List ResourcePath),
        linkedModel.effective .navigationRestrictions (linkedPath 2).root = r ∧
        linkedModel.paths { maxNavigationDepth := 3 } = .ok paths ∧
        linkedPath 2 ∈ paths ∧ linkedPath 3 ∈ paths ∧
        (linkedPath 2).segments <+: (linkedPath 3).segments ∧ (linkedPath 2).depth ≠ 0 ∧
        r.allowsPath ((linkedPath 2).navigationPath linkedModel) (linkedPath 2).depth = false ∧
        (∀ entry ∈ r.entries,
          entry.navigationProperty = (linkedPath 2).navigationPath linkedModel) ∧
        (linkedPath 2).navigationPath linkedModel ≠ (linkedPath 3).navigationPath linkedModel ∧
        r.allowsPath ((linkedPath 3).navigationPath linkedModel) (linkedPath 3).depth = true ∧
        (linkedModel.queryEndpoints (linkedPath 3)).value ≠ [] := by
  have hpaths : linkedModel.paths { maxNavigationDepth := 3 } = .ok
      (linkedModel.containerHandles.flatMap
        (linkedModel.containerPaths { maxNavigationDepth := 3 })) :=
    linkedModel.paths_eq_flatMap (by decide)
  refine ⟨rfl, _, _, rfl, hpaths, ?_⟩
  simp only [Model.effective_eq, ne_eq, ← List.length_eq_zero_iff]
  decide +kernel

end ODataApi
