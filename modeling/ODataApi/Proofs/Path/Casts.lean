import ODataApi.Proofs.Path.Segments

/-!
# Casts and what they add

A path with a cast goes on with what the derived type has and the type before the cast has not.
So the path and its cast together go on with what the derived type has, and with nothing twice
(`cast_completes`).  That rests on what types inherit: the navigation properties of a type begin
with those of its base types, and operations bound to a type are bound to the types that inherit
from it.

What follows a path is read off the paths of the model: those that have its segments and one more
(`ResourcePath.nextAmong`).
-/

namespace ODataApi

/-- The operation that a segment calls on a resource. -/
def Segment.operation? : Segment → Option OperationHandle
  | operation o => some o
  | _ => none

/-! ## What follows a path -/

namespace ResourcePath

/-- The segments by which some paths go on from a path, in the order of the paths. -/
def nextAmong (paths : List ResourcePath) (path : ResourcePath) : List Segment :=
  (paths.filter fun child => child.segments.dropLast == path.segments).filterMap
    (·.segments.getLast?)

/-- The navigation properties by which paths go on. -/
def navigationsAmong (paths : List ResourcePath) (path : ResourcePath) : List NavigationHandle :=
  (path.nextAmong paths).filterMap Segment.navigation?

/-- The operations by which paths go on. -/
def operationsAmong (paths : List ResourcePath) (path : ResourcePath) : List OperationHandle :=
  (path.nextAmong paths).filterMap Segment.operation?

end ResourcePath

namespace Model

variable {settings : Settings} {m : Model} {paths : List ResourcePath} {path : ResourcePath}

/-- The paths of a container are its roots and the paths below its paths. -/
theorem containerPaths_eq_append (hm : m.Hierarchical) (c : ContainerHandle) :
    m.containerPaths settings c
      = m.rootPaths c ++ (m.containerPaths settings c).flatMap
          (ResourcePath.children settings m) := by
  rw [containerPaths, Settings.levels_eq_levelsBelow, ← levelsBelow_succ_eq_append]
  exact (levelsBelow_eq_of_le (Nat.le_succ _) fun k hk => levelBelow_eq_nil hm hk).symm

/-- The paths one segment longer than a path of a model are the paths below it. -/
theorem WellFormed.filter_eq_children (hm : m.WellFormed) (h : m.paths settings = .ok paths)
    (hpath : path ∈ paths) :
    (paths.filter fun child => child.segments.dropLast == path.segments)
      = path.children settings m := by
  have hne := (retraced_of_mem_paths h path hpath).segments_ne_nil
  obtain ⟨-, rfl⟩ := paths_eq_ok h
  -- nothing stands before the only segment of a root
  have hroots : ∀ c, (m.rootPaths c).filter
      (fun child => child.segments.dropLast == path.segments) = [] := by
    intro c
    refine List.filter_eq_nil_iff.mpr fun child hchild => ?_
    obtain ⟨root, -, hsegments⟩ := ResourcePath.exists_root_of_mem_rootPaths hchild
    rw [hsegments, beq_iff_eq]
    exact fun heq => hne heq.symm
  have hcontainer : ∀ c, (m.containerPaths settings c).filter
      (fun child => child.segments.dropLast == path.segments)
      = ((m.containerPaths settings c).flatMap (ResourcePath.children settings m)).filter
          fun child => child.segments.dropLast == path.segments := by
    intro c
    conv_lhs => rw [containerPaths_eq_append hm.toHierarchical c]
    rw [List.filter_append, hroots, List.nil_append]
  rw [List.filter_flatMap]
  simp only [hcontainer]
  rw [← List.filter_flatMap, ← List.flatMap_assoc]
  exact filter_parent_eq (f := ResourcePath.segments) (p := List.dropLast)
    (fun _ _ => ResourcePath.dropLast_segments_of_mem_children) hm.paths_segments_nodup hpath

theorem WellFormed.nextAmong_eq (hm : m.WellFormed) (h : m.paths settings = .ok paths)
    (hpath : path ∈ paths) : path.nextAmong paths = path.nextSegments settings m := by
  have hlast := congrArg (List.filterMap List.getLast?)
    (ResourcePath.children_segments settings m path)
  rw [ResourcePath.nextAmong, hm.filter_eq_children h hpath]
  rw [List.filterMap_map, List.filterMap_map] at hlast
  simp only [Function.comp_def, List.getLast?_concat, List.filterMap_some] at hlast
  exact hlast

end Model

/-! ## Kind by kind -/

namespace ResourcePath

variable {settings : Settings} {m : Model} {path child : ResourcePath} {t u : EntityTypeHandle}

theorem navigations_nextSegments (hlast : path.isTerminal = false)
    (ht : path.entityType = some t) :
    (path.nextSegments settings m).filterMap Segment.navigation?
      = if !path.collection && path.depth < settings.navigationDepth then
          path.notInherited m.navigationProperties t
        else [] := by
  rw [nextSegments, hlast, ht]
  simp [keySegments, navigationSegments, castSegments, operationSegments, countSegments,
    refSegments, apply_ite (List.filterMap Segment.navigation?), List.filterMap_cons,
    Function.comp_def, Segment.navigation?]

theorem operations_nextSegments (hlast : path.isTerminal = false)
    (ht : path.entityType = some t) :
    (path.nextSegments settings m).filterMap Segment.operation?
      = if settings.operationPaths then
          path.notInherited (fun u => m.boundOperations u path.collection) t
        else [] := by
  rw [nextSegments, hlast, ht]
  simp [keySegments, navigationSegments, castSegments, operationSegments, countSegments,
    refSegments, apply_ite (List.filterMap Segment.operation?), List.filterMap_cons,
    Function.comp_def, Segment.operation?]

/-- A path below a path with a cast more is the path as the derived type. -/
theorem cast_of_mem_children (h : child ∈ path.children settings m)
    (hsegments : child.segments = path.segments ++ [.typeCast u]) :
    ∃ t, path.entityType = some t ∧ path.isTerminal = false ∧ path.isCast = false ∧
      u ∈ m.derivedTypes t ∧ child = path.withCast m u := by
  obtain ⟨hlast, hfollow⟩ := follows_of_mem_children h
  -- only a cast ends with this segment
  have hother : ∀ segment : Segment, segment ≠ .typeCast u →
      child.segments ≠ path.segments ++ [segment] := by
    intro segment hne heq
    exact hne (List.singleton_inj.mp (List.append_cancel_left (heq.symm.trans hsegments)))
  cases hfollow with
  | key _ _ hkey =>
      obtain ⟨t, names, _, _, -, rfl⟩ := withKey?_eq_some hkey
      exact absurd rfl (hother (.key t names) nofun)
  | navigation => exact absurd rfl (hother _ nofun)
  | typeCast ht _ hcast hu =>
      obtain rfl := Segment.typeCast.inj
        (List.singleton_inj.mp (List.append_cancel_left hsegments))
      exact ⟨_, ht, hlast, hcast, hu, rfl⟩
  | operation => exact absurd (withOperation_segments _) (hother _ nofun)
  | count => exact absurd rfl (hother _ nofun)
  | ref => exact absurd rfl (hother _ nofun)

theorem notInherited_of_not_isCast {α : Type} [BEq α] (offered : EntityTypeHandle → List α)
    (hcast : path.isCast = false) : path.notInherited offered t = offered t := by
  rw [notInherited, hcast]

theorem notInherited_withCast {α : Type} [BEq α] (offered : EntityTypeHandle → List α)
    (ht : path.entityType = some t) :
    (path.withCast m u).notInherited offered u
      = (offered u).filter fun x => !(offered t).contains x := by
  simp [notInherited, withCast, push, isCast, ht]

theorem isTerminal_withCast : (path.withCast m u).isTerminal = false := by
  simp [withCast, push, isTerminal, Segment.isTerminal]

end ResourcePath

/-! ## A type and what it adds -/

section

variable {α : Type} [BEq α] [LawfulBEq α] {inherited offered : List α}

theorem append_filter_of_isPrefix (h : inherited <+: offered) (hnodup : offered.Nodup) :
    (inherited ++ offered.filter fun x => !inherited.contains x) = offered := by
  obtain ⟨own, rfl⟩ := h
  have hdisjoint := List.disjoint_of_nodup_append hnodup
  have hinherited : inherited.filter (fun x => !inherited.contains x) = [] := by
    simp [List.filter_eq_nil_iff]
  have hown : own.filter (fun x => !inherited.contains x) = own := by
    refine List.filter_eq_self.mpr fun x hx => ?_
    simpa using fun hmem => hdisjoint hmem hx
  rw [List.filter_append, hinherited, hown, List.nil_append]

theorem append_filter_perm (h : inherited ⊆ offered) (hinherited : inherited.Nodup)
    (hoffered : offered.Nodup) :
    (inherited ++ offered.filter fun x => !inherited.contains x).Perm offered := by
  have hshared : inherited.Perm (offered.filter inherited.contains) := by
    refine (List.perm_ext_iff_of_nodup hinherited (hoffered.filter _)).mpr fun x => ?_
    rw [List.mem_filter, List.contains_iff_mem]
    exact ⟨fun hx => ⟨h hx, hx⟩, fun hx => hx.2⟩
  exact (hshared.append_right _).trans (List.filter_append_perm inherited.contains offered)

theorem disjoint_filter_contains :
    inherited.Disjoint (offered.filter fun x => !inherited.contains x) := by
  intro x hx hfilter
  simp [hx] at hfilter

end

/-! ## Paths and their casts -/

namespace Model

variable {settings : Settings} {m : Model} {paths : List ResourcePath}
  {path cast : ResourcePath} {u : EntityTypeHandle}

/-- A path with a cast more is the path as a type that inherits from its type. -/
theorem WellFormed.cast_of_mem_paths (hm : m.WellFormed) (h : m.paths settings = .ok paths)
    (hpath : path ∈ paths) (hcast : cast ∈ paths)
    (hsegments : cast.segments = path.segments ++ [.typeCast u]) :
    ∃ t, path.entityType = some t ∧ path.isTerminal = false ∧ path.isCast = false ∧
      m.Inherits u t ∧ cast = path.withCast m u := by
  have hchild : cast ∈ path.children settings m := by
    rw [← hm.filter_eq_children h hpath, List.mem_filter]
    refine ⟨hcast, ?_⟩
    rw [hsegments, List.dropLast_concat, beq_self_eq_true]
  obtain ⟨t, ht, hlast, hnocast, hu, hwith⟩ :=
    ResourcePath.cast_of_mem_children hchild hsegments
  exact ⟨t, ht, hlast, hnocast, ((mem_derivedTypes_iff hm.toHierarchical).mp hu).2, hwith⟩

theorem WellFormed.navigationsAmong_append (hm : m.WellFormed) (h : m.paths settings = .ok paths)
    (hpath : path ∈ paths) (hcast : cast ∈ paths)
    (hsegments : cast.segments = path.segments ++ [.typeCast u])
    (hcollection : path.collection = false)
    (hdepth : (path.depth : Int) < settings.maxNavigationDepth) :
    path.navigationsAmong paths ++ cast.navigationsAmong paths = m.navigationProperties u := by
  have hwithin := Settings.lt_navigationDepth_iff.mpr hdepth
  obtain ⟨t, ht, hlast, hnocast, hu, rfl⟩ := hm.cast_of_mem_paths h hpath hcast hsegments
  have hbefore : path.navigationsAmong paths = m.navigationProperties t := by
    rw [ResourcePath.navigationsAmong, hm.nextAmong_eq h hpath,
      ResourcePath.navigations_nextSegments hlast ht, hcollection, if_pos (by simpa using hwithin),
      ResourcePath.notInherited_of_not_isCast _ hnocast]
  have hafter : (path.withCast m u).navigationsAmong paths
      = (m.navigationProperties u).filter fun n => !(m.navigationProperties t).contains n := by
    rw [ResourcePath.navigationsAmong, hm.nextAmong_eq h hcast,
      ResourcePath.navigations_nextSegments ResourcePath.isTerminal_withCast rfl,
      ResourcePath.notInherited_withCast _ ht]
    exact if_pos (by simpa [ResourcePath.withCast, ResourcePath.push, hcollection] using hwithin)
  rw [hbefore, hafter]
  exact append_filter_of_isPrefix (navigationProperties_isPrefix hm.acyclic hu)
    (navigationProperties_nodup hm.acyclic u)

theorem WellFormed.operationsAmong_append (hm : m.WellFormed) (h : m.paths settings = .ok paths)
    (hpath : path ∈ paths) (hcast : cast ∈ paths)
    (hsegments : cast.segments = path.segments ++ [.typeCast u])
    (henabled : settings.operationPaths = true) :
    (path.operationsAmong paths).Disjoint (cast.operationsAmong paths) ∧
      (path.operationsAmong paths ++ cast.operationsAmong paths).Perm
        (m.boundOperations u path.collection) := by
  obtain ⟨t, ht, hlast, hnocast, hu, rfl⟩ := hm.cast_of_mem_paths h hpath hcast hsegments
  have hbefore : path.operationsAmong paths = m.boundOperations t path.collection := by
    rw [ResourcePath.operationsAmong, hm.nextAmong_eq h hpath,
      ResourcePath.operations_nextSegments hlast ht, if_pos henabled,
      ResourcePath.notInherited_of_not_isCast _ hnocast]
  have hafter : (path.withCast m u).operationsAmong paths
      = (m.boundOperations u path.collection).filter
          fun o => !(m.boundOperations t path.collection).contains o := by
    rw [ResourcePath.operationsAmong, hm.nextAmong_eq h hcast,
      ResourcePath.operations_nextSegments ResourcePath.isTerminal_withCast rfl, if_pos henabled,
      ResourcePath.notInherited_withCast _ ht]
    rfl
  rw [hbefore, hafter]
  exact ⟨disjoint_filter_contains, append_filter_perm
    (boundOperations_subset hm.acyclic hu path.collection)
    (boundOperations_nodup t path.collection) (boundOperations_nodup u path.collection)⟩

end Model

/-- A path and its cast to a derived type together go on with what the derived type has, and with
nothing twice: before the greatest depth a single resource goes on with its navigation properties
in their order, and any resource with the operations bound to it. -/
theorem cast_completes (document : Document) (id : ModelId) (m : Model) (settings : Settings)
    (hload : document.resolve id = .ok m) (hdepth : 0 ≤ settings.maxNavigationDepth) :
    ∃ paths, m.paths settings = .ok paths ∧ ∀ path ∈ paths, ∀ cast ∈ paths, ∀ u,
      cast.segments = path.segments ++ [.typeCast u] →
        (path.collection = false → (path.depth : Int) < settings.maxNavigationDepth →
          path.navigationsAmong paths ++ cast.navigationsAmong paths = m.navigationProperties u ∧
            (path.navigationsAmong paths ++ cast.navigationsAmong paths).Nodup) ∧
        (settings.operationPaths = true →
          (path.operationsAmong paths).Disjoint (cast.operationsAmong paths) ∧
            (path.operationsAmong paths ++ cast.operationsAmong paths).Perm
              (m.boundOperations u path.collection)) := by
  have hm := Document.resolve_wellFormed hload
  have hpaths := m.paths_of_depth hdepth
  refine ⟨_, hpaths, fun path hpath cast hcast u hsegments => ⟨?_, ?_⟩⟩
  · intro hcollection hbelow
    have hall := hm.navigationsAmong_append hpaths hpath hcast hsegments hcollection hbelow
    refine ⟨hall, ?_⟩
    rw [hall]
    exact Model.navigationProperties_nodup hm.acyclic u
  · intro henabled
    exact hm.operationsAmong_append hpaths hpath hcast hsegments henabled

/-- A type, an abstract type that extends it and a type that extends that one, each with a
navigation property and a function of its own. -/
def animalsDocument : Document where
  ns := "A"
  entityTypes := [
    { name := "Animal", key := ["Id"], navigationProperties := [
        { name := "home", type := "Animal" }] },
    { name := "Mammal", base := some "Animal", isAbstract := true, navigationProperties := [
        { name := "mother", type := "Mammal" }] },
    { name := "Dog", base := some "Mammal", navigationProperties := [
        { name := "litter", type := "Dog", collection := true }] }]
  operations := [
    { name := "walk", kind := .function, bound := true,
      parameters := [⟨"it", "Dog", false, false⟩] },
    { name := "feed", kind := .function, bound := true,
      parameters := [⟨"it", "Animal", false, false⟩] },
    { name := "groom", kind := .function, bound := true,
      parameters := [⟨"it", "Mammal", false, false⟩] }]
  containers := [{ name := "C", entitySets := [{ name := "animals", type := "Animal" }] }]

/-- The model of `animalsDocument`. -/
def animalsModel : Model := animalsDocument.loaded ⟨0⟩

/-- Settings that follow one navigation property at most. -/
def oneNavigation : Settings := { maxNavigationDepth := 1 }

/-- An animal goes on with its home, and as a dog with its mother and its litter too. -/
theorem animalsModel_cast :
    animalsDocument.resolve ⟨0⟩ = .ok animalsModel ∧ 0 ≤ oneNavigation.maxNavigationDepth ∧
      ∃ paths, animalsModel.paths oneNavigation = .ok paths ∧ ∃ path ∈ paths, ∃ cast ∈ paths,
        path.template = "/animals/\x7bId\x7d" ∧ cast.template = "/animals/\x7bId\x7d/A.Dog" ∧
        path.navigationsAmong paths = [⟨⟨0⟩, 0⟩] ∧
        path.navigationsAmong paths ++ cast.navigationsAmong paths
          = animalsModel.navigationProperties ⟨2⟩ ∧
        (path.navigationsAmong paths ++ cast.navigationsAmong paths).Nodup ∧
        path.operationsAmong paths = [⟨1⟩] ∧
        (path.operationsAmong paths).Disjoint (cast.operationsAmong paths) ∧
        (path.operationsAmong paths ++ cast.operationsAmong paths).Perm
          (animalsModel.boundOperations ⟨2⟩ false) := by
  have hdepth : 0 ≤ oneNavigation.maxNavigationDepth := by decide
  obtain ⟨paths, hpaths, hall⟩ :=
    cast_completes animalsDocument ⟨0⟩ animalsModel oneNavigation rfl hdepth
  obtain rfl := Except.ok.inj ((animalsModel.paths_of_depth hdepth).symm.trans hpaths)
  have hanimal : ∃ path ∈ animalsModel.allPaths oneNavigation,
      ∃ cast ∈ animalsModel.allPaths oneNavigation,
        cast.segments = path.segments ++ [.typeCast ⟨2⟩] ∧ path.collection = false ∧
        path.depth = 0 ∧ path.template = "/animals/\x7bId\x7d" ∧
        cast.template = "/animals/\x7bId\x7d/A.Dog" ∧
        path.navigationsAmong (animalsModel.allPaths oneNavigation) = [⟨⟨0⟩, 0⟩] ∧
        path.operationsAmong (animalsModel.allPaths oneNavigation) = [⟨1⟩] := by decide +kernel
  obtain ⟨path, hpath, cast, hcast, hsegments, hsingle, hroot, htemplate, hcastTemplate,
    hnavigations, hoperations⟩ := hanimal
  obtain ⟨hnavigation, hoperation⟩ := hall path hpath cast hcast ⟨2⟩ hsegments
  have hbelow : (path.depth : Int) < oneNavigation.maxNavigationDepth := by
    rw [hroot]
    decide
  obtain ⟨happend, hnodup⟩ := hnavigation hsingle hbelow
  obtain ⟨hdisjoint, hperm⟩ := hoperation rfl
  rw [hsingle] at hperm
  exact ⟨rfl, hdepth, _, hpaths, path, hpath, cast, hcast, htemplate, hcastTemplate, hnavigations,
    happend, hnodup, hoperations, hdisjoint, hperm⟩

end ODataApi
