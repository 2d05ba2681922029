import ODataApi.Conversion
import ODataApi.Proofs.Endpoint.Synthesis
import ODataApi.Proofs.Path.Produced
import ODataApi.Proofs.Restriction.Query

/-!
# Conversions and their look-ups

A conversion synthesizes the paths of a model one after the other, so it is the query of
all of them (`synthesizeAll_reads`).  With a cache that agrees with the model it gives the
groups of that query and the issues of the cache after its look-ups (`convertWith_of_ok`).
Every endpoint of a group stands on its path, and under a method of its own
(`convert_wellGrouped`).
-/

namespace ODataApi

namespace Model

variable {m : Model}

/-! ## All paths -/

/-- The endpoints of each of some paths, one path after the other. -/
def queryAll (m : Model) : List ResourcePath → Query (List (ResourcePath × List Endpoint))
  | [] => pure []
  | path :: rest => do
    let endpoints ← m.queryEndpoints path
    let groups ← m.queryAll rest
    pure ((path, endpoints) :: groups)

theorem synthesizeAll_reads : ∀ paths : List ResourcePath,
    Reads m (m.synthesizeAll paths) (m.queryAll paths)
  | [] => Reads.pure _
  | path :: rest =>
      (synthesize_reads path).bind ((synthesizeAll_reads rest).bind (Reads.pure _))

theorem queryAll_value : ∀ paths : List ResourcePath,
    (m.queryAll paths).value = paths.map fun path => (path, (m.queryEndpoints path).value)
  | [] => rfl
  | path :: rest => congrArg ((path, (m.queryEndpoints path).value) :: ·) (queryAll_value rest)

theorem queryAll_paths (paths : List ResourcePath) :
    (m.queryAll paths).value.map (·.1) = paths := by
  rw [queryAll_value, List.map_map]
  exact List.map_id paths

/-- A conversion with paths looks something up. -/
theorem queryAll_keys_ne_nil {settings : Settings} {paths : List ResourcePath}
    (h : m.paths settings = .ok paths) (hne : paths ≠ []) : (m.queryAll paths).keys ≠ [] := by
  have hdirect := isDirect_of_mem_paths h
  cases paths with
  | nil => exact absurd rfl hne
  | cons path rest =>
      obtain ⟨hroot, htarget⟩ := hdirect path List.mem_cons_self
      simp [queryAll, queryEndpoints_keys_ne_nil hroot htarget]

/-! ## One conversion -/

theorem convertWith_of_error {settings : Settings} {e : SettingsError} (cache : AnnotationCache)
    (h : m.paths settings = .error e) : m.convertWith settings cache = .error (.settings e) := by
  rw [convertWith, h]
  rfl

theorem convertWith_of_ok {settings : Settings} {paths : List ResourcePath}
    {cache : AnnotationCache} (h : m.paths settings = .ok paths) (hcache : cache.Agrees m) :
    m.convertWith settings cache = .ok
      (⟨m.id, (m.queryAll paths).value, (cache.touchAll m (m.queryAll paths).keys).issues⟩,
        cache.touchAll m (m.queryAll paths).keys) := by
  rw [convertWith, h]
  have hrun : m.synthesizeAll paths cache
      = ((m.queryAll paths).value, cache.touchAll m (m.queryAll paths).keys) :=
    synthesizeAll_reads paths cache hcache
  show Except.ok _ = _
  rw [hrun]

theorem convert_eq_ok {settings : Settings} {conversion : Conversion}
    (h : m.convert settings = .ok conversion) :
    ∃ paths, m.paths settings = .ok paths ∧ conversion.groups = (m.queryAll paths).value := by
  rw [convert] at h
  cases hpaths : m.paths settings with
  | error e =>
      rw [convertWith_of_error {} hpaths] at h
      cases h
  | ok paths =>
      rw [convertWith_of_ok hpaths (AnnotationCache.agrees_empty m)] at h
      cases h
      exact ⟨paths, rfl, rfl⟩

/-! ## Valid settings -/

variable {settings : Settings}

/-- The paths of a model, none with settings that are refused. -/
def allPaths (m : Model) (settings : Settings) : List ResourcePath :=
  match m.paths settings with
  | .ok paths => paths
  | .error _ => []

/-- Everything that is looked up when a model is converted. -/
def allKeys (m : Model) (settings : Settings) : List AnnotationKey :=
  (m.queryAll (m.allPaths settings)).keys

/-- The cache of a new converter after a model. -/
def freshCache (m : Model) (settings : Settings) : AnnotationCache :=
  ({} : AnnotationCache).touchAll m (m.allKeys settings)

theorem paths_of_depth (m : Model) (h : 0 ≤ settings.maxNavigationDepth) :
    m.paths settings = .ok (m.allPaths settings) := by
  rw [allPaths, m.paths_eq_flatMap h]

theorem paths_of_not_depth (m : Model) (h : ¬ 0 ≤ settings.maxNavigationDepth) :
    m.paths settings = .error (.invalidNavigationDepth settings.maxNavigationDepth) := by
  rw [paths, Settings.validate, if_pos (Int.not_le.mp h)]
  rfl

theorem allKeys_of_empty (h : m.allPaths settings = []) : m.allKeys settings = [] := by
  rw [allKeys, h]
  rfl

theorem allKeys_ne_nil (hdepth : 0 ≤ settings.maxNavigationDepth) (h : m.allPaths settings ≠ []) :
    m.allKeys settings ≠ [] :=
  queryAll_keys_ne_nil (m.paths_of_depth hdepth) h

theorem freshCache_model (hdepth : 0 ≤ settings.maxNavigationDepth)
    (h : m.allPaths settings ≠ []) : (m.freshCache settings).model = some m.id :=
  AnnotationCache.touchAll_model (allKeys_ne_nil hdepth h)

theorem convertWith_of_depth {cache : AnnotationCache} (hdepth : 0 ≤ settings.maxNavigationDepth)
    (hcache : cache.Agrees m) :
    m.convertWith settings cache = .ok
      (⟨m.id, (m.queryAll (m.allPaths settings)).value,
          (cache.touchAll m (m.allKeys settings)).issues⟩,
        cache.touchAll m (m.allKeys settings)) :=
  convertWith_of_ok (m.paths_of_depth hdepth) hcache

theorem convert_of_depth (m : Model) (hdepth : 0 ≤ settings.maxNavigationDepth) :
    m.convert settings = .ok ⟨m.id, (m.queryAll (m.allPaths settings)).value,
      (m.freshCache settings).issues⟩ := by
  rw [convert, convertWith_of_depth hdepth (AnnotationCache.agrees_empty m)]
  rfl

end Model

/-! ## Groups -/

/-- Every endpoint stands on the path of its group, and no two endpoints of a group have
one method. -/
def WellGrouped (groups : List (ResourcePath × List Endpoint)) : Prop :=
  ∀ group ∈ groups, (∀ e ∈ group.2, e.path = group.1) ∧ (group.2.map (·.method)).Nodup

theorem Model.queryEndpoints_wellGrouped (m : Model) (path : ResourcePath) :
    (∀ e ∈ (m.queryEndpoints path).value, e.path = path) ∧
      ((m.queryEndpoints path).value.map (·.method)).Nodup := by
  rcases m.queryEndpoints_value_cases path with h | ⟨navigation, h⟩
  · rw [h]
    exact ⟨fun e he => absurd he List.not_mem_nil, List.nodup_nil⟩
  · rw [h]
    exact ⟨fun e he => (PathContext.emits_of_mem he).path_eq, PathContext.endpoints_methods_nodup⟩

theorem Model.convert_wellGrouped {m : Model} {settings : Settings} {conversion : Conversion}
    (h : m.convert settings = .ok conversion) : WellGrouped conversion.groups := by
  obtain ⟨paths, -, hgroups⟩ := convert_eq_ok h
  intro group hgroup
  rw [hgroups, queryAll_value, List.mem_map] at hgroup
  obtain ⟨path, -, rfl⟩ := hgroup
  exact m.queryEndpoints_wellGrouped path

/-! ## Paths and endpoints -/

namespace Model

variable {m : Model} {settings : Settings} {conversion : Conversion}

theorem paths_of_convert (h : m.convert settings = .ok conversion) :
    m.paths settings = .ok conversion.paths := by
  obtain ⟨paths, hpaths, hgroups⟩ := convert_eq_ok h
  rw [Conversion.paths, hgroups, queryAll_paths]
  exact hpaths

/-- Every endpoint of a conversion stands on a path of it, under the context of the path. -/
theorem exists_context_of_mem_endpoints (h : m.convert settings = .ok conversion) {e : Endpoint}
    (he : e ∈ conversion.endpoints) :
    ∃ path ∈ conversion.paths, ∃ navigation,
      e ∈ (m.queryContext path navigation).value.endpoints m := by
  obtain ⟨paths, -, hgroups⟩ := convert_eq_ok h
  obtain ⟨group, hgroup, he⟩ := List.mem_flatMap.mp he
  have hpath : group.1 ∈ conversion.paths := List.mem_map_of_mem hgroup
  rw [hgroups, queryAll_value, List.mem_map] at hgroup
  obtain ⟨path, -, rfl⟩ := hgroup
  rcases m.queryEndpoints_value_cases path with hnone | ⟨navigation, hsome⟩
  · rw [hnone] at he
    exact absurd he List.not_mem_nil
  · rw [hsome] at he
    exact ⟨path, hpath, navigation, he⟩

end Model

end ODataApi
