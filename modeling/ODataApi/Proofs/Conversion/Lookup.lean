import ODataApi.Proofs.Conversion
import ODataApi.Proofs.Document.Resolve
import ODataApi.Proofs.Path.Enumeration

/-!
# Finding a path by its template

The endpoints of a path are a part of all endpoints, which `byPath` cuts out by position
(`byPath_eq_groups`).  `path?` and `endpointsFor` go by the template, and of several paths
with one template they find the last (`position?_eq_some_iff`).

So looking a path up gives the path and its endpoints if and only if no later path has its
template, and does so for every path if and only if no two paths share a template
(`lookup_agrees_iff`).
-/

namespace ODataApi

namespace Conversion

/-! ## Groups by position -/

/-- What stands between the start and the end of a group is the group. -/
theorem extract_spansFrom (before : List Endpoint) (groups : List (List Endpoint)) (i : Nat) :
    (spansFrom before.length groups)[i]?.map
        (fun (start, stop) => (before ++ groups.flatten).extract start stop)
      = groups[i]? := by
  induction groups generalizing before i with
  | nil => rfl
  | cons group rest ih =>
      cases i with
      | zero => simp [spansFrom, List.extract_eq_take_drop]
      | succ i =>
          have hrest := ih (before ++ group) i
          rw [List.length_append, List.append_assoc] at hrest
          exact hrest

variable {conversion : Conversion}

theorem group?_eq (conversion : Conversion) (i : Nat) :
    conversion.group? i = conversion.groups[i]?.map (·.2) := by
  have hspans := extract_spansFrom [] (conversion.groups.map (·.2)) i
  rw [List.getElem?_map] at hspans
  rw [group?, spans, endpoints, List.flatMap_def]
  exact hspans

/-- The endpoints cut out by position are those of the path. -/
theorem byPath_eq_groups (conversion : Conversion) : conversion.byPath = conversion.groups := by
  refine List.ext_getElem? fun i => ?_
  rw [byPath, List.getElem?_mapIdx, paths, List.getElem?_map, group?_eq]
  cases conversion.groups[i]? with
  | none => rfl
  | some group => rfl

/-! ## Positions by template -/

/-- The last item that satisfies a condition. -/
theorem findIdx?_reverse_eq_some_iff {α : Type} {items : List α} {p : α → Bool} {i : Nat} :
    (items.reverse.findIdx? p).map (items.length - 1 - ·) = some i ↔
      ∃ x, items[i]? = some x ∧ p x ∧ ∀ j y, i < j → items[j]? = some y → ¬ p y := by
  rw [Option.map_eq_some_iff]
  constructor
  · rintro ⟨k, hk, rfl⟩
    obtain ⟨hlt, hp, hbefore⟩ := List.findIdx?_eq_some_iff_getElem.mp hk
    rw [List.length_reverse] at hlt
    rw [List.getElem_reverse] at hp
    refine ⟨_, List.getElem?_eq_getElem (by omega), hp, ?_⟩
    intro j y hj hy
    obtain ⟨hlength, rfl⟩ := List.getElem?_eq_some_iff.mp hy
    have hnot := hbefore (items.length - 1 - j) (by omega)
    rw [List.getElem_reverse] at hnot
    simpa [show items.length - 1 - (items.length - 1 - j) = j by omega] using hnot
  · rintro ⟨x, hx, hp, hafter⟩
    obtain ⟨hlength, rfl⟩ := List.getElem?_eq_some_iff.mp hx
    refine ⟨items.length - 1 - i, ?_, by omega⟩
    refine List.findIdx?_eq_some_iff_getElem.mpr ⟨by rw [List.length_reverse]; omega, ?_, ?_⟩
    · simpa [show items.length - 1 - (items.length - 1 - i) = i by omega] using hp
    · intro j hj
      rw [List.getElem_reverse]
      exact hafter _ _ (by omega) (List.getElem?_eq_getElem (by omega))

variable {template : String} {i : Nat} {path : ResourcePath}

theorem position?_eq_some_iff :
    conversion.position? template = some i ↔
      ∃ path, conversion.paths[i]? = some path ∧ path.template = template ∧
        ∀ j other, i < j → conversion.paths[j]? = some other → other.template ≠ template := by
  have hlength : conversion.groups.length = conversion.paths.length := by
    rw [paths, List.length_map]
  rw [position?, hlength, findIdx?_reverse_eq_some_iff]
  simp only [beq_iff_eq, ne_eq]

theorem endpointsFor_eq (path : ResourcePath) :
    conversion.endpointsFor path
      = ((conversion.position? path.template).bind conversion.group?).getD [] := by
  rw [endpointsFor]
  cases conversion.position? path.template with
  | none => rfl
  | some i =>
      rw [Option.bind_some, Option.bind_some, group?_eq]
      cases conversion.groups[i]? with
      | none => rfl
      | some group => rfl

/-- No path after a position has the template of this one. -/
def IsLast (conversion : Conversion) (i : Nat) (path : ResourcePath) : Prop :=
  ∀ j other, i < j → conversion.paths[j]? = some other → other.template ≠ path.template

theorem getElem?_paths (conversion : Conversion) (i : Nat) :
    conversion.paths[i]? = conversion.byPath[i]?.map (·.1) := by
  rw [byPath_eq_groups, paths, List.getElem?_map]

theorem lookup_of_isLast {endpoints : List Endpoint}
    (hi : conversion.byPath[i]? = some (path, endpoints)) (hlast : conversion.IsLast i path) :
    conversion.endpointsFor path = endpoints ∧ conversion.path? path.template = some path := by
  have hpath : conversion.paths[i]? = some path := by
    rw [getElem?_paths, hi]
    rfl
  have hgroup : conversion.group? i = some endpoints := by
    rw [group?_eq, ← byPath_eq_groups, hi]
    rfl
  have hposition : conversion.position? path.template = some i :=
    position?_eq_some_iff.mpr ⟨path, hpath, rfl, hlast⟩
  constructor
  · rw [endpointsFor_eq, hposition, Option.bind_some, hgroup]
    rfl
  · rw [path?, hposition, Option.bind_some, hpath]

theorem isLast_of_path? (hpaths : conversion.paths.Nodup) (hi : conversion.paths[i]? = some path)
    (h : conversion.path? path.template = some path) : conversion.IsLast i path := by
  obtain ⟨k, hposition, hk⟩ := Option.bind_eq_some_iff.mp h
  obtain ⟨-, -, -, hlast⟩ := position?_eq_some_iff.mp hposition
  obtain ⟨hlength, -⟩ := List.getElem?_eq_some_iff.mp hi
  have hsame : i = k := (List.getElem?_inj hlength hpaths).mp (hi.trans hk.symm)
  rw [hsame]
  exact hlast

theorem forall_isLast_iff :
    (∀ i path, conversion.paths[i]? = some path → conversion.IsLast i path) ↔
      (conversion.paths.map (·.template)).Nodup := by
  rw [List.Nodup, List.pairwise_map, List.pairwise_iff_getElem]
  constructor
  · intro h i j hi hj hij
    exact (h i _ (List.getElem?_eq_getElem hi) j _ hij (List.getElem?_eq_getElem hj)).symm
  · intro h i path hpath j other hij hother
    obtain ⟨hi, rfl⟩ := List.getElem?_eq_some_iff.mp hpath
    obtain ⟨hj, rfl⟩ := List.getElem?_eq_some_iff.mp hother
    exact (h i j hi hj hij).symm

end Conversion

namespace Model

variable {m : Model} {settings : Settings} {conversion : Conversion}

theorem WellFormed.paths_nodup (hm : m.WellFormed) (h : m.convert settings = .ok conversion) :
    conversion.paths.Nodup := by
  obtain ⟨-, hpaths⟩ := paths_eq_ok (paths_of_convert h)
  rw [hpaths]
  exact List.Nodup.of_map _ hm.paths_segments_nodup

theorem byPath_of_convert (h : m.convert settings = .ok conversion) :
    conversion.byPath
      = conversion.paths.map fun path => (path, ((m.synthesize path).run {}).1) := by
  obtain ⟨paths, -, hgroups⟩ := convert_eq_ok h
  have hsynthesize : ∀ path, ((m.synthesize path).run {}).1 = (m.queryEndpoints path).value := by
    intro path
    rw [synthesize_reads path {} (AnnotationCache.agrees_empty m)]
  rw [Conversion.byPath_eq_groups, Conversion.paths, hgroups, queryAll_paths, queryAll_value]
  simp only [hsynthesize]

theorem mem_byPath_iff (h : m.convert settings = .ok conversion) {path : ResourcePath}
    {endpoints : List Endpoint} :
    (path, endpoints) ∈ conversion.byPath ↔
      path ∈ conversion.paths ∧ endpoints = (m.queryEndpoints path).value := by
  obtain ⟨paths, -, hgroups⟩ := convert_eq_ok h
  rw [Conversion.byPath_eq_groups, Conversion.paths, hgroups, queryAll_paths, queryAll_value,
    List.mem_map]
  constructor
  · rintro ⟨_, hpath, heq⟩
    cases heq
    exact ⟨hpath, rfl⟩
  · rintro ⟨hpath, rfl⟩
    exact ⟨path, hpath, rfl⟩

theorem mem_byPath_iff_of_depth (hdepth : 0 ≤ settings.maxNavigationDepth)
    (h : m.convert settings = .ok conversion) {path : ResourcePath} {endpoints : List Endpoint} :
    (path, endpoints) ∈ conversion.byPath ↔
      path ∈ m.allPaths settings ∧ endpoints = (m.queryEndpoints path).value := by
  have hpaths := paths_of_convert h
  rw [m.paths_of_depth hdepth] at hpaths
  rw [mem_byPath_iff h, Except.ok.inj hpaths]

/-- A conversion goes through the paths of the model. -/
theorem exists_convert (m : Model) (hdepth : 0 ≤ settings.maxNavigationDepth) :
    ∃ conversion : Conversion, m.convert settings = .ok conversion ∧
      m.paths settings = .ok (conversion.byPath.map (·.1)) := by
  refine ⟨_, m.convert_of_depth hdepth, ?_⟩
  rw [Conversion.byPath_eq_groups]
  exact paths_of_convert (m.convert_of_depth hdepth)

end Model

/-- Every path of a conversion stands with the endpoints synthesized for it.  Looking it up by
its template gives these endpoints and the path if and only if no later path has its template.
So it does for every path if and only if no two paths share a template. -/
theorem lookup_agrees_iff {document : Document} {id : ModelId} {m : Model} {settings : Settings}
    (hload : document.resolve id = .ok m) (hdepth : 0 ≤ settings.maxNavigationDepth) :
    ∃ conversion : Conversion, m.convert settings = .ok conversion ∧
      conversion.byPath
        = conversion.paths.map (fun path => (path, ((m.synthesize path).run {}).1)) ∧
      (∀ (i : Nat) path endpoints, conversion.byPath[i]? = some (path, endpoints) →
        ((conversion.endpointsFor path = endpoints ∧
            conversion.path? path.template = some path) ↔
          conversion.IsLast i path)) ∧
      ((∀ (i : Nat) path endpoints, conversion.byPath[i]? = some (path, endpoints) →
          conversion.endpointsFor path = endpoints ∧
            conversion.path? path.template = some path) ↔
        (conversion.paths.map (·.template)).Nodup) := by
  have hconvert := m.convert_of_depth hdepth
  generalize (⟨m.id, _, _⟩ : Conversion) = conversion at hconvert
  have hpaths := (Document.resolve_wellFormed hload).paths_nodup hconvert
  have hagrees : ∀ (i : Nat) path endpoints, conversion.byPath[i]? = some (path, endpoints) →
      ((conversion.endpointsFor path = endpoints ∧ conversion.path? path.template = some path) ↔
        conversion.IsLast i path) := by
    intro i path endpoints hi
    have hpath : conversion.paths[i]? = some path := by
      rw [Conversion.getElem?_paths, hi]
      rfl
    constructor
    · exact fun h => Conversion.isLast_of_path? hpaths hpath h.2
    · exact fun h => Conversion.lookup_of_isLast hi h
  refine ⟨conversion, hconvert, Model.byPath_of_convert hconvert, hagrees, ?_⟩
  rw [← Conversion.forall_isLast_iff]
  constructor
  · intro h i path hpath
    rw [Conversion.getElem?_paths, Option.map_eq_some_iff] at hpath
    obtain ⟨⟨_, endpoints⟩, hi, rfl⟩ := hpath
    exact (hagrees i _ endpoints hi).mp (h i _ endpoints hi)
  · intro h i path endpoints hi
    refine (hagrees i path endpoints hi).mpr (h i path ?_)
    rw [Conversion.getElem?_paths, hi]
    rfl

/-- Two containers with a singleton of one name, of different types. -/
def namesakeDocument : Document where
  ns := "A"
  entityTypes := [{ name := "T" }, { name := "U" }]
  containers := [
    { name := "C", singletons := [{ name := "S", type := "T" }] },
    { name := "D", singletons := [{ name := "S", type := "U" }] }]

/-- The model of `namesakeDocument`. -/
def namesakeModel : Model := namesakeDocument.loaded ⟨0⟩

/-- The singleton of the first container is not found where the second one has its name. -/
theorem namesakeModel_lookup_misses :
    namesakeDocument.resolve ⟨0⟩ = .ok namesakeModel ∧
      ∃ conversion : Conversion, namesakeModel.convert {} = .ok conversion ∧
        conversion.paths.map (·.template) = ["/S", "/S"] ∧
        ∃ (i : Nat) (path : ResourcePath) (endpoints : List Endpoint),
          conversion.byPath[i]? = some (path, endpoints) ∧
          ¬ (conversion.endpointsFor path = endpoints ∧
            conversion.path? path.template = some path) := by
  have hdepth : 0 ≤ ({} : Settings).maxNavigationDepth := by decide
  have hload : namesakeDocument.resolve ⟨0⟩ = .ok namesakeModel := rfl
  obtain ⟨conversion, hconvert, -, -, hall⟩ := lookup_agrees_iff hload hdepth
  have htemplates : conversion.paths.map (·.template) = ["/S", "/S"] := by
    rw [Model.convert_of_depth _ hdepth] at hconvert
    cases hconvert
    decide +kernel
  refine ⟨hload, conversion, hconvert, htemplates, ?_⟩
  have hmisses : ¬ ∀ (i : Nat) path endpoints, conversion.byPath[i]? = some (path, endpoints) →
      conversion.endpointsFor path = endpoints ∧
        conversion.path? path.template = some path := by
    rw [hall, htemplates]
    decide
  simpa only [not_forall, exists_prop] using hmisses

end ODataApi
