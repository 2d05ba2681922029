import ODataApi.Proofs.Conversion
import ODataApi.Proofs.Document.Resolve
import Mathlib.Data.List.Induction

/-!
# A converter that is used again

The cache of a converter follows the model it is given at the first look-up, and the
issues of a conversion are those the cache has in the end.  A model with paths is
therefore converted as if the converter were new.  A model without paths looks nothing
up: its conversion reports the issues that are still in the cache, and these are the
issues of the last model with paths (`afterAll_cache`).

So a converter gives every model the paths and endpoints that a new one gives, and the
issues too if and only if the model has paths or no issues are left
(`convert_afterAll`).
-/

namespace ODataApi

variable {settings : Settings} {m : Model}

namespace Converter

/-- The converter after a model. -/
def after (converter : Converter) (m : Model) : Converter :=
  match converter.convert m with
  | .ok (_, next) => next
  | .error _ => converter

/-- The converter after some models. -/
def afterAll (converter : Converter) (models : List Model) : Converter :=
  models.foldl after converter

end Converter

/-! ## What is left of the models before -/

/-- The last of some models that has paths. -/
def lastWithPaths? (settings : Settings) (models : List Model) : Option Model :=
  models.reverse.find? fun m => !(m.allPaths settings).isEmpty

/-- The cache of a converter after some models. -/
def cacheLeft (settings : Settings) (models : List Model) : AnnotationCache :=
  (lastWithPaths? settings models).elim {} fun m => m.freshCache settings

/-- The issues of the last of some models that has paths, as a new converter reports
them. -/
def issuesLeft (settings : Settings) (models : List Model) : List DecodeIssue :=
  match lastWithPaths? settings models with
  | none => []
  | some m => (m.convert settings).toOption.elim [] (·.issues)

variable {models : List Model}

theorem cacheLeft_cases (settings : Settings) (models : List Model) :
    cacheLeft settings models = {} ∨
      ∃ a ∈ models, a.allPaths settings ≠ [] ∧
        cacheLeft settings models = a.freshCache settings := by
  rw [cacheLeft]
  cases h : lastWithPaths? settings models with
  | none => exact Or.inl rfl
  | some a =>
      have hmem : a ∈ models := List.mem_reverse.mp (List.mem_of_find?_eq_some h)
      have hpaths := List.find?_some h
      simp only [Bool.not_eq_true', List.isEmpty_eq_false_iff] at hpaths
      exact Or.inr ⟨a, hmem, hpaths, rfl⟩

theorem cacheLeft_append (settings : Settings) (models : List Model) (m : Model) :
    cacheLeft settings (models ++ [m])
      = if m.allPaths settings = [] then cacheLeft settings models else m.freshCache settings := by
  rw [cacheLeft, lastWithPaths?, List.reverse_concat, List.find?_cons]
  cases h : m.allPaths settings with
  | nil => rfl
  | cons => rfl

theorem cacheLeft_issues (hdepth : 0 ≤ settings.maxNavigationDepth) (models : List Model) :
    (cacheLeft settings models).issues = issuesLeft settings models := by
  rw [cacheLeft, issuesLeft]
  cases lastWithPaths? settings models with
  | none => rfl
  | some a => simp [a.convert_of_depth hdepth, Except.toOption]

theorem issuesLeft_eq (hdepth : 0 ≤ settings.maxNavigationDepth) (models : List Model) :
    issuesLeft settings models
      = (lastWithPaths? settings models).elim [] fun m =>
          (m.allKeys settings).eraseDups.flatMap fun key => m.recordIssues key.1 key.2 := by
  rw [← cacheLeft_issues hdepth, cacheLeft]
  cases lastWithPaths? settings models with
  | none => rfl
  | some m => exact AnnotationCache.touchAll_issues (m.allKeys settings)

/-- What is left is of other models, or it is what the model itself leaves. -/
theorem cacheLeft_of_model (hdepth : 0 ≤ settings.maxNavigationDepth)
    (hids : Distinct (m :: models)) (h : (cacheLeft settings models).model = some m.id) :
    cacheLeft settings models = m.freshCache settings := by
  rcases cacheLeft_cases settings models with hempty | ⟨a, ha, hpaths, heq⟩
  · rw [hempty] at h
    cases h
  · rw [heq, Model.freshCache_model hdepth hpaths] at h
    have hsame : a = m :=
      hids a (List.mem_cons_of_mem m ha) m List.mem_cons_self (Option.some.inj h)
    rw [heq, hsame]

theorem cacheLeft_agrees (hdepth : 0 ≤ settings.maxNavigationDepth)
    (hids : Distinct (m :: models)) : (cacheLeft settings models).Agrees m := by
  by_cases h : (cacheLeft settings models).model = some m.id
  · rw [cacheLeft_of_model hdepth hids h]
    exact (AnnotationCache.agrees_empty m).touchAll
  · exact AnnotationCache.agrees_of_other h

/-- A model with paths finds the cache as good as empty. -/
theorem cacheLeft_touchAll (hdepth : 0 ≤ settings.maxNavigationDepth)
    (hids : Distinct (m :: models)) :
    (cacheLeft settings models).touchAll m (m.allKeys settings)
      = cacheLeft settings (models ++ [m]) := by
  rw [cacheLeft_append]
  split
  case isTrue hpaths =>
      rw [Model.allKeys_of_empty hpaths]
      rfl
  case isFalse hpaths =>
      by_cases h : (cacheLeft settings models).model = some m.id
      · rw [cacheLeft_of_model hdepth hids h]
        exact AnnotationCache.touchAll_touchAll {}
      · exact AnnotationCache.touchAll_of_other h (Model.allKeys_ne_nil hdepth hpaths)

theorem cacheLeft_issues_perm_iff (hdepth : 0 ≤ settings.maxNavigationDepth) :
    (cacheLeft settings (models ++ [m])).issues.Perm (m.freshCache settings).issues ↔
      m.allPaths settings ≠ [] ∨ issuesLeft settings models = [] := by
  rw [cacheLeft_append]
  split
  case isTrue hpaths =>
      have hfresh : (m.freshCache settings).issues = [] := by
        rw [Model.freshCache, Model.allKeys_of_empty hpaths]
        rfl
      rw [hfresh, List.perm_nil, cacheLeft_issues hdepth]
      exact (or_iff_right (not_not.mpr hpaths)).symm
  case isFalse hpaths => exact iff_of_true (List.Perm.refl _) (Or.inl hpaths)

/-! ## A series of models -/

namespace Converter

theorem convert_of_depth (hdepth : 0 ≤ settings.maxNavigationDepth)
    (hids : Distinct (m :: models)) :
    Converter.convert ⟨settings, cacheLeft settings models⟩ m = .ok
      (⟨m.id, (m.queryAll (m.allPaths settings)).value,
          (cacheLeft settings (models ++ [m])).issues⟩,
        ⟨settings, cacheLeft settings (models ++ [m])⟩) := by
  rw [convert, Model.convertWith_of_depth hdepth (cacheLeft_agrees hdepth hids),
    cacheLeft_touchAll hdepth hids]
  rfl

theorem after_of_depth (hdepth : 0 ≤ settings.maxNavigationDepth)
    (hids : Distinct (m :: models)) :
    Converter.after ⟨settings, cacheLeft settings models⟩ m
      = ⟨settings, cacheLeft settings (models ++ [m])⟩ := by
  rw [after, convert_of_depth hdepth hids]

theorem afterAll_of_depth (hdepth : 0 ≤ settings.maxNavigationDepth) (hids : Distinct models) :
    Converter.afterAll ⟨settings, {}⟩ models = ⟨settings, cacheLeft settings models⟩ := by
  induction models using List.reverseRecOn with
  | nil => rfl
  | append_singleton models m ih =>
      have hids' : Distinct (m :: models) := by
        intro a ha b hb
        exact hids a (by simpa [or_comm] using ha) b (by simpa [or_comm] using hb)
      have hids'' : Distinct models := by
        intro a ha b hb
        exact hids a (List.mem_append_left _ ha) b (List.mem_append_left _ hb)
      rw [afterAll, List.foldl_append]
      show after (afterAll ⟨settings, {}⟩ models) m = _
      rw [ih hids'', after_of_depth hdepth hids']

/-- A refused conversion leaves the converter as it is. -/
theorem afterAll_of_not_depth (hdepth : ¬ 0 ≤ settings.maxNavigationDepth) (models : List Model) :
    Converter.afterAll ⟨settings, {}⟩ models = ⟨settings, {}⟩ := by
  induction models with
  | nil => rfl
  | cons m models ih =>
      have hafter : Converter.after ⟨settings, {}⟩ m = ⟨settings, {}⟩ := by
        rw [after, convert, Model.convertWith_of_error {} (m.paths_of_not_depth hdepth)]
        rfl
      rw [afterAll, List.foldl_cons, hafter]
      exact ih

end Converter

/-- A converter that has been given some models converts the next one as a new converter
does, up to the issues.  The issues are the same if and only if the model has paths or
no issues are left of the models before. -/
theorem convert_afterAll (settings : Settings) (models : List Model) (m : Model)
    (hids : Distinct (m :: models)) :
    (∃ e, m.convert settings = .error e ∧
      (Converter.afterAll ⟨settings, {}⟩ models).convert m = .error e) ∨
    ∃ fresh reused next, m.convert settings = .ok fresh ∧
      (Converter.afterAll ⟨settings, {}⟩ models).convert m = .ok (reused, next) ∧
      reused.model = fresh.model ∧ reused.groups = fresh.groups ∧
      (reused.issues.Perm fresh.issues ↔ fresh.paths ≠ [] ∨ issuesLeft settings models = []) := by
  by_cases hdepth : 0 ≤ settings.maxNavigationDepth
  case neg =>
    refine Or.inl ⟨.settings (.invalidNavigationDepth settings.maxNavigationDepth), ?_, ?_⟩
    · rw [Model.convert, Model.convertWith_of_error {} (m.paths_of_not_depth hdepth)]
      rfl
    · rw [Converter.afterAll_of_not_depth hdepth, Converter.convert,
        Model.convertWith_of_error {} (m.paths_of_not_depth hdepth)]
      rfl
  case pos =>
    have hmodels : Distinct models := fun a ha b hb =>
      hids a (List.mem_cons_of_mem m ha) b (List.mem_cons_of_mem m hb)
    have hreused := Converter.convert_of_depth hdepth hids
    rw [← Converter.afterAll_of_depth hdepth hmodels] at hreused
    refine Or.inr ⟨_, _, _, m.convert_of_depth hdepth, hreused, rfl, rfl, ?_⟩
    rw [Conversion.paths, Model.queryAll_paths]
    exact cacheLeft_issues_perm_iff hdepth

/-- An annotation that cannot be read. -/
def malformedDocument : Document where
  ns := "A"
  entityTypes := [{ name := "T" }]
  containers := [{ name := "C", entitySets := [{ name := "S", type := "T" }] }]
  annotations := [⟨"A.C/S", "Org.OData.Capabilities.V1.ReadRestrictions", .int 0⟩]

/-- Nothing at all. -/
def emptyDocument : Document where
  ns := "B"

/-- The model of `malformedDocument`. -/
def malformedModel : Model := malformedDocument.loaded ⟨0⟩

/-- The model of `emptyDocument`. -/
def emptyModel : Model := emptyDocument.loaded ⟨1⟩

theorem malformedModel_issuesLeft : issuesLeft {} [malformedModel] ≠ [] := by
  rw [issuesLeft_eq (by decide)]
  decide +kernel

theorem distinct_malformedModel : Distinct [emptyModel, malformedModel] := by
  intro a ha b hb h
  simp only [List.mem_cons, List.not_mem_nil, or_false] at ha hb
  rcases ha with rfl | rfl <;> rcases hb with rfl | rfl
  · rfl
  · cases h
  · cases h
  · rfl

/-- The issues of a model turn up in the conversion of the next one. -/
theorem convert_afterAll_malformedModel :
    malformedDocument.resolve ⟨0⟩ = .ok malformedModel ∧
      emptyDocument.resolve ⟨1⟩ = .ok emptyModel ∧
      Distinct [emptyModel, malformedModel] ∧
      ∃ fresh reused next, emptyModel.convert {} = .ok fresh ∧
        (Converter.afterAll ⟨{}, {}⟩ [malformedModel]).convert emptyModel = .ok (reused, next) ∧
        reused.model = fresh.model ∧ reused.groups = fresh.groups ∧
        ¬ reused.issues.Perm fresh.issues := by
  refine ⟨rfl, rfl, distinct_malformedModel, ?_⟩
  have hdepth : 0 ≤ ({} : Settings).maxNavigationDepth := by decide
  have hconvert := emptyModel.convert_of_depth hdepth
  rcases convert_afterAll {} [malformedModel] emptyModel distinct_malformedModel with
    ⟨e, he, -⟩ | ⟨fresh, reused, next, hfresh, hreused, hmodel, hgroups, hissues⟩
  · rw [hconvert] at he
    cases he
  · have hpaths : fresh.paths = [] := by
      rw [hconvert] at hfresh
      cases hfresh
      rfl
    refine ⟨fresh, reused, next, hfresh, hreused, hmodel, hgroups, ?_⟩
    rw [hissues, hpaths]
    rintro (h | h)
    · exact h rfl
    · exact malformedModel_issuesLeft h

end ODataApi
