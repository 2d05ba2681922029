import ODataApi.Proofs.Conversion.Lookup

/-!
# The order of paths

The paths of a conversion share one cache, so a path may find there what an earlier one has
looked up.  All the same its endpoints are those it has on its own, and whatever the order of
the paths, the cache is left with the same issues: those of each key that some path looks up,
once each (`synthesizeAll_run`, `synthesizeAll_issues_perm`).

`synthesizeAll_order` puts this together for conversions.
-/

namespace ODataApi

/-! ## Keys without repetition -/

theorem nodup_eraseDups {α : Type} [BEq α] [LawfulBEq α] (items : List α) :
    items.eraseDups.Nodup := by
  induction items using List.reverseRecOn with
  | nil => exact List.nodup_nil
  | append_singleton items last ih =>
      rw [List.eraseDups_append]
      by_cases h : last ∈ items
      · simpa [List.removeAll, h] using ih
      · have hne : ∀ item ∈ items, item ≠ last := fun item hitem heq => h (heq ▸ hitem)
        simpa [List.removeAll, h, List.eraseDups_cons, List.nodup_append, ih] using hne

theorem eraseDups_perm {α : Type} [BEq α] [LawfulBEq α] {items items' : List α}
    (h : items.Perm items') : items.eraseDups.Perm items'.eraseDups := by
  rw [List.perm_ext_iff_of_nodup (nodup_eraseDups items) (nodup_eraseDups items')]
  intro item
  rw [List.mem_eraseDups, List.mem_eraseDups]
  exact h.mem_iff

namespace Model

variable {m : Model} {order paths : List ResourcePath}

/-! ## One path on its own -/

/-- The endpoints of a path and the cache they leave, synthesized with a new cache. -/
def synthesizeAlone (m : Model) (path : ResourcePath) : List Endpoint × AnnotationCache :=
  (m.synthesize path).run {}

theorem synthesizeAlone_eq (path : ResourcePath) :
    m.synthesizeAlone path
      = ((m.queryEndpoints path).value,
        ({} : AnnotationCache).touchAll m (m.queryEndpoints path).keys) :=
  synthesize_reads path {} (AnnotationCache.agrees_empty m)

/-! ## Paths in some order -/

theorem queryAll_keys (paths : List ResourcePath) :
    (m.queryAll paths).keys = paths.flatMap fun path => (m.queryEndpoints path).keys := by
  induction paths with
  | nil => rfl
  | cons path rest ih => simp [queryAll, ih]

/-- Whatever comes before it, a path has the endpoints it has on its own. -/
theorem synthesizeAll_run (paths : List ResourcePath) :
    (m.synthesizeAll paths).run {}
      = (paths.map fun path => (path, (m.synthesizeAlone path).1),
        ({} : AnnotationCache).touchAll m
          (paths.flatMap fun path => (m.queryEndpoints path).keys)) := by
  rw [synthesizeAll_reads paths {} (AnnotationCache.agrees_empty m), queryAll_value,
    queryAll_keys]
  simp only [synthesizeAlone_eq]

theorem synthesizeAll_issues (paths : List ResourcePath) :
    ((m.synthesizeAll paths).run {}).2.issues
      = (paths.flatMap fun path => (m.queryEndpoints path).keys).eraseDups.flatMap
          fun key => m.recordIssues key.1 key.2 := by
  rw [synthesizeAll_run, AnnotationCache.touchAll_issues]

theorem synthesizeAll_issues_perm (h : order.Perm paths) :
    ((m.synthesizeAll order).run {}).2.issues.Perm
      ((m.synthesizeAll paths).run {}).2.issues := by
  have hkeys : (order.flatMap fun path => (m.queryEndpoints path).keys).Perm
      (paths.flatMap fun path => (m.queryEndpoints path).keys) := h.flatMap_right _
  rw [synthesizeAll_issues, synthesizeAll_issues]
  -- which path is the first to look a key up makes no difference to the issues of the key
  exact (eraseDups_perm hkeys).flatMap_right _

/-- The issues of some paths are those that one of them meets on its own. -/
theorem mem_synthesizeAll_issues {issue : DecodeIssue} :
    issue ∈ ((m.synthesizeAll paths).run {}).2.issues ↔
      ∃ path ∈ paths, issue ∈ (m.synthesizeAlone path).2.issues := by
  simp only [synthesizeAll_issues, synthesizeAlone_eq, AnnotationCache.touchAll_issues,
    List.mem_flatMap, List.mem_eraseDups]
  constructor
  · rintro ⟨key, ⟨path, hpath, hkey⟩, hissue⟩
    exact ⟨path, hpath, key, hkey, hissue⟩
  · rintro ⟨path, hpath, key, hkey, hissue⟩
    exact ⟨key, ⟨path, hpath, hkey⟩, hissue⟩

/-! ## Conversions -/

variable {settings : Settings} {conversion : Conversion}

theorem issues_of_convert (h : m.convert settings = .ok conversion) :
    conversion.issues = ((m.synthesizeAll conversion.paths).run {}).2.issues := by
  have hpaths := paths_of_convert h
  rw [convert, convertWith_of_ok hpaths (AnnotationCache.agrees_empty m)] at h
  rw [synthesizeAll_run, ← queryAll_keys]
  exact congrArg Conversion.issues (Except.ok.inj h).symm

end Model

theorem Conversion.endpoints_eq_byPath (conversion : Conversion) :
    conversion.byPath.flatMap (·.2) = conversion.endpoints := by
  rw [byPath_eq_groups]
  rfl

/-- A conversion has each path once, with the endpoints it has on its own, and its endpoints are
these groups in a row.  Synthesized in any other order, one after the other with one cache that
is empty at first, the paths have the same endpoints and leave the same issues, those that some
path meets on its own. -/
theorem synthesizeAll_order {document : Document} {id : ModelId} {m : Model} {settings : Settings}
    (hload : document.resolve id = .ok m) (hdepth : 0 ≤ settings.maxNavigationDepth) :
    ∃ conversion : Conversion, m.convert settings = .ok conversion ∧
      m.paths settings = .ok conversion.paths ∧
      (∀ order : List ResourcePath, order.Perm conversion.paths →
        ((m.synthesizeAll order).run {}).1
            = order.map (fun path => (path, (m.synthesizeAlone path).1)) ∧
          ((m.synthesizeAll order).run {}).2.issues.Perm conversion.issues ∧
          ∀ issue, issue ∈ ((m.synthesizeAll order).run {}).2.issues ↔
            ∃ path ∈ order, issue ∈ (m.synthesizeAlone path).2.issues) ∧
      conversion.paths.Nodup ∧
      conversion.byPath = conversion.paths.map (fun path => (path, (m.synthesizeAlone path).1)) ∧
      conversion.byPath.flatMap (·.2) = conversion.endpoints := by
  have hconvert := m.convert_of_depth hdepth
  generalize (⟨m.id, _, _⟩ : Conversion) = conversion at hconvert
  refine ⟨conversion, hconvert, Model.paths_of_convert hconvert, ?_,
    (Document.resolve_wellFormed hload).paths_nodup hconvert, Model.byPath_of_convert hconvert,
    conversion.endpoints_eq_byPath⟩
  intro order horder
  refine ⟨?_, ?_, fun issue => Model.mem_synthesizeAll_issues⟩
  · rw [Model.synthesizeAll_run]
  · rw [Model.issues_of_convert hconvert]
    exact Model.synthesizeAll_issues_perm horder

/-- A set with an annotation that has a field of the wrong type, of an entity type with an
annotation that cannot be read at all. -/
def mistypedDocument : Document where
  ns := "A"
  entityTypes := [{ name := "T", key := ["Id"] }]
  containers := [{ name := "C", entitySets := [{ name := "S", type := "T" }] }]
  annotations := [
    ⟨"A.C/S", "Org.OData.Capabilities.V1.ReadRestrictions",
      .record none [("Description", .int 1)]⟩,
    ⟨"A.T", "Org.OData.Capabilities.V1.TopSupported", .string "no"⟩]

/-- The model of `mistypedDocument`. -/
def mistypedModel : Model := mistypedDocument.loaded ⟨0⟩

/-- From the last path to the first, the set and its entities share their issues as before, and each
path has the endpoints that it has in the conversion. -/
theorem mistypedModel_order :
    mistypedDocument.resolve ⟨0⟩ = .ok mistypedModel ∧
      ∃ conversion : Conversion, mistypedModel.convert {} = .ok conversion ∧
        (conversion.byPath.map fun group => (group.1.template, group.2.map (·.operationId)))
          = [("/S", ["S.ListT", "S.CreateT"]),
            ("/S/\x7bId\x7d", ["S.GetT", "S.UpdateT", "S.DeleteT"]),
            ("/S/$count", ["S.GetCountT"])] ∧
        (((mistypedModel.synthesizeAll conversion.paths.reverse).run {}).1.map fun group =>
            (group.1.template, group.2.map (·.operationId)))
          = [("/S/$count", ["S.GetCountT"]),
            ("/S/\x7bId\x7d", ["S.GetT", "S.UpdateT", "S.DeleteT"]),
            ("/S", ["S.ListT", "S.CreateT"])] ∧
        ((mistypedModel.synthesizeAll conversion.paths.reverse).run {}).2.issues.Perm
          conversion.issues ∧
        ((mistypedModel.synthesizeAll conversion.paths.reverse).run {}).2.issues.length = 2 := by
  have hdepth : 0 ≤ ({} : Settings).maxNavigationDepth := by decide
  have hload : mistypedDocument.resolve ⟨0⟩ = .ok mistypedModel := rfl
  obtain ⟨conversion, hconvert, hpaths, horder, -, hgroups, -⟩ := synthesizeAll_order hload hdepth
  obtain ⟨hreversed, hissues, -⟩ := horder conversion.paths.reverse conversion.paths.reverse_perm
  refine ⟨hload, conversion, hconvert, ?_, ?_, hissues, ?_⟩
  · rw [hgroups]
    simp only [Model.synthesizeAlone_eq]
    rw [Model.convert_of_depth _ hdepth] at hconvert
    cases hconvert
    decide +kernel
  · rw [hreversed]
    simp only [Model.synthesizeAlone_eq]
    rw [Model.convert_of_depth _ hdepth] at hconvert
    cases hconvert
    decide +kernel
  · rw [Model.synthesizeAll_issues]
    rw [Model.convert_of_depth _ hdepth] at hconvert
    cases hconvert
    decide +kernel

end ODataApi
