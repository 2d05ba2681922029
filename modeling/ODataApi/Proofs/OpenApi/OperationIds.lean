import ODataApi.Proofs.OpenApi.Items
import Mathlib.Data.List.Nodup

/-!
# The names of operations

An endpoint whose name has been given before is given a number after it.  Numbered names
differ from one another, since the last hyphen parts the number from the name
(`numberedId_inj`).  But nothing keeps a numbered name from being the name of another
endpoint, and so the operations of a document have different names if and only if that does
not happen (`operationIds_nodup_iff`).  It takes a hyphen in a name of the model.
-/

namespace ODataApi.OpenApi

/-! ## Numbers after names -/

theorem hyphen_not_mem_toString (n : Nat) : '-' ∉ (toString n).toList :=
  fun h => absurd (isDigit_of_mem_toString h) (by decide)

/-- What stands before and after the last occurrence of a character. -/
theorem append_cons_inj_of_last {c : Char} {before after before' after' : List Char}
    (hafter : c ∉ after) (hafter' : c ∉ after')
    (h : before ++ c :: after = before' ++ c :: after') : before = before' ∧ after = after' := by
  rcases List.append_eq_append_iff.mp h with ⟨between, hbefore, hrest⟩ | ⟨between, hbefore, hrest⟩
  · cases between with
    | nil => exact ⟨by simp [hbefore], (List.cons.inj hrest).2⟩
    | cons first between =>
        refine absurd ?_ hafter
        rw [(List.cons.inj hrest).2]
        simp
  · cases between with
    | nil => exact ⟨by simp [hbefore], (List.cons.inj hrest).2.symm⟩
    | cons first between =>
        refine absurd ?_ hafter'
        rw [(List.cons.inj hrest).2]
        simp

theorem toList_numberedId_succ (id : String) (uses : Nat) :
    (numberedId id (uses + 1)).toList = id.toList ++ '-' :: (toString (uses + 2)).toList := by
  rw [numberedId, if_neg (Nat.succ_ne_zero uses), String.toList_append, String.toList_append,
    List.append_assoc]
  rfl

/-- A numbered name tells the name and the number. -/
theorem numberedId_inj {id id' : String} {uses uses' : Nat}
    (h : numberedId id (uses + 1) = numberedId id' (uses' + 1)) : id = id' ∧ uses = uses' := by
  have hlist := congrArg String.toList h
  rw [toList_numberedId_succ, toList_numberedId_succ] at hlist
  obtain ⟨hid, hnumber⟩ := append_cons_inj_of_last (hyphen_not_mem_toString _)
    (hyphen_not_mem_toString _) hlist
  have huses := toString_toList_inj hnumber
  exact ⟨String.toList_inj.mp hid, by omega⟩

/-! ## Names that have been given before -/

/-- Names, each with how often it has been given before, when those in `used` have been
given. -/
def countedIds (used : List String) : List String → List (String × Nat)
  | [] => []
  | id :: rest => (id, used.count id) :: countedIds (id :: used) rest

variable {used ids : List String} {counted : String × Nat}

theorem map_countedIds (used ids : List String) : (countedIds used ids).map (·.1) = ids := by
  induction ids generalizing used with
  | nil => rfl
  | cons id rest ih => exact congrArg (id :: ·) (ih (id :: used))

theorem count_le_of_mem_countedIds (h : counted ∈ countedIds used ids) :
    used.count counted.1 ≤ counted.2 := by
  induction ids generalizing used with
  | nil => cases h
  | cons id rest ih =>
      rcases List.mem_cons.mp h with rfl | h
      · exact Nat.le_refl _
      · exact Nat.le_trans List.count_le_count_cons (ih h)

/-- No name is given twice with the same count. -/
theorem countedIds_nodup (used ids : List String) : (countedIds used ids).Nodup := by
  induction ids generalizing used with
  | nil => exact List.nodup_nil
  | cons id rest ih =>
      rw [countedIds, List.nodup_cons]
      refine ⟨fun h => ?_, ih (id :: used)⟩
      have hcount := count_le_of_mem_countedIds h
      rw [List.count_cons_self] at hcount
      exact absurd hcount (Nat.not_succ_le_self _)

/-- Numbering keeps names apart if and only if no numbered name is there without a number. -/
theorem map_numberedId_nodup_iff {names : List (String × Nat)} (h : names.Nodup) :
    (names.map fun x => numberedId x.1 x.2).Nodup ↔
      ∀ id uses, (id, uses + 1) ∈ names → (numberedId id (uses + 1), 0) ∉ names := by
  rw [List.nodup_map_iff_inj_on h]
  constructor
  · intro hinj id uses hmem hmem'
    have huses := congrArg Prod.snd (hinj _ hmem _ hmem' rfl)
    exact Nat.succ_ne_zero uses huses
  · rintro hnot ⟨id, uses⟩ hmem ⟨id', uses'⟩ hmem' heq
    cases uses with
    | zero =>
        cases uses' with
        | zero => exact Prod.ext heq rfl
        | succ uses' =>
            have hid : id = numberedId id' (uses' + 1) := heq
            exact absurd (hid ▸ hmem) (hnot id' uses' hmem')
    | succ uses =>
        cases uses' with
        | zero =>
            have hid : numberedId id (uses + 1) = id' := heq
            exact absurd (hid ▸ hmem') (hnot id uses hmem)
        | succ uses' =>
            obtain ⟨hid, huses⟩ := numberedId_inj heq
            exact Prod.ext hid (congrArg (· + 1) huses)

/-! ## The names in a document -/

/-- The names of the endpoints that a document has, each with how often it has been given to
an earlier endpoint. -/
def documentIds (endpoints : List Endpoint) : List (String × Nat) :=
  (firsts ((endpoints.map fun e => (e.path.template, e.method)).zip
    (countedIds [] (endpoints.map (·.operationId))))).map (·.2)

theorem map_zip_countedIds (endpoints : List Endpoint) :
    ((endpoints.map fun e => (e.path.template, e.method)).zip
      (countedIds used (endpoints.map (·.operationId)))).map (·.2)
      = countedIds used (endpoints.map (·.operationId)) := by
  refine List.map_snd_zip ?_
  rw [List.length_map, ← List.length_map (·.1), map_countedIds, List.length_map]

theorem documentIds_sublist (endpoints : List Endpoint) :
    (documentIds endpoints).Sublist (countedIds [] (endpoints.map (·.operationId))) := by
  rw [← map_zip_countedIds, documentIds]
  exact (firsts_sublist _).map _

theorem mem_operationIds_of_mem_documentIds {endpoints : List Endpoint}
    (h : counted ∈ documentIds endpoints) : counted.1 ∈ endpoints.map (·.operationId) := by
  rw [← map_countedIds [] (endpoints.map (·.operationId))]
  exact List.mem_map_of_mem ((documentIds_sublist endpoints).subset h)

theorem View.rendered_ids (v : View) (used : List String) (endpoints : List Endpoint) :
    (v.rendered used endpoints).map (fun x => (x.1, x.2.operationId))
      = ((endpoints.map fun e => (e.path.template, e.method)).zip
          (countedIds used (endpoints.map (·.operationId)))).map
          fun x => (x.1, numberedId x.2.1 x.2.2) := by
  induction endpoints generalizing used with
  | nil => rfl
  | cons e rest ih => exact congrArg (_ :: ·) (ih (e.operationId :: used))

/-- The operations of a document are named after its endpoints, with a number where a name has
been given before. -/
theorem operationIds_perm (m : Model) (conversion : Conversion) (info : Info)
    (provider : SchemaProvider) (h : WellGrouped conversion.groups) :
    ((Document.ofConversion m conversion info provider).operations.map (·.operationId)).Perm
      ((documentIds conversion.endpoints).map fun x => numberedId x.1 x.2) := by
  have hperm := (entries_perm_firsts m conversion info provider h).map fun x => x.2.operationId
  rw [← entries_map_operation, List.map_map]
  refine hperm.trans (List.Perm.of_eq ?_)
  have hfirsts := congrArg (List.map (·.2)) (firsts_map (fun o : Operation => o.operationId)
    (View.rendered ⟨m, provider⟩ [] conversion.endpoints))
  rw [View.rendered_ids, firsts_map fun x : String × Nat => numberedId x.1 x.2] at hfirsts
  rw [List.map_map, List.map_map] at hfirsts
  rw [documentIds, List.map_map]
  exact hfirsts.symm

/-! ## Names without a hyphen -/

/-- A name without a hyphen. -/
def Unhyphened (name : String) : Prop := '-' ∉ name.toList

theorem Unhyphened.append {name name' : String} (h : Unhyphened name) (h' : Unhyphened name') :
    Unhyphened (name ++ name') := by
  rw [Unhyphened, String.toList_append, List.mem_append, not_or]
  exact ⟨h, h'⟩

theorem Unhyphened.intercalate {separator : String} (hseparator : Unhyphened separator) :
    ∀ {names : List String}, (∀ name ∈ names, Unhyphened name) →
      Unhyphened (separator.intercalate names)
  | [], _ => by
      rw [String.intercalate_nil]
      exact List.not_mem_nil
  | [name], h => by
      rw [String.intercalate_singleton]
      exact h name List.mem_cons_self
  | name :: name' :: rest, h => by
      rw [String.intercalate_cons_cons]
      have hrest : Unhyphened (separator.intercalate (name' :: rest)) :=
        Unhyphened.intercalate hseparator fun other hother =>
          h other (List.mem_cons_of_mem name hother)
      exact ((h name List.mem_cons_self).append hseparator).append hrest

theorem unhyphened_dot : Unhyphened "." := by
  rw [Unhyphened]
  decide

theorem unhyphened_of_mem_verbs : ∀ verb ∈ PathContext.verbs, Unhyphened verb := by
  unfold Unhyphened
  decide

theorem not_unhyphened_numberedId (id : String) (uses : Nat) :
    ¬ Unhyphened (numberedId id (uses + 1)) := by
  rw [Unhyphened, toList_numberedId_succ]
  simp

/-- A model without a hyphen in the names that its endpoints are named after. -/
structure UnhyphenedModel (m : Model) : Prop where
  entityType : ∀ t, Unhyphened (m.entityType t).name
  navigation : ∀ n, Unhyphened (m.navigation n).name
  entitySet : ∀ s, Unhyphened (m.entitySet s).name
  singleton : ∀ s, Unhyphened (m.singleton s).name
  operation : ∀ o, Unhyphened (m.operation o).name
  operationImport : ∀ i, Unhyphened (m.operationImport i).name

namespace UnhyphenedModel

variable {m : Model} {settings : Settings} {conversion : Conversion} {name : String}

theorem tagName_unhyphened (hm : UnhyphenedModel m) {segment : Segment}
    (h : ResourcePath.tagName? m segment = some name) : Unhyphened name := by
  cases segment with
  | entitySet s => exact Option.some.inj h ▸ hm.entitySet s
  | singleton s => exact Option.some.inj h ▸ hm.singleton s
  | operationImport i => exact Option.some.inj h ▸ hm.operationImport i
  | navigation n => exact Option.some.inj h ▸ hm.navigation n
  | typeCast t => exact Option.some.inj h ▸ hm.entityType t
  | key _ _ | operation _ | count | ref => cases h

theorem tag_unhyphened (hm : UnhyphenedModel m) (path : ResourcePath) :
    Unhyphened (path.tag m) := by
  refine Unhyphened.intercalate unhyphened_dot fun name h => ?_
  obtain ⟨segment, -, hsegment⟩ := List.mem_filterMap.mp h
  exact hm.tagName_unhyphened hsegment

theorem typeLabel_unhyphened (hm : UnhyphenedModel m) (type : Option EntityTypeHandle) :
    Unhyphened ((type.map fun t => (m.entityType t).name).getD "") := by
  cases type with
  | none => exact List.not_mem_nil
  | some t => exact hm.entityType t

theorem operationId_unhyphened (hm : UnhyphenedModel m) (h : m.convert settings = .ok conversion)
    {e : Endpoint} (he : e ∈ conversion.endpoints) : Unhyphened e.operationId := by
  obtain ⟨path, -, navigation, he⟩ := Model.exists_context_of_mem_endpoints h he
  have htag : Unhyphened (m.queryContext path navigation).value.tag := hm.tag_unhyphened path
  have hlabel : Unhyphened (m.queryContext path navigation).value.typeLabel :=
    hm.typeLabel_unhyphened path.entityType
  rcases (PathContext.emits_of_mem he).operationId_cases with
    ⟨verb, hverb, hid⟩ | ⟨operation, name, hoperation, hid⟩
  · rw [hid]
    exact ((htag.append unhyphened_dot).append (unhyphened_of_mem_verbs verb hverb)).append hlabel
  · obtain ⟨o, rfl⟩ := PathContext.exists_of_operation? hoperation
    rcases hid with hid | hid
    · rw [hid]
      exact hm.operation o
    · rw [hid]
      exact (htag.append unhyphened_dot).append (hm.operation o)

end UnhyphenedModel

/-! ## Operations with different names -/

/-- No name that is given with a number is the name of an endpoint that has it first. -/
def NumberedApart (endpoints : List Endpoint) : Prop :=
  ∀ id uses, (id, uses + 1) ∈ documentIds endpoints →
    (numberedId id (uses + 1), 0) ∉ documentIds endpoints

/-- The operations of a document have different names if and only if no name that is given with
a number is the name of another endpoint.  Without hyphens in the names of the model none is. -/
theorem operationIds_nodup_iff (m : Model) {settings : Settings}
    (hdepth : 0 ≤ settings.maxNavigationDepth) (info : Info) (provider : SchemaProvider) :
    ∃ conversion : Conversion, m.convert settings = .ok conversion ∧
      (((Document.ofConversion m conversion info provider).operations.map (·.operationId)).Nodup ↔
        NumberedApart conversion.endpoints) ∧
      (UnhyphenedModel m →
        ((Document.ofConversion m conversion info provider).operations.map
          (·.operationId)).Nodup) := by
  have hconvert := m.convert_of_depth hdepth
  generalize (⟨m.id, _, _⟩ : Conversion) = conversion at hconvert
  have hnames := documentIds_sublist conversion.endpoints
  have hiff : ((Document.ofConversion m conversion info provider).operations.map
      (·.operationId)).Nodup ↔ NumberedApart conversion.endpoints := by
    rw [(operationIds_perm m conversion info provider
      (Model.convert_wellGrouped hconvert)).nodup_iff]
    exact map_numberedId_nodup_iff (hnames.nodup (countedIds_nodup _ _))
  refine ⟨conversion, hconvert, hiff, fun hm => hiff.mpr fun id uses _ hfirst => ?_⟩
  obtain ⟨e, he, hid⟩ := List.mem_map.mp (mem_operationIds_of_mem_documentIds hfirst)
  have hunhyphened := hm.operationId_unhyphened hconvert he
  rw [hid] at hunhyphened
  exact not_unhyphened_numberedId id uses hunhyphened

/-- Two imports of an operation, and one of an operation whose name has the number of the
second import. -/
def renumberedDocument : ODataApi.Document where
  ns := "A"
  operations := [{ name := "F", kind := .function }, { name := "F-2", kind := .function }]
  containers := [
    { name := "C"
      imports := [
        { name := "a", operation := "F" },
        { name := "b", operation := "F" },
        { name := "c", operation := "F-2" }] }]

/-- The model of `renumberedDocument`. -/
def renumberedModel : Model := renumberedDocument.loaded ⟨0⟩

/-- The second import of `F` and the import of `F-2` get one name. -/
theorem renumberedModel_shares_name :
    renumberedDocument.resolve ⟨0⟩ = .ok renumberedModel ∧
      ∃ conversion : Conversion, renumberedModel.convert {} = .ok conversion ∧
        ("F", 1) ∈ documentIds conversion.endpoints ∧
        ("F-2", 0) ∈ documentIds conversion.endpoints ∧
        ¬ ((Document.ofConversion renumberedModel conversion {}).operations.map
          (·.operationId)).Nodup := by
  have hdepth : 0 ≤ ({} : Settings).maxNavigationDepth := by decide
  obtain ⟨conversion, hconvert, hiff, -⟩ := operationIds_nodup_iff renumberedModel hdepth {} .edm
  have hids : documentIds conversion.endpoints = [("F", 0), ("F", 1), ("F-2", 0)] := by
    rw [Model.convert_of_depth _ hdepth] at hconvert
    cases hconvert
    decide +kernel
  have hsecond : ("F", 1) ∈ documentIds conversion.endpoints := by
    rw [hids]
    decide
  have hnatural : ("F-2", 0) ∈ documentIds conversion.endpoints := by
    rw [hids]
    decide
  refine ⟨rfl, conversion, hconvert, hsecond, hnatural, ?_⟩
  rw [hiff]
  exact fun hapart => hapart "F" 0 hsecond hnatural

end ODataApi.OpenApi
