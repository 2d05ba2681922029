import ODataApi.Proofs.Capability.Decoding
import ODataApi.Proofs.Capability.Issues

/-!
# Decoding at another location

A record is an annotation of its own, a field of another record or an item of a collection there.
The location that its decoder is handed decides how the locations of its issues are written and
nothing else: the issues are those of the record on its own, in the same order, with the location of
the record and a dot in front (`DecodeIssue.under`).  An issue of the record as a whole has the
location of the record.

A decoder writes the locations of its mismatches below the one it is handed
(`Decoder.Follows`), so it has to be shown that the text of a location is the same whether a step is
added to the text of what is above or below (`locationText_join`).  No first step is the item of a
collection, which would go without the dot.
-/

namespace ODataApi

/-! ## Locations below a location -/

theorem locationText_ne_empty {base : String} (h : base ≠ "") (steps : List Step) :
    locationText base steps ≠ "" := by
  intro hempty
  have htext := toList_locationText h steps
  rw [hempty] at htext
  exact h (String.toList_eq_nil_iff.mp (List.append_eq_nil_iff.mp htext.symm).1)

/-- Steps add the same text below a location that has another one in front. -/
theorem locationText_join {start : String} (h : start ≠ "") (location : String)
    (steps : List Step) :
    locationText (location ++ "." ++ start) steps =
      location ++ "." ++ locationText start steps := by
  have hjoined : location ++ "." ++ start ≠ "" := by simp [h]
  rw [← String.toList_inj, toList_locationText hjoined]
  simp only [String.toList_append, toList_locationText h, List.append_assoc]

/-- The issue where the value that it was met in stands at a location. -/
def DecodeIssue.under (location : String) (issue : DecodeIssue) : DecodeIssue :=
  { issue with field := if issue.field = "" then location else location ++ "." ++ issue.field }

/-! ## Mismatches in a record -/

namespace Mismatch

/-- The mismatch is about the value as a whole or met in a field of it. -/
def InRecord (m : Mismatch) : Prop :=
  m.location = [] ∨ ∃ name rest, name ≠ "" ∧ m.location = .field name :: rest

theorem InRecord.issue_under {m : Mismatch} (h : m.InRecord) {location : String}
    (hlocation : location ≠ "") (term : Term) (element : String) :
    m.issue term element location = (m.issue term element "").under location := by
  have hfield : locationText location m.location
      = if locationText "" m.location = "" then location
        else location ++ "." ++ locationText "" m.location := by
    rcases h with hwhole | ⟨name, rest, hname, hbelow⟩
    · rw [hwhole]
      rfl
    · have hstart : locationText "" m.location = locationText name rest := by
        rw [hbelow]
        rfl
      have hmoved : locationText location m.location
          = locationText (location ++ "." ++ name) rest := by
        rw [hbelow, locationText, List.foldl_cons, Step.extend, if_neg hlocation, locationText]
      rw [hstart, if_neg (locationText_ne_empty hname rest), hmoved, locationText_join hname]
  rw [issue, issue, DecodeIssue.under, hfield]

end Mismatch

theorem Reader.IsRecord.inRecord {α : Type} {read : Reader α} (h : read.IsRecord)
    {value : Expression} : ∀ m ∈ (read value).mismatches, m.InRecord := by
  intro m hm
  cases value with
  | record type fields =>
      cases h.tellsBelow hm with
      | @step step part m hstep hpart _ =>
          cases step with
          | field name => exact Or.inr ⟨name, m.location, hstep.1, rfl⟩
          | item index => cases hpart
  | _ =>
      -- nothing but a record has fields
      cases h
      rw [List.mem_singleton.mp hm]
      exact Or.inl rfl

theorem Tag.inRecord {value : Expression} : ∀ m ∈ (Tag.read value).mismatches, m.InRecord := by
  intro m hm
  cases value with
  | bool | null => cases hm
  | _ =>
      rw [List.mem_singleton.mp hm]
      exact Or.inl rfl

/-! ## Decoders -/

theorem Reading.issuesAt_under {α : Type} {reading : Reading α}
    (h : ∀ m ∈ reading.mismatches, m.InRecord) {location : String} (hlocation : location ≠ "")
    (term : Term) (element : String) :
    reading.issuesAt term element location
      = (reading.issuesAt term element "").map (·.under location) := by
  rw [issuesAt, issuesAt, List.map_map]
  exact List.map_congr_left fun m hm => (h m hm).issue_under hlocation term element

theorem Term.inRecord (term : Term) {value : Expression} :
    ∀ m ∈ (term.read value).mismatches, m.InRecord := by
  by_cases h : term.IsTag
  · rcases h with rfl | rfl | rfl
    · exact Tag.inRecord
    · exact Tag.inRecord
    · exact Tag.inRecord
  · exact (Term.isRecord h).inRecord

/-- The decoders of the vocabulary: of the record of each term and of the records in these. -/
inductive VocabularyDecoder : {α : Type} → Decoder α → Prop
  | term (term : Term) : VocabularyDecoder term.decodeAt
  | readRestrictionsBase : VocabularyDecoder ReadRestrictionsBase.decodeAt
  | modificationQueryOptions : VocabularyDecoder ModificationQueryOptions.decodeAt
  | navigationPropertyRestriction : VocabularyDecoder NavigationPropertyRestriction.decodeAt
  | permission : VocabularyDecoder Permission.decodeAt
  | authorizationScope : VocabularyDecoder AuthorizationScope.decodeAt
  | customParameter : VocabularyDecoder CustomParameter.decodeAt
  | exampleValue : VocabularyDecoder ExampleValue.decodeAt

namespace VocabularyDecoder

variable {α : Type} {decode : Decoder α}

/-- Each decoder follows a reader whose mismatches are about the record or met in its fields. -/
theorem exists_reader (h : VocabularyDecoder decode) :
    ∃ read, decode.Follows read ∧ ∀ value, ∀ m ∈ (read value).mismatches, m.InRecord := by
  cases h with
  | term term => exact ⟨_, term.decodeAt_follows, fun _ => term.inRecord⟩
  | readRestrictionsBase =>
      exact ⟨_, ReadRestrictionsBase.decodeAt_follows,
        fun _ => ReadRestrictionsBase.isRecord.inRecord⟩
  | modificationQueryOptions =>
      exact ⟨_, ModificationQueryOptions.decodeAt_follows,
        fun _ => ModificationQueryOptions.isRecord.inRecord⟩
  | navigationPropertyRestriction =>
      exact ⟨_, NavigationPropertyRestriction.decodeAt_follows,
        fun _ => NavigationPropertyRestriction.isRecord.inRecord⟩
  | permission => exact ⟨_, Permission.decodeAt_follows, fun _ => Permission.isRecord.inRecord⟩
  | authorizationScope =>
      exact ⟨_, AuthorizationScope.decodeAt_follows, fun _ => AuthorizationScope.isRecord.inRecord⟩
  | customParameter =>
      exact ⟨_, CustomParameter.decodeAt_follows, fun _ => CustomParameter.isRecord.inRecord⟩
  | exampleValue =>
      exact ⟨_, ExampleValue.decodeAt_follows, fun _ => ExampleValue.isRecord.inRecord⟩

/-- The location that a decoder is handed changes the locations of the issues that it notes and
nothing else. -/
theorem decodeAt_under (h : VocabularyDecoder decode) {location : String}
    (hlocation : location ≠ "") (value : Expression) (report : FieldReport) :
    ∃ result issues,
      (decode value "").run report = (result, report.noted issues) ∧
      (decode value location).run report
        = (result, report.noted (issues.map (·.under location))) := by
  obtain ⟨read, hfollows, hinRecord⟩ := h.exists_reader
  refine ⟨(read value).value, (read value).issuesAt report.term report.element "",
    hfollows value "" report, ?_⟩
  rw [← Reading.issuesAt_under (hinRecord value) hlocation]
  exact hfollows value location report

end VocabularyDecoder

/-- An entry for a navigation path with an unknown member, a string in place of a boolean, an item
that is no path, an unknown method, and a boolean in place of a record. -/
def malformedEntry : Expression :=
  .record none [
    ("CountRestrictions", .bool false),
    ("InsertRestrictions", .record none [
      ("Insertable", .string "no"),
      ("NonInsertableNavigationProperties", .collection [.path "lid", .int 3])]),
    ("Navigability", .enumMember "Twice"),
    ("NavigationProperty", .path "inner"),
    ("UpdateRestrictions", .record none [("UpdateMethod", .string "POST")])]

/-- The report of an annotation that nothing is noted of yet. -/
def emptyReport : FieldReport := { term := .navigationRestrictions, element := "A.C/S" }

/-- Among the restricted properties the entry has the issues it has on its own. -/
theorem malformedEntry_decodeAt :
    VocabularyDecoder NavigationPropertyRestriction.decodeAt ∧ "RestrictedProperties[0]" ≠ "" ∧
      ∃ result issues,
        (NavigationPropertyRestriction.decodeAt malformedEntry "").run emptyReport
          = (result, emptyReport.noted issues) ∧
        (NavigationPropertyRestriction.decodeAt malformedEntry "RestrictedProperties[0]").run
            emptyReport
          = (result, emptyReport.noted (issues.map (·.under "RestrictedProperties[0]"))) ∧
        result.map (·.navigationProperty) = some "inner" ∧
        (issues.map (·.under "RestrictedProperties[0]")).map (·.field) =
          ["RestrictedProperties[0].Navigability",
            "RestrictedProperties[0].InsertRestrictions.Insertable",
            "RestrictedProperties[0].InsertRestrictions.NonInsertableNavigationProperties[1]",
            "RestrictedProperties[0].UpdateRestrictions.UpdateMethod",
            "RestrictedProperties[0].CountRestrictions"] := by
  have hlocation : "RestrictedProperties[0]" ≠ "" := by decide
  obtain ⟨result, issues, hwhole, hentry⟩ :=
    VocabularyDecoder.navigationPropertyRestriction.decodeAt_under hlocation malformedEntry
      emptyReport
  refine ⟨.navigationPropertyRestriction, hlocation, result, issues, hwhole, hentry, ?_, ?_⟩
  · have hresult := congrArg (fun run => run.1.map (·.navigationProperty)) hwhole
    refine hresult.symm.trans ?_
    decide +kernel
  · have hissues := congrArg (fun run => run.2.issues.map (·.field)) hentry
    refine hissues.symm.trans ?_
    decide +kernel

end ODataApi
