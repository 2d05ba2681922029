import ODataApi.Proofs.Capability.Records

/-!
# What issues say of a value

The location of an issue leads to one part of the annotation value, and the issue says what shape
the part has (`Term.issue_tells`).  There is one exception: a string where a navigability is
expected is called a member of an enumeration, if it is no member that is known.

A field of a record that has an issue of its own counts as absent: without the field the record
is the same, and so are the issues of the other fields (`RecordReader.malformed_absent`).
-/

namespace ODataApi

/-- The issues of what was read of an annotation. -/
def Reading.issues {α : Type} (reading : Reading α) (term : Term) (element : String) :
    List DecodeIssue :=
  reading.mismatches.map fun mismatch => mismatch.issue term element ""

/-! ## Issues and parts -/

theorem Term.issue_tells {term : Term} {value : Expression} {element : String}
    {issue : DecodeIssue} (h : issue ∈ (term.read value).issues term element) :
    ∃ part, value.LeadsTo issue.field part ∧
      (∀ other, value.LeadsTo issue.field other → other = part) ∧
      issue.found = if issue.expected = "Recursive, Single or None" ∧ part.shape = "string"
        then "enum member" else part.shape := by
  obtain ⟨m, hm, rfl⟩ := List.mem_map.mp h
  obtain ⟨hplain, part, hpart, hfound⟩ := term.truthful.tells hm
  have hleads : value.LeadsTo (locationText "" m.location) part :=
    ⟨m.location, hplain, rfl, hpart⟩
  exact ⟨part, hleads, fun other hother => hother.unique hleads, hfound⟩

/-- A record with a string where a navigability is expected. -/
def unknownNavigability : Expression :=
  .record none [("Navigability", .string "Foo"), ("RestrictedProperties", .null)]

/-- The issue of the string. -/
def unknownNavigabilityIssue : DecodeIssue where
  term := .navigationRestrictions
  element := "A.C/S"
  field := "Navigability"
  expected := "Recursive, Single or None"
  found := "enum member"

/-- The one part that the location leads to has another shape. -/
theorem unknownNavigabilityIssue_misnamed :
    unknownNavigabilityIssue ∈ (Term.navigationRestrictions.read unknownNavigability).issues
      .navigationRestrictions "A.C/S" ∧
    ∃ part, unknownNavigability.LeadsTo unknownNavigabilityIssue.field part ∧
      (∀ other, unknownNavigability.LeadsTo unknownNavigabilityIssue.field other → other = part) ∧
      unknownNavigabilityIssue.found ≠ part.shape := by
  have hissue : unknownNavigabilityIssue ∈
      (Term.navigationRestrictions.read unknownNavigability).issues .navigationRestrictions
        "A.C/S" := by decide +kernel
  obtain ⟨part, hleads, hunique, -⟩ := Term.issue_tells hissue
  have hpart : Expression.string "Foo" = part :=
    hunique _ ⟨[.field "Navigability"], by decide, rfl, rfl⟩
  refine ⟨hissue, part, hleads, hunique, ?_⟩
  rw [← hpart]
  decide

/-! ## Malformed fields -/

/-- The readers of the records of the vocabulary. -/
inductive RecordReader : {α : Type} → Reader α → Prop
  | term {term : Term} (h : ¬ term.IsTag) : RecordReader term.read
  | readRestrictionsBase : RecordReader ReadRestrictionsBase.read
  | modificationQueryOptions : RecordReader ModificationQueryOptions.read
  | navigationPropertyRestriction : RecordReader NavigationPropertyRestriction.read
  | permission : RecordReader Permission.read
  | authorizationScope : RecordReader AuthorizationScope.read
  | customParameter : RecordReader CustomParameter.read
  | exampleValue : RecordReader ExampleValue.read

namespace RecordReader

variable {α : Type} {read : Reader α}

theorem isRecord (h : RecordReader read) : read.IsRecord := by
  cases h with
  | term h => exact Term.isRecord h
  | readRestrictionsBase => exact ReadRestrictionsBase.isRecord
  | modificationQueryOptions => exact ModificationQueryOptions.isRecord
  | navigationPropertyRestriction => exact NavigationPropertyRestriction.isRecord
  | permission => exact Permission.isRecord
  | authorizationScope => exact AuthorizationScope.isRecord
  | customParameter => exact CustomParameter.isRecord
  | exampleValue => exact ExampleValue.isRecord

variable {type : Option String} {fields : Dictionary Expression} {name : String}

/-- A name without marks is the location of the field of that name only. -/
theorem location_eq_iff (h : RecordReader read) (hname : Unmarked name) {m : Mismatch}
    (hm : m ∈ (read (.record type fields)).mismatches) :
    locationText "" m.location = name ↔ m.location = [.field name] := by
  have hbelow := h.isRecord.tellsBelow hm
  constructor
  · exact eq_of_locationText_eq hname hbelow.location_ne_nil hbelow.tells.plain
  · intro hlocation
    rw [hlocation]
    rfl

theorem issues_without (h : RecordReader read) (hname : Unmarked name) (term : Term)
    (element : String) :
    ((read (.record type fields)).without [.field name]).issues term element
      = ((read (.record type fields)).issues term element).filter (·.field ≠ name) := by
  rw [Reading.issues, Reading.issues, Reading.without, List.filter_map]
  congr 1
  refine List.filter_congr fun m hm => ?_
  exact decide_eq_decide.mpr (not_congr (h.location_eq_iff hname hm)).symm

/-- A malformed field counts as absent. -/
theorem malformed_absent (h : RecordReader read) (hname : Unmarked name) {term : Term}
    {element : String} {issue : DecodeIssue}
    (hissue : issue ∈ (read (.record type fields)).issues term element)
    (hfield : issue.field = name) :
    (read (.record type (fields.erase name))).value = (read (.record type fields)).value ∧
    (read (.record type (fields.erase name))).issues term element
      = ((read (.record type fields)).issues term element).filter (·.field ≠ name) := by
  obtain ⟨m, hm, rfl⟩ := List.mem_map.mp hissue
  rw [h.isRecord.forgives hm ((h.location_eq_iff hname hm).mp hfield),
    h.issues_without hname term element]
  exact ⟨rfl, rfl⟩

end RecordReader

/-- A record with three malformed fields, one in place of another. -/
def malformedUpdate : Dictionary Expression :=
  [("Permission", .bool true), ("Permissions", .int 3), ("Updatable", .bool false),
    ("UpdateMethod", .string "Merge")]

/-- Without its permissions the record keeps the issue of the permission in their place. -/
theorem malformedUpdate_permissions :
    (UpdateRestrictions.read (.record none (malformedUpdate.erase "Permissions"))).value
      = (UpdateRestrictions.read (.record none malformedUpdate)).value ∧
    (UpdateRestrictions.read (.record none (malformedUpdate.erase "Permissions"))).issues
        .updateRestrictions "A.C/S"
      = ((UpdateRestrictions.read (.record none malformedUpdate)).issues
        .updateRestrictions "A.C/S").filter (·.field ≠ "Permissions") :=
  have hissue : (⟨.updateRestrictions, "A.C/S", "Permissions", "collection", "int"⟩ : DecodeIssue) ∈
      (UpdateRestrictions.read (.record none malformedUpdate)).issues .updateRestrictions
        "A.C/S" := by decide +kernel
  have hterm : ¬ Term.IsTag .updateRestrictions := by simp [Term.IsTag]
  (RecordReader.term hterm).malformed_absent (by decide) hissue rfl

end ODataApi
