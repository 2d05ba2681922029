import ODataApi.Capability.Decoding
import ODataApi.Proofs.Capability.Reading
import ODataApi.Restriction.Cache

/-!
# Decoders and readers

A reader leaves the location of its value open, and steps are put in front of its mismatches from
outside; a decoder is handed the text of the location and notes each mismatch where it is met.  The
two come to the same (`Term.decodeAt_follows`): a decoder gives what the reader gives, and the
report grows by the mismatches of the reader, written below the location.  So what is kept of an
annotation is what its decoder gives with a new report (`Model.decode_eq_decodeWhole`).

Whatever a decoder does agrees with what the reader does there (`Reporting.Follows`), one step
after the other.  Each of the ways to write the location of a part adds the text of the step to
it (`Fields.path_eq_extend`, `UpdateMethod.join_eq_extend`, `Navigability.location_eq_extend`).
-/

namespace ODataApi

/-! ## Issues at a location -/

namespace Reading

variable {α β : Type} {term : Term} {element location : String}

/-- The issues of what was read of the value at a location of an annotation. -/
def issuesAt (reading : Reading α) (term : Term) (element location : String) :
    List DecodeIssue :=
  reading.mismatches.map fun mismatch => mismatch.issue term element location

theorem issuesAt_bind (reading : Reading α) (next : α → Reading β) :
    (reading >>= next).issuesAt term element location
      = reading.issuesAt term element location
        ++ (next reading.value).issuesAt term element location := by
  rw [issuesAt, bind_mismatches, List.map_append, issuesAt, issuesAt]

theorem bind_assoc {γ : Type} (reading : Reading α) (next : α → Reading β) (last : β → Reading γ) :
    (reading >>= next) >>= last = reading >>= fun a => next a >>= last :=
  congrArg (Reading.mk _) (List.append_assoc ..)

/-- A part is read at the location that the step to it leads to. -/
theorem issuesAt_within (step : Step) (reading : Reading α) :
    (reading.within step).issuesAt term element location
      = reading.issuesAt term element (step.extend location) := by
  rw [issuesAt, within, List.map_map]
  rfl

end Reading

/-! ## Runs and readings -/

/-- The report with more issues at its end. -/
def FieldReport.noted (report : FieldReport) (issues : List DecodeIssue) : FieldReport :=
  { report with issues := report.issues ++ issues }

theorem FieldReport.noted_nil (report : FieldReport) : report.noted [] = report := by
  simp only [noted, List.append_nil]

theorem FieldReport.noted_noted (report : FieldReport) (issues more : List DecodeIssue) :
    (report.noted issues).noted more = report.noted (issues ++ more) := by
  simp only [noted, List.append_assoc]

namespace Reporting

variable {α β : Type} {location : String}

/-- The run gives the value of the reading and notes its mismatches, located below `location`. -/
def Follows (run : Reporting α) (reading : Reading α) (location : String) : Prop :=
  ∀ report, StateT.run run report
    = (reading.value, report.noted (reading.issuesAt report.term report.element location))

namespace Follows

theorem pure (a : α) : Follows (pure a) (pure a) location := by
  intro report
  exact congrArg (Prod.mk a) report.noted_nil.symm

theorem bind {run : Reporting α} {reading : Reading α} {next : α → Reporting β}
    {rest : α → Reading β} (h : Follows run reading location)
    (hnext : ∀ a, Follows (next a) (rest a) location) :
    Follows (run >>= next) (reading >>= rest) location := by
  intro report
  rw [StateT.run_bind, h report]
  refine (hnext reading.value _).trans ?_
  rw [FieldReport.noted_noted, Reading.issuesAt_bind]
  rfl

theorem mismatch (location expected : String) (found : Expression) :
    Follows (mismatchAt location expected found : Reporting (Option α))
      (.mismatch expected found) location := fun _ => rfl

/-- What follows the reading of a part where the part stands follows it within the whole. -/
theorem within {run : Reporting α} {reading : Reading α} {step : Step}
    (h : Follows run reading (step.extend location)) :
    Follows run (reading.within step) location := by
  intro report
  rw [h report, Reading.issuesAt_within]
  rfl

end Follows

end Reporting

open Reporting (Follows)

/-- The decoder gives what the reader gives, wherever the value stands. -/
def Decoder.Follows {α : Type} (decode : Decoder α) (read : Reader α) : Prop :=
  ∀ value location, Reporting.Follows (decode value location) (read value) location

/-! ## Items -/

theorem decodeItems_follows {α : Type} {decode : Decoder α} {read : Reader α}
    (h : decode.Follows read) (location : String) (items : List Expression) (index : Nat) :
    Follows (decodeItems decode location index items) (Reader.items read index items) location := by
  induction items generalizing index with
  | nil => exact .pure []
  | cons item rest ih =>
      refine .bind (.within (h item _)) fun value => ?_
      exact .bind (ih (index + 1)) fun values => .pure _

theorem decodePath_follows : decodePath.Follows .path := by
  intro value location
  cases value with
  | path text | string text => exact .pure (some text)
  | _ => exact .mismatch location "path" _

/-! ## Fields -/

namespace Fields

variable {α : Type} (f : Fields) (name : String)

/-- The accessors add the name of a field to the location as a step. -/
theorem path_eq_extend : f.path name = Step.extend f.location (.field name) := by
  simp [path, Step.extend, String.isEmpty_iff]

theorem readField_eq (read : Reader α) :
    readField f.record name read
      = (f.raw? name).elim (pure none) fun value => (read value).within (.field name) := by
  rw [readField, raw?]
  cases f.record.get? name with
  | none => rfl
  | some value => cases value <;> rfl

theorem get?_of_raw? {f : Fields} {name : String} {value : Expression}
    (h : f.raw? name = some value) : f.record.get? name = some value := by
  rw [raw?] at h
  split at h
  · cases h
  · cases h
  · cases h
    assumption

/-- What is done with a field follows a reader if it does so where the field is there. -/
theorem follows_readField {run : Reporting (Option α)} {read : Reader α}
    (hnone : f.raw? name = none → run = pure none)
    (hsome : ∀ value, f.raw? name = some value → Follows run (read value) (f.path name)) :
    Follows run (readField f.record name read) f.location := by
  rw [readField_eq]
  cases hraw : f.raw? name with
  | none =>
      rw [hnone hraw]
      exact .pure none
  | some value => exact .within (f.path_eq_extend name ▸ hsome value hraw)

theorem plain_of_raw? {expected : String} {take : Expression → Option α} {read : Reader α}
    (hread : ∀ value, read value = (take value).elim (.mismatch expected value) (pure ∘ some))
    {value : Expression} (hraw : f.raw? name = some value) :
    Follows (f.plain expected take name) (read value) (f.path name) := by
  rw [plain, hraw, hread]
  cases htake : take value with
  | none =>
      simp only [htake]
      exact .mismatch _ _ _
  | some taken =>
      simp only [htake]
      exact .pure _

theorem plain_follows {expected : String} {take : Expression → Option α} {read : Reader α}
    (hread : ∀ value, read value = (take value).elim (.mismatch expected value) (pure ∘ some)) :
    Follows (f.plain expected take name) (readField f.record name read) f.location :=
  f.follows_readField name (fun hraw => by rw [plain, hraw]) fun _ hraw =>
    f.plain_of_raw? name hread hraw

variable {f name} {decode : Decoder α} {read : Reader α}

theorem bool_follows : Follows (f.bool name) (readField f.record name .bool) f.location :=
  f.plain_follows name fun value => by cases value <;> rfl

theorem int_follows : Follows (f.int name) (readField f.record name .int) f.location :=
  f.plain_follows name fun value => by cases value <;> rfl

theorem string_follows : Follows (f.string name) (readField f.record name .string) f.location :=
  f.plain_follows name fun value => by cases value <;> rfl

theorem pathValue_follows : Follows (f.pathValue name) (readField f.record name .path) f.location :=
  f.plain_follows name fun value => by cases value <;> rfl

theorem enumMember_follows :
    Follows (f.enumMember name) (readField f.record name .enumMember) f.location :=
  f.plain_follows name fun value => by cases value <;> rfl

theorem enumMember_of_raw? {value : Expression} (hraw : f.raw? name = some value) :
    Follows (f.enumMember name) (Reader.enumMember value) (f.path name) :=
  f.plain_of_raw? name (fun value => by cases value <;> rfl) hraw

theorem json_follows : Follows (f.json name) (readField f.record name .json) f.location :=
  f.plain_follows name fun value => by
    rw [Reader.json]
    cases value.toJson? <;> rfl

theorem nested_follows (h : decode.Follows read) :
    Follows (f.nested decode name) (readField f.record name read) f.location := by
  refine f.follows_readField name (fun hraw => by rw [nested, hraw]) fun value hraw => ?_
  rw [nested, hraw]
  exact h value _

theorem nestedList_follows (h : decode.Follows read) :
    Follows (f.nestedList decode name) (readField f.record name (.listOf read)) f.location := by
  refine f.follows_readField name (fun hraw => by rw [nestedList, hraw]) fun value hraw => ?_
  rw [nestedList, hraw]
  cases value with
  | collection items => exact .bind (decodeItems_follows h _ items 0) fun values => .pure _
  | _ => exact .mismatch _ "collection" _

theorem paths_follows : Follows (f.paths name) (readField f.record name .paths) f.location :=
  nestedList_follows decodePath_follows

end Fields

/-! ## Records -/

theorem Fields.view_record_bind {α : Type} {type : Option String} {fields : Dictionary Expression}
    {location : String} (next : Option Fields → Reporting α) :
    Fields.view (.record type fields) location >>= next = next (some ⟨fields, location⟩) := rfl

/-- What is done with a record follows a reader of records if it follows the reading of the
fields. -/
theorem follows_record {α : Type} {value : Expression} {location : String}
    {next : Option Fields → Reporting (Option α)}
    {read : Dictionary Expression → Reading (Option α)}
    (hnone : next none = pure none)
    (hsome : ∀ type fields, value = .record type fields →
      Follows (next (some ⟨fields, location⟩)) (read fields) location) :
    Follows (Fields.view value location >>= next) (Reader.record read value) location := by
  cases value with
  | record type fields => exact hsome type fields rfl
  | _ =>
      intro report
      rw [StateT.run_bind]
      exact congrArg (fun run => StateT.run run _) hnone

theorem Decoder.record_follows {α : Type} {decode : Fields → Reporting (Option α)}
    {read : Dictionary Expression → Reading (Option α)}
    (h : ∀ f : Fields, Reporting.Follows (decode f) (read f.record) f.location) :
    Decoder.Follows (.record decode) (.record read) :=
  fun _ location => follows_record rfl fun _ fields _ => h ⟨fields, location⟩

open Fields

/-! ## Permissions -/

theorem AuthorizationScope.decodeAt_follows : Decoder.Follows decodeAt read := by
  refine Decoder.record_follows fun _ => .bind string_follows fun scope => ?_
  cases scope with
  | none => exact .pure none
  | some scope => exact .bind string_follows fun _ => .pure _

theorem Permission.decodeAt_follows : Decoder.Follows decodeAt read :=
  Decoder.record_follows fun _ => .bind string_follows fun _ =>
    .bind (nestedList_follows AuthorizationScope.decodeAt_follows) fun _ => .pure _

theorem Fields.permissions_follows {f : Fields} :
    Follows f.permissions (readPermissions f.record) f.location := by
  refine .bind (nestedList_follows Permission.decodeAt_follows) fun permissions => ?_
  cases permissions with
  | some permissions => exact .pure _
  | none => exact .bind (nested_follows Permission.decodeAt_follows) fun _ => .pure _

/-! ## Custom parameters -/

theorem ExampleValue.decodeAt_follows : Decoder.Follows decodeAt read :=
  Decoder.record_follows fun _ => .bind string_follows fun _ => .bind json_follows fun _ =>
    .bind string_follows fun _ => .pure _

theorem CustomParameter.decodeAt_follows : Decoder.Follows decodeAt read := by
  refine Decoder.record_follows fun _ => .bind string_follows fun name => ?_
  cases name with
  | none => exact .pure none
  | some name =>
      exact .bind string_follows fun _ => .bind string_follows fun _ => .bind bool_follows fun _ =>
        .bind (nestedList_follows ExampleValue.decodeAt_follows) fun _ => .pure _

theorem Fields.customParameters_follows {f : Fields} {name : String} :
    Follows (f.nestedList CustomParameter.decodeAt name)
      (readField f.record name (.listOf CustomParameter.read)) f.location :=
  nestedList_follows CustomParameter.decodeAt_follows

/-! ## Reading and modifying -/

theorem ReadRestrictionsBase.decodeAt_follows : Decoder.Follows decodeAt read := by
  refine Decoder.record_follows fun _ => ?_
  simp only [readFields, Reading.bind_assoc, Reading.pure_bind]
  exact .bind bool_follows fun _ => .bind permissions_follows fun _ =>
    .bind customParameters_follows fun _ => .bind customParameters_follows fun _ =>
    .bind string_follows fun _ => .pure _

theorem ReadRestrictions.read_record (type : Option String) (fields : Dictionary Expression) :
    read (.record type fields) = (ReadRestrictionsBase.read (.record type fields) >>= fun
      | none => pure none
      | some base => do
        let readByKey ← readField fields "ReadByKeyRestrictions" ReadRestrictionsBase.read
        pure (some { base, readByKey })) := by
  simp only [read, ReadRestrictionsBase.read, Reader.record, Reading.bind_assoc, Reading.pure_bind]

/-- A value that is viewed twice is a record both times, and reported once if it is none. -/
theorem ReadRestrictions.decodeAt_follows : Decoder.Follows decodeAt read := by
  intro value location
  cases value with
  | record type fields =>
      rw [read_record]
      refine .bind (ReadRestrictionsBase.decodeAt_follows _ _) fun base => ?_
      cases base with
      | none => exact .pure none
      | some base =>
          dsimp only
          rw [view_record_bind]
          exact .bind (nested_follows ReadRestrictionsBase.decodeAt_follows) fun _ => .pure _
  | _ => exact fun _ => rfl

theorem ModificationQueryOptions.decodeAt_follows : Decoder.Follows decodeAt read :=
  Decoder.record_follows fun _ => .bind bool_follows fun _ => .bind bool_follows fun _ =>
    .bind bool_follows fun _ => .bind bool_follows fun _ => .bind bool_follows fun _ =>
    .bind bool_follows fun _ => .pure _

theorem InsertRestrictions.decodeAt_follows : Decoder.Follows decodeAt read :=
  Decoder.record_follows fun _ => .bind bool_follows fun _ => .bind paths_follows fun _ =>
    .bind paths_follows fun _ => .bind int_follows fun _ => .bind permissions_follows fun _ =>
    .bind (nested_follows ModificationQueryOptions.decodeAt_follows) fun _ =>
    .bind customParameters_follows fun _ => .bind customParameters_follows fun _ =>
    .bind string_follows fun _ => .pure _

/-- The check of the update method adds the name of a field to the location as a step. -/
theorem UpdateMethod.join_eq_extend (location name : String) :
    join location name = Step.extend location (.field name) := by
  simp [join, Step.extend, String.isEmpty_iff]

theorem UpdateMethod.read_eq (value : Expression) :
    read value = (Reader.enumMember value >>= fun
      | none => pure none
      | some member => (ofMember? member).elim (.mismatch "PATCH or PUT" value) (pure ∘ some)) := by
  refine congrArg (Reader.enumMember value >>= ·) (funext fun member => ?_)
  cases member with
  | none => rfl
  | some member =>
      dsimp only [ofMember?]
      split <;> simp_all

/-- Looking the method up in the record again finds what was refused. -/
theorem UpdateMethod.decodeOf_follows {type : Option String} {fields : Dictionary Expression}
    {location : String} :
    Follows (decodeOf (.record type fields) location ⟨fields, location⟩)
      (readField fields "UpdateMethod" read) location := by
  refine Fields.follows_readField ⟨fields, location⟩ "UpdateMethod" (fun hraw => ?_)
    fun value hraw => ?_
  · rw [decodeOf, enumMember, plain, hraw]
    rfl
  · have hvalue : valueOf? (.record type fields) "UpdateMethod" = some value := get?_of_raw? hraw
    rw [read_eq]
    refine .bind (enumMember_of_raw? hraw) fun member => ?_
    cases member with
    | none => exact .pure none
    | some member =>
        dsimp only
        cases ofMember? member with
        | some method => exact .pure (some method)
        | none =>
            rw [hvalue, join_eq_extend, path_eq_extend]
            exact .mismatch _ _ _

theorem UpdateRestrictions.decodeAt_follows : Decoder.Follows decodeAt read :=
  fun value location => follows_record rfl fun type fields hvalue => by
    subst hvalue
    exact .bind UpdateMethod.decodeOf_follows fun _ => .bind bool_follows fun _ =>
      .bind bool_follows fun _ => .bind paths_follows fun _ => .bind int_follows fun _ =>
      .bind permissions_follows fun _ =>
      .bind (nested_follows ModificationQueryOptions.decodeAt_follows) fun _ =>
      .bind customParameters_follows fun _ => .bind customParameters_follows fun _ =>
      .bind string_follows fun _ => .pure _

theorem DeleteRestrictions.decodeAt_follows : Decoder.Follows decodeAt read :=
  Decoder.record_follows fun _ => .bind bool_follows fun _ => .bind paths_follows fun _ =>
    .bind int_follows fun _ => .bind permissions_follows fun _ =>
    .bind customParameters_follows fun _ => .bind customParameters_follows fun _ =>
    .bind string_follows fun _ => .pure _

/-! ## Query options -/

theorem CountRestrictions.decodeAt_follows : Decoder.Follows decodeAt read :=
  Decoder.record_follows fun _ => .bind bool_follows fun _ => .bind paths_follows fun _ =>
    .bind paths_follows fun _ => .pure _

theorem FilterRestrictions.decodeAt_follows : Decoder.Follows decodeAt read :=
  Decoder.record_follows fun _ => .bind bool_follows fun _ => .bind bool_follows fun _ =>
    .bind paths_follows fun _ => .bind paths_follows fun _ => .bind int_follows fun _ => .pure _

theorem SearchRestrictions.decodeAt_follows : Decoder.Follows decodeAt read :=
  Decoder.record_follows fun _ => .bind bool_follows fun _ => .bind enumMember_follows fun _ =>
    .pure _

theorem SortRestrictions.decodeAt_follows : Decoder.Follows decodeAt read :=
  Decoder.record_follows fun _ => .bind bool_follows fun _ => .bind paths_follows fun _ =>
    .bind paths_follows fun _ => .bind paths_follows fun _ => .pure _

theorem SelectSupport.decodeAt_follows : Decoder.Follows decodeAt read :=
  Decoder.record_follows fun _ => .bind bool_follows fun _ => .bind bool_follows fun _ =>
    .bind bool_follows fun _ => .bind bool_follows fun _ => .bind bool_follows fun _ =>
    .bind bool_follows fun _ => .bind bool_follows fun _ => .bind bool_follows fun _ =>
    .bind bool_follows fun _ => .pure _

theorem ExpandRestrictions.decodeAt_follows : Decoder.Follows decodeAt read :=
  Decoder.record_follows fun _ => .bind bool_follows fun _ => .bind paths_follows fun _ =>
    .bind int_follows fun _ => .pure _

theorem Tag.decodeAt_follows : Decoder.Follows decodeAt read := by
  refine fun value location => .bind ?_ fun tag => .pure _
  cases value with
  | bool value => exact .pure (some value)
  | null => exact .pure (some true)
  | _ => exact .mismatch location "bool" _

/-! ## Navigation -/

/-- The check of a navigability adds its name to the location as a step. -/
theorem Navigability.location_eq_extend (record : String) :
    location record = Step.extend record (.field "Navigability") := by
  simp only [location, Step.extend, String.isEmpty_iff]
  split
  · rfl
  · rw [String.append_assoc]
    rfl

theorem Navigability.decodeOf_follows {f : Fields} :
    Follows (decodeOf f f.location) (readField f.record "Navigability" read) f.location := by
  refine f.follows_readField "Navigability" (fun hraw => ?_) fun value hraw => ?_
  · rw [decodeOf, enumMember, plain, hraw]
    rfl
  · refine .bind (enumMember_of_raw? hraw) fun member => ?_
    cases member with
    | none => exact .pure Option.none
    | some member =>
        dsimp only
        cases ofMember? member with
        | some navigability => exact .pure (some navigability)
        | none =>
            rw [location_eq_extend, path_eq_extend]
            exact .mismatch _ _ _

theorem NavigationPropertyRestriction.decodeAt_follows : Decoder.Follows decodeAt read :=
  fun _ location => follows_record rfl fun _ fields _ => by
    refine .bind (pathValue_follows (f := ⟨fields, location⟩)) fun path => ?_
    cases path with
    | none => exact .pure none
    | some path =>
        exact .bind Navigability.decodeOf_follows fun _ =>
          .bind (nested_follows ReadRestrictions.decodeAt_follows) fun _ =>
          .bind (nested_follows InsertRestrictions.decodeAt_follows) fun _ =>
          .bind (nested_follows UpdateRestrictions.decodeAt_follows) fun _ =>
          .bind (nested_follows DeleteRestrictions.decodeAt_follows) fun _ =>
          .bind (nested_follows CountRestrictions.decodeAt_follows) fun _ =>
          .bind (nested_follows FilterRestrictions.decodeAt_follows) fun _ =>
          .bind (nested_follows SearchRestrictions.decodeAt_follows) fun _ =>
          .bind (nested_follows SortRestrictions.decodeAt_follows) fun _ =>
          .bind bool_follows fun _ => .bind bool_follows fun _ => .bind bool_follows fun _ =>
          .pure _

theorem NavigationRestrictions.decodeAt_follows : Decoder.Follows decodeAt read :=
  fun _ location => follows_record rfl fun _ fields _ =>
    .bind (Navigability.decodeOf_follows (f := ⟨fields, location⟩)) fun _ =>
      .bind (nestedList_follows NavigationPropertyRestriction.decodeAt_follows) fun _ => .pure _

/-! ## Terms -/

/-- The decoder of a term does what its reader does. -/
theorem Term.decodeAt_follows (term : Term) : Decoder.Follows term.decodeAt term.read := by
  cases term with
  | readRestrictions => exact ReadRestrictions.decodeAt_follows
  | insertRestrictions => exact InsertRestrictions.decodeAt_follows
  | updateRestrictions => exact UpdateRestrictions.decodeAt_follows
  | deleteRestrictions => exact DeleteRestrictions.decodeAt_follows
  | countRestrictions => exact CountRestrictions.decodeAt_follows
  | filterRestrictions => exact FilterRestrictions.decodeAt_follows
  | searchRestrictions => exact SearchRestrictions.decodeAt_follows
  | sortRestrictions => exact SortRestrictions.decodeAt_follows
  | selectSupport => exact SelectSupport.decodeAt_follows
  | expandRestrictions => exact ExpandRestrictions.decodeAt_follows
  | navigationRestrictions => exact NavigationRestrictions.decodeAt_follows
  | indexableByKey | topSupported | skipSupported => exact Tag.decodeAt_follows

/-- What an element says of a term is what decoding its annotation gives, with a report of its own
from the first issue on. -/
theorem Model.decode_eq_decodeWhole (m : Model) (element : Element) (term : Term) :
    m.decode element term term.read =
      match m.annotation? element term.qualifiedName with
      | none => (none, [])
      | some value =>
        let (record, report) := (term.decodeWhole value).run ⟨term, m.elementName element, []⟩
        (record, report.issues) := by
  rw [decode]
  cases m.annotation? element term.qualifiedName with
  | none => rfl
  | some value =>
      dsimp only
      rw [Term.decodeWhole, term.decodeAt_follows]
      rfl

end ODataApi
