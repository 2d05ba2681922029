import ODataApi.Proofs.Capability.Location
import ODataApi.Proofs.Dictionary

/-!
# What mismatches tell

A mismatch tells of a part of the value that was read (`Mismatch.Tells`): its location leads to
the part, and its words are those for the part.  A reader is truthful if all its mismatches do,
and if a value that it has a mismatch about as a whole gives nothing and no other mismatch
(`Reader.Truthful`).

The fields of a record are read one after the other, each name once, and what is read later may
depend on what was read before (`ReadsFields`).  Removing a field that was refused as a whole
then changes nothing but that its mismatch is gone (`ReadsFields.forgives`): to the rest of the
record a refused field is an absent one.
-/

namespace ODataApi

/-! ## What a reading has -/

namespace Reading

variable {α β : Type}

@[simp] theorem pure_value (a : α) : (pure a : Reading α).value = a := rfl

@[simp] theorem pure_mismatches (a : α) : (pure a : Reading α).mismatches = [] := rfl

@[simp] theorem bind_value (reading : Reading α) (next : α → Reading β) :
    (reading >>= next).value = (next reading.value).value := rfl

@[simp] theorem bind_mismatches (reading : Reading α) (next : α → Reading β) :
    (reading >>= next).mismatches = reading.mismatches ++ (next reading.value).mismatches := rfl

theorem pure_bind (a : α) (next : α → Reading β) : (pure a >>= next) = next a := rfl

theorem bind_congr_value {reading : Reading α} {next next' : α → Reading β}
    (h : next reading.value = next' reading.value) : reading >>= next = reading >>= next' :=
  congrArg (fun rest => (⟨rest.value, reading.mismatches ++ rest.mismatches⟩ : Reading β)) h

/-- A reading without the mismatches at a location. -/
def without (reading : Reading α) (location : List Step) : Reading α :=
  ⟨reading.value, reading.mismatches.filter (·.location ≠ location)⟩

theorem without_of_forall_ne {reading : Reading α} {location : List Step}
    (h : ∀ m ∈ reading.mismatches, m.location ≠ location) :
    reading.without location = reading := by
  rw [without, List.filter_eq_self.mpr fun m hm => decide_eq_true (h m hm)]

theorem bind_without (reading : Reading α) (next : α → Reading β) (location : List Step) :
    (reading >>= next).without location
      = reading.without location >>= fun a => (next a).without location := by
  rw [without, bind_mismatches, List.filter_append]
  rfl

end Reading

/-! ## Truthful readers -/

/-- What a mismatch calls a part: its shape, but a string that is no navigability is called a
member of an enumeration. -/
def Expression.reportedShape (expected : String) (part : Expression) : String :=
  if expected = "Recursive, Single or None" ∧ part.shape = "string" then "enum member"
  else part.shape

theorem Expression.reportedShape_eq_shape {expected : String}
    (h : expected ≠ "Recursive, Single or None") (part : Expression) :
    part.reportedShape expected = part.shape := if_neg fun hand => h hand.1

namespace Mismatch

/-- The location leads to a part of the value, and what was found is what the part is called. -/
structure Tells (m : Mismatch) (value : Expression) : Prop where
  plain : ∀ step ∈ m.location, step.Plain
  leads : ∃ part, value.part? m.location = some part ∧ m.found = part.reportedShape m.expected

/-- The mismatch seen from a value that the step leads away from. -/
def below (step : Step) (m : Mismatch) : Mismatch := { m with location := step :: m.location }

/-- The mismatch tells of a part of a part that one step leads to. -/
inductive TellsBelow (value : Expression) : Mismatch → Prop
  | step {step : Step} {part : Expression} {m : Mismatch} (hstep : step.Plain)
      (hpart : value.child? step = some part) (hm : m.Tells part) : TellsBelow value (m.below step)

theorem TellsBelow.tells {m : Mismatch} {value : Expression} (h : m.TellsBelow value) :
    m.Tells value := by
  cases h with
  | @step step part m hstep hpart hm =>
      obtain ⟨found, hfound, hshape⟩ := hm.leads
      refine ⟨List.forall_mem_cons.mpr ⟨hstep, hm.plain⟩, found, ?_, hshape⟩
      simp only [Mismatch.below, Expression.part?, hpart, Option.bind_some, hfound]

theorem TellsBelow.location_ne_nil {m : Mismatch} {value : Expression} (h : m.TellsBelow value) :
    m.location ≠ [] := by
  cases h with
  | step => exact List.cons_ne_nil _ _

end Mismatch

/-- Mismatches tell of parts of the value, and a value refused as a whole gives nothing else. -/
structure Reader.Truthful {α : Type} (read : Reader α) : Prop where
  tells : ∀ {value m}, m ∈ (read value).mismatches → m.Tells value
  refuses : ∀ {value m}, m ∈ (read value).mismatches → m.location = [] → read value = ⟨none, [m]⟩

namespace Reader.Truthful

variable {α : Type} {read : Reader α}

/-- A value is refused as a whole, or all mismatches tell of parts below it. -/
theorem of_cases
    (h : ∀ value, (∀ m ∈ (read value).mismatches, m.TellsBelow value) ∨ ∃ expected,
      read value = ⟨none, [⟨[], expected, value.reportedShape expected⟩]⟩) :
    Truthful read where
  tells := by
    intro value m hm
    rcases h value with hbelow | ⟨expected, hrefused⟩
    · exact (hbelow m hm).tells
    · rw [hrefused] at hm
      rw [List.mem_singleton.mp hm]
      exact ⟨by simp, value, rfl, rfl⟩
  refuses := by
    intro value m hm hlocation
    rcases h value with hbelow | ⟨expected, hrefused⟩
    · exact absurd hlocation (hbelow m hm).location_ne_nil
    · rw [hrefused] at hm ⊢
      rw [List.mem_singleton.mp hm]

theorem below_of_eq_nil {value : Expression} (h : (read value).mismatches = []) :
    ∀ m ∈ (read value).mismatches, m.TellsBelow value := by
  rw [h]
  exact List.forall_mem_nil _

theorem mismatch_eq {expected : String} (h : expected ≠ "Recursive, Single or None")
    (value : Expression) : (Reading.mismatch expected value : Reading (Option α))
      = ⟨none, [⟨[], expected, value.reportedShape expected⟩]⟩ := by
  rw [value.reportedShape_eq_shape h]
  rfl

/-- A value of another shape is refused, with one word for what is expected. -/
theorem of_shape (expected : String) (hexpected : expected ≠ "Recursive, Single or None")
    (h : ∀ value, (∀ m ∈ (read value).mismatches, m.TellsBelow value) ∨
      read value = .mismatch expected value) :
    Truthful read :=
  of_cases fun value => (h value).imp_right fun hrefused =>
    ⟨expected, hrefused.trans (mismatch_eq hexpected value)⟩

theorem bool : Truthful Reader.bool :=
  of_shape "bool" (by decide) fun value => by
    cases value with
    | bool b => exact Or.inl (below_of_eq_nil rfl)
    | _ => exact Or.inr rfl

theorem int : Truthful Reader.int :=
  of_shape "int" (by decide) fun value => by
    cases value with
    | int n => exact Or.inl (below_of_eq_nil rfl)
    | _ => exact Or.inr rfl

theorem string : Truthful Reader.string :=
  of_shape "string" (by decide) fun value => by
    cases value with
    | string text => exact Or.inl (below_of_eq_nil rfl)
    | _ => exact Or.inr rfl

theorem path : Truthful Reader.path :=
  of_shape "path" (by decide) fun value => by
    cases value with
    | path text | string text => exact Or.inl (below_of_eq_nil rfl)
    | _ => exact Or.inr rfl

theorem json : Truthful Reader.json :=
  of_shape "finite value" (by decide) fun value => by
    cases hjson : value.toJson? with
    | none => exact Or.inr (by rw [Reader.json, hjson])
    | some json => exact Or.inl (below_of_eq_nil (by rw [Reader.json, hjson]; rfl))

theorem tag : Truthful Reader.tag :=
  of_shape "bool" (by decide) fun value => by
    cases value with
    | bool b | null => exact Or.inl (below_of_eq_nil rfl)
    | _ => exact Or.inr rfl

theorem enumMember_cases (value : Expression) :
    (∃ text, (value = .enumMember text ∨ value = .string text) ∧
      Reader.enumMember value = pure (some (Name.last text))) ∨
    Reader.enumMember value = .mismatch "enum member" value := by
  cases value with
  | enumMember text => exact Or.inl ⟨text, Or.inl rfl, rfl⟩
  | string text => exact Or.inl ⟨text, Or.inr rfl, rfl⟩
  | _ => exact Or.inr rfl

theorem enumMember : Truthful Reader.enumMember :=
  of_shape "enum member" (by decide) fun value => by
    rcases enumMember_cases value with ⟨text, -, htaken⟩ | hrefused
    · exact Or.inl (below_of_eq_nil (by rw [htaken, Reading.pure_mismatches]))
    · exact Or.inr hrefused

/-! ## Collections -/

theorem mem_items_mismatches {index : Nat} {values : List Expression} {m : Mismatch}
    (h : m ∈ (Reader.items read index values).mismatches) :
    ∃ i value m', values[i]? = some value ∧ m' ∈ (read value).mismatches ∧
      m = m'.below (.item (index + i)) := by
  induction values generalizing index with
  | nil => cases h
  | cons value rest ih =>
      rw [Reader.items, Reading.bind_mismatches, Reading.bind_mismatches, Reading.pure_mismatches,
        List.append_nil] at h
      rcases List.mem_append.mp h with h | h
      · obtain ⟨m', hm', rfl⟩ := List.mem_map.mp h
        exact ⟨0, value, m', rfl, hm', rfl⟩
      · obtain ⟨i, found, m', hfound, hm', rfl⟩ := ih h
        refine ⟨i + 1, found, m', hfound, hm', ?_⟩
        rw [Nat.add_right_comm, Nat.add_assoc]

theorem listOf (hread : Truthful read) : Truthful (Reader.listOf read) :=
  of_shape "collection" (by decide) fun value => by
    cases value with
    | collection values =>
        refine Or.inl fun m hm => ?_
        rw [Reader.listOf, Reading.bind_mismatches, Reading.pure_mismatches, List.append_nil] at hm
        obtain ⟨i, item, m', hitem, hm', rfl⟩ := mem_items_mismatches hm
        rw [Nat.zero_add]
        exact .step trivial hitem (hread.tells hm')
    | _ => exact Or.inr rfl

theorem paths : Truthful Reader.paths := path.listOf

end Reader.Truthful

/-! ## Reading fields -/

/-- The fields with these names are read, each once, if the names differ. -/
structure ReadsFields {α : Type} (names : List String)
    (read : Dictionary Expression → Reading α) : Prop where
  /-- Other fields do not matter. -/
  unread : ∀ {name} fields, name ∉ names → read (fields.erase name) = read fields
  /-- Mismatches tell of these fields. -/
  tells : ∀ {fields m}, m ∈ (read fields).mismatches → ∃ name ∈ names, ∃ part,
    ∃ m' : Mismatch, fields.get? name = some part ∧ m'.Tells part ∧ m = m'.below (.field name)
  /-- A field that is refused as a whole counts as absent. -/
  forgives : names.Nodup → ∀ {fields m name}, m ∈ (read fields).mismatches →
    m.location = [.field name] → read (fields.erase name) = (read fields).without [.field name]

namespace Dictionary

variable {α : Type} {name other : String}

theorem get?_erase_self (d : Dictionary α) : (d.erase name).get? name = none := by
  rw [get?_eq_none_iff]
  simp [names, erase]

theorem get?_erase_of_ne (h : other ≠ name) (d : Dictionary α) :
    (d.erase name).get? other = d.get? other := by
  induction d with
  | nil => rfl
  | cons entry rest ih =>
      obtain ⟨key, value⟩ := entry
      rw [erase, List.filter_cons]
      split
      · rw [get?, List.lookup_cons, get?, List.lookup_cons]
        cases other == key with
        | true => rfl
        | false => exact ih
      · rename_i hkey
        have hname : key = name := by simpa using hkey
        have hother : (other == key) = false := by simp [hname, h]
        refine ih.trans ?_
        rw [get?, get?, List.lookup_cons, hother]

end Dictionary

theorem readField_cases {α : Type} (fields : Dictionary Expression) (name : String)
    (read : Reader α) :
    readField fields name read = pure none ∨ ∃ value, fields.get? name = some value ∧
      readField fields name read = (read value).within (.field name) := by
  rw [readField]
  split
  · exact Or.inl rfl
  · exact Or.inl rfl
  · rename_i value _ hvalue
    exact Or.inr ⟨value, hvalue, rfl⟩

namespace ReadsFields

variable {α β : Type} {names names' : List String}

theorem mem_names {read : Dictionary Expression → Reading α} {fields : Dictionary Expression}
    {m : Mismatch} {name : String} (h : ReadsFields names read)
    (hm : m ∈ (read fields).mismatches) (hlocation : m.location = [.field name]) :
    name ∈ names := by
  obtain ⟨other, hother, part, m', -, -, rfl⟩ := h.tells hm
  rw [Mismatch.below, List.cons.injEq, Step.field.injEq] at hlocation
  exact hlocation.1 ▸ hother

theorem without_eq {read : Dictionary Expression → Reading α} {name : String}
    (h : ReadsFields names read) (hname : name ∉ names) (fields : Dictionary Expression) :
    (read fields).without [.field name] = read fields :=
  Reading.without_of_forall_ne fun _ hm hlocation => hname (h.mem_names hm hlocation)

/-- What stops reads none of the names. -/
theorem pure (names : List String) (a : α) :
    ReadsFields names fun _ => (Pure.pure a : Reading α) where
  unread := fun _ _ => rfl
  tells := fun hm => nomatch hm
  forgives := fun _ _ _ _ hm => nomatch hm

theorem field (name : String) {read : Reader α} (hread : read.Truthful) :
    ReadsFields [name] fun fields => readField fields name read where
  unread := by
    intro other fields hother
    rw [readField, readField, Dictionary.get?_erase_of_ne (by simpa [eq_comm] using hother)]
  tells := by
    intro fields m hm
    rcases readField_cases fields name read with hnone | ⟨value, hvalue, hfield⟩
    · rw [hnone] at hm
      cases hm
    · rw [hfield] at hm
      obtain ⟨m', hm', rfl⟩ := List.mem_map.mp hm
      exact ⟨name, List.mem_singleton_self _, value, m', hvalue, hread.tells hm', rfl⟩
  forgives := by
    intro _ fields m other hm hlocation
    rcases readField_cases fields name read with hnone | ⟨value, -, hfield⟩
    · rw [hnone] at hm
      cases hm
    · rw [hfield] at hm ⊢
      obtain ⟨m', hm', rfl⟩ := List.mem_map.mp hm
      obtain ⟨hname, hwhole⟩ := List.cons.inj hlocation
      cases hname
      rw [hread.refuses hm' hwhole, readField, Dictionary.get?_erase_self]
      simp [Reading.within, Reading.without, hwhole]
      rfl

/-- What is read later may depend on what was read before. -/
theorem bind {first : Dictionary Expression → Reading α}
    {next : α → Dictionary Expression → Reading β} (hfirst : ReadsFields names first)
    (hnext : ∀ a, ReadsFields names' (next a)) :
    ReadsFields (names ++ names') fun fields => first fields >>= fun a => next a fields where
  unread := by
    intro name fields hname
    rw [List.mem_append, not_or] at hname
    simp only [hfirst.unread fields hname.1, (hnext _).unread fields hname.2]
  tells := by
    intro fields m hm
    rcases List.mem_append.mp hm with hm | hm
    · obtain ⟨name, hname, htells⟩ := hfirst.tells hm
      exact ⟨name, List.mem_append_left _ hname, htells⟩
    · obtain ⟨name, hname, htells⟩ := (hnext _).tells hm
      exact ⟨name, List.mem_append_right _ hname, htells⟩
  forgives := by
    intro hnodup fields m name hm hlocation
    obtain ⟨hnodup, hnodup', hdisjoint⟩ := List.nodup_append.mp hnodup
    rw [Reading.bind_without]
    -- The name belongs to one of the two, and the other neither reads nor reports it.
    rcases List.mem_append.mp hm with hm | hm
    · have hname' : name ∉ names' := fun hname' =>
        hdisjoint _ (hfirst.mem_names hm hlocation) _ hname' rfl
      rw [hfirst.forgives hnodup hm hlocation]
      simp only [(hnext _).unread fields hname', (hnext _).without_eq hname']
    · have hname : name ∉ names := fun hname =>
        hdisjoint _ hname _ ((hnext _).mem_names hm hlocation) rfl
      rw [hfirst.unread fields hname, hfirst.without_eq hname]
      exact Reading.bind_congr_value ((hnext _).forgives hnodup' hm hlocation)

/-- A field and then the others. -/
theorem next {name : String} {read : Reader α} {rest : Option α → Dictionary Expression → Reading β}
    (hread : read.Truthful) (hrest : ∀ a, ReadsFields names (rest a)) :
    ReadsFields (name :: names)
      fun fields => readField fields name read >>= fun a => rest a fields :=
  (field name hread).bind hrest

end ReadsFields

/-! ## Records -/

namespace Reader

variable {α : Type} {read : Reader α}

/-- The reader reads the fields of a record, each once, by names that show in locations. -/
inductive IsRecord : Reader α → Prop
  | intro (names : List String) {read : Dictionary Expression → Reading (Option α)}
      (hread : ReadsFields names read) (hnodup : names.Nodup)
      (hplain : ∀ name ∈ names, (Step.field name).Plain) : IsRecord (.record read)

theorem IsRecord.tellsBelow (h : IsRecord read) {type : Option String}
    {fields : Dictionary Expression} {m : Mismatch}
    (hm : m ∈ (read (.record type fields)).mismatches) : m.TellsBelow (.record type fields) := by
  cases h with
  | intro names hread hnodup hplain =>
      obtain ⟨name, hname, part, m', hpart, htells, rfl⟩ := hread.tells hm
      exact .step (hplain name hname) hpart htells

theorem IsRecord.truthful (h : IsRecord read) : Truthful read :=
  .of_shape "record" (by decide) fun value => by
    cases value with
    | record type fields => exact Or.inl fun m hm => h.tellsBelow hm
    | _ =>
        cases h
        exact Or.inr rfl

/-- A field that is refused as a whole counts as absent. -/
theorem IsRecord.forgives (h : IsRecord read) {type : Option String}
    {fields : Dictionary Expression} {m : Mismatch} {name : String}
    (hm : m ∈ (read (.record type fields)).mismatches) (hlocation : m.location = [.field name]) :
    read (.record type (fields.erase name))
      = (read (.record type fields)).without [.field name] := by
  cases h with
  | intro names hread hnodup hplain => exact hread.forgives hnodup hm hlocation

end Reader

end ODataApi
