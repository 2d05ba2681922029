import ODataApi.Capability.Reading
import ODataApi.Proofs.Name

/-!
# The place that a location names

Steps lead from a value to a part of it (`Expression.part?`), and so does their text
(`Expression.LeadsTo`).  Every step but the first shows in the text by its mark, a dot before a
field and a bracket before an item, so field names without these characters can be told from
the text (`locationText_inj`).  The text then leads to one part only (`LeadsTo.unique`).
-/

namespace ODataApi

/-! ## Parts of a value -/

namespace Expression

/-- The part that a step leads to. -/
def child? : Step → Expression → Option Expression
  | .field name, record _ fields => Dictionary.get? name fields
  | .item index, collection items => items[index]?
  | _, _ => none

/-- The part that steps lead to. -/
def part? : List Step → Expression → Option Expression
  | [], value => some value
  | step :: rest, value => (value.child? step).bind (part? rest)

end Expression

/-! ## The text of a step -/

/-- Free of the characters that start a step. -/
def Unmarked (name : String) : Prop := '.' ∉ name.toList ∧ '[' ∉ name.toList

instance (name : String) : Decidable (Unmarked name) := inferInstanceAs (Decidable (_ ∧ _))

namespace Step

/-- The text of the step can be told from the steps around it. -/
def Plain : Step → Prop
  | field name => name ≠ "" ∧ Unmarked name
  | item _ => True

instance : ∀ step : Step, Decidable step.Plain
  | field _ => inferInstanceAs (Decidable (_ ∧ _))
  | item _ => inferInstanceAs (Decidable True)

/-- The character that starts the step below a location. -/
def mark : Step → Char
  | field _ => '.'
  | item _ => '['

/-- The characters after the mark. -/
def label : Step → List Char
  | field name => name.toList
  | item index => (toString index).toList ++ [']']

theorem toList_extend {location : String} (h : location ≠ "") (step : Step) :
    (step.extend location).toList = location.toList ++ step.mark :: step.label := by
  cases step with
  | field name => simp [extend, h, mark, label]
  | item index => simp [extend, mark, label]

theorem extend_ne_empty {location : String} (h : location ≠ "") (step : Step) :
    step.extend location ≠ "" := by
  rw [← String.toList_inj.ne, toList_extend h]
  simp

theorem isMark_mark (step : Step) : step.mark = '.' ∨ step.mark = '[' := by
  cases step with
  | field name => exact Or.inl rfl
  | item index => exact Or.inr rfl

theorem ne_mark_of_mem_label {step step' : Step} (h : step.Plain) :
    ∀ c ∈ step.label, c ≠ step'.mark := by
  have hfree : '.' ∉ step.label ∧ '[' ∉ step.label := by
    cases step with
    | field name => exact h.2
    | item index =>
        have hdot : '.' ∉ (toString index).toList := fun hc =>
          absurd (isDigit_of_mem_toString hc) (by decide)
        have hbracket : '[' ∉ (toString index).toList := fun hc =>
          absurd (isDigit_of_mem_toString hc) (by decide)
        rw [label, List.mem_append, List.mem_append]
        exact ⟨not_or.mpr ⟨hdot, by decide⟩, not_or.mpr ⟨hbracket, by decide⟩⟩
  intro c hc heq
  rcases isMark_mark step' with hmark | hmark
  · exact hfree.1 (hmark ▸ heq ▸ hc)
  · exact hfree.2 (hmark ▸ heq ▸ hc)

theorem eq_of_label {step step' : Step} (hmark : step.mark = step'.mark)
    (hlabel : step.label = step'.label) : step = step' := by
  cases step with
  | field name =>
      cases step' with
      | field name' => rw [String.toList_inj.mp hlabel]
      | item index' => simp [mark] at hmark
  | item index =>
      cases step' with
      | field name' => simp [mark] at hmark
      | item index' => rw [toString_toList_inj (List.append_cancel_right hlabel)]

end Step

/-! ## The text of steps -/

/-- The characters that steps add to a location. -/
def stepsText (steps : List Step) : List Char := steps.flatMap fun step => step.mark :: step.label

theorem toList_locationText {base : String} (h : base ≠ "") (steps : List Step) :
    (locationText base steps).toList = base.toList ++ stepsText steps := by
  induction steps generalizing base with
  | nil => exact (List.append_nil _).symm
  | cons step rest ih =>
      rw [locationText, List.foldl_cons]
      refine (ih (step.extend_ne_empty h)).trans ?_
      rw [step.toList_extend h, stepsText, stepsText, List.flatMap_cons, List.append_assoc]

theorem toList_locationText_field {name : String} (h : name ≠ "") (rest : List Step) :
    (locationText "" (.field name :: rest)).toList = name.toList ++ stepsText rest :=
  toList_locationText h rest

theorem toList_locationText_item (index : Nat) (rest : List Step) :
    (locationText "" (.item index :: rest)).toList = stepsText (.item index :: rest) := by
  have h : Step.extend "" (.item index) ≠ "" := by
    rw [← String.toList_inj.ne]
    simp [Step.extend]
  refine (toList_locationText h rest).trans ?_
  simp [stepsText, Step.extend, Step.mark, Step.label]

/-! ## Steps from their text -/

/-- Labels end where the next mark stands. -/
theorem append_stepsText_inj {step step' : Step} {rest rest' : List Step} (h : step.Plain)
    (h' : step'.Plain) (heq : step.label ++ stepsText rest = step'.label ++ stepsText rest') :
    step.label = step'.label ∧ stepsText rest = stepsText rest' := by
  rcases List.append_eq_append_iff.mp heq with ⟨between, hlabel, hrest⟩ | ⟨between, hlabel, hrest⟩
  · cases between with
    | nil => exact ⟨by simp [hlabel], hrest⟩
    | cons c between =>
        cases rest with
        | nil => cases hrest
        | cons next rest =>
            refine absurd (List.cons.inj hrest).1.symm (Step.ne_mark_of_mem_label h' c ?_)
            simp [hlabel]
  · cases between with
    | nil => exact ⟨by simp [hlabel], hrest.symm⟩
    | cons c between =>
        cases rest' with
        | nil => cases hrest
        | cons next rest' =>
            refine absurd (List.cons.inj hrest).1.symm (Step.ne_mark_of_mem_label h c ?_)
            simp [hlabel]

theorem stepsText_inj {steps steps' : List Step} (h : ∀ step ∈ steps, step.Plain)
    (h' : ∀ step ∈ steps', step.Plain) (heq : stepsText steps = stepsText steps') :
    steps = steps' := by
  induction steps generalizing steps' with
  | nil =>
      cases steps' with
      | nil => rfl
      | cons step' rest' => cases heq
  | cons step rest ih =>
      cases steps' with
      | nil => cases heq
      | cons step' rest' =>
          obtain ⟨hstep, hrest⟩ := List.forall_mem_cons.mp h
          obtain ⟨hstep', hrest'⟩ := List.forall_mem_cons.mp h'
          obtain ⟨hmark, htext⟩ := List.cons.inj heq
          obtain ⟨hlabel, htail⟩ := append_stepsText_inj hstep hstep' htext
          rw [Step.eq_of_label hmark hlabel, ih hrest hrest' htail]

/-- The text of a location with the mark that its first field goes without. -/
def withMark : List Char → List Char
  | [] => []
  | c :: rest => if c = '[' then c :: rest else '.' :: c :: rest

theorem withMark_locationText {steps : List Step} (h : ∀ step ∈ steps, step.Plain) :
    withMark (locationText "" steps).toList = stepsText steps := by
  cases steps with
  | nil => rfl
  | cons step rest =>
      cases step with
      | item index =>
          rw [toList_locationText_item]
          rfl
      | field name =>
          obtain ⟨hname, -, hbracket⟩ := h _ List.mem_cons_self
          rw [toList_locationText_field hname]
          cases hchars : name.toList with
          | nil => exact absurd (String.toList_eq_nil_iff.mp hchars) hname
          | cons c cs =>
              have hc : c ≠ '[' := by
                rintro rfl
                rw [hchars] at hbracket
                exact hbracket List.mem_cons_self
              rw [List.cons_append, withMark, if_neg hc, stepsText, stepsText, List.flatMap_cons,
                Step.label, hchars]
              rfl

/-- The text tells the steps. -/
theorem locationText_inj {steps steps' : List Step} (h : ∀ step ∈ steps, step.Plain)
    (h' : ∀ step ∈ steps', step.Plain) (heq : locationText "" steps = locationText "" steps') :
    steps = steps' := by
  refine stepsText_inj h h' ?_
  rw [← withMark_locationText h, ← withMark_locationText h', heq]

/-- The text that is one name names a field of the value itself. -/
theorem eq_of_locationText_eq {name : String} {steps : List Step} (hname : Unmarked name)
    (hne : steps ≠ []) (h : ∀ step ∈ steps, step.Plain) (heq : locationText "" steps = name) :
    steps = [.field name] := by
  have hempty : name ≠ "" := by
    rintro rfl
    exact hne (locationText_inj h (by simp) heq)
  refine locationText_inj h ?_ heq
  rintro step hstep
  rw [List.mem_singleton.mp hstep]
  exact ⟨hempty, hname⟩

/-! ## What a location leads to -/

namespace Expression

/-- A location leads to a part of the value. -/
def LeadsTo (value : Expression) (location : String) (part : Expression) : Prop :=
  ∃ steps, (∀ step ∈ steps, step.Plain) ∧ locationText "" steps = location ∧
    value.part? steps = some part

theorem LeadsTo.unique {value part part' : Expression} {location : String}
    (h : value.LeadsTo location part) (h' : value.LeadsTo location part') : part = part' := by
  obtain ⟨steps, hplain, hlocation, hpart⟩ := h
  obtain ⟨steps', hplain', hlocation', hpart'⟩ := h'
  rw [locationText_inj hplain hplain' (hlocation.trans hlocation'.symm), hpart'] at hpart
  exact (Option.some.inj hpart).symm

end Expression

end ODataApi
