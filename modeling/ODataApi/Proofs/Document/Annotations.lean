import ODataApi.Proofs.Document.ElementNames

/-!
# The first annotation wins

A model keeps all annotations and looks for the first one of a term on an element.  `Slots` keeps
one value for each element and term instead: a value is entered where there is none, and later ones
change nothing (`Slots.enter`).  A declaration enters its value on each element it reaches, so
that the slots of one element fill up while others stay empty.

* One more annotation gives a value to an empty slot of its own and to no other
  (`Slots.enter_apply`).
* After any annotations each slot holds what it held before or else the value of the first one
  for it (`Slots.foldl_enter_apply`).
* To enter declarations one by one is to resolve them all and then enter what they give
  (`foldlM_declare`), with the same error where one reaches nothing.
* `first_annotation_wins` says what this means for a loaded model.
-/

namespace ODataApi

/-! ## Slots -/

/-- The value of each term on each element. -/
def Slots : Type := Element → String → Option Expression

namespace Slots

/-- No values yet. -/
def empty : Slots := fun _ _ => none

/-- A value is entered unless its slot has one. -/
def enter (slots : Slots) (a : Annotation) : Slots :=
  match slots a.element a.term with
  | some _ => slots
  | none => fun element term =>
    if a.element = element ∧ a.term = term then some a.value else slots element term

/-- The value of a declaration is entered on each element it reaches. -/
def declare (scope : Scope) (m : Model) (slots : Slots) (d : AnnotationDeclaration) :
    Except ModelError Slots := do
  let annotations ← d.resolve scope m
  pure (annotations.foldl enter slots)

variable {slots : Slots} {element : Element} {term : String}

theorem enter_apply (a : Annotation) : slots.enter a element term
    = (slots element term).or
        (if a.element = element ∧ a.term = term then some a.value else none) := by
  rw [enter]
  by_cases hslot : a.element = element ∧ a.term = term
  · obtain ⟨rfl, rfl⟩ := hslot
    cases hvalue : slots a.element a.term <;> simp [hvalue]
  · cases slots a.element a.term <;> simp [hslot]

theorem foldl_enter_apply (annotations : List Annotation) :
    annotations.foldl enter slots element term
      = (slots element term).or ((annotations.find? fun a =>
          a.element == element && a.term == term).map (·.value)) := by
  induction annotations generalizing slots with
  | nil => simp
  | cons a annotations ih =>
      rw [List.foldl_cons, ih, enter_apply, Option.or_assoc, List.find?_cons]
      congr 1
      by_cases hslot : a.element = element ∧ a.term = term
      · simp [hslot]
      · have hskip : (a.element == element && a.term == term) = false := by
          simpa using hslot
        simp [hslot, hskip]

end Slots

/-- Declarations entered one by one give what they give all together. -/
theorem foldlM_declare (scope : Scope) (m : Model) (slots : Slots)
    (ds : List AnnotationDeclaration) :
    ds.foldlM (Slots.declare scope m) slots
      = (ds.mapM fun (d : AnnotationDeclaration) => d.resolve scope m).map fun annotations =>
          annotations.flatten.foldl Slots.enter slots := by
  induction ds generalizing slots with
  | nil => rfl
  | cons d ds ih =>
      rw [List.foldlM_cons, List.mapM_cons, Slots.declare]
      cases d.resolve scope m with
      | error => rfl
      | ok annotations =>
          refine (ih _).trans ?_
          cases ds.mapM fun (d : AnnotationDeclaration) => d.resolve scope m with
          | error => rfl
          | ok rest =>
              exact congrArg Except.ok (List.foldl_append (l := annotations)).symm

/-! ## Overloads -/

section

variable {scope : Scope} {m : Model} {target : String} {o other : OperationHandle}

theorem Scope.operation_mem_targets_iff : .operation o ∈ scope.targets m target ↔
    (Name.splitMember? target = none ∧ scope.type? target = none ∧
      m.findContainer? (scope.qualify target) = none) ∧
        o ∈ m.operationHandles ∧ (m.operation o).qualifiedName = scope.qualify target := by
  constructor
  · intro h
    have hname := memberName?_of_mem_targets h
    have hsplit : Name.splitMember? target = none := Option.map_eq_none_iff.mp hname.symm
    simp only [targets, hsplit] at h
    cases htype : scope.type? target with
    | some t => simp [htype] at h
    | none =>
        cases hcontainer : m.findContainer? (scope.qualify target) with
        | some c => simp [htype, hcontainer] at h
        | none => simpa [htype, hcontainer, hsplit] using h
  · rintro ⟨⟨hsplit, htype, hcontainer⟩, ho, hname⟩
    simp [targets, hsplit, htype, hcontainer, ho, hname]

/-- A target that leads to an operation leads to its overloads and nowhere else. -/
theorem Scope.overload_mem_targets_iff (h : .operation o ∈ scope.targets m target) :
    .operation other ∈ scope.targets m target ↔
      other ∈ m.operationHandles ∧
        (m.operation other).qualifiedName = (m.operation o).qualifiedName := by
  obtain ⟨hfound, -, hname⟩ := operation_mem_targets_iff.mp h
  rw [operation_mem_targets_iff, hname]
  exact and_iff_right hfound

end

namespace Document

variable {document : Document} {id : ModelId} {m : Model}

/-- What a declaration puts on an element it reaches has the value of the declaration. -/
theorem find?_annotationsFor (d : AnnotationDeclaration) (e : Element) (term : String) :
    ((document.annotationsFor m d).find? fun a => a.element == e && a.term == term).map (·.value)
      = if d.term == term && ((Scope.ofDocument document).targets m d.target).contains e then
          some d.value
        else none := by
  by_cases hterm : d.term = term
  · rw [annotationsFor]
    induction (Scope.ofDocument document).targets m d.target with
    | nil => simp
    | cons element elements ih =>
        rw [List.map_cons, List.find?_cons, List.contains_cons]
        by_cases helement : element = e
        · simp [hterm, helement]
        · have hskip : (element == e) = false := beq_eq_false_iff_ne.mpr helement
          have hskip' : (e == element) = false := beq_eq_false_iff_ne.mpr (Ne.symm helement)
          rw [hskip, hskip', Bool.false_and, Bool.false_or]
          exact ih
  · simp [annotationsFor, hterm]

theorem find?_flatMap_annotationsFor (ds : List AnnotationDeclaration) (e : Element)
    (term : String) :
    ((ds.flatMap (document.annotationsFor m)).find? fun a =>
        a.element == e && a.term == term).map (·.value)
      = (ds.find? fun d => d.term == term &&
          ((Scope.ofDocument document).targets m d.target).contains e).map (·.value) := by
  induction ds with
  | nil => rfl
  | cons d ds ih =>
      rw [List.flatMap_cons, List.find?_append, Option.map_or, find?_annotationsFor, ih,
        List.find?_cons]
      cases d.term == term && ((Scope.ofDocument document).targets m d.target).contains e with
      | true => rfl
      | false => rfl

end Document

/-- In a loaded model an element has, under each term, the value of the first declaration with that
term that reaches it.  This is what is left when the declarations are entered one by one and a
slot that has a value keeps it.  A declaration that reaches an operation reaches the operations of
the same qualified name. -/
theorem first_annotation_wins (document : Document) (id : ModelId) (m : Model)
    (hload : document.resolve id = .ok m) :
    (∃ slots, document.annotations.foldlM (Slots.declare (Scope.ofDocument document) m) Slots.empty
        = .ok slots ∧ ∀ e term, slots e term = m.annotation? e term) ∧
      (∀ e term, m.annotation? e term = (document.annotations.find? fun d =>
        d.term == term && ((Scope.ofDocument document).targets m d.target).contains e).map
          (·.value)) ∧
      ∀ target o, .operation o ∈ (Scope.ofDocument document).targets m target →
        ∀ other, .operation other ∈ (Scope.ofDocument document).targets m target ↔
          other ∈ m.operationHandles ∧
            (m.operation other).qualifiedName = (m.operation o).qualifiedName := by
  refine ⟨?_, fun e term => ?_, fun target o ho other => Scope.overload_mem_targets_iff ho⟩
  · obtain ⟨annotations, -, hannotations, heq⟩ := Document.resolve_eq_ok hload
    refine ⟨annotations.flatten.foldl Slots.enter Slots.empty, ?_, fun e term => ?_⟩
    · rw [foldlM_declare]
      exact congrArg (Except.map _) hannotations
    · rw [Slots.foldl_enter_apply, ← heq]
      rfl
  · rw [Model.annotation?, Document.annotations_of_resolve hload]
    exact Document.find?_flatMap_annotationsFor _ e term

/-- Two overloads, annotated twice under two spellings of their name. -/
def overloadsDocument : Document where
  ns := "A"
  operations := [
    { name := "F", kind := .function },
    { name := "F", kind := .function, parameters := [⟨"p", "Edm.String", false, false⟩] }]
  annotations := [⟨"F", "T", .bool true⟩, ⟨"A.F", "T", .bool false⟩, ⟨"A.F", "U", .bool false⟩]

/-- The model of `overloadsDocument`. -/
def overloadsModel : Model := overloadsDocument.loaded ⟨0⟩

/-- The second overload has what each term is given first. -/
theorem overloadsModel_annotation :
    overloadsDocument.resolve ⟨0⟩ = .ok overloadsModel ∧
      overloadsModel.annotation? (.operation ⟨1⟩) "T" = some (.bool true) ∧
      overloadsModel.annotation? (.operation ⟨1⟩) "U" = some (.bool false) ∧
      .operation ⟨1⟩ ∈ (Scope.ofDocument overloadsDocument).targets overloadsModel "F" := by
  have hload : overloadsDocument.resolve ⟨0⟩ = .ok overloadsModel := rfl
  obtain ⟨-, hfirst, hoverloads⟩ := first_annotation_wins _ _ _ hload
  refine ⟨hload, ?_, ?_, ?_⟩
  · rw [hfirst]
    rfl
  · rw [hfirst]
    rfl
  · exact (hoverloads "F" ⟨0⟩ (by decide) ⟨1⟩).mpr ⟨by decide, rfl⟩

end ODataApi
