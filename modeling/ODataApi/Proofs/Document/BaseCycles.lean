import ODataApi.Proofs.Document.Checks
import Mathlib.Order.Defs.Unbundled

/-!
# Cycles of base types

The check of a document follows the bases of each type and counts its steps.  What it is to find
out is whether the bases of a type can be followed for ever (`Model.Endless`).

* A chain is endless if and only if it leads to a cycle, which the type need not be on
  (`endless_iff_leads_to_cycle`).
* A chain that ends has no more steps than there are types (`endsWithin_length`), so the number of
  steps tells the two kinds apart (`endless_iff`).
* `cycles_detected_exactly` puts this together: the check refuses the types with an endless chain
  and no others, and in a loaded model every chain ends.
-/

namespace ODataApi

namespace Model

/-! ## Chains without an end -/

/-- The bases of a type can be followed for ever. -/
def Endless (types : List EntityType) (t : EntityTypeHandle) : Prop :=
  ∃ chain : Nat → EntityTypeHandle, chain 0 = t ∧ ∀ n, HasBase types (chain n) (chain (n + 1))

section

variable {types : List EntityType} {t u : EntityTypeHandle} {n : Nat}

theorem Endless.next (h : Endless types t) : ∃ b, HasBase types t b ∧ Endless types b := by
  obtain ⟨chain, rfl, hchain⟩ := h
  exact ⟨chain 1, hchain 0, fun n => chain (n + 1), rfl, fun n => hchain (n + 1)⟩

/-- Where each type that a chain comes to has a base, it goes on for ever. -/
theorem endless_of_forall
    (h : ∀ u, Relation.ReflTransGen (HasBase types) t u → ∃ b, HasBase types u b) :
    Endless types t := by
  choose base hbase using h
  -- the chain carries along that it starts at `t`
  let chain : Nat → { u // Relation.ReflTransGen (HasBase types) t u } := fun n =>
    n.rec ⟨t, .refl⟩ fun _ u => ⟨base u.1 u.2, u.2.tail (hbase u.1 u.2)⟩
  exact ⟨fun n => (chain n).1, rfl, fun n => hbase (chain n).1 (chain n).2⟩

/-! ## Chains with an end -/

theorem Endless.not_endsWithin (h : Endless types t) : endsWithin types n t = false := by
  induction n generalizing t with
  | zero =>
      obtain ⟨b, hb, -⟩ := h.next
      exact hb.endsWithin_zero
  | succ n ih =>
      obtain ⟨b, hb, hnext⟩ := h.next
      rw [hb.endsWithin_succ]
      exact ih hnext

/-- What a chain with an end comes to has a chain with an end. -/
theorem exists_endsWithin_of_reached (h : Relation.ReflTransGen (HasBase types) t u)
    (hends : endsWithin types n t = true) : ∃ k, endsWithin types k u = true := by
  induction h with
  | refl => exact ⟨n, hends⟩
  | tail _ hb ih =>
      obtain ⟨k, hk⟩ := ih
      cases k with
      | zero =>
          rw [hb.endsWithin_zero] at hk
          cases hk
      | succ k =>
          rw [hb.endsWithin_succ] at hk
          exact ⟨k, hk⟩

/-- A chain ends if it comes to a type without a base. -/
theorem exists_endsWithin_of_root (h : Relation.ReflTransGen (HasBase types) t u)
    (hu : ∀ b, ¬ HasBase types u b) : ∃ k, endsWithin types k t = true := by
  induction h using Relation.ReflTransGen.head_induction_on with
  | refl => exact ⟨0, Option.isNone_iff_eq_none.mpr (Option.eq_none_iff_forall_ne_some.mpr hu)⟩
  | head hb _ ih =>
      obtain ⟨k, hk⟩ := ih
      exact ⟨k + 1, hb.endsWithin_succ.trans hk⟩

/-- A chain that ends has no more steps than there are types. -/
theorem endsWithin_length (h : endsWithin types n t = true) :
    endsWithin types types.length t = true := by
  refine endsWithin_of_not_transGen fun u hu => ?_
  obtain ⟨k, hk⟩ := exists_endsWithin_of_reached hu h
  exact not_transGen_of_endsWithin hk

/-- As many steps as there are types tell whether a chain is endless. -/
theorem endless_iff : Endless types t ↔ endsWithin types types.length t = false := by
  constructor
  · exact Endless.not_endsWithin
  · intro hends
    refine endless_of_forall fun u hu => ?_
    by_contra hroot
    obtain ⟨k, hk⟩ := exists_endsWithin_of_root hu (not_exists.mp hroot)
    rw [endsWithin_length hk] at hends
    cases hends

/-- A chain is endless if and only if it leads to a cycle. -/
theorem endless_iff_leads_to_cycle : Endless types t ↔
    ∃ u, Relation.ReflTransGen (HasBase types) t u ∧ Relation.TransGen (HasBase types) u u := by
  rw [endless_iff, ← Bool.not_eq_true]
  constructor
  · intro hends
    by_contra hcycle
    exact hends (endsWithin_of_not_transGen fun u hu hback => hcycle ⟨u, hu, hback⟩)
  · rintro ⟨u, hu, hback⟩ hends
    obtain ⟨k, hk⟩ := exists_endsWithin_of_reached hu hends
    exact not_transGen_of_endsWithin hk hback

end

end Model

/-! ## The check -/

section

open Model (Endless endless_iff)

variable {types : List EntityType}

theorem endlessType?_eq_some_iff {i : Nat} : endlessType? types = some ⟨i⟩ ↔
    i < types.length ∧ Endless types ⟨i⟩ ∧ ∀ j < i, ¬ Endless types ⟨j⟩ := by
  have hfind : endlessType? types = ((List.range types.length).find? fun i =>
      !Model.endsWithin types types.length ⟨i⟩).map Handle.mk := by
    rw [endlessType?_eq, Model.handles, List.find?_map]
    rfl
  simp only [hfind, Option.map_eq_some_iff, List.find?_range_eq_some, endless_iff, Handle.mk.injEq,
    exists_eq_right, List.mem_range, Bool.not_eq_true', Bool.not_eq_false, Bool.not_not]
  exact and_left_comm

theorem checkBases_eq_error_iff {e : ModelError} : checkBases types = .error e ↔
    ∃ (i : Nat) (h : i < types.length), Endless types ⟨i⟩ ∧ (∀ j < i, ¬ Endless types ⟨j⟩) ∧
      e = .baseTypeCycle types[i].qualifiedName := by
  rw [checkBases]
  constructor
  · intro h
    cases hfound : endlessType? types with
    | none =>
        rw [hfound] at h
        cases h
    | some t =>
        rw [hfound] at h
        obtain ⟨hi, hendless, hfirst⟩ := endlessType?_eq_some_iff.mp hfound
        refine ⟨t.index, hi, hendless, hfirst, ?_⟩
        rw [← Except.error.inj h, List.getElem?_eq_getElem hi, Option.getD_some]
  · rintro ⟨i, hi, hendless, hfirst, rfl⟩
    rw [endlessType?_eq_some_iff.mpr ⟨hi, hendless, hfirst⟩]
    simp only [List.getElem?_eq_getElem hi, Option.getD_some]

theorem checkBases_eq_ok_iff : checkBases types = .ok () ↔ ∀ t, ¬ Endless types t := by
  simp only [endless_iff, Bool.not_eq_false]
  rw [← checkBases_isOk_iff_endsWithin, Except.isOk_iff]
  exact ⟨fun h => ⟨(), h⟩, fun ⟨_, h⟩ => h⟩

end

/-! ## Loaded models -/

namespace Model

/-- What is met, and then the end, on the way along the bases from a type or from none. -/
inductive Walk (m : Model) : Option EntityTypeHandle → List EntityTypeHandle → Prop
  | stop : m.Walk none []
  | step {t : EntityTypeHandle} {rest : List EntityTypeHandle} :
      m.Walk (m.entityType t).base rest → m.Walk (some t) (t :: rest)

variable {m : Model}

/-- The chain of a type is all of the way from it. -/
theorem walk_typeChain (hm : m.Acyclic) (t : EntityTypeHandle) :
    m.Walk (some t) (m.typeChain t) := by
  induction t using hm.induction with
  | root t h =>
      rw [typeChain_of_root h]
      exact .step (h ▸ .stop)
  | extend t b h ih =>
      rw [typeChain_of_extends hm h]
      have hbase : (m.entityType t).base = some b := h
      exact .step (hbase ▸ ih)

theorem walk_baseTypes (hm : m.Acyclic) (t : EntityTypeHandle) :
    m.Walk (m.entityType t).base (m.baseTypes t) := by
  have hwalk := walk_typeChain hm t
  rw [baseTypes]
  cases hchain : m.typeChain t with
  | nil =>
      rw [hchain] at hwalk
      cases hwalk
  | cons _ _ =>
      rw [hchain] at hwalk
      cases hwalk with
      | step hrest => exact hrest

theorem isSubtypeOf_isPartialOrder (hm : m.Acyclic) :
    IsPartialOrder EntityTypeHandle fun t u => m.isSubtypeOf t u = true where
  refl t := (isSubtypeOf_iff hm).mpr (inherits_refl t)
  trans t u v htu huv :=
    (isSubtypeOf_iff hm).mpr (((isSubtypeOf_iff hm).mp htu).trans ((isSubtypeOf_iff hm).mp huv))
  antisymm t u htu hut := by
    have hforth := (isSubtypeOf_iff hm).mp htu
    have hback := (isSubtypeOf_iff hm).mp hut
    rcases Relation.reflTransGen_iff_eq_or_transGen.mp hforth with heq | hforth
    · exact heq.symm
    · exact absurd (hforth.trans_left hback) (acyclic_iff.mp hm t)

end Model

/-- The check of the bases refuses exactly the types of which one has an endless chain, be it on a
cycle or only before one, and names the first of these.  So the chains of a loaded model end and
hold no type twice, and to be a subtype is a partial order. -/
theorem cycles_detected_exactly :
    (∀ types : List EntityType,
      (checkBases types = .ok () ↔ ∀ t, ¬ Model.Endless types t) ∧
      (∀ e, checkBases types = .error e ↔
        ∃ (i : Nat) (h : i < types.length), Model.Endless types ⟨i⟩ ∧
          (∀ j < i, ¬ Model.Endless types ⟨j⟩) ∧ e = .baseTypeCycle types[i].qualifiedName) ∧
      ∀ t, Model.Endless types t ↔ ∃ u, Relation.ReflTransGen (Model.HasBase types) t u ∧
        Relation.TransGen (Model.HasBase types) u u) ∧
    ∀ (document : Document) (id : ModelId) (m : Model), document.resolve id = .ok m →
      (∀ t, m.Walk (some t) (m.typeChain t) ∧ (m.typeChain t).Nodup ∧
        m.Walk (m.entityType t).base (m.baseTypes t) ∧ (m.baseTypes t).Nodup) ∧
      IsPartialOrder EntityTypeHandle fun t u => m.isSubtypeOf t u = true := by
  refine ⟨fun types => ⟨checkBases_eq_ok_iff, fun e => checkBases_eq_error_iff,
    fun t => Model.endless_iff_leads_to_cycle⟩, ?_⟩
  intro document id m hload
  have hm := (Document.resolve_wellFormed hload).acyclic
  refine ⟨fun t => ?_, Model.isSubtypeOf_isPartialOrder hm⟩
  have hnodup := Model.typeChain_nodup hm t
  exact ⟨Model.walk_typeChain hm t, hnodup, Model.walk_baseTypes hm t, hnodup.tail⟩

/-- Each type but the last extends the next one. -/
def spineDocument : Document where
  ns := "N"
  entityTypes := [
    { name := "A", base := some "B" },
    { name := "B", base := some "C" },
    { name := "C" }]

/-- The model of `spineDocument`. -/
def spineModel : Model := spineDocument.loaded ⟨0⟩

/-- The first type leads to a cycle of the others. -/
def lassoTypes : List EntityType := [
  { (default : EntityType) with ns := "N", name := "A", base := some ⟨1⟩ },
  { (default : EntityType) with ns := "N", name := "B", base := some ⟨2⟩ },
  { (default : EntityType) with ns := "N", name := "C", base := some ⟨1⟩ }]

/-- A chain through all types is walked to its end, and a type before a cycle is found out. -/
theorem spineModel_chain_ends :
    spineDocument.resolve ⟨0⟩ = .ok spineModel ∧
      spineModel.Walk (some ⟨0⟩) [⟨0⟩, ⟨1⟩, ⟨2⟩] ∧
      checkBases lassoTypes = .error (.baseTypeCycle "N.A") ∧ Model.Endless lassoTypes ⟨0⟩ := by
  have hload : spineDocument.resolve ⟨0⟩ = .ok spineModel := rfl
  obtain ⟨hcheck, hloaded⟩ := cycles_detected_exactly
  have herror : checkBases lassoTypes = .error (.baseTypeCycle "N.A") := rfl
  obtain ⟨i, hi, hendless, -, hname⟩ := ((hcheck lassoTypes).2.1 _).mp herror
  have hfirst : i = 0 := by
    match i, hi with
    | 0, _ => rfl
    | 1, _ => exact absurd (show "N.A" = "N.B" from ModelError.baseTypeCycle.inj hname) (by decide)
    | 2, _ => exact absurd (show "N.A" = "N.C" from ModelError.baseTypeCycle.inj hname) (by decide)
  subst hfirst
  exact ⟨hload, ((hloaded _ _ _ hload).1 ⟨0⟩).1, herror, hendless⟩

end ODataApi
