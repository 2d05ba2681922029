import ODataApi.Proofs.Levels
import Mathlib.Data.List.Perm.Subperm
import Mathlib.Logic.Relation

/-!
# The hierarchy of entity types

`Model.Inherits` follows base types without a bound.  Where every chain of base
types ends (`Model.Acyclic`), the bounded walks of a model are exact.

* The chain of a type holds each type that it inherits from once
  (`mem_typeChain_iff`, `typeChain_nodup`).
* Every chain ends exactly if no type inherits from itself (`acyclic_iff`).

The pass that fills the index of subtypes appends each type to the list of its base
(`getElem?_enterSubtype`), so in the end the list of a type holds the types with that
base, as they are declared (`subtypes_eq`).  Where base types exist as well
(`Model.Hierarchical`), the derived types of a type are the other types that inherit
from it, each once (`mem_derivedTypes_iff`, `derivedTypes_nodup`).

What a type has of its own and from its base types follows: navigation properties
and bound operations occur once each, and the navigation properties of a type begin with those
of each type that it inherits from (`navigationProperties_isPrefix`).
-/

namespace ODataApi

namespace Model

/-! ## Handles -/

theorem mem_handles {kind : ElementKind} {count : Nat} {h : Handle kind} :
    h ∈ handles kind count ↔ h.index < count := by
  simp only [handles, List.mem_map, List.mem_range]
  constructor
  · rintro ⟨i, hi, rfl⟩
    exact hi
  · intro hi
    exact ⟨h.index, hi, rfl⟩

theorem handles_nodup (kind : ElementKind) (count : Nat) : (handles kind count).Nodup := by
  refine List.nodup_range.map ?_
  intro i j h
  exact congrArg Handle.index h

theorem handles_ordered (kind : ElementKind) (count : Nat) :
    (handles kind count).Pairwise fun h h' => h.index < h'.index := by
  rw [handles, List.pairwise_map]
  exact List.pairwise_lt_range

variable {m : Model}

/-! ## Inheritance -/

/-- A type extends its base type. -/
def Extends (m : Model) (t base : EntityTypeHandle) : Prop := (m.entityType t).base = some base

/-- A type inherits from itself, its base type, the base type of that, and so on. -/
def Inherits (m : Model) : EntityTypeHandle → EntityTypeHandle → Prop :=
  Relation.ReflTransGen m.Extends

theorem inherits_refl (t : EntityTypeHandle) : m.Inherits t t := Relation.ReflTransGen.refl

/-- Inheritance from a type goes through its base type. -/
theorem inherits_iff {t u : EntityTypeHandle} :
    m.Inherits t u ↔ t = u ∨ ∃ b, m.Extends t b ∧ m.Inherits b u :=
  Relation.ReflTransGen.cases_head_iff

section

variable {types : List EntityType} {t b : EntityTypeHandle} {n : Nat}

/-- A type of a list has a base.  In a model it extends it. -/
def HasBase (types : List EntityType) (t base : EntityTypeHandle) : Prop :=
  (types[t.index]?.getD default).base = some base

/-- Whether a chain ends after at most `steps` steps. -/
def endsWithin (types : List EntityType) : (steps : Nat) → EntityTypeHandle → Bool
  | 0, t => (types[t.index]?.getD default).base.isNone
  | steps + 1, t =>
    match (types[t.index]?.getD default).base with
    | none => true
    | some base => endsWithin types steps base

theorem HasBase.mem_handles (h : HasBase types t b) : t ∈ handles .entityType types.length := by
  rw [Model.mem_handles]
  by_contra hlt
  have hnone : types[t.index]? = none := List.getElem?_eq_none (Nat.le_of_not_lt hlt)
  rw [HasBase, hnone] at h
  cases h

theorem HasBase.endsWithin_zero (h : HasBase types t b) : endsWithin types 0 t = false := by
  rw [HasBase] at h
  rw [endsWithin, h]
  rfl

theorem HasBase.endsWithin_succ (h : HasBase types t b) :
    endsWithin types (n + 1) t = endsWithin types n b := by
  rw [HasBase] at h
  rw [endsWithin, h]

end

/-- Every chain of base types ends. -/
def Acyclic (m : Model) : Prop :=
  ∀ t, endsWithin m.entityTypes m.entityTypes.length t = true

/-- A type with a base type is a type of the model. -/
theorem Extends.mem_entityTypeHandles {t b : EntityTypeHandle} (h : m.Extends t b) :
    t ∈ m.entityTypeHandles :=
  HasBase.mem_handles h

/-! ## Chains of base types -/

/-- More steps than a chain has change nothing. -/
theorem chainWithin_of_endsWithin {types : List EntityType} :
    ∀ {n k : Nat} {t : EntityTypeHandle}, endsWithin types n t = true → n ≤ k →
      chainWithin types k t = chainWithin types n t
  | 0, 0, _, _, _ => rfl
  | 0, k + 1, t, h, _ => by
      rw [endsWithin, Option.isNone_iff_eq_none] at h
      simp [chainWithin, h]
  | n + 1, k + 1, t, h, hk => by
      rw [endsWithin] at h
      rw [chainWithin, chainWithin]
      cases hb : (types[t.index]?.getD default).base with
      | none => rfl
      | some b =>
          rw [hb] at h
          simp only
          rw [chainWithin_of_endsWithin h (Nat.le_of_succ_le_succ hk)]

theorem typeChain_of_root {t : EntityTypeHandle} (h : (m.entityType t).base = none) :
    m.typeChain t = [t] := by
  have h' : (m.entityTypes[t.index]?.getD default).base = none := h
  rw [typeChain]
  cases m.entityTypes.length with
  | zero => rfl
  | succ n => simp [chainWithin, h']

theorem typeChain_of_extends (hm : m.Acyclic) {t b : EntityTypeHandle} (h : m.Extends t b) :
    m.typeChain t = t :: m.typeChain b := by
  have h' : (m.entityTypes[t.index]?.getD default).base = some b := h
  have ht := hm t
  unfold typeChain
  cases hn : m.entityTypes.length with
  | zero =>
      rw [hn, endsWithin, h'] at ht
      cases ht
  | succ n =>
      rw [hn, endsWithin, h'] at ht
      rw [chainWithin, h']
      simp only
      rw [chainWithin_of_endsWithin ht (Nat.le_succ n)]

theorem length_chainWithin_le {types : List EntityType} :
    ∀ (n : Nat) (t : EntityTypeHandle), (chainWithin types n t).length ≤ n + 1
  | 0, _ => Nat.le_refl 1
  | n + 1, t => by
      rw [chainWithin]
      cases (types[t.index]?.getD default).base with
      | none => simp
      | some b =>
          rw [List.length_cons]
          exact Nat.succ_le_succ (length_chainWithin_le n b)

theorem length_typeChain_le (t : EntityTypeHandle) :
    (m.typeChain t).length ≤ m.entityTypes.length + 1 :=
  length_chainWithin_le _ t

theorem length_typeChain_pos (t : EntityTypeHandle) : 0 < (m.typeChain t).length := by
  rw [typeChain]
  cases m.entityTypes.length with
  | zero => exact Nat.one_pos
  | succ n =>
      rw [chainWithin]
      cases (m.entityTypes[t.index]?.getD default).base <;> simp

theorem length_typeChain_of_extends (hm : m.Acyclic) {t b : EntityTypeHandle}
    (h : m.Extends t b) : (m.typeChain t).length = (m.typeChain b).length + 1 := by
  rw [typeChain_of_extends hm h, List.length_cons]

/-- What holds of the types without a base type and passes from a base type to the
types that extend it holds of every type. -/
theorem Acyclic.induction (hm : m.Acyclic) {P : EntityTypeHandle → Prop}
    (root : ∀ t, (m.entityType t).base = none → P t)
    (extend : ∀ t b, m.Extends t b → P b → P t) (t : EntityTypeHandle) : P t := by
  induction hn : (m.typeChain t).length using Nat.strongRecOn generalizing t with
  | ind n ih =>
      cases hb : (m.entityType t).base with
      | none => exact root t hb
      | some b =>
          have hlt := length_typeChain_of_extends hm hb
          exact extend t b hb (ih _ (by omega) b rfl)

theorem mem_typeChain_iff (hm : m.Acyclic) {t u : EntityTypeHandle} :
    u ∈ m.typeChain t ↔ m.Inherits t u := by
  induction t using hm.induction with
  | root t h =>
      rw [typeChain_of_root h, List.mem_singleton, inherits_iff]
      constructor
      · intro hu
        exact Or.inl hu.symm
      · rintro (hu | ⟨b, hb, -⟩)
        · exact hu.symm
        · rw [Extends, h] at hb
          cases hb
  | extend t b h ih =>
      rw [typeChain_of_extends hm h, List.mem_cons, ih, inherits_iff (t := t)]
      constructor
      · rintro (hu | hu)
        · exact Or.inl hu.symm
        · exact Or.inr ⟨b, h, hu⟩
      · rintro (hu | ⟨b', hb', hu⟩)
        · exact Or.inl hu.symm
        · have hbb : b = b' := Option.some.inj (h.symm.trans hb')
          exact Or.inr (hbb ▸ hu)

theorem isSubtypeOf_iff (hm : m.Acyclic) {t u : EntityTypeHandle} :
    m.isSubtypeOf t u = true ↔ m.Inherits t u := by
  rw [isSubtypeOf, List.contains_iff_mem, mem_typeChain_iff hm]

/-- A chain gets shorter towards its end. -/
theorem length_typeChain_le_of_inherits (hm : m.Acyclic) {t u : EntityTypeHandle}
    (h : m.Inherits t u) : (m.typeChain u).length ≤ (m.typeChain t).length := by
  induction h with
  | refl => exact Nat.le_refl _
  | tail _ h ih =>
      have := length_typeChain_of_extends hm h
      omega

theorem typeChain_nodup (hm : m.Acyclic) (t : EntityTypeHandle) : (m.typeChain t).Nodup := by
  induction t using hm.induction with
  | root t h =>
      rw [typeChain_of_root h]
      exact List.nodup_singleton t
  | extend t b h ih =>
      rw [typeChain_of_extends hm h, List.nodup_cons]
      refine ⟨?_, ih⟩
      intro ht
      have hle := length_typeChain_le_of_inherits hm ((mem_typeChain_iff hm).mp ht)
      have hlt := length_typeChain_of_extends hm h
      omega

/-- The chain of a type ends with the chain of each type that it inherits from. -/
theorem typeChain_isSuffix (hm : m.Acyclic) {t u : EntityTypeHandle} (h : m.Inherits u t) :
    m.typeChain t <:+ m.typeChain u := by
  induction h using Relation.ReflTransGen.head_induction_on with
  | refl => exact List.suffix_refl _
  | @head u b h _ ih =>
      rw [typeChain_of_extends hm h]
      exact ih.trans (List.suffix_cons u _)

/-! ## Cycles -/

section

variable {types : List EntityType}

/-- A chain that does not end has as many types as it has steps to go, all with a base type. -/
theorem chainWithin_of_not_endsWithin :
    ∀ {n : Nat} {t : EntityTypeHandle}, endsWithin types n t = false →
      (chainWithin types n t).length = n + 1 ∧ ∀ u ∈ chainWithin types n t, ∃ b, HasBase types u b
  | 0, t, h => by
      rw [endsWithin, Option.isNone_eq_false_iff] at h
      refine ⟨rfl, fun u hu => ?_⟩
      rw [List.mem_singleton.mp hu]
      exact Option.isSome_iff_exists.mp h
  | n + 1, t, h => by
      rw [endsWithin] at h
      rw [chainWithin]
      cases hb : (types[t.index]?.getD default).base with
      | none =>
          rw [hb] at h
          cases h
      | some b =>
          rw [hb] at h
          obtain ⟨hlength, hextends⟩ := chainWithin_of_not_endsWithin h
          refine ⟨congrArg (· + 1) hlength, fun u hu => ?_⟩
          rcases List.mem_cons.mp hu with rfl | hu
          · exact ⟨b, hb⟩
          · exact hextends u hu

/-- A type comes to what is in its chain. -/
theorem reached_of_mem_chainWithin :
    ∀ {n : Nat} {t u : EntityTypeHandle}, u ∈ chainWithin types n t →
      Relation.ReflTransGen (HasBase types) t u
  | 0, t, u, h => by
      rw [List.mem_singleton.mp h]
  | n + 1, t, u, h => by
      rw [chainWithin] at h
      cases hb : (types[t.index]?.getD default).base with
      | none =>
          rw [hb] at h
          rw [List.mem_singleton.mp h]
      | some b =>
          rw [hb] at h
          rcases List.mem_cons.mp h with rfl | h
          · exact .refl
          · exact (reached_of_mem_chainWithin h).head hb

/-- Along a chain, each type comes to those after it in at least one step. -/
theorem chainWithin_pairwise :
    ∀ (n : Nat) (t : EntityTypeHandle),
      (chainWithin types n t).Pairwise (Relation.TransGen (HasBase types))
  | 0, t => List.pairwise_singleton _ t
  | n + 1, t => by
      rw [chainWithin]
      cases hb : (types[t.index]?.getD default).base with
      | none => exact List.pairwise_singleton _ t
      | some b =>
          refine List.pairwise_cons.mpr ⟨fun u hu => ?_, chainWithin_pairwise n b⟩
          exact Relation.TransGen.head' hb (reached_of_mem_chainWithin hu)

/-- A chain that ends does not come back to where it starts. -/
theorem not_transGen_of_endsWithin :
    ∀ {n : Nat} {t : EntityTypeHandle}, endsWithin types n t = true →
      ¬ Relation.TransGen (HasBase types) t t
  | 0, t, h, hcycle => by
      obtain ⟨b, hb, -⟩ := Relation.TransGen.head'_iff.mp hcycle
      rw [hb.endsWithin_zero] at h
      cases h
  | n + 1, t, h, hcycle => by
      obtain ⟨b, hb, hback⟩ := Relation.TransGen.head'_iff.mp hcycle
      rw [hb.endsWithin_succ] at h
      -- the base type is on the same cycle
      exact not_transGen_of_endsWithin h (Relation.TransGen.tail' hback hb)

/-- A chain without a cycle has no more steps than there are types. -/
theorem endsWithin_of_not_transGen {t : EntityTypeHandle}
    (hcycle : ∀ u, Relation.ReflTransGen (HasBase types) t u →
      ¬ Relation.TransGen (HasBase types) u u) :
    endsWithin types types.length t = true := by
  by_contra hends
  obtain ⟨hlength, hextends⟩ := chainWithin_of_not_endsWithin (Bool.not_eq_true _ ▸ hends)
  have hnodup : (chainWithin types types.length t).Nodup := by
    refine (chainWithin_pairwise _ t).imp_of_mem ?_
    rintro u _ hu - h rfl
    exact hcycle u (reached_of_mem_chainWithin hu) h
  have hsubset : chainWithin types types.length t ⊆ handles .entityType types.length := by
    intro u hu
    obtain ⟨b, hb⟩ := hextends u hu
    exact hb.mem_handles
  -- more types than the list has
  have hle := (List.subperm_of_subset hnodup hsubset).length_le
  rw [hlength, handles, List.length_map, List.length_range] at hle
  omega

end

/-- Every chain of base types ends if and only if no type inherits from itself. -/
theorem acyclic_iff : m.Acyclic ↔ ∀ t, ¬ Relation.TransGen m.Extends t t :=
  ⟨fun hm t => not_transGen_of_endsWithin (hm t),
    fun hcycle _ => endsWithin_of_not_transGen fun u _ => hcycle u⟩

/-! ## The index of subtypes -/

section

variable {types : List EntityType} {index : List (List EntityTypeHandle)}

/-- Entering a type appends it to the list of its base and leaves the other lists alone. -/
theorem getElem?_enterSubtype (type : EntityType) (i : Nat) (t : EntityTypeHandle) :
    (enterSubtype index (type, i))[t.index]? = index[t.index]?.map fun subtypes =>
      if type.base = some t then subtypes ++ [⟨i⟩] else subtypes := by
  cases hbase : type.base with
  | none => simp [enterSubtype, hbase]
  | some base =>
      obtain ⟨b⟩ := base
      obtain ⟨j⟩ := t
      simp only [enterSubtype, hbase, List.getElem?_modify, Option.some.injEq, Handle.mk.injEq]
      rfl

theorem length_enterSubtype (entry : EntityType × Nat) :
    (enterSubtype index entry).length = index.length := by
  rw [enterSubtype]
  split
  · rfl
  · exact List.length_modify ..

/-- A pass over types appends to the list of each type those with that base, in order. -/
theorem getElem?_foldl_enterSubtype (entries : List (EntityType × Nat)) (t : EntityTypeHandle) :
    (entries.foldl enterSubtype index)[t.index]? = index[t.index]?.map fun subtypes =>
      subtypes ++ (entries.filter fun entry => entry.1.base == some t).map fun entry =>
        ⟨entry.2⟩ := by
  induction entries generalizing index with
  | nil => simp
  | cons entry entries ih =>
      rw [List.foldl_cons, ih, getElem?_enterSubtype, Option.map_map]
      congr 1
      funext subtypes
      by_cases hbase : entry.1.base = some t
      · simp [hbase]
      · simp [hbase]

/-- Each type has one list in the index. -/
theorem length_indexSubtypes (types : List EntityType) :
    (indexSubtypes types).length = types.length := by
  rw [indexSubtypes]
  refine List.foldlRecOn (motive := fun index => index.length = types.length) _ enterSubtype
    List.length_replicate ?_
  intro index hlength entry _
  rw [length_enterSubtype, hlength]

/-- The types with their positions are what the handles lead to. -/
theorem zipIdx_eq_map_handles (types : List EntityType) :
    types.zipIdx = (handles .entityType types.length).map fun u =>
      (types[u.index]?.getD default, u.index) := by
  refine List.ext_getElem (by simp [handles]) ?_
  intro i h _
  rw [List.length_zipIdx] at h
  simp [handles, h]

/-- The list of a type in the index holds the types with that base, as they are declared. -/
theorem getElem?_indexSubtypes {t : EntityTypeHandle}
    (ht : t ∈ handles .entityType types.length) :
    (indexSubtypes types)[t.index]? = some ((handles .entityType types.length).filter fun u =>
      (types[u.index]?.getD default).base == some t) := by
  rw [mem_handles] at ht
  rw [indexSubtypes, getElem?_foldl_enterSubtype, List.getElem?_replicate, if_pos ht,
    zipIdx_eq_map_handles, List.filter_map, List.map_map]
  exact congrArg some (List.map_id' _)

end

/-- Chains of base types end, base types exist, and the index of subtypes is filled. -/
structure Hierarchical (m : Model) : Prop where
  /-- Chains of base types end. -/
  acyclic : m.Acyclic
  /-- Base types exist. -/
  base_mem : ∀ t b, m.Extends t b → b ∈ m.entityTypeHandles
  /-- The index is what the pass over the types gives. -/
  subtypes_indexed : m.subtypeIndex = indexSubtypes m.entityTypes

/-- The stored subtypes of a type are the types with that base, as they are declared. -/
theorem Hierarchical.subtypes_eq (hm : m.Hierarchical) (t : EntityTypeHandle) :
    m.subtypes t = m.entityTypeHandles.filter fun u => (m.entityType u).base == some t := by
  rw [subtypes, hm.subtypes_indexed]
  by_cases ht : t ∈ m.entityTypeHandles
  · rw [getElem?_indexSubtypes ht]
    rfl
  · -- no list and, since base types exist, no type with that base
    have hlength : m.entityTypes.length ≤ t.index := Nat.le_of_not_lt (mt mem_handles.mpr ht)
    rw [List.getElem?_eq_none (length_indexSubtypes _ ▸ hlength), Option.getD_none, eq_comm,
      List.filter_eq_nil_iff]
    intro u _ hu
    exact ht (hm.base_mem u t (beq_iff_eq.mp hu))

theorem Hierarchical.mem_subtypes (hm : m.Hierarchical) {t u : EntityTypeHandle} :
    u ∈ m.subtypes t ↔ m.Extends u t := by
  rw [hm.subtypes_eq, List.mem_filter, beq_iff_eq]
  constructor
  · exact fun h => h.2
  · intro h
    exact ⟨h.mem_entityTypeHandles, h⟩

theorem Hierarchical.subtypes_nodup (hm : m.Hierarchical) (t : EntityTypeHandle) :
    (m.subtypes t).Nodup := by
  rw [hm.subtypes_eq]
  exact (handles_nodup _ _).filter _

/-- Subtypes are in the order of their declaration. -/
theorem Hierarchical.subtypes_ordered (hm : m.Hierarchical) (t : EntityTypeHandle) :
    (m.subtypes t).Pairwise fun u v => u.index < v.index := by
  rw [hm.subtypes_eq]
  exact (handles_ordered _ _).filter _

theorem Hierarchical.length_subtypeIndex (hm : m.Hierarchical) :
    m.subtypeIndex.length = m.entityTypes.length := by
  rw [hm.subtypes_indexed, length_indexSubtypes]

/-- What the index holds are the subtypes of a type. -/
theorem exists_subtypes_eq {subtypes : List EntityTypeHandle}
    (h : subtypes ∈ m.subtypeIndex) : ∃ t, m.subtypes t = subtypes := by
  obtain ⟨i, hi⟩ := List.getElem?_of_mem h
  exact ⟨⟨i⟩, congrArg (·.getD []) hi⟩

/-! ## Derived types -/

/-- A type and its derived types are the levels of a tree with that type as its
only root. -/
theorem cons_derivedTypes (t : EntityTypeHandle) :
    t :: m.derivedTypes t = levelsBelow m.subtypes (m.entityTypes.length + 2) [t] := by
  rw [levelsBelow_succ, List.flatMap_singleton, derivedTypes, levelsFrom_eq_levelsBelow]
  rfl

theorem length_typeChain_of_mem_levelBelow (hm : m.Hierarchical) {t u : EntityTypeHandle} {k : Nat}
    (h : u ∈ levelBelow m.subtypes k [t]) :
    (m.typeChain u).length = (m.typeChain t).length + k := by
  refine distance_levelBelow (f := fun u : EntityTypeHandle => u)
    (d := fun u => (m.typeChain u).length) ?_ ?_ k u h
  · intro x hx
    rw [List.mem_singleton.mp hx]
  · intro x y hy
    exact length_typeChain_of_extends hm.acyclic (hm.mem_subtypes.mp hy)

theorem exists_mem_levelBelow (hm : m.Hierarchical) {t u : EntityTypeHandle}
    (h : m.Inherits u t) :
    ∃ k, u ∈ levelBelow m.subtypes k [t] := by
  induction h using Relation.ReflTransGen.head_induction_on with
  | refl => exact ⟨0, List.mem_singleton.mpr rfl⟩
  | head h _ ih =>
      obtain ⟨k, hk⟩ := ih
      refine ⟨k + 1, ?_⟩
      rw [levelBelow_succ, List.mem_flatMap]
      exact ⟨_, hk, hm.mem_subtypes.mpr h⟩

theorem mem_cons_derivedTypes_iff (hm : m.Hierarchical) {t u : EntityTypeHandle} :
    u ∈ t :: m.derivedTypes t ↔ m.Inherits u t := by
  rw [cons_derivedTypes, mem_levelsBelow]
  constructor
  · rintro ⟨k, -, hu⟩
    refine levelBelow_forall (P := fun u => m.Inherits u t) m.subtypes ?_ ?_ k u hu
    · intro x hx
      rw [List.mem_singleton.mp hx]
      exact inherits_refl t
    · intro x hx y hy
      exact inherits_iff.mpr (Or.inr ⟨x, hm.mem_subtypes.mp hy, hx⟩)
  · intro h
    obtain ⟨k, hk⟩ := exists_mem_levelBelow hm h
    refine ⟨k, ?_, hk⟩
    -- a chain is no longer than the list of types, so the last level is in reach
    have hlength := length_typeChain_of_mem_levelBelow hm hk
    have hle := length_typeChain_le (m := m) u
    have hpos := length_typeChain_pos (m := m) t
    omega

theorem cons_derivedTypes_nodup (hm : m.Hierarchical) (t : EntityTypeHandle) :
    (t :: m.derivedTypes t).Nodup := by
  rw [cons_derivedTypes, ← List.map_id' (levelsBelow _ _ _)]
  refine levelsBelow_nodup (f := fun u : EntityTypeHandle => u)
    (p := fun u => ((m.entityType u).base).getD u) (d := fun u => (m.typeChain u).length)
    (r := (m.typeChain t).length) ?_ ?_ ?_ ?_ ?_ _
  · exact List.nodup_singleton t
  · intro x hx
    rw [List.mem_singleton.mp hx]
  · intro x
    rw [List.map_id']
    exact hm.subtypes_nodup x
  · intro x y hy
    have h : (m.entityType y).base = some x := hm.mem_subtypes.mp hy
    simp [h]
  · intro x y hy
    exact length_typeChain_of_extends hm.acyclic (hm.mem_subtypes.mp hy)

theorem derivedTypes_nodup (hm : m.Hierarchical) (t : EntityTypeHandle) :
    (m.derivedTypes t).Nodup :=
  (List.nodup_cons.mp (cons_derivedTypes_nodup hm t)).2

theorem mem_derivedTypes_iff (hm : m.Hierarchical) {t u : EntityTypeHandle} :
    u ∈ m.derivedTypes t ↔ u ≠ t ∧ m.Inherits u t := by
  have hnot : t ∉ m.derivedTypes t := (List.nodup_cons.mp (cons_derivedTypes_nodup hm t)).1
  rw [← mem_cons_derivedTypes_iff hm, List.mem_cons]
  constructor
  · intro h
    refine ⟨?_, Or.inr h⟩
    rintro rfl
    exact hnot h
  · rintro ⟨hne, rfl | h⟩
    · exact absurd rfl hne
    · exact h

/-! ## What a type has -/

theorem mem_declaredNavigation {t : EntityTypeHandle} {n : NavigationHandle} :
    n ∈ m.declaredNavigation t ↔
      n.declaring = t ∧ n.index < (m.entityType t).navigationProperties.length := by
  simp only [declaredNavigation, List.mem_map, List.mem_range]
  constructor
  · rintro ⟨i, hi, rfl⟩
    exact ⟨rfl, hi⟩
  · rintro ⟨rfl, hi⟩
    exact ⟨n.index, hi, rfl⟩

theorem mem_navigationProperties {t : EntityTypeHandle} {n : NavigationHandle} :
    n ∈ m.navigationProperties t ↔ n.declaring ∈ m.typeChain t ∧
      n.index < (m.entityType n.declaring).navigationProperties.length := by
  simp only [navigationProperties, List.mem_flatMap, List.mem_reverse, mem_declaredNavigation]
  constructor
  · rintro ⟨u, hu, rfl, hn⟩
    exact ⟨hu, hn⟩
  · rintro ⟨hu, hn⟩
    exact ⟨n.declaring, hu, rfl, hn⟩

theorem navigationProperties_nodup (hm : m.Acyclic) (t : EntityTypeHandle) :
    (m.navigationProperties t).Nodup := by
  rw [navigationProperties, List.nodup_flatMap]
  constructor
  · intro u _
    refine List.nodup_range.map ?_
    intro i j h
    exact congrArg NavigationHandle.index h
  · refine (List.nodup_reverse.mpr (typeChain_nodup hm t)).imp ?_
    intro u u' hne n hn hn'
    rw [mem_declaredNavigation] at hn hn'
    exact hne (hn.1.symm.trans hn'.1)

/-- What a type inherits comes first: its navigation properties begin with those of each type that
it inherits from. -/
theorem navigationProperties_isPrefix (hm : m.Acyclic) {t u : EntityTypeHandle}
    (h : m.Inherits u t) : m.navigationProperties t <+: m.navigationProperties u := by
  obtain ⟨before, hbefore⟩ := typeChain_isSuffix hm h
  refine ⟨before.reverse.flatMap m.declaredNavigation, ?_⟩
  rw [navigationProperties, navigationProperties, ← hbefore, List.reverse_append,
    List.flatMap_append]

theorem mem_boundOperations {t : EntityTypeHandle} {collection : Bool} {o : OperationHandle} :
    o ∈ m.boundOperations t collection ↔
      o ∈ m.operationHandles ∧ m.isBoundTo (m.operation o) t collection = true :=
  List.mem_filter

theorem boundOperations_nodup (t : EntityTypeHandle) (collection : Bool) :
    (m.boundOperations t collection).Nodup :=
  (handles_nodup _ _).filter _

theorem mem_importHandles {c : ContainerHandle} {i : ImportHandle} :
    i ∈ m.importHandles c ↔ i.container = c ∧ i.index < (m.container c).imports.length := by
  simp only [importHandles, List.mem_map, List.mem_range]
  constructor
  · rintro ⟨j, hj, rfl⟩
    exact ⟨rfl, hj⟩
  · rintro ⟨rfl, hi⟩
    exact ⟨i.index, hi, rfl⟩

theorem importHandles_nodup (c : ContainerHandle) : (m.importHandles c).Nodup := by
  refine List.nodup_range.map ?_
  intro i j h
  exact congrArg ImportHandle.index h

end Model

end ODataApi
