import ODataApi.Proofs.Document.Resolve
import ODataApi.Proofs.Model.Coherent

/-!
# Derived types

The types that extend a type are listed level by level.  In a loaded model this is what a walk
with a queue visits, one type after the other (`queueWalk_derivedTypes`), and the list can be told
from the chains of base types alone (`derivedTypes_breadth_first`).  It holds the proper subtypes,
each once.  They come by the number of bases that lead from them to the type (`baseSteps`), and
types with the same base come as they are declared.
-/

namespace ODataApi

namespace Model

variable {m : Model} {t u : EntityTypeHandle}

/-! ## Levels of derived types -/

theorem derivedTypes_eq_levelsBelow (t : EntityTypeHandle) :
    m.derivedTypes t = levelsBelow m.subtypes (m.entityTypes.length + 1) (m.subtypes t) :=
  m.levelsFrom_eq_levelsBelow _ _

/-- There are no more levels than types. -/
theorem levelBelow_subtypes_eq_nil (hm : m.Hierarchical) (t : EntityTypeHandle) :
    levelBelow m.subtypes (m.entityTypes.length + 1) (m.subtypes t) = [] := by
  refine List.eq_nil_iff_forall_not_mem.mpr fun u hu => ?_
  have hbelow : u ∈ levelBelow m.subtypes (m.entityTypes.length + 1 + 1) [t] := by
    rw [levelBelow, List.flatMap_singleton]
    exact hu
  have hlength := length_typeChain_of_mem_levelBelow hm hbelow
  have hle := length_typeChain_le (m := m) u
  omega

/-- Taking types from a queue and putting their subtypes at its end visits the derived types. -/
theorem queueWalk_derivedTypes (hm : m.Hierarchical) (t : EntityTypeHandle) :
    QueueWalk m.subtypes (m.subtypes t) (m.derivedTypes t) := by
  rw [derivedTypes_eq_levelsBelow]
  exact queueWalk_levelsBelow (levelBelow_subtypes_eq_nil hm t)

/-! ## The number of bases in between -/

/-- How many bases lead from a type to one that it inherits from. -/
def baseSteps (m : Model) (u t : EntityTypeHandle) : Nat := (m.typeChain u).idxOf t

theorem baseSteps_self (hm : m.Acyclic) (t : EntityTypeHandle) : m.baseSteps t t = 0 := by
  induction t using hm.induction with
  | root t h => rw [baseSteps, typeChain_of_root h, List.idxOf_cons_self]
  | extend t b h _ => rw [baseSteps, typeChain_of_extends hm h, List.idxOf_cons_self]

theorem baseSteps_of_extends (hm : m.Acyclic) {b : EntityTypeHandle} (h : m.Extends u b)
    (hne : u ≠ t) : m.baseSteps u t = m.baseSteps b t + 1 := by
  rw [baseSteps, typeChain_of_extends hm h, List.idxOf_cons_ne _ hne, baseSteps]

theorem length_typeChain_eq_baseSteps (hm : m.Acyclic) (h : m.Inherits u t) :
    (m.typeChain u).length = m.baseSteps u t + (m.typeChain t).length := by
  induction h using Relation.ReflTransGen.head_induction_on with
  | refl => rw [baseSteps_self hm, Nat.zero_add]
  | @head u b h hrest ih =>
      have hlength := length_typeChain_of_extends hm h
      have hle := length_typeChain_le_of_inherits hm hrest
      have hne : u ≠ t := by
        rintro rfl
        omega
      rw [baseSteps_of_extends hm h hne, hlength, ih]
      omega

/-! ## Order -/

/-- Derived types come by the lengths of their chains, and those with one base as declared. -/
theorem derivedTypes_ordered (hm : m.Hierarchical) (t : EntityTypeHandle) :
    (m.derivedTypes t).Pairwise fun u v =>
      (m.typeChain u).length < (m.typeChain v).length ∨
        (m.typeChain u).length = (m.typeChain v).length ∧
          (((m.entityType u).base).getD u = ((m.entityType v).base).getD v →
            u.index < v.index) := by
  have hdeclared : ∀ x, (m.subtypes x).Pairwise fun u v => u.index < v.index :=
    hm.subtypes_ordered
  rw [derivedTypes_eq_levelsBelow]
  refine levelsBelow_ordered (f := fun u : EntityTypeHandle => u)
    (p := fun u => ((m.entityType u).base).getD u) (d := fun u => (m.typeChain u).length)
    (r := (m.typeChain t).length + 1) ?_ ?_ (hdeclared t) ?_ hdeclared ?_ ?_ _
  · rw [List.map_id']
    exact hm.subtypes_nodup t
  · intro x hx
    exact length_typeChain_of_extends hm.acyclic (hm.mem_subtypes.mp hx)
  · intro x
    rw [List.map_id']
    exact hm.subtypes_nodup x
  · intro x y hy
    have h : (m.entityType y).base = some x := hm.mem_subtypes.mp hy
    simp [h]
  · intro x y hy
    exact length_typeChain_of_extends hm.acyclic (hm.mem_subtypes.mp hy)

/-- Fewer bases lead to a type from the derived types that come first. -/
theorem derivedTypes_baseSteps_le (hm : m.Hierarchical) (t : EntityTypeHandle) :
    (m.derivedTypes t).Pairwise fun u v => m.baseSteps u t ≤ m.baseSteps v t := by
  refine (derivedTypes_ordered hm t).imp_of_mem ?_
  intro u v hu hv h
  have hu' := length_typeChain_eq_baseSteps hm.acyclic ((mem_derivedTypes_iff hm).mp hu).2
  have hv' := length_typeChain_eq_baseSteps hm.acyclic ((mem_derivedTypes_iff hm).mp hv).2
  omega

theorem derivedTypes_siblings_lt (hm : m.Hierarchical) (t : EntityTypeHandle) :
    (m.derivedTypes t).Pairwise fun u v =>
      (m.entityType u).base = (m.entityType v).base → u.index < v.index := by
  refine (derivedTypes_ordered hm t).imp_of_mem ?_
  intro u v hu hv h hsame
  obtain ⟨hne, hinherits⟩ := (mem_derivedTypes_iff hm).mp hu
  obtain heq | ⟨b, hb, -⟩ := inherits_iff.mp hinherits
  · exact absurd heq hne
  have hb' : m.Extends v b := hsame.symm.trans hb
  have hlength := length_typeChain_of_extends hm.acyclic hb
  have hlength' := length_typeChain_of_extends hm.acyclic hb'
  obtain hlt | ⟨-, hsiblings⟩ := h
  · omega
  · refine hsiblings ?_
    rw [hb, hb', Option.getD_some, Option.getD_some]

end Model

/-- The derived types of a type are what a walk visits that takes types from a queue and puts
their subtypes at its end; the walk comes to an end.  They are the proper subtypes, each once, by
the number of bases in between, and types with the same base as they are declared. -/
theorem derivedTypes_breadth_first (document : Document) (id : ModelId) (m : Model)
    (hload : document.resolve id = .ok m) (t : EntityTypeHandle) :
    QueueWalk m.subtypes (m.subtypes t) (m.derivedTypes t) ∧
      (∀ u, u ∈ m.derivedTypes t ↔ u ≠ t ∧ m.isSubtypeOf u t = true) ∧
      (m.derivedTypes t).Nodup ∧
      ((m.derivedTypes t).Pairwise fun u v => m.baseSteps u t ≤ m.baseSteps v t) ∧
      (m.derivedTypes t).Pairwise fun u v =>
        (m.entityType u).base = (m.entityType v).base → u.index < v.index := by
  have hm := (Document.resolve_wellFormed hload).toHierarchical
  refine ⟨Model.queueWalk_derivedTypes hm t, fun u => ?_, Model.derivedTypes_nodup hm t,
    Model.derivedTypes_baseSteps_le hm t, Model.derivedTypes_siblings_lt hm t⟩
  rw [Model.mem_derivedTypes_iff hm, Model.isSubtypeOf_iff hm.acyclic]

/-- Types that extend others before these are declared. -/
def kinshipDocument : Document where
  ns := "N"
  entityTypes := [
    { name := "Grandchild", base := some "Child" },
    { name := "Root" },
    { name := "Child", base := some "Root" },
    { name := "Other", base := some "Child" },
    { name := "Sibling", base := some "Root" }]

/-- The model of `kinshipDocument`. -/
def kinshipModel : Model := kinshipDocument.loaded ⟨0⟩

/-- The children come first, though a grandchild is declared before them. -/
theorem kinshipModel_derivedTypes :
    kinshipDocument.resolve ⟨0⟩ = .ok kinshipModel ∧
      kinshipModel.derivedTypes ⟨1⟩ = [⟨2⟩, ⟨4⟩, ⟨0⟩, ⟨3⟩] ∧
      QueueWalk kinshipModel.subtypes [⟨2⟩, ⟨4⟩] [⟨2⟩, ⟨4⟩, ⟨0⟩, ⟨3⟩] ∧
      kinshipModel.isSubtypeOf ⟨0⟩ ⟨1⟩ = true ∧
      kinshipModel.baseSteps ⟨4⟩ ⟨1⟩ = 1 ∧ kinshipModel.baseSteps ⟨0⟩ ⟨1⟩ = 2 := by
  have hload : kinshipDocument.resolve ⟨0⟩ = .ok kinshipModel := rfl
  have hderived : kinshipModel.derivedTypes ⟨1⟩ = [⟨2⟩, ⟨4⟩, ⟨0⟩, ⟨3⟩] := by decide +kernel
  obtain ⟨hwalk, hmem, -, -, -⟩ := derivedTypes_breadth_first kinshipDocument ⟨0⟩ _ hload ⟨1⟩
  have hgrandchild := (hmem ⟨0⟩).mp (by rw [hderived]; decide)
  rw [hderived] at hwalk
  exact ⟨hload, hderived, hwalk, hgrandchild.2, by decide +kernel, by decide +kernel⟩

end ODataApi
