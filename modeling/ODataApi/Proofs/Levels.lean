import ODataApi.Model.Hierarchy
import ODataApi.Path.Tree
import Mathlib.Data.List.Nodup

/-!
# Levels of a tree

Two walks go level by level: from a type to the types that extend it, and from the
roots of a container to its paths.  Both are given by `next`, the nodes directly
below a node.  `levelBelow next k roots` is the level `k` steps below the roots, and
both walks list the first levels one after the other (`levels_eq_levelsBelow`,
`levelsFrom_eq_levelsBelow`).

No node occurs twice in a tree whose nodes tell their parents and their distance
from the roots (`levelsBelow_nodup`), and then the nodes directly below a node are those that tell
it as their parent (`filter_parent_eq`).  Nodes come by their distance, and siblings in their order
(`levelsBelow_ordered`).  Taking nodes one by one from a queue visits them level by level
(`queueWalk_levelsBelow`), also if labels that have been seen are passed over, as long as no two
nodes have one label (`QueueWalk.labelledWalk`).  A tree that drops some nodes, and with a node all
that is below it, has the other nodes level by level in the same order
(`levelsBelow_filter`).
-/

namespace ODataApi

section

variable {α β : Type} (next : α → List α)

/-- The nodes `k` steps below the nodes of a level. -/
def levelBelow : Nat → List α → List α
  | 0, level => level
  | k + 1, level => levelBelow k (level.flatMap next)

/-- The nodes of the first `count` levels. -/
def levelsBelow (count : Nat) (roots : List α) : List α :=
  (List.range count).flatMap fun k => levelBelow next k roots

/-! ## Equations -/

theorem levelBelow_nil : ∀ k : Nat, levelBelow next k [] = []
  | 0 => rfl
  | k + 1 => levelBelow_nil k

/-- A level may also be peeled at its bottom. -/
theorem levelBelow_succ (k : Nat) (roots : List α) :
    levelBelow next (k + 1) roots = (levelBelow next k roots).flatMap next := by
  induction k generalizing roots with
  | zero => rfl
  | succ k ih => exact ih (roots.flatMap next)

theorem levelsBelow_nil (count : Nat) : levelsBelow next count [] = [] := by
  rw [levelsBelow, List.flatMap_eq_nil_iff]
  intro k _
  exact levelBelow_nil next k

theorem levelsBelow_succ (count : Nat) (roots : List α) :
    levelsBelow next (count + 1) roots
      = roots ++ levelsBelow next count (roots.flatMap next) := by
  rw [levelsBelow, List.range_succ_eq_map, List.flatMap_cons, List.flatMap_map]
  rfl

/-- The roots, and below each node the nodes directly below it. -/
theorem levelsBelow_succ_eq_append (count : Nat) (roots : List α) :
    levelsBelow next (count + 1) roots
      = roots ++ (levelsBelow next count roots).flatMap next := by
  rw [levelsBelow, List.range_succ_eq_map, List.flatMap_cons, List.flatMap_map, levelsBelow,
    List.flatMap_assoc]
  refine congrArg (roots ++ ·) (List.flatMap_congr fun k _ => ?_)
  exact levelBelow_succ next k roots

theorem mem_levelsBelow {next : α → List α} {count : Nat} {roots : List α} {x : α} :
    x ∈ levelsBelow next count roots ↔ ∃ k, k < count ∧ x ∈ levelBelow next k roots := by
  simp [levelsBelow]

/-! ## What holds of every node -/

/-- What holds of the roots and passes from a node to the nodes directly below it
holds of every node. -/
theorem levelBelow_forall {P : α → Prop} {roots : List α} (hroots : ∀ x ∈ roots, P x)
    (hnext : ∀ x, P x → ∀ y ∈ next x, P y) :
    ∀ (k : Nat), ∀ x ∈ levelBelow next k roots, P x := by
  intro k
  induction k with
  | zero => exact hroots
  | succ k ih =>
      intro y hy
      rw [levelBelow_succ, List.mem_flatMap] at hy
      obtain ⟨x, hx, hyx⟩ := hy
      exact hnext x (ih x hx) y hyx

/-! ## No node twice

A node `x` is told by `f x`, its parent by `p (f x)` and its distance by `d (f x)`. -/

section

variable {next} {f : α → β} {p : β → β} {d : β → Nat} {roots : List α}

/-- A node `k` steps below the roots is `k` farther than they are. -/
theorem distance_levelBelow {r : Nat} (hroots : ∀ x ∈ roots, d (f x) = r)
    (hdistance : ∀ x, ∀ y ∈ next x, d (f y) = d (f x) + 1) :
    ∀ (k : Nat), ∀ x ∈ levelBelow next k roots, d (f x) = r + k := by
  intro k
  induction k with
  | zero => exact hroots
  | succ k ih =>
      intro y hy
      rw [levelBelow_succ, List.mem_flatMap] at hy
      obtain ⟨x, hx, hyx⟩ := hy
      rw [hdistance x y hyx, ih x hx, Nat.add_assoc]

/-- Nodes below different nodes differ, since they tell their parents. -/
theorem levelBelow_nodup (hroots : (roots.map f).Nodup)
    (hnext : ∀ x, ((next x).map f).Nodup)
    (hparent : ∀ x, ∀ y ∈ next x, p (f y) = f x) :
    ∀ k : Nat, ((levelBelow next k roots).map f).Nodup := by
  intro k
  induction k with
  | zero => exact hroots
  | succ k ih =>
      rw [levelBelow_succ, List.map_flatMap, List.nodup_flatMap]
      refine ⟨fun x _ => hnext x, ?_⟩
      have hdistinct : (levelBelow next k roots).Pairwise fun x x' => f x ≠ f x' :=
        List.pairwise_map.mp ih
      refine hdistinct.imp ?_
      intro x x' hne b hb hb'
      obtain ⟨y, hy, rfl⟩ := List.mem_map.mp hb
      obtain ⟨y', hy', heq⟩ := List.mem_map.mp hb'
      exact hne (by rw [← hparent x y hy, ← hparent x' y' hy', heq])

/-- Nodes of different levels differ, since they tell their distance. -/
theorem levelsBelow_nodup {r : Nat} (hroots : (roots.map f).Nodup)
    (hr : ∀ x ∈ roots, d (f x) = r)
    (hnext : ∀ x, ((next x).map f).Nodup)
    (hparent : ∀ x, ∀ y ∈ next x, p (f y) = f x)
    (hdistance : ∀ x, ∀ y ∈ next x, d (f y) = d (f x) + 1) (count : Nat) :
    ((levelsBelow next count roots).map f).Nodup := by
  rw [levelsBelow, List.map_flatMap, List.nodup_flatMap]
  refine ⟨fun k _ => levelBelow_nodup hroots hnext hparent k, ?_⟩
  refine List.nodup_range.imp ?_
  intro k k' hne b hb hb'
  obtain ⟨x, hx, rfl⟩ := List.mem_map.mp hb
  obtain ⟨x', hx', heq⟩ := List.mem_map.mp hb'
  have h := distance_levelBelow hr hdistance k x hx
  have h' := distance_levelBelow hr hdistance k' x' hx'
  rw [heq] at h'
  omega

/-- Nodes of a level with the same parent are in the order in which they stand below it. -/
theorem levelBelow_siblings {before : α → α → Prop} (hroots : (roots.map f).Nodup)
    (hfirst : roots.Pairwise before) (hnext : ∀ x, ((next x).map f).Nodup)
    (hordered : ∀ x, (next x).Pairwise before)
    (hparent : ∀ x, ∀ y ∈ next x, p (f y) = f x) (k : Nat) :
    (levelBelow next k roots).Pairwise fun y y' => p (f y) = p (f y') → before y y' := by
  have hweaken : ∀ {y y'}, before y y' → p (f y) = p (f y') → before y y' := fun h _ => h
  cases k with
  | zero => exact hfirst.imp hweaken
  | succ k =>
      rw [levelBelow_succ, List.pairwise_flatMap]
      refine ⟨fun x _ => (hordered x).imp hweaken, ?_⟩
      have hdistinct : (levelBelow next k roots).Pairwise fun x x' => f x ≠ f x' :=
        List.pairwise_map.mp (levelBelow_nodup hroots hnext hparent k)
      refine hdistinct.imp ?_
      intro x x' hne y hy y' hy' hsame
      exact absurd (by rw [← hparent x y hy, hsame, hparent x' y' hy']) hne

/-- Nodes come by their distance, and among those of one distance siblings in their order. -/
theorem levelsBelow_ordered {before : α → α → Prop} {r : Nat} (hroots : (roots.map f).Nodup)
    (hr : ∀ x ∈ roots, d (f x) = r) (hfirst : roots.Pairwise before)
    (hnext : ∀ x, ((next x).map f).Nodup) (hordered : ∀ x, (next x).Pairwise before)
    (hparent : ∀ x, ∀ y ∈ next x, p (f y) = f x)
    (hdistance : ∀ x, ∀ y ∈ next x, d (f y) = d (f x) + 1) (count : Nat) :
    (levelsBelow next count roots).Pairwise fun y y' =>
      d (f y) < d (f y') ∨ d (f y) = d (f y') ∧ (p (f y) = p (f y') → before y y') := by
  rw [levelsBelow, List.pairwise_flatMap]
  refine ⟨fun k _ => ?_, List.pairwise_lt_range.imp ?_⟩
  · refine (levelBelow_siblings hroots hfirst hnext hordered hparent k).imp_of_mem ?_
    intro y y' hy hy' hsiblings
    have h := distance_levelBelow hr hdistance k y hy
    have h' := distance_levelBelow hr hdistance k y' hy'
    exact Or.inr ⟨h.trans h'.symm, hsiblings⟩
  · intro k k' hlt y hy y' hy'
    have h := distance_levelBelow hr hdistance k y hy
    have h' := distance_levelBelow hr hdistance k' y' hy'
    exact Or.inl (by omega)

/-- Among the nodes below all of some nodes, those below one of them are told by their parents. -/
theorem filter_parent_eq [BEq β] [LawfulBEq β] (hparent : ∀ x, ∀ y ∈ next x, p (f y) = f x)
    {x : α} : ∀ {nodes : List α}, (nodes.map f).Nodup → x ∈ nodes →
      ((nodes.flatMap next).filter fun y => p (f y) == f x) = next x
  | node :: nodes, hnodup, hx => by
      rw [List.map_cons, List.nodup_cons] at hnodup
      rw [List.flatMap_cons, List.filter_append]
      rcases List.mem_cons.mp hx with rfl | hx
      · have hown : (next x).filter (fun y => p (f y) == f x) = next x := by
          refine List.filter_eq_self.mpr fun y hy => ?_
          rw [hparent x y hy, beq_self_eq_true]
        have hother : (nodes.flatMap next).filter (fun y => p (f y) == f x) = [] := by
          refine List.filter_eq_nil_iff.mpr fun y hy => ?_
          obtain ⟨node, hnode, hy⟩ := List.mem_flatMap.mp hy
          rw [hparent node y hy, beq_iff_eq]
          exact fun heq => hnodup.1 (heq ▸ List.mem_map_of_mem hnode)
        rw [hown, hother, List.append_nil]
      · have hother : (next node).filter (fun y => p (f y) == f x) = [] := by
          refine List.filter_eq_nil_iff.mpr fun y hy => ?_
          rw [hparent node y hy, beq_iff_eq]
          exact fun heq => hnodup.1 (heq ▸ List.mem_map_of_mem hx)
        rw [hother, List.nil_append]
        exact filter_parent_eq hparent hnodup.2 hx

end

/-! ## In the order of a queue -/

section

variable {next}

/-- A walk takes nodes from the front of a queue and puts the nodes directly below each at the end
of it.  Once the queue is empty, these nodes have been visited in this order. -/
inductive QueueWalk (next : α → List α) : List α → List α → Prop
  | stop : QueueWalk next [] []
  | visit {x : α} {queue visited : List α} :
      QueueWalk next (queue ++ next x) visited → QueueWalk next (x :: queue) (x :: visited)

/-- By the time a level has been visited, the level below it stands at the end of the queue. -/
theorem QueueWalk.level {level later visited : List α}
    (h : QueueWalk next (later ++ level.flatMap next) visited) :
    QueueWalk next (level ++ later) (level ++ visited) := by
  induction level generalizing later with
  | nil => simpa using h
  | cons x level ih =>
      rw [List.flatMap_cons, ← List.append_assoc] at h
      rw [List.cons_append, List.cons_append]
      refine .visit ?_
      rw [List.append_assoc]
      exact ih h

/-- Where no level is left, the walk from the roots ends and has visited the levels in order. -/
theorem queueWalk_levelsBelow : ∀ {count : Nat} {roots : List α},
    levelBelow next count roots = [] → QueueWalk next roots (levelsBelow next count roots)
  | 0, roots, h => by
      obtain rfl : roots = [] := h
      exact .stop
  | count + 1, roots, h => by
      have hbelow : QueueWalk next ([] ++ roots.flatMap next)
          (levelsBelow next count (roots.flatMap next)) := queueWalk_levelsBelow h
      rw [levelsBelow_succ, ← List.append_nil roots]
      simpa using hbelow.level

/-- A walk with a queue that notes the labels of the nodes it visits.  A node with a label that has
been seen is passed over, with what is below it. -/
inductive LabelledWalk (next : α → List α) (label : α → β) :
    List β → List α → List α → Prop
  | stop {seen : List β} : LabelledWalk next label seen [] []
  | skip {seen : List β} {x : α} {queue visited : List α} (hseen : label x ∈ seen) :
      LabelledWalk next label seen queue visited → LabelledWalk next label seen (x :: queue) visited
  | visit {seen : List β} {x : α} {queue visited : List α} (hnew : label x ∉ seen) :
      LabelledWalk next label (label x :: seen) (queue ++ next x) visited →
        LabelledWalk next label seen (x :: queue) (x :: visited)

/-- Where all labels are new and differ, nothing is passed over. -/
theorem QueueWalk.labelledWalk {label : α → β} {queue visited : List α}
    (h : QueueWalk next queue visited) :
    ∀ {seen : List β}, (seen ++ visited.map label).Nodup →
      LabelledWalk next label seen queue visited := by
  induction h with
  | stop => exact fun _ => .stop
  | @visit x queue visited _ ih =>
      intro seen hnodup
      rw [List.map_cons] at hnodup
      have hmiddle := List.nodup_middle.mp hnodup
      refine .visit (fun hseen => ?_) (ih hmiddle)
      exact (List.nodup_cons.mp hmiddle).1 (List.mem_append_left _ hseen)

end

/-! ## Part of a tree

`kept` is the tree of the nodes that `keep` keeps, where nothing is kept below a node that is
dropped.  `P` holds of every node of the whole tree. -/

section

variable {next kept : α → List α} {keep : α → Bool} {P : α → Prop} {roots : List α}

theorem flatMap_filter_eq :
    ∀ {level : List α}, (∀ x ∈ level, keep x = true → kept x = (next x).filter keep) →
      (∀ x ∈ level, keep x = false → ∀ y ∈ next x, keep y = false) →
        (level.filter keep).flatMap kept = (level.flatMap next).filter keep
  | [], _, _ => rfl
  | x :: level, hkept, hdropped => by
      rw [List.forall_mem_cons] at hkept hdropped
      rw [List.flatMap_cons, List.filter_append, ← flatMap_filter_eq hkept.2 hdropped.2]
      cases hx : keep x with
      | true => rw [List.filter_cons_of_pos hx, List.flatMap_cons, hkept.1 hx]
      | false =>
          have hnone : (next x).filter keep = [] := by
            rw [List.filter_eq_nil_iff]
            intro y hy
            rw [hdropped.1 hx y hy]
            exact Bool.false_ne_true
          rw [List.filter_cons_of_neg (by simp [hx]), hnone, List.nil_append]

/-- The levels of the part are what is kept of the levels of the whole, in the same order. -/
theorem levelBelow_filter (hroots : ∀ x ∈ roots, P x) (hnext : ∀ x, P x → ∀ y ∈ next x, P y)
    (hkept : ∀ x, P x → keep x = true → kept x = (next x).filter keep)
    (hdropped : ∀ x, P x → keep x = false → ∀ y ∈ next x, keep y = false) (k : Nat) :
    levelBelow kept k (roots.filter keep) = (levelBelow next k roots).filter keep := by
  induction k with
  | zero => rfl
  | succ k ih =>
      have hlevel := levelBelow_forall next hroots hnext k
      rw [levelBelow_succ, levelBelow_succ, ih]
      exact flatMap_filter_eq (fun x hx => hkept x (hlevel x hx))
        (fun x hx => hdropped x (hlevel x hx))

theorem levelsBelow_filter (hroots : ∀ x ∈ roots, P x) (hnext : ∀ x, P x → ∀ y ∈ next x, P y)
    (hkept : ∀ x, P x → keep x = true → kept x = (next x).filter keep)
    (hdropped : ∀ x, P x → keep x = false → ∀ y ∈ next x, keep y = false) (count : Nat) :
    levelsBelow kept count (roots.filter keep) = (levelsBelow next count roots).filter keep := by
  simp only [levelsBelow, List.filter_flatMap, levelBelow_filter hroots hnext hkept hdropped]

/-- Levels without nodes add nothing. -/
theorem levelsBelow_eq_of_le {count count' : Nat} (hle : count ≤ count')
    (hempty : ∀ k, count ≤ k → levelBelow next k roots = []) :
    levelsBelow next count' roots = levelsBelow next count roots := by
  obtain ⟨extra, rfl⟩ := Nat.exists_eq_add_of_le hle
  have hextra : ((List.range extra).map (count + ·)).flatMap (fun k => levelBelow next k roots)
      = [] := by
    rw [List.flatMap_eq_nil_iff]
    intro k hk
    obtain ⟨i, -, rfl⟩ := List.mem_map.mp hk
    exact hempty _ (Nat.le_add_right count i)
  rw [levelsBelow, List.range_add, List.flatMap_append, hextra, List.append_nil, levelsBelow]

end

end

/-! ## The walks of a model -/

/-- The paths of a tree are its first levels. -/
theorem Settings.levels_eq_levelsBelow (settings : Settings) (m : Model) :
    ∀ (count : Nat) (roots : List ResourcePath), settings.levels m count roots
      = levelsBelow (ResourcePath.children settings m) count roots
  | 0, _ => rfl
  | count + 1, [] => (levelsBelow_nil _ (count + 1)).symm
  | count + 1, path :: paths => by
      rw [levelsBelow_succ, ← Settings.levels_eq_levelsBelow settings m count]
      rfl

/-- The types of a hierarchy are its first levels. -/
theorem Model.levelsFrom_eq_levelsBelow (m : Model) :
    ∀ (depth : Nat) (level : List EntityTypeHandle),
      m.levelsFrom depth level = levelsBelow m.subtypes (depth + 1) level
  | 0, level => by
      rw [levelsBelow_succ]
      exact (List.append_nil level).symm
  | depth + 1, [] => (levelsBelow_nil _ (depth + 2)).symm
  | depth + 1, t :: level => by
      rw [levelsBelow_succ, ← Model.levelsFrom_eq_levelsBelow m depth]
      rfl

end ODataApi
