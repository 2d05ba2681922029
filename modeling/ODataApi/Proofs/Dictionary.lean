import ODataApi.Dictionary
import Mathlib.Data.String.Basic

/-!
# Dictionaries are sorted

`insert` keeps a dictionary sorted, so a name stands in it once (`Sorted.names_nodup`).  A
new name adds its value to the others (`insert_perm`), and the value of a name that is there
takes the place of the old one (`exists_insert_eq`).  Of a list the last value of a name
counts (`mem_ofList_iff`), and a sorted list is its own dictionary (`Sorted.ofList_eq`).
-/

namespace ODataApi

namespace Dictionary

variable {α β : Type} {name other : String} {value old : α} {d : Dictionary α}

/-- The names are in order, each once. -/
def Sorted (d : Dictionary α) : Prop := d.Pairwise fun entry entry' => entry.1 < entry'.1

/-! ## Names -/

/-- The names of a dictionary. -/
def names (d : Dictionary α) : List String := d.map (·.1)

theorem mem_names_insert :
    other ∈ names (insert name value d) ↔ other = name ∨ other ∈ names d := by
  induction d with
  | nil => simp [insert, names]
  | cons entry rest ih =>
      obtain ⟨first, old⟩ := entry
      rw [insert]
      split
      · simp [names]
      · split
        case isTrue heq => simp [names, heq]
        case isFalse =>
          simp only [names, List.map_cons, List.mem_cons] at ih ⊢
          rw [ih, or_left_comm]

theorem mem_names_foldl_insert {entries : List (String × α)} :
    other ∈ names (entries.foldl (fun d entry => insert entry.1 entry.2 d) d) ↔
      other ∈ entries.map (·.1) ∨ other ∈ names d := by
  induction entries generalizing d with
  | nil => simp
  | cons entry rest ih =>
      rw [List.foldl_cons, ih, mem_names_insert, List.map_cons, List.mem_cons, or_left_comm,
        or_assoc]

theorem mem_names_ofList {entries : List (String × α)} :
    name ∈ names (ofList entries) ↔ name ∈ entries.map (·.1) := by
  rw [ofList, mem_names_foldl_insert]
  simp [names]

theorem get?_eq_none_iff : d.get? name = none ↔ name ∉ names d := by
  rw [get?, List.lookup_eq_none_iff, names, List.mem_map]
  constructor
  · rintro h ⟨entry, hentry, rfl⟩
    exact absurd (h entry hentry) (by simp)
  · intro h entry hentry
    rw [bne_iff_ne]
    rintro rfl
    exact h ⟨entry, hentry, rfl⟩

/-! ## Order -/

theorem mem_insert {entry : String × α} (h : entry ∈ insert name value d) :
    entry = (name, value) ∨ entry ∈ d := by
  induction d with
  | nil => exact Or.inl (List.mem_singleton.mp h)
  | cons first rest ih =>
      obtain ⟨other, old⟩ := first
      rw [insert] at h
      split at h
      · exact List.mem_cons.mp h
      · split at h
        · rcases List.mem_cons.mp h with h | h
          · exact Or.inl h
          · exact Or.inr (List.mem_cons_of_mem _ h)
        · rcases List.mem_cons.mp h with h | h
          · exact Or.inr (List.mem_cons.mpr (Or.inl h))
          · exact (ih h).imp_right (List.mem_cons_of_mem _)

theorem Sorted.insert (h : d.Sorted) : (insert name value d).Sorted := by
  induction d with
  | nil => exact List.pairwise_singleton _ _
  | cons first rest ih =>
      obtain ⟨other, old⟩ := first
      obtain ⟨hfirst, hrest⟩ := List.pairwise_cons.mp h
      rw [Dictionary.insert]
      split
      case isTrue hlt =>
        refine List.pairwise_cons.mpr ⟨?_, h⟩
        intro entry hentry
        rcases List.mem_cons.mp hentry with rfl | hentry
        · exact hlt
        · exact lt_trans hlt (hfirst entry hentry)
      case isFalse hlt =>
        split
        case isTrue heq =>
          refine List.pairwise_cons.mpr ⟨?_, hrest⟩
          intro entry hentry
          rw [heq]
          exact hfirst entry hentry
        case isFalse hne =>
          refine List.pairwise_cons.mpr ⟨?_, ih hrest⟩
          intro entry hentry
          rcases mem_insert hentry with rfl | hentry
          · exact lt_of_le_of_ne (not_lt.mp hlt) (Ne.symm hne)
          · exact hfirst entry hentry

theorem Sorted.foldl_insert {entries : List (String × α)} (h : d.Sorted) :
    (entries.foldl (fun d entry => Dictionary.insert entry.1 entry.2 d) d).Sorted := by
  induction entries generalizing d with
  | nil => exact h
  | cons entry rest ih => exact ih h.insert

theorem ofList_sorted (entries : List (String × α)) : (ofList entries).Sorted :=
  Sorted.foldl_insert List.Pairwise.nil

theorem insert_of_forall_lt (h : ∀ entry ∈ d, entry.1 < name) :
    insert name value d = d ++ [(name, value)] := by
  induction d with
  | nil => rfl
  | cons first rest ih =>
      obtain ⟨other, old⟩ := first
      obtain ⟨hfirst, hrest⟩ := List.forall_mem_cons.mp h
      have hlt : other < name := hfirst
      rw [insert, if_neg (not_lt_of_gt hlt), if_neg (ne_of_gt hlt), ih hrest, List.cons_append]

/-- A list that is sorted is the dictionary of its entries. -/
theorem Sorted.ofList_eq {entries : List (String × α)} (h : Sorted entries) :
    ofList entries = entries := by
  suffices hfold : ∀ d : Dictionary α, Sorted (d ++ entries) →
      entries.foldl (fun d entry => Dictionary.insert entry.1 entry.2 d) d = d ++ entries from
    hfold [] h
  clear h
  induction entries with
  | nil => exact fun d _ => (List.append_nil d).symm
  | cons entry rest ih =>
      intro d h
      have hlt : ∀ before ∈ d, before.1 < entry.1 := fun before hbefore =>
        (List.pairwise_append.mp h).2.2 before hbefore entry (List.mem_cons_self ..)
      rw [List.append_cons] at h
      rw [List.foldl_cons, insert_of_forall_lt hlt, ih _ h, List.append_cons d entry rest]

theorem Sorted.names_nodup (h : d.Sorted) : (names d).Nodup := by
  refine List.pairwise_map.mpr (h.imp ?_)
  intro entry entry' hlt
  exact ne_of_lt hlt

theorem mem_of_get? (h : d.get? name = some value) : (name, value) ∈ d := by
  obtain ⟨before, after, rfl, -⟩ := List.lookup_eq_some_iff.mp h
  simp

theorem Sorted.get?_of_mem (h : d.Sorted) (hmem : (name, value) ∈ d) :
    d.get? name = some value := by
  induction d with
  | nil => cases hmem
  | cons first rest ih =>
      obtain ⟨hfirst, hrest⟩ := List.pairwise_cons.mp h
      rcases List.mem_cons.mp hmem with rfl | hmem
      · exact List.lookup_cons_self
      · have hne : (name == first.1) = false := by
          rw [beq_eq_false_iff_ne]
          exact ne_of_gt (hfirst _ hmem)
        rw [get?, List.lookup_cons, hne]
        exact ih hrest hmem

/-! ## Setting a value -/

theorem insert_perm (h : name ∉ names d) : (insert name value d).Perm ((name, value) :: d) := by
  induction d with
  | nil => exact List.Perm.refl _
  | cons first rest ih =>
      obtain ⟨other, old⟩ := first
      simp only [names, List.map_cons, List.mem_cons, not_or] at h
      rw [insert, if_neg h.1]
      split
      · exact List.Perm.refl _
      · exact ((ih h.2).cons _).trans (List.Perm.swap _ _ _)

theorem insert_append {before after : Dictionary α}
    (h : Sorted (before ++ (name, old) :: after)) :
    insert name value (before ++ (name, old) :: after) = before ++ (name, value) :: after := by
  induction before with
  | nil => rw [List.nil_append, insert, if_neg (lt_irrefl name), if_pos rfl, List.nil_append]
  | cons first before ih =>
      obtain ⟨other, first⟩ := first
      obtain ⟨hfirst, hrest⟩ := List.pairwise_cons.mp h
      have hlt : other < name := hfirst (name, old) (by simp)
      rw [List.cons_append, insert, if_neg (not_lt_of_gt hlt), if_neg (ne_of_gt hlt), ih hrest,
        List.cons_append]

theorem exists_insert_eq (hd : d.Sorted) (h : d.get? name = some old) (value : α) :
    ∃ before after, d = before ++ (name, old) :: after ∧
      insert name value d = before ++ (name, value) :: after := by
  obtain ⟨before, after, rfl, -⟩ := List.lookup_eq_some_iff.mp h
  exact ⟨before, after, rfl, insert_append hd⟩

/-! ## Dictionaries of lists -/

theorem get?_insert :
    (insert name value d).get? other = List.lookup other ((name, value) :: d) := by
  induction d with
  | nil => rfl
  | cons first rest ih =>
      obtain ⟨key, old⟩ := first
      rw [insert]
      split
      · rfl
      · split
        case isTrue heq =>
            subst heq
            rw [get?, List.lookup_cons, List.lookup_cons, List.lookup_cons]
            cases other == name with
            | true => rfl
            | false => rfl
        case isFalse hne =>
            rw [get?] at ih
            rw [get?, List.lookup_cons, ih, List.lookup_cons, List.lookup_cons, List.lookup_cons]
            cases hkey : other == key with
            | false => rfl
            | true =>
                have hother : (other == name) = false := by
                  rw [beq_iff_eq.mp hkey, beq_eq_false_iff_ne]
                  exact Ne.symm hne
                rw [hother]

theorem get?_foldl_insert {entries : List (String × α)} :
    get? name (entries.foldl (fun d entry => insert entry.1 entry.2 d) d)
      = List.lookup name (entries.reverse ++ d) := by
  induction entries generalizing d with
  | nil => rfl
  | cons entry rest ih =>
      rw [List.foldl_cons, ih, List.reverse_cons, List.append_assoc, List.lookup_append,
        List.lookup_append]
      exact congrArg _ get?_insert

/-- The last value of a name counts. -/
theorem mem_ofList_iff {entries : List (String × α)} :
    (name, value) ∈ ofList entries ↔
      ∃ before after, entries = before ++ (name, value) :: after ∧ name ∉ after.map (·.1) := by
  have hget : (name, value) ∈ ofList entries ↔ entries.reverse.lookup name = some value := by
    rw [← List.append_nil entries.reverse, ← get?_foldl_insert]
    exact ⟨(ofList_sorted entries).get?_of_mem, mem_of_get?⟩
  rw [hget, List.lookup_eq_some_iff]
  constructor
  · rintro ⟨after, before, heq, hafter⟩
    refine ⟨before.reverse, after.reverse, ?_, ?_⟩
    · rw [← List.reverse_reverse entries, heq]
      simp
    · intro hmem
      obtain ⟨entry, hentry, hname⟩ := List.mem_map.mp hmem
      exact absurd (hafter entry (List.mem_reverse.mp hentry)) (by simp [hname])
  · rintro ⟨before, after, rfl, hafter⟩
    refine ⟨after.reverse, before.reverse, by simp, ?_⟩
    intro entry hentry
    rw [bne_iff_ne]
    rintro rfl
    exact hafter (List.mem_map_of_mem (List.mem_reverse.mp hentry))

theorem mem_of_mem_ofList {entry : String × α} {entries : List (String × α)}
    (h : entry ∈ ofList entries) : entry ∈ entries := by
  obtain ⟨before, after, rfl, -⟩ := mem_ofList_iff.mp h
  simp

theorem mem_ofList_cons_iff {first : String × α} {entries : List (String × α)} :
    (name, value) ∈ ofList (first :: entries) ↔
      (name, value) ∈ ofList entries ∨ (first = (name, value) ∧ name ∉ entries.map (·.1)) := by
  rw [mem_ofList_iff, mem_ofList_iff]
  constructor
  · rintro ⟨before, after, heq, hafter⟩
    cases before with
    | nil =>
        cases heq
        exact Or.inr ⟨rfl, hafter⟩
    | cons _ before =>
        cases heq
        exact Or.inl ⟨before, after, rfl, hafter⟩
  · rintro (⟨before, after, rfl, hafter⟩ | ⟨rfl, hafter⟩)
    · exact ⟨first :: before, after, rfl, hafter⟩
    · exact ⟨[], entries, rfl, hafter⟩

theorem mem_ofList_map_iff {ι : Type} {key : ι → String} {f : ι → α} {items : List ι} :
    (name, value) ∈ ofList (items.map fun x => (key x, f x)) ↔
      ∃ x, (∃ before after, items = before ++ x :: after ∧ key x ∉ after.map key) ∧
        key x = name ∧ f x = value := by
  rw [mem_ofList_iff]
  constructor
  · rintro ⟨before, after, heq, hafter⟩
    obtain ⟨before, rest, rfl, -, hrest⟩ := List.map_eq_append_iff.mp heq
    obtain ⟨x, after, rfl, hx, rfl⟩ := List.map_eq_cons_iff.mp hrest
    cases hx
    rw [List.map_map] at hafter
    exact ⟨x, ⟨before, after, rfl, hafter⟩, rfl, rfl⟩
  · rintro ⟨x, ⟨before, after, rfl, hafter⟩, rfl, rfl⟩
    refine ⟨before.map fun x => (key x, f x), after.map fun x => (key x, f x), ?_, ?_⟩
    · rw [List.map_append, List.map_cons]
    · rw [List.map_map]
      exact hafter

theorem mem_ofList_of_nodup {entries : List (String × α)} (h : (entries.map (·.1)).Nodup) :
    (name, value) ∈ ofList entries ↔ (name, value) ∈ entries := by
  rw [mem_ofList_iff]
  constructor
  · rintro ⟨before, after, rfl, -⟩
    simp
  · intro hmem
    obtain ⟨before, after, rfl⟩ := List.append_of_mem hmem
    refine ⟨before, after, rfl, ?_⟩
    rw [List.map_append, List.map_cons] at h
    exact (List.nodup_cons.mp (List.nodup_append.mp h).2.1).1

theorem insert_map (f : α → β) :
    insert name (f value) (d.map fun entry => (entry.1, f entry.2))
      = (insert name value d).map fun entry => (entry.1, f entry.2) := by
  induction d with
  | nil => rfl
  | cons first rest ih =>
      rw [List.map_cons, insert, insert]
      split
      · rfl
      · split
        · rfl
        · rw [ih]
          rfl

theorem ofList_map (f : α → β) (entries : List (String × α)) :
    ofList (entries.map fun entry => (entry.1, f entry.2))
      = (ofList entries).map fun entry => (entry.1, f entry.2) := by
  suffices h : ∀ d : Dictionary α,
      (entries.map fun entry => (entry.1, f entry.2)).foldl
          (fun d entry => insert entry.1 entry.2 d) (d.map fun entry => (entry.1, f entry.2))
        = (entries.foldl (fun d entry => insert entry.1 entry.2 d) d).map
            fun entry => (entry.1, f entry.2) from h []
  induction entries with
  | nil => exact fun d => rfl
  | cons entry rest ih =>
      intro d
      rw [List.map_cons, List.foldl_cons, List.foldl_cons, ← ih]
      exact congrArg (fun d => List.foldl _ d _) (insert_map f)

end Dictionary

end ODataApi
