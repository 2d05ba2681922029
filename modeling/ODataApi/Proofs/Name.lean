import ODataApi.Name
import Mathlib.Data.List.TakeDrop
import Mathlib.Data.List.TakeWhile

/-!
# Numbers and namespaces in names

The digits of a number tell the number (`toString_toList_inj`).

A namespace in front of a name without one makes the name qualified (`isQualified_join`) and leaves
its simple name (`simple_join`).  In front of an annotation target it goes to the head
(`splitMember?_join`), unless it has a slash itself: then the target is cut in the namespace
(`exists_splitMember?_join`).  Without a slash the name of an owner can be told from that of its
member (`splitMember?_member`).
-/

namespace ODataApi

/-! ## Numbers in names -/

theorem isDigit_of_mem_toString {n : Nat} {c : Char} (h : c ∈ (toString n).toList) :
    c.isDigit = true := by
  rw [Nat.toString_eq_repr, Nat.toList_repr] at h
  exact Nat.isDigit_of_mem_toDigits (by decide) (by decide) h

theorem toString_toList_inj {n k : Nat} (h : (toString n).toList = (toString k).toList) :
    n = k := by
  simp only [Nat.toString_eq_repr, Nat.toList_repr] at h
  have hvalue := congrArg (fun digits => Nat.ofDigitChars 10 digits 0) h
  simpa using hvalue

namespace Name

variable {ns name : String}

theorem toList_join (ns name : String) :
    (join ns name).toList = ns.toList ++ '.' :: name.toList := by
  simp [join]

theorem isQualified_join : isQualified (join ns name) = true := by
  simp [isQualified, toList_join]

/-! ## Simple names -/

theorem ne_dot_of_not_qualified (h : isQualified name = false) :
    ∀ c ∈ name.toList.reverse, (c != '.') = true := by
  intro c hc
  rw [isQualified, List.contains_eq_mem, decide_eq_false_iff_not] at h
  rw [bne_iff_ne]
  rintro rfl
  exact h (List.mem_reverse.mp hc)

theorem simple_of_not_qualified (h : isQualified name = false) : simple name = name := by
  rw [simple, List.takeWhile_eq_self_iff.mpr (ne_dot_of_not_qualified h), List.reverse_reverse,
    String.ofList_toList]

theorem simple_join (h : isQualified name = false) : simple (join ns name) = name := by
  rw [simple, toList_join, List.reverse_append, List.reverse_cons, List.append_assoc,
    List.takeWhile_append_of_pos (ne_dot_of_not_qualified h), List.singleton_append,
    List.takeWhile_cons_of_neg (by simp), List.append_nil, List.reverse_reverse,
    String.ofList_toList]

/-! ## Members -/

theorem splitMember?_eq (path : String) :
    splitMember? path = match path.toList.dropWhile (· != '/') with
      | _ :: name => some (String.ofList (path.toList.takeWhile (· != '/')), String.ofList name)
      | [] => none := by
  rw [splitMember?, List.span_eq_takeWhile_dropWhile]
  cases path.toList.dropWhile (· != '/') with
  | nil => rfl
  | cons c name => rfl

theorem ofList_append_dot (ns : String) (name : List Char) :
    String.ofList (ns.toList ++ '.' :: name) = join ns (String.ofList name) := by
  rw [← String.toList_inj, toList_join, String.toList_ofList, String.toList_ofList]

/-- A namespace without a slash goes to the head of a target. -/
theorem splitMember?_join (hns : '/' ∉ ns.toList) (target : String) :
    splitMember? (join ns target)
      = (splitMember? target).map fun (head, name) => (join ns head, name) := by
  have hall : ∀ c ∈ ns.toList ++ ['.'], (c != '/') = true := by
    intro c hc
    rw [bne_iff_ne]
    rintro rfl
    simp [hns] at hc
  have hsplit : (join ns target).toList = (ns.toList ++ ['.']) ++ target.toList := by
    rw [toList_join, List.append_assoc, List.singleton_append]
  rw [splitMember?_eq, splitMember?_eq, hsplit, List.dropWhile_append_of_pos hall,
    List.takeWhile_append_of_pos hall]
  cases target.toList.dropWhile (· != '/') with
  | nil => rfl
  | cons c name =>
      rw [List.append_assoc, List.singleton_append]
      simp only [Option.map_some, ofList_append_dot]

/-- A namespace with a slash is cut itself. -/
theorem exists_splitMember?_join (hns : '/' ∈ ns.toList) (target : String) :
    ∃ head name, splitMember? (join ns target) = some (head, name) ∧
      target.toList.length < name.toList.length := by
  obtain ⟨before, after, hslash, hbefore⟩ := List.eq_append_cons_of_mem hns
  have hall : ∀ c ∈ before, (c != '/') = true := by
    intro c hc
    rw [bne_iff_ne]
    rintro rfl
    exact hbefore hc
  refine ⟨String.ofList before, String.ofList (after ++ '.' :: target.toList), ?_, ?_⟩
  · rw [splitMember?_eq, toList_join, hslash, List.append_assoc, List.cons_append,
      List.dropWhile_append_of_pos hall, List.dropWhile_cons_of_neg (by simp),
      List.takeWhile_append_of_pos hall, List.takeWhile_cons_of_neg (by simp), List.append_nil]
  · rw [String.toList_ofList, List.length_append, List.length_cons]
    omega

theorem splitMember?_eq_none_iff {path : String} :
    splitMember? path = none ↔ '/' ∉ path.toList := by
  have hslash : path.toList.dropWhile (· != '/') = [] ↔ '/' ∉ path.toList := by
    simpa using List.forall_mem_ne'
  rw [← hslash, splitMember?_eq]
  cases path.toList.dropWhile (· != '/') with
  | nil => simp
  | cons c rest => simp

/-- A member of an owner without a slash is cut after the owner. -/
theorem splitMember?_member {owner : String} (h : '/' ∉ owner.toList) (name : String) :
    splitMember? (member owner name) = some (owner, name) := by
  have hall : ∀ c ∈ owner.toList, (c != '/') = true := by
    intro c hc
    rw [bne_iff_ne]
    rintro rfl
    exact h hc
  have hlist : (member owner name).toList = owner.toList ++ '/' :: name.toList := by
    simp [member]
  rw [splitMember?_eq, hlist, List.dropWhile_append_of_pos hall,
    List.dropWhile_cons_of_neg (by simp), List.takeWhile_append_of_pos hall,
    List.takeWhile_cons_of_neg (by simp), List.append_nil]
  simp only [String.ofList_toList]

theorem length_of_splitMember? {path head : String} (h : splitMember? path = some (head, name)) :
    name.toList.length ≤ path.toList.length := by
  rw [splitMember?_eq] at h
  have hle := (List.dropWhile_sublist (l := path.toList) (· != '/')).length_le
  cases hdrop : path.toList.dropWhile (· != '/') with
  | nil =>
      rw [hdrop] at h
      cases h
  | cons c rest =>
      rw [hdrop] at h hle
      cases h
      rw [String.toList_ofList]
      exact Nat.le_of_succ_le hle

end Name

end ODataApi
