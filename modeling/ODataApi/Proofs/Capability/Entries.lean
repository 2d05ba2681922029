import Mathlib.Data.List.Forall2
import Mathlib.Data.Option.Basic
import ODataApi.Capability.Navigation
import ODataApi.Proofs.Capability.Reading

/-!
# Entries for one navigation path

Two values for the restrictions on navigation may differ in what the entries for one navigation
path say besides the path and its navigability (`Expression.RestrictionsAlike`).  Then both can be
read or none can, and the records that are read differ in the same way
(`NavigationRestrictions.read_alike`).

Such records allow the same navigation paths (`NavigationRestrictions.Alike.allowsPath_eq`), for
an entry is asked for its navigability alone unless the path is its own.  Every other path has the
same entry in both (`NavigationRestrictions.Alike.entry_eq`).
-/

namespace ODataApi

/-! ## Lists item by item -/

section

variable {α : Type} {R : α → α → Prop}

/-- Where a condition is met alike, it is met first in the same place. -/
theorem forall₂_find? {p : α → Bool} (hp : ∀ a b, R a b → p b = p a) {items items' : List α}
    (h : List.Forall₂ R items items') :
    Option.Rel (fun a b => R a b ∧ p a = true) (items.find? p) (items'.find? p) := by
  induction h with
  | nil => exact .none
  | @cons a b rest rest' hab _ ih =>
      rw [List.find?_cons, List.find?_cons, hp a b hab]
      cases hpa : p a with
      | true => exact .some ⟨hab, hpa⟩
      | false => exact ih

theorem eq_of_rel {β : Type} (f : Option α → β) (hf : ∀ a b, R a b → f (some b) = f (some a))
    {a b : Option α} (h : Option.Rel R a b) : f b = f a := by
  cases h with
  | some hab => exact hf _ _ hab
  | none => rfl

theorem bind_rel {β : Type} {S : β → β → Prop} {f : α → Option β}
    (hf : ∀ a b, R a b → Option.Rel S (f a) (f b)) {a b : Option α} (h : Option.Rel R a b) :
    Option.Rel S (a.bind f) (b.bind f) := by
  cases h with
  | some hab => exact hf _ _ hab
  | none => exact .none

theorem forall₂_toList {a b : Option α} (h : Option.Rel R a b) :
    List.Forall₂ R a.toList b.toList := by
  cases h with
  | some hab => exact .cons hab .nil
  | none => exact .nil

end

/-! ## Entries and records -/

/-- The same entry, or two for one navigation path that agree on its navigability. -/
def NavigationPropertyRestriction.Alike (path : String)
    (entry entry' : NavigationPropertyRestriction) : Prop :=
  entry' = entry ∨ entry.navigationProperty = path ∧ entry'.navigationProperty = path ∧
    entry'.navigability = entry.navigability

/-- Two records that differ in entries for one navigation path, and in these not on its
navigability. -/
structure NavigationRestrictions.Alike (path : String) (r r' : NavigationRestrictions) : Prop where
  /-- The navigability of the element. -/
  navigability : r'.navigability = r.navigability
  /-- Entry by entry. -/
  entries : List.Forall₂ (NavigationPropertyRestriction.Alike path) r.entries r'.entries

namespace NavigationPropertyRestriction.Alike

variable {path : String} {entry entry' : NavigationPropertyRestriction}

theorem refl (path : String) (entry : NavigationPropertyRestriction) : Alike path entry entry :=
  Or.inl rfl

theorem navigationProperty_eq (h : Alike path entry entry') :
    entry'.navigationProperty = entry.navigationProperty := by
  rcases h with rfl | ⟨hpath, hpath', -⟩
  · rfl
  · rw [hpath, hpath']

theorem navigability_eq (h : Alike path entry entry') :
    entry'.navigability = entry.navigability := by
  rcases h with rfl | ⟨-, -, hnavigability⟩
  · rfl
  · exact hnavigability

end NavigationPropertyRestriction.Alike

namespace NavigationRestrictions.Alike

variable {path other : String} {r r' : NavigationRestrictions} {depth : Nat}

theorem refl (path : String) (r : NavigationRestrictions) : Alike path r r :=
  ⟨rfl, List.forall₂_same.mpr fun entry _ => .refl path entry⟩

theorem entry_alike (h : Alike path r r') (other : String) :
    Option.Rel (fun entry entry' => NavigationPropertyRestriction.Alike path entry entry' ∧
        (entry.navigationProperty == other) = true)
      (r.entries.find? (·.navigationProperty == other))
      (r'.entries.find? (·.navigationProperty == other)) :=
  forall₂_find? (fun _ _ halike => by rw [halike.navigationProperty_eq]) h.entries

theorem statedFor?_eq (h : Alike path r r') (other : String) :
    r'.statedFor? other = r.statedFor? other :=
  eq_of_rel (Option.bind · NavigationPropertyRestriction.navigability)
    (fun _ _ halike => halike.1.navigability_eq) (h.entry_alike other)

/-- Another navigation path has the same entry in both. -/
theorem entry_eq (h : Alike path r r') (hother : other ≠ path) :
    r'.entry? other = r.entry? other := by
  refine eq_of_rel id (fun entry entry' halike => ?_) (h.entry_alike other)
  obtain ⟨rfl | ⟨hpath, -⟩, hentry⟩ := halike
  · rfl
  · exact absurd ((eq_of_beq hentry).symm.trans hpath) hother

theorem allowsPath_eq (h : Alike path r r') :
    r'.allowsPath other depth = r.allowsPath other depth := by
  rw [allowsPath, allowsPath, h.statedFor?_eq, h.statedFor?_eq, effectiveNavigability,
    effectiveNavigability, h.navigability]

end NavigationRestrictions.Alike

/-! ## Values -/

namespace Expression

/-- The same item, or two entries for one navigation path with the same navigability. -/
inductive EntryAlike (path : String) : Expression → Expression → Prop
  | same (item : Expression) : EntryAlike path item item
  | entry {type : Option String} {fields fields' : Dictionary Expression}
      (hpath : (readField fields "NavigationProperty" .path).value = some path)
      (hproperty : fields'.get? "NavigationProperty" = fields.get? "NavigationProperty")
      (hnavigability : fields'.get? "Navigability" = fields.get? "Navigability") :
      EntryAlike path (.record type fields) (.record type fields')

/-- The same value, or two records that differ in entries for one navigation path, and in these
neither in the path nor in the navigability. -/
inductive RestrictionsAlike (path : String) : Expression → Expression → Prop
  | same (value : Expression) : RestrictionsAlike path value value
  | record {type : Option String} {fields fields' : Dictionary Expression}
      {items items' : List Expression}
      (hfields : ∀ name, name ≠ "RestrictedProperties" → fields'.get? name = fields.get? name)
      (hitems : fields.get? "RestrictedProperties" = some (.collection items))
      (hitems' : fields'.get? "RestrictedProperties" = some (.collection items'))
      (halike : List.Forall₂ (EntryAlike path) items items') :
      RestrictionsAlike path (.record type fields) (.record type fields')

end Expression

theorem readField_congr {α : Type} {fields fields' : Dictionary Expression} {name : String}
    (read : Reader α) (h : fields'.get? name = fields.get? name) :
    readField fields' name read = readField fields name read := by
  rw [readField, readField, h]

theorem readField_of_collection {α : Type} {fields : Dictionary Expression} {name : String}
    {read : Reader α} {items : List Expression} (h : fields.get? name = some (.collection items)) :
    (readField fields name read).value = (read (.collection items)).value := by
  rw [readField, h]
  rfl

/-! ## Reading -/

namespace NavigationPropertyRestriction

variable {path : String} {type : Option String} {fields : Dictionary Expression}

theorem read_of_path (h : (readField fields "NavigationProperty" .path).value = some path) :
    ∃ entry, (read (.record type fields)).value = some entry ∧ entry.navigationProperty = path ∧
      entry.navigability = (readField fields "Navigability" Navigability.read).value := by
  rw [read, Reader.record, Reading.bind_value, h]
  exact ⟨_, rfl, rfl, rfl⟩

theorem read_alike {item item' : Expression} (h : item.EntryAlike path item') :
    Option.Rel (Alike path) (read item).value (read item').value := by
  cases h with
  | same =>
      cases (read item).value with
      | none => exact .none
      | some entry => exact .some (.refl path entry)
  | entry hpath hproperty hnavigability =>
      obtain ⟨entry, hentry, hname, hstated⟩ := read_of_path hpath
      rw [← readField_congr _ hproperty] at hpath
      obtain ⟨entry', hentry', hname', hstated'⟩ := read_of_path hpath
      rw [hentry, hentry']
      refine .some (Or.inr ⟨hname, hname', ?_⟩)
      rw [hstated, hstated', readField_congr _ hnavigability]

theorem items_alike {index : Nat} {items items' : List Expression}
    (h : List.Forall₂ (Expression.EntryAlike path) items items') :
    List.Forall₂ (Alike path) (Reader.items read index items).value
      (Reader.items read index items').value := by
  induction h generalizing index with
  | nil => exact .nil
  | cons hitem _ ih => exact List.rel_append (forall₂_toList (read_alike hitem)) ih

end NavigationPropertyRestriction

theorem NavigationRestrictions.read_alike {path : String} {value value' : Expression}
    (h : value.RestrictionsAlike path value') :
    Option.Rel (Alike path) (read value).value (read value').value := by
  cases h with
  | same =>
      cases (read value).value with
      | none => exact .none
      | some r => exact .some (.refl path r)
  | record hfields hitems hitems' halike =>
      refine .some ⟨?_, ?_⟩
      · exact congrArg Reading.value (readField_congr _ (hfields "Navigability" (by decide)))
      · simp only [entries, readField_of_collection hitems, readField_of_collection hitems']
        exact NavigationPropertyRestriction.items_alike halike

end ODataApi
