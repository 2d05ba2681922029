import ODataApi.Proofs.Conversion

/-!
# Caches that can be met

A cache starts empty, and whatever is done with it comes down to looking annotations up in one of
some models and to forgetting everything (`AnnotationCache.Reachable`).  What such a cache
remembers of any of the models is what the model says (`Reachable.agrees`), so all that is
computed through look-ups gives what it gives with an empty cache, and leaves a cache that can be
met (`Reachable.run`).
-/

namespace ODataApi

/-! ## Look-ups with other readers -/

namespace AnnotationCache

variable {m : Model} {cache : AnnotationCache}

/-- A reader that may note other issues, but reads what the element says like the reader of the
term. -/
def ReadsAlike (m : Model) (element : Element) (term : Term) (read : Reader term.Record) : Prop :=
  ∀ value, m.annotation? element term.qualifiedName = some value →
    (read value).value = (term.read value).value

theorem ReadsAlike.decode_eq {element : Element} {term : Term} {read : Reader term.Record}
    (h : ReadsAlike m element term read) :
    (m.decode element term read).1 = m.record element term := by
  rw [Model.record, Model.decode, Model.decode]
  cases hvalue : m.annotation? element term.qualifiedName with
  | none => rfl
  | some value => exact h value hvalue

/-- A look-up remembers what it gives, unless that is remembered already. -/
theorem resolve_cases (m : Model) (cache : AnnotationCache) (element : Element) (term : Term)
    (read : Reader term.Record) :
    ((m.resolve element term read).run cache).2 = cache.bind m.id ∨
      ((m.resolve element term read).run cache).2 = (cache.bind m.id).remember element term
        (m.decode element term read).1 (m.decode element term read).2 := by
  cases hfind : (cache.bind m.id).entries.get? (element, term) with
  | some record =>
      left
      simp [Model.resolve, hfind]
      rfl
  | none =>
      right
      simp [Model.resolve, hfind]
      rfl

theorem resolve_model (m : Model) (cache : AnnotationCache) (element : Element) (term : Term)
    (read : Reader term.Record) :
    ((m.resolve element term read).run cache).2.model = some m.id := by
  rcases resolve_cases m cache element term read with h | h
  · rw [h]
    exact bind_model cache m.id
  · rw [h]
    exact bind_model cache m.id

theorem Agrees.resolve (h : cache.Agrees m) {element : Element} {term : Term}
    {read : Reader term.Record} (hread : ReadsAlike m element term read) :
    ((m.resolve element term read).run cache).2.Agrees m := by
  rcases resolve_cases m cache element term read with hrun | hrun
  · rw [hrun]
    exact h.bind
  · rw [hrun, hread.decode_eq]
    exact h.remember element term _

/-! ## Reachable caches -/

/-- A cache that some models have been looked up in, one after the other. -/
inductive Reachable (models : List Model) : AnnotationCache → Prop
  | empty : Reachable models {}
  | clear {cache : AnnotationCache} (h : Reachable models cache) : Reachable models cache.clear
  | resolve {cache : AnnotationCache} {m : Model} {element : Element} {term : Term}
      {read : Reader term.Record} (h : Reachable models cache) (hm : m ∈ models)
      (hread : ReadsAlike m element term read) :
      Reachable models ((m.resolve element term read).run cache).2

namespace Reachable

variable {models : List Model}

theorem agrees (hids : Distinct models) (h : cache.Reachable models) :
    ∀ m ∈ models, cache.Agrees m := by
  induction h with
  | empty => exact fun m _ => agrees_empty m
  | clear => exact fun m _ => agrees_empty m
  | @resolve cache served element term read _ hserved hread ih =>
      intro m hm
      by_cases hid : served.id = m.id
      · obtain rfl := hids served hserved m hm hid
        exact (ih served hm).resolve hread
      · -- the cache now serves another model and remembers nothing of this one
        apply agrees_of_other
        rw [resolve_model]
        simpa using hid

theorem touch (hids : Distinct models) (h : cache.Reachable models) (hm : m ∈ models)
    (key : AnnotationKey) : (cache.touch m key).Reachable models := by
  have halike : ReadsAlike m key.1 key.2 key.2.read := fun _ _ => rfl
  have hresolve := h.resolve hm halike
  rw [Model.resolve_run (h.agrees hids m hm)] at hresolve
  exact hresolve

theorem touchAll (hids : Distinct models) (hm : m ∈ models) (keys : List AnnotationKey) :
    ∀ {cache : AnnotationCache}, cache.Reachable models →
      (cache.touchAll m keys).Reachable models := by
  induction keys with
  | nil => exact fun h => h
  | cons key keys ih => exact fun h => ih (h.touch hids hm key)

/-- What is computed through look-ups does not depend on the cache, and leaves one that can be
met. -/
theorem run {α : Type} {f : StateM AnnotationCache α} {query : Query α} (hids : Distinct models)
    (h : cache.Reachable models) (hm : m ∈ models) (hf : Reads m f query) :
    (f.run cache).1 = query.value ∧ (f.run cache).2.Reachable models := by
  rw [hf cache (h.agrees hids m hm)]
  exact ⟨rfl, h.touchAll hids hm query.keys⟩

/-- A conversion leaves a cache that can be met. -/
theorem convertWith {settings : Settings} {conversion : Conversion} {cache' : AnnotationCache}
    (hids : Distinct models) (h : cache.Reachable models) (hm : m ∈ models)
    (hconvert : m.convertWith settings cache = .ok (conversion, cache')) :
    cache'.Reachable models := by
  cases hpaths : m.paths settings with
  | error e =>
      rw [Model.convertWith_of_error cache hpaths] at hconvert
      cases hconvert
  | ok paths =>
      rw [Model.convertWith_of_ok hpaths (h.agrees hids m hm)] at hconvert
      cases hconvert
      exact touchAll hids hm _ h

end Reachable

end AnnotationCache

end ODataApi
