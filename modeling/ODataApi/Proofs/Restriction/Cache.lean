import ODataApi.Restriction.Cache
import Mathlib.Data.List.Induction

/-!
# What a cache remembers

A cache agrees with a model if whatever it remembers of that model is what the model
says (`AnnotationCache.Agrees`).  With such a cache a look-up gives what the element
says, and all it does to the cache is to remember the key (`resolve_run`).  So the state
after a series of look-ups is told by its keys alone (`AnnotationCache.touchAll`).

A cache of another model serves a series of look-ups like an empty one
(`touchAll_of_other`), and a series that is repeated changes nothing
(`touchAll_touchAll`).  The issues of an empty cache after a series are those of each key
once (`touchAll_issues`).
-/

namespace ODataApi

/-- Models are told apart by their ids. -/
def Distinct (models : List Model) : Prop :=
  ∀ a ∈ models, ∀ b ∈ models, a.id = b.id → a = b

namespace Model

/-- What an element says of a term. -/
def record (m : Model) (element : Element) (term : Term) : Option term.Record :=
  (m.decode element term term.read).1

theorem record_eq (m : Model) (element : Element) (term : Term) :
    m.record element term
      = (m.annotation? element term.qualifiedName).bind fun value => (term.read value).value := by
  rw [record, decode]
  cases m.annotation? element term.qualifiedName with
  | none => rfl
  | some value => rfl

/-- The issues of what an element says of a term. -/
def recordIssues (m : Model) (element : Element) (term : Term) : List DecodeIssue :=
  (m.decode element term term.read).2

end Model

namespace AnnotationCache

variable {m : Model} {cache : AnnotationCache} {key : AnnotationKey}

/-- Whatever is remembered of a model is what the model says. -/
def Agrees (cache : AnnotationCache) (m : Model) : Prop :=
  ∀ element term record, cache.find? m.id element term = some record →
    record = m.record element term

/-- The cache after a look-up. -/
def touch (m : Model) (cache : AnnotationCache) (key : AnnotationKey) : AnnotationCache :=
  if key ∈ (cache.bind m.id).entries then cache.bind m.id
  else (cache.bind m.id).remember key.1 key.2 (m.record key.1 key.2) (m.recordIssues key.1 key.2)

/-- The cache after a series of look-ups. -/
def touchAll (m : Model) (cache : AnnotationCache) (keys : List AnnotationKey) :
    AnnotationCache :=
  keys.foldl (touch m) cache

/-! ## Serving one model -/

theorem bind_model (cache : AnnotationCache) (id : ModelId) : (cache.bind id).model = some id := by
  rw [bind]
  split
  case isTrue h => exact h
  case isFalse => rfl

theorem bind_of_model {id : ModelId} (h : cache.model = some id) : cache.bind id = cache := by
  rw [bind, if_pos h]

theorem bind_of_other {id : ModelId} (h : cache.model ≠ some id) :
    cache.bind id = ({} : AnnotationCache).bind id := by
  rw [bind, if_neg h, bind, if_neg (by simp)]

theorem touch_model (cache : AnnotationCache) (key : AnnotationKey) :
    (cache.touch m key).model = some m.id := by
  rw [touch]
  split
  · exact bind_model cache m.id
  · exact bind_model cache m.id

theorem touch_of_other (h : cache.model ≠ some m.id) :
    cache.touch m key = ({} : AnnotationCache).touch m key := by
  rw [touch, touch, bind_of_other h]

theorem touch_of_mem (hmodel : cache.model = some m.id) (h : key ∈ cache.entries) :
    cache.touch m key = cache := by
  rw [touch, bind_of_model hmodel, if_pos h]

theorem mem_touch_iff {key' : AnnotationKey} :
    key' ∈ (cache.touch m key).entries ↔ key' = key ∨ key' ∈ (cache.bind m.id).entries := by
  rw [touch]
  split
  case isTrue h =>
      constructor
      · exact Or.inr
      · rintro (rfl | h')
        · exact h
        · exact h'
  case isFalse h =>
      rw [remember, Std.DHashMap.mem_insert, beq_iff_eq]
      exact or_congr_left eq_comm

/-! ## Series -/

theorem touchAll_append (cache : AnnotationCache) (keys keys' : List AnnotationKey) :
    cache.touchAll m (keys ++ keys') = (cache.touchAll m keys).touchAll m keys' :=
  List.foldl_append

theorem touchAll_model_of_model (keys : List AnnotationKey) (h : cache.model = some m.id) :
    (cache.touchAll m keys).model = some m.id := by
  induction keys generalizing cache with
  | nil => exact h
  | cons key keys ih => exact ih (touch_model cache key)

theorem touchAll_model {keys : List AnnotationKey} (h : keys ≠ []) :
    (cache.touchAll m keys).model = some m.id := by
  cases keys with
  | nil => exact absurd rfl h
  | cons key keys => exact touchAll_model_of_model keys (touch_model cache key)

theorem touchAll_of_other (h : cache.model ≠ some m.id) {keys : List AnnotationKey}
    (hkeys : keys ≠ []) :
    cache.touchAll m keys = ({} : AnnotationCache).touchAll m keys := by
  cases keys with
  | nil => exact absurd rfl hkeys
  | cons key keys =>
      rw [touchAll, List.foldl_cons, touch_of_other h]
      rfl

theorem bind_touchAll_of_other (h : cache.model ≠ some m.id) (keys : List AnnotationKey) :
    (cache.touchAll m keys).bind m.id = (({} : AnnotationCache).touchAll m keys).bind m.id := by
  cases keys with
  | nil => exact bind_of_other h
  | cons key keys => rw [touchAll_of_other h (List.cons_ne_nil key keys)]

theorem mem_touchAll_of_mem {keys : List AnnotationKey} (hmodel : cache.model = some m.id)
    (h : key ∈ cache.entries) : key ∈ (cache.touchAll m keys).entries := by
  induction keys generalizing cache with
  | nil => exact h
  | cons first rest ih =>
      refine ih (touch_model cache first) ?_
      rw [mem_touch_iff, bind_of_model hmodel]
      exact Or.inr h

theorem mem_touchAll {keys : List AnnotationKey} (h : key ∈ keys) :
    key ∈ (cache.touchAll m keys).entries := by
  induction keys generalizing cache with
  | nil => cases h
  | cons first rest ih =>
      cases h with
      | head =>
          have hmem : key ∈ (cache.touch m key).entries := mem_touch_iff.mpr (Or.inl rfl)
          show key ∈ ((cache.touch m key).touchAll m rest).entries
          exact mem_touchAll_of_mem (touch_model cache key) hmem
      | tail _ h => exact ih h

theorem touchAll_of_forall_mem {keys : List AnnotationKey} (hmodel : cache.model = some m.id)
    (h : ∀ key ∈ keys, key ∈ cache.entries) : cache.touchAll m keys = cache := by
  induction keys with
  | nil => rfl
  | cons first rest ih =>
      rw [touchAll, List.foldl_cons, touch_of_mem hmodel (h first List.mem_cons_self)]
      exact ih fun key hkey => h key (List.mem_cons_of_mem first hkey)

/-- What has been looked up is not decoded again. -/
theorem touchAll_touchAll (cache : AnnotationCache) {keys : List AnnotationKey} :
    (cache.touchAll m keys).touchAll m keys = cache.touchAll m keys := by
  cases keys with
  | nil => rfl
  | cons first rest =>
      refine touchAll_of_forall_mem (touchAll_model (List.cons_ne_nil first rest)) ?_
      exact fun key hkey => mem_touchAll hkey

/-! ## Issues -/

theorem bind_touchAll_append (keys : List AnnotationKey) (key : AnnotationKey) :
    (cache.touchAll m (keys ++ [key])).bind m.id = (cache.touchAll m keys).touch m key := by
  rw [touchAll_append]
  exact bind_of_model (touch_model _ key)

theorem mem_bind_touchAll_iff {keys : List AnnotationKey} :
    key ∈ ((({} : AnnotationCache).touchAll m keys).bind m.id).entries ↔ key ∈ keys := by
  induction keys using List.reverseRecOn with
  | nil => simp [touchAll, bind]
  | append_singleton keys last ih =>
      rw [bind_touchAll_append, mem_touch_iff, ih, List.mem_append, List.mem_singleton, or_comm]

theorem bind_touchAll_issues (keys : List AnnotationKey) :
    ((({} : AnnotationCache).touchAll m keys).bind m.id).issues
      = keys.eraseDups.flatMap fun key => m.recordIssues key.1 key.2 := by
  induction keys using List.reverseRecOn with
  | nil => simp [touchAll, bind]
  | append_singleton keys last ih =>
      rw [bind_touchAll_append, touch, List.eraseDups_append, List.flatMap_append, ← ih]
      split
      case isTrue h =>
          rw [mem_bind_touchAll_iff] at h
          simp [List.removeAll, h]
      case isFalse h =>
          rw [mem_bind_touchAll_iff] at h
          simp [List.removeAll, h, remember, List.eraseDups_cons]

/-- An empty cache notes the issues of each key once, in the order of the look-ups. -/
theorem touchAll_issues (keys : List AnnotationKey) :
    (({} : AnnotationCache).touchAll m keys).issues
      = keys.eraseDups.flatMap fun key => m.recordIssues key.1 key.2 := by
  rw [← bind_touchAll_issues]
  cases keys with
  | nil => rfl
  | cons key keys => rw [bind_of_model (touchAll_model (List.cons_ne_nil key keys))]

/-! ## Agreement -/

theorem agrees_empty (m : Model) : ({} : AnnotationCache).Agrees m := by
  intro element term record h
  simp [find?, bind] at h

theorem agrees_of_other (h : cache.model ≠ some m.id) : cache.Agrees m := by
  intro element term record hfind
  rw [find?, bind_of_other h] at hfind
  exact agrees_empty m element term record hfind

theorem Agrees.bind (h : cache.Agrees m) : (cache.bind m.id).Agrees m := by
  intro element term record hfind
  rw [find?, bind_of_model (bind_model cache m.id)] at hfind
  exact h element term record hfind

theorem Agrees.remember (h : cache.Agrees m) (element : Element) (term : Term)
    (issues : List DecodeIssue) :
    ((cache.bind m.id).remember element term (m.record element term) issues).Agrees m := by
  intro element' term' record hfind
  have hmodel : ((cache.bind m.id).remember element term (m.record element term) issues).model
      = some m.id := bind_model cache m.id
  rw [find?, bind_of_model hmodel, AnnotationCache.remember, Std.DHashMap.get?_insert] at hfind
  split at hfind
  case isTrue heq =>
      obtain ⟨rfl, rfl⟩ := Prod.mk.inj (beq_iff_eq.mp heq)
      cases hfind
      rfl
  case isFalse => exact h element' term' record hfind

theorem Agrees.touch (h : cache.Agrees m) : (cache.touch m key).Agrees m := by
  rw [AnnotationCache.touch]
  split
  case isTrue => exact h.bind
  case isFalse => exact h.remember key.1 key.2 _

theorem Agrees.touchAll {keys : List AnnotationKey} (h : cache.Agrees m) :
    (cache.touchAll m keys).Agrees m := by
  induction keys generalizing cache with
  | nil => exact h
  | cons key keys ih => exact ih h.touch

end AnnotationCache

/-- A look-up gives what the element says and remembers that it has been made. -/
theorem Model.resolve_run {m : Model} {cache : AnnotationCache} (h : cache.Agrees m)
    (element : Element) (term : Term) :
    (m.resolve element term).run cache
      = (m.record element term, cache.touch m (element, term)) := by
  cases hfind : (cache.bind m.id).entries.get? (element, term) with
  | some record =>
      have hmem : (element, term) ∈ (cache.bind m.id).entries := by
        rw [Std.DHashMap.mem_iff_isSome_get?, hfind]
        rfl
      rw [AnnotationCache.touch, if_pos hmem, ← h element term record hfind]
      simp [Model.resolve, hfind]
      rfl
  | none =>
      have hmem : (element, term) ∉ (cache.bind m.id).entries := by
        rw [Std.DHashMap.mem_iff_isSome_get?, hfind]
        exact Bool.false_ne_true
      rw [AnnotationCache.touch, if_neg hmem]
      simp [Model.resolve, hfind]
      rfl

end ODataApi
