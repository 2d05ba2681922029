import ODataApi.Document.Resolve
import ODataApi.Proofs.Model.WellFormed
import Mathlib.Data.List.Forall2

/-!
# Resolved documents are well-formed models

A document that resolves gives a model whose handles all belong to elements
(`Document.resolve_wellFormed`).  A name of the document's scope is the position of a
type (`Scope.typeOf_lt`), and each container numbers its sets and singletons on from
those of the containers before it (`handlesFrom`), so that the lists of all containers
together are the handles of the model in order.
-/

namespace ODataApi

/-! ## Results -/

theorem map_eq_of_forall₂ {α β γ : Type} {f : α → γ} {g : β → γ} {xs : List α} {ys : List β}
    (h : List.Forall₂ (fun x y => f x = g y) xs ys) : xs.map f = ys.map g := by
  rw [← List.forall₂_eq_eq_eq, List.forall₂_map_left_iff, List.forall₂_map_right_iff]
  exact h

namespace Except

variable {ε α β : Type}

theorem bind_eq_ok {x : Except ε α} {f : α → Except ε β} {b : β} :
    x >>= f = .ok b ↔ ∃ a, x = .ok a ∧ f a = .ok b := by
  cases x with
  | error e => simp [bind, Except.bind]
  | ok a => simp [bind, Except.bind]

theorem pure_eq_ok {a b : α} : (pure a : Except ε α) = .ok b ↔ a = b := by
  simp [pure, Except.pure]

theorem throw_bind_ne_ok {e : ε} {f : α → Except ε β} {b : β} :
    (throw e : Except ε α) >>= f ≠ .ok b := by
  intro h
  cases h

/-- What is done to each item of a list is done to all of them. -/
theorem forall₂_of_mapM_eq_ok {f : α → Except ε β} :
    ∀ {xs : List α} {ys : List β}, xs.mapM f = .ok ys →
      List.Forall₂ (fun x y => f x = .ok y) xs ys
  | [], ys, h => by
      rw [List.mapM_nil, pure_eq_ok] at h
      subst h
      exact .nil
  | x :: xs, ys, h => by
      rw [List.mapM_cons, bind_eq_ok] at h
      obtain ⟨y, hy, h⟩ := h
      rw [bind_eq_ok] at h
      obtain ⟨ys', hys, h⟩ := h
      rw [pure_eq_ok] at h
      subst h
      exact .cons hy (forall₂_of_mapM_eq_ok hys)

/-- What every item has in common with its result, the list has in common with the results. -/
theorem map_eq_of_mapM_eq_ok {γ : Type} {f : α → Except ε β} {g : β → γ} {k : α → γ}
    (hf : ∀ x y, f x = .ok y → g y = k x) {xs : List α} {ys : List β} (h : xs.mapM f = .ok ys) :
    ys.map g = xs.map k :=
  (map_eq_of_forall₂ ((forall₂_of_mapM_eq_ok h).imp fun x y hxy => (hf x y hxy).symm)).symm

/-- What is done to each item is told by a function. -/
theorem eq_map_of_mapM_eq_ok {f : α → Except ε β} {g : α → β}
    (hf : ∀ x y, f x = .ok y → y = g x) {xs : List α} {ys : List β} (h : xs.mapM f = .ok ys) :
    ys = xs.map g := by
  rw [← List.map_id' ys]
  exact map_eq_of_mapM_eq_ok hf h

theorem exists_of_mem_forall₂ {R : α → β → Prop} {xs : List α} {ys : List β} {y : β}
    (h : List.Forall₂ R xs ys) (hy : y ∈ ys) : ∃ x ∈ xs, R x y := by
  induction h with
  | nil => cases hy
  | cons hxy _ ih =>
      rcases List.mem_cons.mp hy with rfl | hy
      · exact ⟨_, List.mem_cons_self, hxy⟩
      · obtain ⟨x, hx, hfx⟩ := ih hy
        exact ⟨x, List.mem_cons_of_mem _ hx, hfx⟩

/-- Each item of the result comes from one of the list. -/
theorem exists_of_mem_mapM {f : α → Except ε β} {xs : List α} {ys : List β} {y : β}
    (h : xs.mapM f = .ok ys) (hy : y ∈ ys) : ∃ x ∈ xs, f x = .ok y :=
  exists_of_mem_forall₂ (R := fun x y => f x = .ok y) (forall₂_of_mapM_eq_ok h) hy

theorem length_of_mapM_eq_ok {f : α → Except ε β} {xs : List α} {ys : List β}
    (h : xs.mapM f = .ok ys) : ys.length = xs.length :=
  (forall₂_of_mapM_eq_ok h).length_eq.symm

/-- A value that is there after something was done to it was there before. -/
theorem exists_of_optionMapM_eq_some {f : α → Except ε β} {x : Option α} {y : β}
    (h : x.mapM f = .ok (some y)) : ∃ a, x = some a ∧ f a = .ok y := by
  cases x with
  | none => cases h
  | some a =>
      rw [Option.mapM_some] at h
      cases hf : f a with
      | error e =>
          rw [hf] at h
          cases h
      | ok b =>
          rw [hf] at h
          cases h
          exact ⟨a, rfl, hf⟩

theorem getElem?_of_mapM_eq_ok {f : α → Except ε β} {xs : List α} {ys : List β}
    (h : xs.mapM f = .ok ys) {i : Nat} {x : α} (hx : xs[i]? = some x) :
    ∃ y, ys[i]? = some y ∧ f x = .ok y := by
  obtain ⟨hi, rfl⟩ := List.getElem?_eq_some_iff.mp hx
  have hi' : i < ys.length := length_of_mapM_eq_ok h ▸ hi
  exact ⟨ys[i], List.getElem?_eq_getElem hi', (forall₂_of_mapM_eq_ok h).get hi hi'⟩

/-! ### Whether there is a result -/

theorem isOk_iff {x : Except ε α} : x.isOk = true ↔ ∃ a, x = .ok a := by
  cases x with
  | error e => simp [Except.isOk, Except.toBool]
  | ok a => simp [Except.isOk, Except.toBool]

theorem isOk_bind {x : Except ε α} {f : α → Except ε β} :
    (x >>= f).isOk = true ↔ ∃ a, x = .ok a ∧ (f a).isOk = true := by
  cases x with
  | error e => simp [bind, Except.bind, Except.isOk, Except.toBool]
  | ok a => simp [bind, Except.bind]

theorem isOk_throw_bind {e : ε} {f : α → Except ε β} :
    ((throw e : Except ε α) >>= f).isOk = false := rfl

theorem isOk_bind_pure {x : Except ε α} {f : α → β} :
    (x >>= fun a => pure (f a)).isOk = x.isOk := by
  cases x with
  | error e => rfl
  | ok a => rfl

theorem isOk_mapM {f : α → Except ε β} :
    ∀ {xs : List α}, (xs.mapM f).isOk = true ↔ ∀ x ∈ xs, (f x).isOk = true
  | [] => by simp [Except.isOk, Except.toBool, pure, Except.pure]
  | x :: xs => by
      rw [List.mapM_cons, List.forall_mem_cons, isOk_bind, ← isOk_mapM, isOk_iff]
      constructor
      · rintro ⟨y, hy, hys⟩
        rw [isOk_bind_pure] at hys
        exact ⟨⟨y, hy⟩, hys⟩
      · rintro ⟨⟨y, hy⟩, hys⟩
        refine ⟨y, hy, ?_⟩
        rw [isOk_bind_pure]
        exact hys

theorem isOk_optionMapM {f : α → Except ε β} {x : Option α} :
    (x.mapM f).isOk = true ↔ ∀ a, x = some a → (f a).isOk = true := by
  cases x with
  | none => simp [Option.mapM_none, pure, Except.pure, Except.isOk, Except.toBool]
  | some a =>
      rw [Option.mapM_some]
      cases hf : f a with
      | error e => simp [hf, Except.isOk, Except.toBool, Functor.map, Except.map]
      | ok b => simp [hf, Except.isOk, Except.toBool, Functor.map, Except.map]

end Except

/-! ## Types -/

theorem Scope.type?_lt {scope : Scope} {name : String} {t : EntityTypeHandle}
    (h : scope.type? name = some t) : t.index < scope.typeNames.length := by
  obtain ⟨i, hi, rfl⟩ := Option.map_eq_some_iff.mp h
  exact (List.findIdx?_eq_some_iff_findIdx_eq.mp hi).1

theorem Scope.typeOf_lt {scope : Scope} {name referencedBy : String} {t : EntityTypeHandle}
    (h : scope.typeOf name referencedBy = .ok t) : t.index < scope.typeNames.length := by
  rw [Scope.typeOf] at h
  split at h
  case h_1 ht =>
      cases h
      exact Scope.type?_lt ht
  case h_2 => cases h

section

variable {scope : Scope} {d : EntityTypeDeclaration} {type : EntityType}

theorem EntityTypeDeclaration.base_lt (h : d.resolve scope = .ok type) {b : EntityTypeHandle}
    (hb : type.base = some b) : b.index < scope.typeNames.length := by
  simp only [EntityTypeDeclaration.resolve, Except.bind_eq_ok, Except.pure_eq_ok] at h
  obtain ⟨base, hbase, _, _, rfl⟩ := h
  simp only at hb
  subst hb
  obtain ⟨name, -, hname⟩ := Except.exists_of_optionMapM_eq_some hbase
  exact Scope.typeOf_lt hname

theorem EntityTypeDeclaration.target_lt (h : d.resolve scope = .ok type)
    {n : NavigationProperty} (hn : n ∈ type.navigationProperties) :
    n.target.index < scope.typeNames.length := by
  simp only [EntityTypeDeclaration.resolve, Except.bind_eq_ok, Except.pure_eq_ok] at h
  obtain ⟨_, _, navigation, hnavigation, rfl⟩ := h
  obtain ⟨declared, -, hdeclared⟩ := Except.exists_of_mem_mapM hnavigation hn
  simp only [NavigationDeclaration.resolve, Except.bind_eq_ok, Except.pure_eq_ok] at hdeclared
  obtain ⟨target, htarget, rfl⟩ := hdeclared
  exact Scope.typeOf_lt htarget

end

/-- To look out for the start of a walk, beside counting its steps, makes no difference. -/
theorem givesUp_eq {types : List EntityType} {start t : EntityTypeHandle} (left : Nat)
    (h : Relation.ReflTransGen (Model.HasBase types) start t) :
    givesUp types start left (types[t.index]?.getD default).base
      = !Model.endsWithin types left t := by
  induction left generalizing t with
  | zero => rw [givesUp, Model.endsWithin, Option.not_isNone]
  | succ left ih =>
      cases hb : (types[t.index]?.getD default).base with
      | none =>
          rw [givesUp, Model.endsWithin, hb]
          rfl
      | some b =>
          have hbase : Model.HasBase types t b := hb
          rw [givesUp, hbase.endsWithin_succ, ih (h.tail hbase)]
          by_cases hstart : b = start
          · -- back at the start, the chain has no end either
            have hcycle : Relation.TransGen (Model.HasBase types) b b := by
              rw [hstart]
              exact Relation.TransGen.tail' h (hstart ▸ hbase)
            have hends : Model.endsWithin types left b = false := by
              rw [← Bool.not_eq_true]
              exact fun hends => Model.not_transGen_of_endsWithin hends hcycle
            simp [hends]
          · simp [hstart]

theorem endlessType?_eq (types : List EntityType) :
    endlessType? types = (Model.handles .entityType types.length).find? fun t =>
      !Model.endsWithin types types.length t :=
  congrArg (List.find? · _) (funext fun _ => givesUp_eq _ .refl)

/-- Types that pass the check have no infinite chain of base types. -/
theorem endsWithin_of_checkBases {types : List EntityType} (h : checkBases types = .ok ())
    (t : EntityTypeHandle) : Model.endsWithin types types.length t = true := by
  have hnone : endlessType? types = none := by
    cases he : endlessType? types with
    | none => rfl
    | some u =>
        rw [checkBases, he] at h
        cases h
  rw [endlessType?_eq] at hnone
  by_cases ht : t.index < types.length
  · have hall := List.find?_eq_none.mp hnone t (Model.mem_handles.mpr ht)
    simpa using hall
  · have hget : types[t.index]? = none := List.getElem?_eq_none (Nat.le_of_not_lt ht)
    cases types.length with
    | zero =>
        rw [Model.endsWithin, hget]
        rfl
    | succ n =>
        rw [Model.endsWithin, hget]
        rfl

/-! ## Containers -/

/-- The handles of `count` elements in a row. -/
def handlesFrom (kind : ElementKind) (start count : Nat) : List (Handle kind) :=
  (List.range' start count).map Handle.mk

theorem handlesFrom_zero (kind : ElementKind) (count : Nat) :
    handlesFrom kind 0 count = Model.handles kind count := by
  rw [handlesFrom, Model.handles, List.range_eq_range']

theorem handlesFrom_append (kind : ElementKind) (start count count' : Nat) :
    handlesFrom kind start count ++ handlesFrom kind (start + count) count'
      = handlesFrom kind start (count + count') := by
  rw [handlesFrom, handlesFrom, handlesFrom, ← List.map_append, List.range'_append_1]

theorem map_range_eq_handlesFrom (kind : ElementKind) (start count : Nat) :
    (List.range count).map (fun i => (⟨start + i⟩ : Handle kind))
      = handlesFrom kind start count := by
  rw [handlesFrom, List.range'_eq_map_range, List.map_map]
  rfl

/-- The types of sets and singletons, one for each, are types of the document. -/
theorem memberTypes_spec {scope : Scope} {owner : String} :
    ∀ {members : List SourceDeclaration} {seen : List String} {types : List EntityTypeHandle},
      memberTypes scope owner seen members = .ok types →
        types.length = members.length ∧ ∀ t ∈ types, t.index < scope.typeNames.length
  | [], _, types, h => by
      cases h
      exact ⟨rfl, fun t ht => absurd ht List.not_mem_nil⟩
  | member :: members, seen, types, h => by
      simp only [memberTypes, Except.bind_eq_ok] at h
      obtain ⟨type, htype, h⟩ := h
      split at h
      · exact absurd h Except.throw_bind_ne_ok
      · simp only [Except.bind_eq_ok, Except.pure_eq_ok] at h
        obtain ⟨rest, hrest, rfl⟩ := h
        obtain ⟨hlength, hlt⟩ := memberTypes_spec hrest
        refine ⟨by rw [List.length_cons, List.length_cons, hlength], ?_⟩
        intro t ht
        rcases List.mem_cons.mp ht with rfl | ht
        · exact Scope.typeOf_lt htype
        · exact hlt t ht

theorem mem_of_lookup_eq_some {members : List (String × Element)} {name : String} {e : Element}
    (h : members.lookup name = some e) : (name, e) ∈ members := by
  obtain ⟨before, after, rfl, -⟩ := List.lookup_eq_some_iff.mp h
  exact List.mem_append_right before List.mem_cons_self

/-- The set of an import is one of the members it is looked up in. -/
theorem ImportDeclaration.entitySet_mem {d : ImportDeclaration} {scope : Scope}
    {operations : List Operation} {owner : String} {members : List (String × Element)}
    {imported : OperationImport} (h : d.resolve scope operations owner members = .ok imported)
    {s : EntitySetHandle} (hs : imported.entitySet = some s) :
    ∃ name, (name, Element.entitySet s) ∈ members := by
  simp only [ImportDeclaration.resolve] at h
  split at h
  · simp only [Except.bind_eq_ok, Except.pure_eq_ok] at h
    obtain ⟨_, _, entitySet, hset, rfl⟩ := h
    simp only at hs
    subst hs
    obtain ⟨name, -, hname⟩ := Except.exists_of_optionMapM_eq_some hset
    split at hname
    next heq =>
      cases hname
      exact ⟨name, mem_of_lookup_eq_some heq⟩
    next => cases hname
  · cases h

/-- What a container is resolved to: it numbers its sets and singletons on from
`setCount` and `singletonCount`, has as many of them as it declares, and everything in
it leads to types of the document and sets of its own. -/
structure ContainerContent.Numbered (content : ContainerContent) (typeCount setCount
    singletonCount : Nat) : Prop where
  /-- The handles of the entity sets. -/
  entitySets : content.container.entitySets
    = handlesFrom .entitySet setCount content.entitySets.length
  /-- The handles of the singletons. -/
  singletons : content.container.singletons
    = handlesFrom .singleton singletonCount content.singletons.length
  /-- The types of the entity sets. -/
  entitySet_type : ∀ s ∈ content.entitySets, s.type.index < typeCount
  /-- The types of the singletons. -/
  singleton_type : ∀ s ∈ content.singletons, s.type.index < typeCount
  /-- The sets of the imports. -/
  import_entitySet : ∀ i ∈ content.container.imports, ∀ s, i.entitySet = some s →
    s ∈ content.container.entitySets

/-- Sets and singletons have the types that were found for them. -/
theorem type_mem_of_mem_zipWith {f : SourceDeclaration → EntityTypeHandle × List NavigationBinding
    → NavigationSource} (hf : ∀ d x, (f d x).type = x.1) {members : List SourceDeclaration}
    {types : List EntityTypeHandle} {bindings : List (List NavigationBinding)}
    {s : NavigationSource} (h : s ∈ List.zipWith f members (types.zip bindings)) :
    s.type ∈ types := by
  obtain ⟨i, hi⟩ := List.mem_iff_getElem?.mp h
  obtain ⟨d, x, -, hx, rfl⟩ := List.getElem?_zipWith_eq_some.mp hi
  rw [hf]
  exact (List.of_mem_zip (List.mem_of_getElem? hx)).1

theorem ContainerDeclaration.resolve_numbered {d : ContainerDeclaration} {scope : Scope}
    {operations : List Operation} {index setCount singletonCount : Nat}
    {content : ContainerContent}
    (h : d.resolve scope operations index setCount singletonCount = .ok content) :
    content.Numbered scope.typeNames.length setCount singletonCount := by
  simp only [ContainerDeclaration.resolve, Except.bind_eq_ok, Except.pure_eq_ok,
    map_range_eq_handlesFrom] at h
  obtain ⟨types, htypes, bindings, hbindings, imports, himports, rfl⟩ := h
  obtain ⟨hlength, hlt⟩ := memberTypes_spec htypes
  have hbindings := Except.length_of_mapM_eq_ok hbindings
  rw [List.length_append] at hlength hbindings
  constructor
  · simp only [List.length_take, List.length_zipWith, List.length_append, List.length_zip]
    congr 1
    omega
  · simp only [List.length_drop, List.length_zipWith, List.length_append, List.length_zip]
    congr 1
    omega
  · intro s hs
    exact hlt _ (type_mem_of_mem_zipWith (fun _ _ => rfl) (List.mem_of_mem_take hs))
  · intro s hs
    exact hlt _ (type_mem_of_mem_zipWith (fun _ _ => rfl) (List.mem_of_mem_drop hs))
  · intro i hi s hs
    obtain ⟨declared, -, hdeclared⟩ := Except.exists_of_mem_mapM himports hi
    obtain ⟨name, hname⟩ := ImportDeclaration.entitySet_mem hdeclared hs
    have hmem := (List.of_mem_zip hname).2
    rcases List.mem_append.mp hmem with hset | hsingleton
    · obtain ⟨s', hs', heq⟩ := List.mem_map.mp hset
      cases heq
      exact hs'
    · obtain ⟨s', -, heq⟩ := List.mem_map.mp hsingleton
      cases heq

section

variable {scope : Scope} {operations : List Operation} {contents : List ContainerContent}

/-- The containers number their sets and singletons one after the other. -/
theorem resolveContainers_handles :
    ∀ {ds : List ContainerDeclaration} {index setCount singletonCount : Nat}
      {contents : List ContainerContent},
      resolveContainers scope operations index setCount singletonCount ds = .ok contents →
        contents.flatMap (·.container.entitySets)
            = handlesFrom .entitySet setCount (contents.flatMap (·.entitySets)).length ∧
          contents.flatMap (·.container.singletons)
            = handlesFrom .singleton singletonCount (contents.flatMap (·.singletons)).length
  | [], _, _, _, _, h => by
      cases h
      exact ⟨rfl, rfl⟩
  | d :: ds, index, setCount, singletonCount, _, h => by
      simp only [resolveContainers, Except.bind_eq_ok, Except.pure_eq_ok] at h
      obtain ⟨content, hcontent, contents, hcontents, rfl⟩ := h
      have hnumbered := ContainerDeclaration.resolve_numbered hcontent
      obtain ⟨hsets, hsingletons⟩ := resolveContainers_handles hcontents
      simp only [List.flatMap_cons, List.length_append]
      rw [hsets, hsingletons, hnumbered.entitySets, hnumbered.singletons, handlesFrom_append,
        handlesFrom_append]
      exact ⟨rfl, rfl⟩

theorem resolveContainers_numbered :
    ∀ {ds : List ContainerDeclaration} {index setCount singletonCount : Nat}
      {contents : List ContainerContent},
      resolveContainers scope operations index setCount singletonCount ds = .ok contents →
        ∀ content ∈ contents, ∃ setCount singletonCount,
          content.Numbered scope.typeNames.length setCount singletonCount
  | [], _, _, _, _, h, content, hmem => by
      cases h
      cases hmem
  | d :: ds, index, setCount, singletonCount, _, h, content, hmem => by
      simp only [resolveContainers, Except.bind_eq_ok, Except.pure_eq_ok] at h
      obtain ⟨first, hfirst, rest, hrest, rfl⟩ := h
      rcases List.mem_cons.mp hmem with rfl | hmem
      · exact ⟨setCount, singletonCount, ContainerDeclaration.resolve_numbered hfirst⟩
      · exact resolveContainers_numbered hrest content hmem

end

/-! ## Documents -/

namespace Document

variable {document : Document} {id : ModelId} {m : Model}

/-- What a model without annotations is put together from. -/
theorem resolveElements_eq_ok (h : document.resolveElements id = .ok m) :
    ∃ entityTypes operations contents,
      document.entityTypes.mapM (fun d => d.resolve (Scope.ofDocument document))
          = .ok entityTypes ∧
        checkBases entityTypes = .ok () ∧
        document.operations.mapM (fun d => d.resolve (Scope.ofDocument document))
          = .ok operations ∧
        resolveContainers (Scope.ofDocument document) operations 0 0 0 document.containers
          = .ok contents ∧
        m = {
          id
          entityTypes
          entitySets := contents.flatMap (·.entitySets)
          singletons := contents.flatMap (·.singletons)
          operations
          containers := contents.map (·.container)
          subtypeIndex := Model.indexSubtypes entityTypes
          annotations := [] } := by
  rw [resolveElements] at h
  simp only at h
  split at h
  · exact absurd h Except.throw_bind_ne_ok
  · simp only [Except.bind_eq_ok, Except.pure_eq_ok] at h
    obtain ⟨entityTypes, htypes, _, hbases, operations, hoperations, contents, hcontents, rfl⟩ := h
    exact ⟨entityTypes, operations, contents, htypes, hbases, hoperations, hcontents, rfl⟩

/-- Annotations change nothing else. -/
theorem resolve_eq_ok (h : document.resolve id = .ok m) :
    ∃ annotations, document.resolveElements id = .ok { m with annotations := [] } ∧
      document.annotations.mapM (fun d =>
        d.resolve (Scope.ofDocument document) { m with annotations := [] }) = .ok annotations ∧
      m.annotations = annotations.flatten := by
  simp only [resolve, Except.bind_eq_ok, Except.pure_eq_ok] at h
  obtain ⟨elements, helements, annotations, hannotations, rfl⟩ := h
  obtain ⟨_, _, _, _, _, _, _, hm⟩ := resolveElements_eq_ok helements
  have heq : elements = { elements with annotations := [] } := by
    rw [hm]
  rw [heq] at helements hannotations
  exact ⟨annotations, helements, hannotations, rfl⟩

/-- An annotation for each element it reaches. -/
def annotationsFor (document : Document) (m : Model) (d : AnnotationDeclaration) :
    List Annotation :=
  ((Scope.ofDocument document).targets m d.target).map fun element =>
    { element, term := d.term, value := d.value }

theorem annotations_of_resolve (h : document.resolve id = .ok m) :
    m.annotations = document.annotations.flatMap (document.annotationsFor m) := by
  obtain ⟨annotations, -, hannotations, heq⟩ := resolve_eq_ok h
  rw [heq, List.flatMap_def]
  congr 1
  refine Except.eq_map_of_mapM_eq_ok (fun d elements hd => ?_) hannotations
  rw [AnnotationDeclaration.resolve] at hd
  split at hd
  · cases hd
  · cases hd
    rfl

/-- The scope of a document has a name for every type. -/
theorem length_typeNames {entityTypes : List EntityType}
    (h : document.entityTypes.mapM (fun d => d.resolve (Scope.ofDocument document))
      = .ok entityTypes) :
    (Scope.ofDocument document).typeNames.length = entityTypes.length := by
  rw [Except.length_of_mapM_eq_ok h]
  exact List.length_map _

/-- The types of a document make up a hierarchy, and its index is the one of the pass over them. -/
theorem resolveElements_hierarchical (h : document.resolveElements id = .ok m) :
    m.Hierarchical := by
  obtain ⟨entityTypes, operations, contents, htypes, hbases, -, -, rfl⟩ :=
    resolveElements_eq_ok h
  constructor
  case acyclic => exact endsWithin_of_checkBases hbases
  case base_mem =>
    intro t b hb
    have ht := Model.entityType_mem hb.mem_entityTypeHandles
    obtain ⟨d, -, hd⟩ := Except.exists_of_mem_mapM htypes ht
    have hlt := EntityTypeDeclaration.base_lt hd hb
    rw [length_typeNames htypes] at hlt
    exact Model.mem_handles.mpr hlt
  case subtypes_indexed => rfl

theorem resolveElements_wellFormed (h : document.resolveElements id = .ok m) :
    m.WellFormed := by
  have hhierarchical := resolveElements_hierarchical h
  obtain ⟨entityTypes, operations, contents, htypes, -, hoperations, hcontents, rfl⟩ :=
    resolveElements_eq_ok h
  have hcount := length_typeNames htypes
  obtain ⟨hsets, hsingletons⟩ := resolveContainers_handles hcontents
  rw [handlesFrom_zero] at hsets hsingletons
  constructor
  case toHierarchical => exact hhierarchical
  case target_mem =>
    intro t ht n hn
    obtain ⟨d, -, hd⟩ := Except.exists_of_mem_mapM htypes ht
    have hlt := EntityTypeDeclaration.target_lt hd hn
    rw [hcount] at hlt
    exact Model.mem_handles.mpr hlt
  case entitySet_type_mem =>
    intro s hs
    obtain ⟨content, hcontent, hs⟩ := List.mem_flatMap.mp hs
    obtain ⟨_, _, hnumbered⟩ := resolveContainers_numbered hcontents content hcontent
    have hlt := hnumbered.entitySet_type s hs
    rw [hcount] at hlt
    exact Model.mem_handles.mpr hlt
  case singleton_type_mem =>
    intro s hs
    obtain ⟨content, hcontent, hs⟩ := List.mem_flatMap.mp hs
    obtain ⟨_, _, hnumbered⟩ := resolveContainers_numbered hcontents content hcontent
    have hlt := hnumbered.singleton_type s hs
    rw [hcount] at hlt
    exact Model.mem_handles.mpr hlt
  case import_entitySet_mem =>
    intro c hc i hi s hs
    obtain ⟨content, hcontent, rfl⟩ := List.mem_map.mp hc
    obtain ⟨_, _, hnumbered⟩ := resolveContainers_numbered hcontents content hcontent
    rw [Model.entitySetHandles, ← hsets, List.mem_flatMap]
    exact ⟨content, hcontent, hnumbered.import_entitySet i hi s hs⟩
  case entitySets_listed =>
    rw [List.flatMap_map]
    exact hsets
  case singletons_listed =>
    rw [List.flatMap_map]
    exact hsingletons

/-- The model of a document that resolves. -/
def loaded (document : Document) (id : ModelId) : Model :=
  (document.resolve id).toOption.getD default

/-- A document that resolves gives a well-formed model. -/
theorem resolve_wellFormed (h : document.resolve id = .ok m) : m.WellFormed := by
  obtain ⟨_, helements, -, -⟩ := resolve_eq_ok h
  have hm := resolveElements_wellFormed helements
  exact { hm with }

end Document

end ODataApi
