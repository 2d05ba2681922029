import ODataApi.Proofs.Document.Containers
import ODataApi.Proofs.Document.Respelling

/-!
# Outcomes of respelled documents

A container keeps its name as it is written, so a respelled name of a container is seen in the model
(`containers_map_name`).  With a slash in the namespace a respelled annotation target never leads to
an element that it led to before, since the last part of its path is longer
(`Scope.not_mem_targets_join`).

So these are the names that cannot be respelled: where they are, documents have the same outcome
only if both fail (`Document.respelled_sameOutcome_iff`).
-/

namespace ODataApi

/-! ## Ids -/

namespace Document

variable {document : Document} {id : ModelId} {m : Model}

theorem resolveElements_withId (h : document.resolveElements id = .ok m) (id' : ModelId) :
    document.resolveElements id' = .ok { m with id := id' } := by
  rw [resolveElements] at h ⊢
  cases hrepeated : firstRepeated? [] (Scope.ofDocument document).typeNames with
  | some name =>
      simp only [hrepeated] at h
      exact absurd h Except.throw_bind_ne_ok
  | none =>
      simp only [hrepeated, Except.bind_eq_ok, Except.pure_eq_ok] at h ⊢
      obtain ⟨types, htypes, _, hbases, operations, hoperations, contents, hcontents, rfl⟩ := h
      exact ⟨types, htypes, _, hbases, operations, hoperations, contents, hcontents, rfl⟩

/-- The id of a model is no part of what its document says. -/
theorem resolve_withId (h : document.resolve id = .ok m) (id' : ModelId) :
    document.resolve id' = .ok { m with id := id' } := by
  simp only [resolve, Except.bind_eq_ok, Except.pure_eq_ok] at h ⊢
  obtain ⟨elements, helements, annotations, hannotations, rfl⟩ := h
  exact ⟨_, resolveElements_withId helements id', annotations, hannotations, rfl⟩

/-! ## What cannot be respelled -/

theorem containers_map_name (h : document.resolveElements id = .ok m) :
    m.containers.map (·.name) = document.containers.map (·.name) := by
  have hlength := length_containers h
  refine List.ext_getElem (by simp [hlength]) fun i hi hi' => ?_
  rw [List.length_map] at hi hi'
  obtain ⟨content, hholds, hdeclared⟩ := holds (c := ⟨i⟩) h (List.getElem?_eq_getElem hi')
  have hname : (m.container ⟨i⟩).name = document.containers[i].name := by
    rw [hholds.container, hdeclared.name]
  simpa [Model.container, List.getElem?_eq_getElem hi] using hname

end Document

/-- The name of a member of a container or type. -/
def Model.memberName? (m : Model) : Element → Option String
  | .entitySet s => some (m.entitySet s).name
  | .singleton s => some (m.singleton s).name
  | .operationImport i => some (m.operationImport i).name
  | .navigationProperty n => some (m.navigation n).name
  | .container _ | .entityType _ | .operation _ => none

theorem eq_of_find?_name {α : Type} (nameOf : α → String) {name : String} {xs : List α} {x : α}
    (h : xs.find? (fun x => nameOf x == name) = some x) : nameOf x = name := by
  simpa using List.find?_some h

theorem Model.memberName?_of_memberOf? {m : Model} {c : ContainerHandle} {name : String}
    {e : Element} (h : m.memberOf? c name = some e) : m.memberName? e = some name := by
  simp only [memberOf?, Option.orElse_eq_orElse, Option.orElse_eq_or, Option.or_eq_some_iff,
    Option.map_eq_some_iff] at h
  rcases h with ⟨s, hs, rfl⟩ | ⟨-, ⟨s, hs, rfl⟩ | ⟨-, i, hi, rfl⟩⟩
  · exact congrArg some (eq_of_find?_name (fun s => (m.entitySet s).name) hs)
  · exact congrArg some (eq_of_find?_name (fun s => (m.singleton s).name) hs)
  · exact congrArg some (eq_of_find?_name (fun i => (m.operationImport i).name) hi)

theorem Model.memberName?_of_declaredNavigation? {m : Model} {t : EntityTypeHandle} {name : String}
    {e : Element} (h : m.declaredNavigation? t name = some e) : m.memberName? e = some name := by
  obtain ⟨n, hn, rfl⟩ := Option.map_eq_some_iff.mp h
  exact congrArg some (eq_of_find?_name (fun n => (m.navigation n).name) hn)

theorem Scope.memberName?_of_mem_targets {scope : Scope} {m : Model} {target : String} {e : Element}
    (h : e ∈ scope.targets m target) :
    m.memberName? e = (Name.splitMember? target).map (·.2) := by
  rw [targets] at h
  split at h
  case h_1 head name hsplit =>
    rw [hsplit, Option.map_some]
    split at h
    · exact Model.memberName?_of_memberOf? (Option.mem_toList.mp h)
    · split at h
      · exact Model.memberName?_of_declaredNavigation? (Option.mem_toList.mp h)
      · cases h
  case h_2 hsplit =>
    rw [hsplit, Option.map_none]
    split at h
    · rw [List.mem_singleton.mp h]
      rfl
    · split at h
      · rw [List.mem_singleton.mp h]
        rfl
      · obtain ⟨o, -, rfl⟩ := List.mem_map.mp h
        rfl

/-- With a slash in the namespace a respelled target leads elsewhere. -/
theorem Scope.not_mem_targets_join {scope : Scope} (hslash : '/' ∈ scope.ns.toList) {m : Model}
    {target : String} {e : Element} (h : e ∈ scope.targets m target) :
    e ∉ scope.targets m (Name.join scope.ns target) := by
  intro h'
  obtain ⟨head', name', hsplit', hlt⟩ := Name.exists_splitMember?_join hslash target
  have hname := (memberName?_of_mem_targets h).symm.trans (memberName?_of_mem_targets h')
  rw [hsplit', Option.map_some, Option.map_eq_some_iff] at hname
  obtain ⟨⟨head, name⟩, hsplit, rfl⟩ := hname
  exact Nat.not_lt_of_le (Name.length_of_splitMember? hsplit) hlt

namespace Document

variable {document document' : Document} {id id' : ModelId} {m m' : Model}

theorem targets_ne_nil_of_resolve (h : document.resolve id = .ok m) :
    ∀ d ∈ document.annotations, (Scope.ofDocument document).targets m d.target ≠ [] := by
  obtain ⟨annotations, -, hannotations, -⟩ := resolve_eq_ok h
  intro d hd hnil
  have hok := Except.isOk_mapM.mp (Except.isOk_iff.mpr ⟨_, hannotations⟩) d hd
  have hnil' : (Scope.ofDocument document).targets { m with annotations := [] } d.target = [] :=
    hnil
  rw [AnnotationDeclaration.resolve, hnil'] at hok
  cases hok

/-- If the namespace has a slash, only targets that are spelled alike lead to the same elements. -/
theorem map_target_eq_of_annotations_eq (hslash : '/' ∈ document.ns.toList)
    {ds ds' : List AnnotationDeclaration}
    (h : List.Forall₂ (AnnotationDeclaration.Respelled document.ns) ds ds')
    (hne : ∀ d ∈ ds, (Scope.ofDocument document).targets m d.target ≠ [])
    (hne' : ∀ d ∈ ds', (Scope.ofDocument document).targets m d.target ≠ [])
    (heq : ds.flatMap (document.annotationsFor m) = ds'.flatMap (document.annotationsFor m)) :
    ds'.map (·.target) = ds.map (·.target) := by
  induction h with
  | nil => rfl
  | @cons d d' ds ds' hd _ ih =>
      rw [List.forall_mem_cons] at hne hne'
      rw [List.flatMap_cons, List.flatMap_cons] at heq
      rcases hd.eq_or_target_eq with rfl | hjoin
      · rw [List.map_cons, List.map_cons, ih hne.2 hne'.2 (List.append_cancel_left heq)]
      · -- the first elements the two targets reach would have to be the same
        obtain ⟨e, rest, he⟩ := List.exists_cons_of_ne_nil hne.1
        obtain ⟨e', rest', he'⟩ := List.exists_cons_of_ne_nil hne'.1
        simp only [annotationsFor, he, he', List.map_cons, List.cons_append, List.cons.injEq,
          Annotation.mk.injEq] at heq
        have hmem : e ∈ (Scope.ofDocument document).targets m d.target := by
          rw [he]
          exact List.mem_cons_self
        have hmem' : e ∈ (Scope.ofDocument document).targets m d'.target := by
          rw [he', heq.1.1]
          exact List.mem_cons_self
        rw [hjoin] at hmem'
        exact absurd hmem' (Scope.not_mem_targets_join hslash hmem)

end Document

/-! ## Outcomes -/

/-- Two documents fail both, or give models that differ in nothing but their ids. -/
inductive SameOutcome : Except ModelError Model → Except ModelError Model → Prop
  | error (e e' : ModelError) : SameOutcome (.error e) (.error e')
  | ok (m : Model) (id : ModelId) : SameOutcome (.ok m) (.ok { m with id })

namespace Document

variable {document document' : Document} {id id' : ModelId} {m : Model}

theorem containers_map_name_of_resolve (h : document.resolve id = .ok m) :
    m.containers.map (·.name) = document.containers.map (·.name) := by
  obtain ⟨-, helements, -, -⟩ := resolve_eq_ok h
  exact containers_map_name (m := { m with annotations := [] }) helements

theorem Respelled.annotationsFor_eq (h : document.Respelled document') (m : Model) :
    document'.annotationsFor m = document.annotationsFor m := by
  funext d
  rw [annotationsFor, annotationsFor, h.scope_eq]

/-- Where the models differ in nothing but their ids, nothing was respelled that cannot be. -/
theorem Respelled.names_eq_of_resolve (h : document.Respelled document')
    (hload : document.resolve id = .ok m) {other : ModelId}
    (hload' : document'.resolve id' = .ok { m with id := other }) :
    document'.containers.map (·.name) = document.containers.map (·.name) ∧
      ('/' ∈ document.ns.toList →
        document'.annotations.map (·.target) = document.annotations.map (·.target)) := by
  have hnames' : m.containers.map (·.name) = document'.containers.map (·.name) :=
    containers_map_name_of_resolve (m := { m with id := other }) hload'
  have hannotations' : m.annotations = document'.annotations.flatMap (document'.annotationsFor m) :=
    annotations_of_resolve (m := { m with id := other }) hload'
  have hne' : ∀ d ∈ document'.annotations,
      (Scope.ofDocument document').targets m d.target ≠ [] :=
    targets_ne_nil_of_resolve (m := { m with id := other }) hload'
  rw [h.annotationsFor_eq] at hannotations'
  rw [h.scope_eq] at hne'
  refine ⟨hnames'.symm.trans (containers_map_name_of_resolve hload), fun hslash => ?_⟩
  exact map_target_eq_of_annotations_eq hslash h.annotations (targets_ne_nil_of_resolve hload) hne'
    ((annotations_of_resolve hload).symm.trans hannotations')

end Document

/-- Names of types, operations and containers can be written either way, where they are declared and
where they are referred to, but for the names of containers where they are declared, and for the
heads of annotation targets if the namespace has a slash.  If one of these is written the other way,
the documents have the same outcome only if both fail. -/
theorem Document.respelled_sameOutcome_iff {document document' : Document}
    (h : document.Respelled document') (id id' : ModelId) :
    SameOutcome (document.resolve id) (document'.resolve id') ↔
      ((∃ e, document.resolve id = .error e) ∧ ∃ e, document'.resolve id' = .error e) ∨
        (document'.containers.map (·.name) = document.containers.map (·.name) ∧
          ('/' ∈ document.ns.toList →
            document'.annotations.map (·.target) = document.annotations.map (·.target))) := by
  constructor
  · intro hsame
    generalize hload : document.resolve id = result at hsame
    generalize hload' : document'.resolve id' = result' at hsame
    cases hsame with
    | error e e' => exact Or.inl ⟨⟨e, rfl⟩, ⟨e', rfl⟩⟩
    | ok m _ => exact Or.inr (h.names_eq_of_resolve hload hload')
  · rintro (⟨⟨e, he⟩, ⟨e', he'⟩⟩ | ⟨hnames, htargets⟩)
    · rw [he, he']
      exact .error e e'
    · have halike : Alike (document.resolve id) (document'.resolve id) :=
        h.resolve_alike hnames htargets
      cases hload : document.resolve id with
      | ok m =>
          rw [Document.resolve_withId ((halike m).mp hload) id']
          exact .ok m id'
      | error e =>
          cases hload' : document'.resolve id' with
          | error e' => exact .error e e'
          | ok m' =>
              have hback := (halike _).mpr (Document.resolve_withId hload' id)
              rw [hload] at hback
              cases hback

/-- A container with an annotation. -/
def containerDocument (name : String) : Document where
  ns := "A"
  containers := [{ name }]
  annotations := [⟨"A.C", "T", .bool true⟩]

/-- The container is not found under the qualified name of its qualified name. -/
theorem containerDocument_respelled :
    (containerDocument "C").Respelled (containerDocument "A.C") ∧
      (∃ m, (containerDocument "C").resolve ⟨0⟩ = .ok m) ∧
      (containerDocument "A.C").resolve ⟨0⟩ = .error (.unknownTarget "A.C") ∧
      ¬ SameOutcome ((containerDocument "C").resolve ⟨0⟩)
        ((containerDocument "A.C").resolve ⟨0⟩) := by
  have hrespelled : (containerDocument "C").Respelled (containerDocument "A.C") := {
    ns := rfl
    entityTypes := .nil
    operations := .nil
    containers := .cons ⟨.qualified rfl, .nil, .nil, .nil⟩ .nil
    annotations := .cons ⟨.same, rfl⟩ .nil }
  have hload : ∃ m, (containerDocument "C").resolve ⟨0⟩ = .ok m := ⟨_, rfl⟩
  refine ⟨hrespelled, hload, rfl, fun hsame => ?_⟩
  obtain ⟨m, hm⟩ := hload
  rcases (Document.respelled_sameOutcome_iff hrespelled ⟨0⟩ ⟨0⟩).mp hsame with
    ⟨⟨e, he⟩, -⟩ | ⟨hnames, -⟩
  · rw [hm] at he
    cases he
  · exact absurd hnames (by decide)

end ODataApi
