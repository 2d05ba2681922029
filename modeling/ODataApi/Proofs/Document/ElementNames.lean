import ODataApi.Proofs.Document.Acceptance
import ODataApi.Proofs.Document.Coherent
import ODataApi.Proofs.Document.Outcome

/-!
# Elements and their names

The name of an element identifies it if it leads to the element as the target of an annotation,
and to nothing else but overloads of an operation (`Scope.Identifies`).

In the model of a document every name does so if and only if the declared names are distinct
(`Document.identifies_iff_distinct`).  Loading asks for less than that (`Document.Valid`).  It
keeps types apart from types, and sets and singletons from each other, but a type may share its
name with a container or an operation, a container with another, an import with a set, and a
navigation property with another of its type.  A type that is declared with a foreign namespace
is referred to by that name, but its element is named as if it belonged to the document.
-/

namespace ODataApi

/-! ## The first of a name -/

/-- Everything is the first of its name if and only if no name repeats. -/
theorem forall_find?_eq_some_iff {α β : Type} [BEq β] [LawfulBEq β] {nameOf : α → β}
    {xs : List α} (h : xs.Nodup) :
    (∀ x ∈ xs, xs.find? (fun y => nameOf y == nameOf x) = some x) ↔ (xs.map nameOf).Nodup := by
  rw [List.nodup_map_iff_inj_on h]
  constructor
  · intro hfirst x hx y hy hname
    have hsame := hfirst x hx
    rw [hname, hfirst y hy] at hsame
    exact (Option.some.inj hsame).symm
  · intro hinj x hx
    cases hfind : xs.find? (fun y => nameOf y == nameOf x) with
    | none => exact absurd (beq_self_eq_true _) (List.find?_eq_none.mp hfind x hx)
    | some y =>
        have hname : nameOf y = nameOf x := by simpa using List.find?_some hfind
        rw [hinj y (List.mem_of_find?_eq_some hfind) x hx hname]

/-! ## Members by name -/

namespace Model

variable {m : Model} {c : ContainerHandle}

/-- The sets, singletons and imports of a container. -/
def membersOf (m : Model) (c : ContainerHandle) : List Element :=
  (m.container c).sources ++ (m.importHandles c).map .operationImport

theorem memberOf?_eq_find? (m : Model) (c : ContainerHandle) (name : String) :
    m.memberOf? c name = (m.membersOf c).find? fun e => m.memberName? e == some name := by
  simp only [memberOf?, membersOf, Container.sources, List.find?_append, List.find?_map,
    Function.comp_def, memberName?, Option.some_beq_some, Option.orElse_eq_orElse,
    Option.orElse_eq_or, Option.or_assoc]

theorem exists_memberName? {e : Element} (he : e ∈ m.membersOf c) :
    ∃ name, m.memberName? e = some name := by
  simp only [membersOf, Container.sources, List.mem_append, List.mem_map] at he
  rcases he with (⟨s, -, rfl⟩ | ⟨s, -, rfl⟩) | ⟨i, -, rfl⟩
  · exact ⟨_, rfl⟩
  · exact ⟨_, rfl⟩
  · exact ⟨_, rfl⟩

/-- A member of a container is named after it. -/
theorem Linked.elementName_of_mem_membersOf (hm : m.Linked) (hc : c ∈ m.containerHandles)
    {e : Element} (he : e ∈ m.membersOf c) {name : String} (hname : m.memberName? e = some name) :
    m.elementName e = Name.member (m.container c).qualifiedName name := by
  simp only [membersOf, Container.sources, List.mem_append, List.mem_map] at he
  rcases he with (⟨s, hs, rfl⟩ | ⟨s, hs, rfl⟩) | ⟨i, hi, rfl⟩
  · cases hname
    rw [elementName, hm.entitySet_container c hc s hs]
  · cases hname
    rw [elementName, hm.singleton_container c hc s hs]
  · cases hname
    rw [elementName, (mem_importHandles.mp hi).1]

theorem WellFormed.membersOf_nodup (hm : m.WellFormed) (hc : c ∈ m.containerHandles) :
    (m.membersOf c).Nodup := by
  have hsets := (List.nodup_flatMap.mp hm.entitySets_nodup).1 c hc
  have hsingletons := (List.nodup_flatMap.mp hm.singletons_nodup).1 c hc
  rw [membersOf, Container.sources]
  refine List.nodup_append.mpr ⟨List.nodup_append.mpr ⟨hsets.map ?_, hsingletons.map ?_, ?_⟩,
    (importHandles_nodup c).map ?_, ?_⟩
  · exact fun _ _ => Element.entitySet.inj
  · exact fun _ _ => Element.singleton.inj
  · simp
  · exact fun _ _ => Element.operationImport.inj
  · simp only [List.mem_append, List.mem_map]
    rintro _ (⟨_, -, rfl⟩ | ⟨_, -, rfl⟩) _ ⟨_, -, rfl⟩
    · simp
    · simp

theorem WellFormed.mem_elements_of_mem_membersOf (hm : m.WellFormed) (hc : c ∈ m.containerHandles)
    {e : Element} (he : e ∈ m.membersOf c) : e ∈ m.elements := by
  simp only [membersOf, Container.sources, List.mem_append, List.mem_map] at he
  rcases he with (⟨s, hs, rfl⟩ | ⟨s, hs, rfl⟩) | ⟨i, hi, rfl⟩
  · exact entitySet_mem_elements.mpr (hm.mem_entitySetHandles hc hs)
  · exact singleton_mem_elements.mpr (hm.mem_singletonHandles hc hs)
  · exact operationImport_mem_elements.mpr ⟨c, hc, hi⟩

/-- What holds of all elements holds owner by owner. -/
theorem Linked.forall_mem_elements_iff (hm : m.Linked) {P : Element → Prop} :
    (∀ e ∈ m.elements, P e) ↔
      (∀ t ∈ m.entityTypeHandles, P (.entityType t) ∧
        ∀ n ∈ m.declaredNavigation t, P (.navigationProperty n)) ∧
      (∀ c ∈ m.containerHandles, P (.container c) ∧ ∀ e ∈ m.membersOf c, P e) ∧
      ∀ o ∈ m.operationHandles, P (.operation o) := by
  constructor
  · intro h
    refine ⟨fun t ht => ⟨h _ (entityType_mem_elements.mpr ht), fun n hn => ?_⟩,
      fun c hc => ⟨h _ (container_mem_elements.mpr hc), fun e he => ?_⟩,
      fun o ho => h _ (operation_mem_elements.mpr ho)⟩
    · exact h _ (navigationProperty_mem_elements.mpr ⟨t, ht, hn⟩)
    · exact h e (hm.mem_elements_of_mem_membersOf hc he)
  · rintro ⟨htypes, hcontainers, hoperations⟩ e he
    cases e with
    | entityType t => exact (htypes t (entityType_mem_elements.mp he)).1
    | navigationProperty n =>
        obtain ⟨t, ht, hn⟩ := navigationProperty_mem_elements.mp he
        exact (htypes t ht).2 n hn
    | container c => exact (hcontainers c (container_mem_elements.mp he)).1
    | operation o => exact hoperations o (operation_mem_elements.mp he)
    | entitySet s =>
        obtain ⟨c, hc, hs, -⟩ := hm.exists_container_of_entitySet (entitySet_mem_elements.mp he)
        refine (hcontainers c hc).2 _ (List.mem_append_left _ (List.mem_append_left _ ?_))
        exact List.mem_map_of_mem hs
    | singleton s =>
        obtain ⟨c, hc, hs, -⟩ := hm.exists_container_of_singleton (singleton_mem_elements.mp he)
        refine (hcontainers c hc).2 _ (List.mem_append_left _ (List.mem_append_right _ ?_))
        exact List.mem_map_of_mem hs
    | operationImport i =>
        obtain ⟨c, hc, hi⟩ := operationImport_mem_elements.mp he
        exact (hcontainers c hc).2 _ (List.mem_append_right _ (List.mem_map_of_mem hi))

end Model

/-! ## What a name identifies -/

/-- Two operations have one qualified name. -/
inductive Model.Overloads (m : Model) : Element → Element → Prop
  | operation {o o' : OperationHandle}
      (h : (m.operation o).qualifiedName = (m.operation o').qualifiedName) :
      Overloads m (.operation o) (.operation o')

namespace Scope

variable {scope : Scope} {m : Model} {e : Element}

/-- The name of an element leads to it, and to nothing else but overloads. -/
structure Identifies (scope : Scope) (m : Model) (e : Element) : Prop where
  mem : e ∈ scope.targets m (m.elementName e)
  unique : ∀ other ∈ scope.targets m (m.elementName e), other = e ∨ m.Overloads e other

theorem qualify_join (scope : Scope) (ns name : String) :
    scope.qualify (Name.join ns name) = Name.join ns name := by
  rw [qualify, Name.qualify, Name.isQualified_join, if_pos rfl]

/-- What elements are named does not depend on annotations. -/
theorem Identifies.annotate (h : scope.Identifies m e) (annotations : List Annotation) :
    scope.Identifies { m with annotations } e where
  mem := h.mem
  unique other hother := (h.unique other hother).imp_right fun
    | .operation hname => .operation hname

theorem identifies_iff_of_targets_eq {found : Option Element}
    (h : scope.targets m (m.elementName e) = found.toList) :
    scope.Identifies m e ↔ found = some e := by
  constructor
  · intro hid
    have hmem := hid.mem
    rw [h] at hmem
    exact Option.mem_toList.mp hmem
  · rintro rfl
    constructor
    · rw [h]
      exact List.mem_singleton_self e
    · intro other hother
      rw [h] at hother
      exact Or.inl (List.mem_singleton.mp hother)

/-- A name without a slash leads to a type; to a container, if there is no such type; and to the
operations of the name, if there is neither. -/
inductive Names (scope : Scope) (m : Model) (name : String) : Element → Prop
  | entityType {t : EntityTypeHandle} (htype : scope.type? name = some t) :
      Names scope m name (.entityType t)
  | container {c : ContainerHandle} (htype : scope.type? name = none)
      (hcontainer : m.findContainer? name = some c) : Names scope m name (.container c)
  | operation {o : OperationHandle} (htype : scope.type? name = none)
      (hcontainer : m.findContainer? name = none) (ho : o ∈ m.operationHandles)
      (hname : (m.operation o).qualifiedName = name) : Names scope m name (.operation o)

theorem mem_targets_iff_names {name : String} (hslash : '/' ∉ name.toList)
    (hqualify : scope.qualify name = name) :
    e ∈ scope.targets m name ↔ scope.Names m name e := by
  have hsplit := Name.splitMember?_eq_none_iff.mpr hslash
  constructor
  · intro h
    cases htype : scope.type? name with
    | some t =>
        simp only [targets, hsplit, htype, List.mem_singleton] at h
        exact h ▸ .entityType htype
    | none =>
        cases hcontainer : m.findContainer? name with
        | some c =>
            simp only [targets, hsplit, hqualify, htype, hcontainer, List.mem_singleton] at h
            exact h ▸ .container htype hcontainer
        | none =>
            simp only [targets, hsplit, hqualify, htype, hcontainer, List.mem_map, List.mem_filter,
              beq_iff_eq] at h
            obtain ⟨o, ⟨ho, hname⟩, rfl⟩ := h
            exact .operation htype hcontainer ho hname
  · intro h
    cases h with
    | entityType htype => simp [targets, hsplit, htype]
    | container htype hcontainer => simp [targets, hsplit, hqualify, htype, hcontainer]
    | operation htype hcontainer ho hname =>
        simp [targets, hsplit, hqualify, htype, hcontainer, ho, hname]

theorem Names.eq_or_overloads {name : String} {other : Element} (h : scope.Names m name e)
    (h' : scope.Names m name other) : other = e ∨ m.Overloads e other := by
  cases h with
  | entityType htype =>
      cases h' with
      | entityType htype' =>
          cases htype.symm.trans htype'
          exact Or.inl rfl
      | container htype' | operation htype' => cases htype.symm.trans htype'
  | container htype hcontainer =>
      cases h' with
      | entityType htype' => cases htype.symm.trans htype'
      | container _ hcontainer' =>
          cases hcontainer.symm.trans hcontainer'
          exact Or.inl rfl
      | operation _ hcontainer' => cases hcontainer.symm.trans hcontainer'
  | operation htype hcontainer _ hname =>
      cases h' with
      | entityType htype' => cases htype.symm.trans htype'
      | container _ hcontainer' => cases hcontainer.symm.trans hcontainer'
      | operation _ _ _ hname' => exact Or.inr (.operation (hname.trans hname'.symm))

/-- What is no member is identified by a name without a slash that leads to it. -/
theorem identifies_iff_names {ns name : String} (he : m.memberName? e = none)
    (hjoin : m.elementName e = Name.join ns name) :
    scope.Identifies m e ↔ '/' ∉ (m.elementName e).toList ∧
      scope.Names m (m.elementName e) e := by
  have hqualify : scope.qualify (m.elementName e) = m.elementName e := by
    rw [hjoin, qualify_join]
  constructor
  · intro h
    have hname := memberName?_of_mem_targets h.mem
    rw [he] at hname
    have hslash := Name.splitMember?_eq_none_iff.mp (Option.map_eq_none_iff.mp hname.symm)
    exact ⟨hslash, (mem_targets_iff_names hslash hqualify).mp h.mem⟩
  · rintro ⟨hslash, hnames⟩
    have htargets : ∀ other, other ∈ scope.targets m (m.elementName e) ↔ _ :=
      fun _ => mem_targets_iff_names hslash hqualify
    exact ⟨(htargets e).mpr hnames, fun other hother =>
      hnames.eq_or_overloads ((htargets other).mp hother)⟩

theorem identifies_entityType_iff {t : EntityTypeHandle} :
    scope.Identifies m (.entityType t) ↔ '/' ∉ (m.entityType t).qualifiedName.toList ∧
      scope.type? (m.entityType t).qualifiedName = some t := by
  refine (identifies_iff_names rfl rfl).trans (and_congr_right fun _ => ⟨fun h => ?_, .entityType⟩)
  cases h with
  | entityType htype => exact htype

theorem identifies_container_iff {c : ContainerHandle} :
    scope.Identifies m (.container c) ↔ '/' ∉ (m.container c).qualifiedName.toList ∧
      scope.type? (m.container c).qualifiedName = none ∧
      m.findContainer? (m.container c).qualifiedName = some c := by
  refine (identifies_iff_names rfl rfl).trans (and_congr_right fun _ => ⟨fun h => ?_, fun h => ?_⟩)
  · cases h with
    | container htype hcontainer => exact ⟨htype, hcontainer⟩
  · exact .container h.1 h.2

theorem identifies_operation_iff {o : OperationHandle} (ho : o ∈ m.operationHandles) :
    scope.Identifies m (.operation o) ↔ '/' ∉ (m.operation o).qualifiedName.toList ∧
      scope.type? (m.operation o).qualifiedName = none ∧
      m.findContainer? (m.operation o).qualifiedName = none := by
  refine (identifies_iff_names rfl rfl).trans (and_congr_right fun _ => ⟨fun h => ?_, fun h => ?_⟩)
  · cases h with
    | operation htype hcontainer => exact ⟨htype, hcontainer⟩
  · exact .operation h.1 h.2 ho rfl

theorem identifies_member_iff {c : ContainerHandle} {owner name : String}
    (hname : m.elementName e = Name.member owner name) (hslash : '/' ∉ owner.toList)
    (hc : m.findContainer? (scope.qualify owner) = some c) :
    scope.Identifies m e ↔ m.memberOf? c name = some e := by
  refine identifies_iff_of_targets_eq ?_
  rw [hname, targets, Name.splitMember?_member hslash]
  simp only [hc]

theorem identifies_navigation_iff {t : EntityTypeHandle} {owner name : String}
    (hname : m.elementName e = Name.member owner name) (hslash : '/' ∉ owner.toList)
    (hc : m.findContainer? (scope.qualify owner) = none) (ht : scope.type? owner = some t) :
    scope.Identifies m e ↔ m.declaredNavigation? t name = some e := by
  refine identifies_iff_of_targets_eq ?_
  rw [hname, targets, Name.splitMember?_member hslash]
  simp only [hc, ht]

end Scope

/-! ## Distinct names -/

/-- A type belongs to the namespace of the document, and no navigation property has the name of
another. -/
@[mk_iff]
structure EntityTypeDeclaration.Distinct (d : EntityTypeDeclaration) (document : Document) :
    Prop where
  native : document.qualify d.name = Name.join document.ns (Name.simple d.name)
  slash_not_mem : '/' ∉ (document.qualify d.name).toList
  navigation_nodup : (d.navigationProperties.map (·.name)).Nodup

instance (d : EntityTypeDeclaration) (document : Document) : Decidable (d.Distinct document) :=
  decidable_of_iff _ (d.distinct_iff document).symm

namespace Document

/-- The names that types are referred to by. -/
def typeNames (document : Document) : List String :=
  document.entityTypes.map fun d => document.qualify d.name

/-- The names of containers. -/
def containerNames (document : Document) : List String :=
  document.containers.map fun d => Name.join document.ns d.name

/-- The names of operations. -/
def operationNames (document : Document) : List String :=
  document.operations.map fun d => Name.join document.ns (Name.simple d.name)

/-- The names of a document tell its elements apart. -/
@[mk_iff]
structure Distinct (document : Document) : Prop where
  /-- The types are distinct from each other already when the document loads. -/
  types : ∀ d ∈ document.entityTypes, d.Distinct document
  /-- Containers are not named like types. -/
  containers : ∀ name ∈ document.containerNames,
    '/' ∉ name.toList ∧ name ∉ document.typeNames
  /-- No container is named like another. -/
  containerNames_nodup : document.containerNames.Nodup
  /-- Operations are not named like types or containers.  They may have the name of another. -/
  operations : ∀ name ∈ document.operationNames,
    '/' ∉ name.toList ∧ name ∉ document.typeNames ++ document.containerNames
  /-- No set, singleton or import has the name of another in its container. -/
  memberNames_nodup : ∀ d ∈ document.containers, d.memberNames.Nodup

instance (document : Document) : Decidable document.Distinct :=
  decidable_of_iff _ document.distinct_iff.symm

variable {document : Document} {id : ModelId} {m : Model}

/-! ## Types -/

theorem type?_eq_none_iff {name : String} :
    (Scope.ofDocument document).type? name = none ↔ document.qualify name ∉ document.typeNames := by
  rw [Scope.type?, Option.map_eq_none_iff, List.findIdx?_eq_none_iff]
  change (∀ declared ∈ document.typeNames, (declared == document.qualify name) = false) ↔ _
  simpa using List.forall_mem_ne'

theorem qualify_join (document : Document) (ns name : String) :
    document.qualify (Name.join ns name) = Name.join ns name :=
  (Scope.ofDocument document).qualify_join ns name

section

variable {t : EntityTypeHandle} {d : EntityTypeDeclaration}

theorem qualifiedName_entityType (h : document.resolveElements id = .ok m)
    (hd : document.entityTypes[t.index]? = some d) :
    (m.entityType t).qualifiedName = Name.join document.ns (Name.simple d.name) := by
  have hresolve := resolve_entityType h hd
  simp only [EntityTypeDeclaration.resolve, Except.bind_eq_ok, Except.pure_eq_ok] at hresolve
  obtain ⟨_, -, _, -, htype⟩ := hresolve
  rw [← htype]
  rfl

theorem identifies_entityType_iff (h : document.resolveElements id = .ok m)
    (hnodup : document.typeNames.Nodup) (hd : document.entityTypes[t.index]? = some d) :
    (Scope.ofDocument document).Identifies m (.entityType t) ↔
      document.qualify d.name = Name.join document.ns (Name.simple d.name) ∧
        '/' ∉ (document.qualify d.name).toList := by
  have hdeclared : (Scope.ofDocument document).typeNames[t.index]?
      = some (document.qualify d.name) := by
    rw [Scope.ofDocument, List.getElem?_map, hd]
    rfl
  rw [Scope.identifies_entityType_iff, qualifiedName_entityType h hd,
    Scope.type?_eq_some_iff hnodup, hdeclared, Scope.qualify_join, Option.some.injEq, and_comm]
  refine and_congr_right fun hnative => ?_
  rw [hnative]

/-- Navigation properties are told apart by their names. -/
theorem identifies_navigation_iff (h : document.resolveElements id = .ok m)
    (hd : document.entityTypes[t.index]? = some d)
    (hid : (Scope.ofDocument document).Identifies m (.entityType t))
    (hcontainer : m.findContainer? (m.entityType t).qualifiedName = none) :
    (∀ n ∈ m.declaredNavigation t,
        (Scope.ofDocument document).Identifies m (.navigationProperty n)) ↔
      (d.navigationProperties.map (·.name)).Nodup := by
  obtain ⟨hslash, htype⟩ := Scope.identifies_entityType_iff.mp hid
  have hqualify : (Scope.ofDocument document).qualify (m.entityType t).qualifiedName
      = (m.entityType t).qualifiedName := Scope.qualify_join _ _ _
  have hnodup : (m.declaredNavigation t).Nodup :=
    List.nodup_range.map fun _ _ => congrArg NavigationHandle.index
  rw [← declaredNavigation_names h hd, ← forall_find?_eq_some_iff hnodup]
  refine forall₂_congr fun n hn => ?_
  have hname : m.elementName (.navigationProperty n)
      = Name.member (m.entityType t).qualifiedName (m.navigation n).name := by
    rw [Model.elementName, (Model.mem_declaredNavigation.mp hn).1]
  rw [Scope.identifies_navigation_iff hname hslash (hqualify.symm ▸ hcontainer) htype,
    Model.declaredNavigation?]
  simp

end

/-! ## Containers and their members -/

theorem findContainer?_eq_none_iff_not_mem (h : document.resolveElements id = .ok m)
    {name : String} : m.findContainer? name = none ↔ name ∉ document.containerNames := by
  rw [containerNames, ← containerHandles_map_qualifiedName h, Model.findContainer?,
    List.find?_eq_none]
  simp

theorem identifies_containers_iff (h : document.resolveElements id = .ok m) :
    (∀ c ∈ m.containerHandles, (Scope.ofDocument document).Identifies m (.container c)) ↔
      (∀ name ∈ document.containerNames, '/' ∉ name.toList ∧ name ∉ document.typeNames) ∧
        document.containerNames.Nodup := by
  have hnodup : m.containerHandles.Nodup := Model.handles_nodup _ _
  rw [containerNames, ← containerHandles_map_qualifiedName h, ← forall_find?_eq_some_iff hnodup,
    List.forall_mem_map, ← forall₂_and]
  refine forall₂_congr fun c _ => ?_
  have hqualify : document.qualify (m.container c).qualifiedName
      = (m.container c).qualifiedName := document.qualify_join _ _
  rw [Scope.identifies_container_iff, type?_eq_none_iff, hqualify, Model.findContainer?, and_assoc]

/-- Sets, singletons and imports of a container are told apart by their names. -/
theorem identifies_members_iff (h : document.resolveElements id = .ok m) {c : ContainerHandle}
    {d : ContainerDeclaration} (hc : c ∈ m.containerHandles)
    (hd : document.containers[c.index]? = some d)
    (hid : (Scope.ofDocument document).Identifies m (.container c)) :
    (∀ e ∈ m.membersOf c, (Scope.ofDocument document).Identifies m e) ↔ d.memberNames.Nodup := by
  have hm := resolveElements_linked h
  obtain ⟨hslash, -, hfind⟩ := Scope.identifies_container_iff.mp hid
  have hqualify : (Scope.ofDocument document).qualify (m.container c).qualifiedName
      = (m.container c).qualifiedName := Scope.qualify_join _ _ _
  have hnames : (m.membersOf c).map m.memberName? = d.memberNames.map some := by
    rw [memberNames_eq h hd]
    simp [Model.membersOf, Container.sources, Model.memberName?, Function.comp_def]
  rw [← List.nodup_map_iff fun _ _ => Option.some.inj, ← hnames,
    ← forall_find?_eq_some_iff (hm.membersOf_nodup hc)]
  refine forall₂_congr fun e he => ?_
  obtain ⟨name, hname⟩ := Model.exists_memberName? he
  rw [Scope.identifies_member_iff (hm.elementName_of_mem_membersOf hc he hname) hslash
    (hqualify.symm ▸ hfind), Model.memberOf?_eq_find?, hname]

/-! ## Operations -/

theorem identifies_operations_iff (h : document.resolveElements id = .ok m) :
    (∀ o ∈ m.operationHandles, (Scope.ofDocument document).Identifies m (.operation o)) ↔
      ∀ name ∈ document.operationNames,
        '/' ∉ name.toList ∧ name ∉ document.typeNames ++ document.containerNames := by
  have hnames : ∀ name, name ∈ document.operationNames ↔
      ∃ o ∈ m.operationHandles, (m.operation o).qualifiedName = name := by
    intro name
    rw [exists_operation_iff h, operationNames, List.mem_map]
  simp only [hnames, forall_exists_index, and_imp, forall_comm (α := String), forall_eq']
  refine forall₂_congr fun o ho => ?_
  have hqualify : document.qualify (m.operation o).qualifiedName
      = (m.operation o).qualifiedName := document.qualify_join _ _
  rw [Scope.identifies_operation_iff ho, type?_eq_none_iff, hqualify,
    findContainer?_eq_none_iff_not_mem h, List.mem_append, not_or]

/-! ## All elements -/

/-- What holds of the handles of declarations holds declaration by declaration. -/
theorem forall_handles_iff {kind : ElementKind} {count : Nat} {α : Type} {ds : List α}
    {P : Handle kind → Prop} {Q : α → Prop} (hcount : count = ds.length)
    (hiff : ∀ x ∈ Model.handles kind count, ∀ d, ds[x.index]? = some d → (P x ↔ Q d)) :
    (∀ x ∈ Model.handles kind count, P x) ↔ ∀ d ∈ ds, Q d := by
  subst hcount
  constructor
  · intro h d hd
    obtain ⟨i, hi, rfl⟩ := List.getElem_of_mem hd
    have hx : (⟨i⟩ : Handle kind) ∈ Model.handles kind ds.length := Model.mem_handles.mpr hi
    exact (hiff _ hx _ (List.getElem?_eq_getElem hi)).mp (h _ hx)
  · intro h x hx
    have hget := List.getElem?_eq_getElem (Model.mem_handles.mp hx)
    exact (hiff x hx _ hget).mpr (h _ (List.mem_of_getElem? hget))

theorem identifies_types_iff (h : document.resolveElements id = .ok m)
    (hnodup : document.typeNames.Nodup)
    (hapart : ∀ name ∈ document.containerNames, name ∉ document.typeNames) :
    (∀ t ∈ m.entityTypeHandles, (Scope.ofDocument document).Identifies m (.entityType t) ∧
        ∀ n ∈ m.declaredNavigation t,
          (Scope.ofDocument document).Identifies m (.navigationProperty n)) ↔
      ∀ d ∈ document.entityTypes, d.Distinct document := by
  refine forall_handles_iff (by simpa [Scope.ofDocument] using (length_entityTypes h).symm) ?_
  intro t _ d hd
  rw [EntityTypeDeclaration.distinct_iff, ← and_assoc, ← identifies_entityType_iff h hnodup hd]
  refine and_congr_right fun hid => ?_
  obtain ⟨hnative, -⟩ := (identifies_entityType_iff h hnodup hd).mp hid
  refine identifies_navigation_iff h hd hid ((findContainer?_eq_none_iff_not_mem h).mpr ?_)
  intro hcontainer
  refine hapart _ hcontainer ?_
  rw [qualifiedName_entityType h hd, ← hnative]
  exact List.mem_map_of_mem (List.mem_of_getElem? hd)

theorem identifies_containerMembers_iff (h : document.resolveElements id = .ok m)
    (hid : ∀ c ∈ m.containerHandles, (Scope.ofDocument document).Identifies m (.container c)) :
    (∀ c ∈ m.containerHandles, ∀ e ∈ m.membersOf c,
        (Scope.ofDocument document).Identifies m e) ↔
      ∀ d ∈ document.containers, d.memberNames.Nodup :=
  forall_handles_iff (length_containers h) fun c hc _ hd =>
    identifies_members_iff h hc hd (hid c hc)

theorem identifies_elements_iff (h : document.resolveElements id = .ok m)
    (hnodup : document.typeNames.Nodup) :
    (∀ e ∈ m.elements, (Scope.ofDocument document).Identifies m e) ↔ document.Distinct := by
  rw [(resolveElements_linked h).forall_mem_elements_iff, identifies_operations_iff h]
  constructor
  · rintro ⟨htypes, hcontainers, hoperations⟩
    have hid := fun c hc => (hcontainers c hc).1
    obtain ⟨hnames, hcontainerNames⟩ := (identifies_containers_iff h).mp hid
    exact {
      types := (identifies_types_iff h hnodup fun name hname => (hnames name hname).2).mp htypes
      containers := hnames
      containerNames_nodup := hcontainerNames
      operations := hoperations
      memberNames_nodup :=
        (identifies_containerMembers_iff h hid).mp fun c hc => (hcontainers c hc).2 }
  · intro hd
    have hid := (identifies_containers_iff h).mpr ⟨hd.containers, hd.containerNames_nodup⟩
    have hmembers := (identifies_containerMembers_iff h hid).mpr hd.memberNames_nodup
    exact ⟨(identifies_types_iff h hnodup fun name hname => (hd.containers name hname).2).mpr
      hd.types, fun c hc => ⟨hid c hc, hmembers c hc⟩, hd.operations⟩

/-- The elements of a document are identified by their names if and only if the names are
distinct. -/
theorem identifies_iff_distinct (h : document.resolve id = .ok m) :
    (∀ e ∈ m.elements, (Scope.ofDocument document).Identifies m e) ↔ document.Distinct := by
  obtain ⟨-, helements, -, -⟩ := resolve_eq_ok h
  obtain ⟨hnodup, -⟩ := resolveElements_isOk_iff.mp (Except.isOk_iff.mpr ⟨_, helements⟩)
  rw [← identifies_elements_iff helements hnodup]
  constructor
  · intro hid e he
    exact (hid e he).annotate []
  · intro hid e he
    exact (hid e he).annotate m.annotations

end Document

/-- Overloads may share a name, and so may the members of different containers. -/
example : branchesDocument.Distinct := by decide

/-- A set and an import of one name. -/
def doubledDocument : Document where
  ns := "A"
  entityTypes := [{ name := "T" }]
  operations := [{ name := "F", kind := .function }]
  containers := [
    { name := "C",
      entitySets := [{ name := "S", type := "T" }],
      imports := [{ name := "S", operation := "F" }] }]
  annotations := [⟨"A.C/S", "T", .bool true⟩]

/-- The model of `doubledDocument`. -/
def doubledModel : Model := doubledDocument.loaded ⟨0⟩

/-- The name of the import leads to the set. -/
theorem doubledModel_not_identified :
    doubledDocument.resolve ⟨0⟩ = .ok doubledModel ∧
      doubledModel.elementName (.operationImport ⟨⟨0⟩, 0⟩) = "A.C/S" ∧
      doubledModel.annotations.map (·.element) = [.entitySet ⟨0⟩] ∧
      ¬ ∀ e ∈ doubledModel.elements,
        (Scope.ofDocument doubledDocument).Identifies doubledModel e := by
  have hload : doubledDocument.resolve ⟨0⟩ = .ok doubledModel := rfl
  refine ⟨hload, rfl, rfl, fun hid => ?_⟩
  exact absurd ((Document.identifies_iff_distinct hload).mp hid) (by decide)

end ODataApi
