import ODataApi.Proofs.Document.Checks

/-!
# Documents that are accepted

A document resolves if and only if it is valid (`Document.resolve_iff_valid`).  For all but the
annotations this puts the checks together (`Document.resolveElements_isOk_iff`).  Annotations are
resolved in a model, and what a target leads to there is what is declared under its name
(`Document.targets_ne_nil_iff`).
-/

namespace ODataApi

namespace Document

variable {document : Document} {id : ModelId} {m : Model}

/-! ## Elements without annotations -/

theorem resolveElements_isOk_iff :
    (document.resolveElements id).isOk = true ↔
      (Scope.ofDocument document).typeNames.Nodup ∧
        (∀ d ∈ document.entityTypes, d.Valid document) ∧
        (∀ name, ¬ Relation.TransGen document.Extends name name) ∧
        (∀ d ∈ document.operations, d.Valid document) ∧
        ∀ d ∈ document.containers, d.Valid document := by
  rw [resolveElements]
  cases hrepeated : firstRepeated? [] (Scope.ofDocument document).typeNames with
  | some name =>
      refine iff_of_false (by simp [Except.isOk_throw_bind]) ?_
      rintro ⟨hnodup, -⟩
      rw [firstRepeated?_nil_eq_none_iff.mpr hnodup] at hrepeated
      cases hrepeated
  | none =>
      have hnodup := firstRepeated?_nil_eq_none_iff.mp hrepeated
      simp only [Except.isOk_bind, Except.isOk_bind_pure]
      constructor
      · rintro ⟨types, htypes, ⟨⟩, hbases, operations, hoperations, hcontainers⟩
        have hvalid := entityTypes_isOk_iff.mp (Except.isOk_iff.mpr ⟨types, htypes⟩)
        have hacyclic := (checkBases_isOk_iff htypes hnodup hvalid).mp
          (Except.isOk_iff.mpr ⟨_, hbases⟩)
        have hcalls := operations_isOk_iff.mp (Except.isOk_iff.mpr ⟨operations, hoperations⟩)
        exact ⟨hnodup, hvalid, hacyclic, hcalls,
          (resolveContainers_isOk_iff hoperations).mp hcontainers⟩
      · rintro ⟨-, hvalid, hacyclic, hcalls, hcontainers⟩
        obtain ⟨types, htypes⟩ := Except.isOk_iff.mp (entityTypes_isOk_iff.mpr hvalid)
        obtain ⟨_, hbases⟩ := Except.isOk_iff.mp
          ((checkBases_isOk_iff htypes hnodup hvalid).mpr hacyclic)
        obtain ⟨operations, hoperations⟩ := Except.isOk_iff.mp (operations_isOk_iff.mpr hcalls)
        exact ⟨types, htypes, _, hbases, operations, hoperations,
          (resolveContainers_isOk_iff hoperations).mpr hcontainers⟩

/-! ## What is declared and what it leads to -/

section

variable {c : ContainerHandle} {d : ContainerDeclaration}

theorem qualifiedName_container (h : document.resolveElements id = .ok m)
    (hd : document.containers[c.index]? = some d) :
    (m.container c).qualifiedName = Name.join document.ns d.name := by
  obtain ⟨content, hholds, hdeclared⟩ := holds h hd
  rw [hholds.container, Container.qualifiedName, hdeclared.ns, hdeclared.name]
  rfl

theorem containerHandles_map_qualifiedName (h : document.resolveElements id = .ok m) :
    m.containerHandles.map (fun c => (m.container c).qualifiedName)
      = document.containers.map fun d => Name.join document.ns d.name := by
  have hlength := length_containers h
  refine List.ext_getElem (by simp [Model.containerHandles, Model.handles, hlength]) ?_
  intro i hi hi'
  rw [List.length_map] at hi'
  simpa [Model.containerHandles, Model.handles] using
    qualifiedName_container (c := ⟨i⟩) h (List.getElem?_eq_getElem hi')

theorem findContainer?_eq_none_iff (h : document.resolveElements id = .ok m) {name : String} :
    m.findContainer? (document.qualify name) = none ↔ document.containerNamed? name = none := by
  have hfind := congrArg (List.find? (· == document.qualify name))
    (containerHandles_map_qualifiedName h)
  rw [List.find?_map, List.find?_map] at hfind
  rw [← Option.map_eq_none_iff, ← Option.map_eq_none_iff (x := document.containerNamed? name)]
  exact Eq.congr_left hfind

/-- The first container of a name is declared first. -/
theorem containerNamed?_of_findContainer? (h : document.resolveElements id = .ok m) {name : String}
    (hc : m.findContainer? (document.qualify name) = some c) :
    ∃ d, document.containers[c.index]? = some d ∧ document.containerNamed? name = some d := by
  obtain ⟨hname, i, hi, rfl, hbefore⟩ := List.find?_eq_some_iff_getElem.mp hc
  have hlt : i < document.containers.length := by
    simpa [Model.containerHandles, Model.handles, length_containers h] using hi
  simp only [Model.containerHandles, Model.handles, List.getElem_map, List.getElem_range]
    at hname hbefore ⊢
  refine ⟨_, List.getElem?_eq_getElem hlt, ?_⟩
  refine List.find?_eq_some_iff_getElem.mpr ⟨?_, i, hlt, rfl, ?_⟩
  · rw [← qualifiedName_container (c := ⟨i⟩) h (List.getElem?_eq_getElem hlt)]
    exact hname
  · intro j hj
    rw [← qualifiedName_container (c := ⟨j⟩) h (List.getElem?_eq_getElem (Nat.lt_trans hj hlt))]
    exact hbefore j hj

/-- The members of a container have the names that are declared. -/
theorem memberNames_eq (h : document.resolveElements id = .ok m)
    (hd : document.containers[c.index]? = some d) :
    d.memberNames = (m.container c).entitySets.map (fun s => (m.entitySet s).name)
      ++ (m.container c).singletons.map (fun s => (m.singleton s).name)
      ++ (m.importHandles c).map (fun i => (m.operationImport i).name) := by
  obtain ⟨content, hholds, hdeclared⟩ := holds h hd
  have hsets : (m.container c).entitySets.map (fun s => (m.entitySet s).name)
      = d.entitySets.map (·.name) := by
    rw [hholds.container, ← hdeclared.entitySet_names, ← hholds.entitySets, List.map_map]
    rfl
  have hsingletons : (m.container c).singletons.map (fun s => (m.singleton s).name)
      = d.singletons.map (·.name) := by
    rw [hholds.container, ← hdeclared.singleton_names, ← hholds.singletons, List.map_map]
    rfl
  have himports : (m.importHandles c).map (fun i => (m.operationImport i).name)
      = d.imports.map (·.name) := by
    rw [← hdeclared.import_names, ← hholds.container, ← m.importHandles_map_operationImport,
      List.map_map]
    rfl
  rw [ContainerDeclaration.memberNames, ContainerDeclaration.sources, List.map_append, hsets,
    hsingletons, himports]

theorem memberOf?_isSome_iff (h : document.resolveElements id = .ok m)
    (hd : document.containers[c.index]? = some d) {name : String} :
    (m.memberOf? c name).isSome = true ↔ name ∈ d.memberNames := by
  rw [memberNames_eq h hd]
  simp [Model.memberOf?, List.find?_isSome]

end

section

variable {t : EntityTypeHandle} {d : EntityTypeDeclaration}

theorem resolve_entityType (h : document.resolveElements id = .ok m)
    (hd : document.entityTypes[t.index]? = some d) :
    d.resolve (Scope.ofDocument document) = .ok (m.entityType t) := by
  obtain ⟨_, _, _, htypes, -, -, -, hm⟩ := resolveElements_eq_ok h
  have htypes' : document.entityTypes.mapM (fun d => d.resolve (Scope.ofDocument document))
      = .ok m.entityTypes := by
    rw [htypes, hm]
  exact getElem?_entityTypes htypes' hd

/-- The navigation properties of a type have the names that are declared. -/
theorem declaredNavigation_names (h : document.resolveElements id = .ok m)
    (hd : document.entityTypes[t.index]? = some d) :
    (m.declaredNavigation t).map (fun n => (m.navigation n).name)
      = d.navigationProperties.map (·.name) := by
  rw [← EntityTypeDeclaration.resolve_navigation_names (resolve_entityType h hd),
    ← Model.declaredNavigation_map_navigation, List.map_map]
  rfl

theorem declaredNavigation?_isSome_iff (h : document.resolveElements id = .ok m)
    (hd : document.entityTypes[t.index]? = some d) {name : String} :
    (m.declaredNavigation? t name).isSome = true ↔ name ∈ d.navigationProperties.map (·.name) := by
  rw [← declaredNavigation_names h hd]
  simp [Model.declaredNavigation?, List.find?_isSome]

end

theorem exists_operation_iff (h : document.resolveElements id = .ok m) {name : String} :
    (∃ o ∈ m.operationHandles, (m.operation o).qualifiedName = name) ↔
      ∃ d ∈ document.operations, Name.join document.ns (Name.simple d.name) = name := by
  obtain ⟨_, operations, _, -, -, hoperations, -, hm⟩ := resolveElements_eq_ok h
  have hdeclared : (∃ d ∈ document.operations, Name.join document.ns (Name.simple d.name) = name) ↔
      ∃ operation ∈ operations, operation.qualifiedName = name := by
    refine exists_mem_iff_of_forall₂ ?_ (Except.forall₂_of_mapM_eq_ok hoperations)
    intro d operation hd
    rw [(OperationDeclaration.resolve_eq_ok hd).2]
    rfl
  have hmap : operations = m.operationHandles.map m.operation := by
    rw [Model.operationHandles_map_operation, hm]
  rw [hdeclared, hmap]
  simp

/-! ## Annotation targets -/

section

variable {target head name : String}

theorem annotatable_iff_of_container {d : ContainerDeclaration}
    (hsplit : Name.splitMember? target = some (head, name))
    (hcontainer : document.containerNamed? head = some d) :
    document.Annotatable target ↔ name ∈ d.memberNames := by
  refine ⟨?_, .containerMember hsplit hcontainer⟩
  intro h
  cases h with
  | containerMember hsplit' hcontainer' hname =>
      cases hsplit.symm.trans hsplit'
      cases hcontainer.symm.trans hcontainer'
      exact hname
  | typeMember hsplit' hcontainer' =>
      cases hsplit.symm.trans hsplit'
      cases hcontainer.symm.trans hcontainer'
  | entityType hsplit' | container hsplit' | operation hsplit' =>
      cases hsplit.symm.trans hsplit'

theorem annotatable_iff_of_type (hsplit : Name.splitMember? target = some (head, name))
    (hcontainer : document.containerNamed? head = none) :
    document.Annotatable target ↔ ∃ d ∈ document.entityTypes,
      document.qualify d.name = document.qualify head ∧
        name ∈ d.navigationProperties.map (·.name) := by
  constructor
  · intro h
    cases h with
    | containerMember hsplit' hcontainer' =>
        cases hsplit.symm.trans hsplit'
        cases hcontainer.symm.trans hcontainer'
    | typeMember hsplit' _ hd htype hname =>
        cases hsplit.symm.trans hsplit'
        exact ⟨_, hd, htype, hname⟩
    | entityType hsplit' | container hsplit' | operation hsplit' =>
        cases hsplit.symm.trans hsplit'
  · rintro ⟨d, hd, htype, hname⟩
    exact .typeMember hsplit hcontainer hd htype hname

theorem annotatable_iff_of_not_member (hsplit : Name.splitMember? target = none) :
    document.Annotatable target ↔ document.DeclaresType target ∨
      (document.containerNamed? target).isSome = true ∨
        ∃ d ∈ document.operations,
          Name.join document.ns (Name.simple d.name) = document.qualify target := by
  constructor
  · intro h
    cases h with
    | containerMember hsplit' | typeMember hsplit' => cases hsplit.symm.trans hsplit'
    | entityType _ htype => exact Or.inl htype
    | container _ hcontainer =>
        rw [hcontainer]
        exact Or.inr (Or.inl rfl)
    | operation _ hd hname => exact Or.inr (Or.inr ⟨_, hd, hname⟩)
  · rintro (htype | hcontainer | ⟨d, hd, hname⟩)
    · exact .entityType hsplit htype
    · obtain ⟨d, hd⟩ := Option.isSome_iff_exists.mp hcontainer
      exact .container hsplit hd
    · exact .operation hsplit hd hname

end

theorem toList_ne_nil_iff {α : Type} {x : Option α} : x.toList ≠ [] ↔ x.isSome = true := by
  cases x with
  | none => simp
  | some a => simp

theorem eq_of_qualify_eq (hnodup : (Scope.ofDocument document).typeNames.Nodup)
    {d d' : EntityTypeDeclaration} (hd : d ∈ document.entityTypes) (hd' : d' ∈ document.entityTypes)
    (hname : document.qualify d.name = document.qualify d'.name) : d = d' :=
  List.inj_on_of_nodup_map hnodup hd hd' hname

theorem targets_ne_nil_iff_of_member (h : document.resolveElements id = .ok m)
    (hnodup : (Scope.ofDocument document).typeNames.Nodup) {target head name : String}
    (hsplit : Name.splitMember? target = some (head, name)) :
    (Scope.ofDocument document).targets m target ≠ [] ↔ document.Annotatable target := by
  rw [Scope.targets, hsplit]
  cases hc : m.findContainer? ((Scope.ofDocument document).qualify head) with
  | some c =>
      obtain ⟨d, hd, hnamed⟩ := containerNamed?_of_findContainer? h hc
      rw [annotatable_iff_of_container hsplit hnamed, ← memberOf?_isSome_iff h hd]
      simp only [hc]
      exact toList_ne_nil_iff
  | none =>
      rw [annotatable_iff_of_type hsplit ((findContainer?_eq_none_iff h).mp hc)]
      simp only [hc]
      cases ht : (Scope.ofDocument document).type? head with
      | some t =>
          obtain ⟨d, hd, hname⟩ := getElem?_typeNames.mp ((Scope.type?_eq_some_iff hnodup).mp ht)
          rw [toList_ne_nil_iff, declaredNavigation?_isSome_iff h hd]
          constructor
          · intro hmem
            exact ⟨d, List.mem_of_getElem? hd, hname, hmem⟩
          · rintro ⟨d', hd', hname', hmem⟩
            -- names do not repeat, so it is the same type
            have hsame := eq_of_qualify_eq hnodup hd' (List.mem_of_getElem? hd)
              (hname'.trans hname.symm)
            exact hsame ▸ hmem
      | none =>
          refine iff_of_false (fun h => h rfl) ?_
          rintro ⟨d, hd, hname, -⟩
          have hsome := Scope.type?_isSome_iff.mpr ⟨d, hd, hname⟩
          rw [ht] at hsome
          cases hsome

theorem targets_ne_nil_iff_of_not_member (h : document.resolveElements id = .ok m)
    {target : String} (hsplit : Name.splitMember? target = none) :
    (Scope.ofDocument document).targets m target ≠ [] ↔ document.Annotatable target := by
  rw [Scope.targets, hsplit, annotatable_iff_of_not_member hsplit, ← Scope.type?_isSome_iff]
  cases ht : (Scope.ofDocument document).type? target with
  | some t => simp
  | none =>
      cases hc : m.findContainer? ((Scope.ofDocument document).qualify target) with
      | some c =>
          obtain ⟨d, -, hnamed⟩ := containerNamed?_of_findContainer? h hc
          simp [hnamed]
      | none =>
          rw [(findContainer?_eq_none_iff h).mp hc, ← exists_operation_iff h]
          have hqualify :
              (Scope.ofDocument document).qualify target = document.qualify target := rfl
          simp [hqualify]

/-- A target leads to an element if something is declared under its name. -/
theorem targets_ne_nil_iff (h : document.resolveElements id = .ok m)
    (hnodup : (Scope.ofDocument document).typeNames.Nodup) {target : String} :
    (Scope.ofDocument document).targets m target ≠ [] ↔ document.Annotatable target := by
  cases hsplit : Name.splitMember? target with
  | some parts => exact targets_ne_nil_iff_of_member h hnodup hsplit
  | none => exact targets_ne_nil_iff_of_not_member h hsplit

theorem annotation_isOk_iff (h : document.resolveElements id = .ok m)
    (hnodup : (Scope.ofDocument document).typeNames.Nodup) {d : AnnotationDeclaration} :
    (d.resolve (Scope.ofDocument document) m).isOk = true ↔ document.Annotatable d.target := by
  rw [← targets_ne_nil_iff h hnodup, AnnotationDeclaration.resolve]
  cases (Scope.ofDocument document).targets m d.target with
  | nil => simp [Except.isOk, Except.toBool]
  | cons e elements => simp [Except.isOk, Except.toBool]

/-! ## Documents -/

/-- The documents that have a model are the valid ones. -/
theorem resolve_iff_valid (document : Document) (id : ModelId) :
    (∃ m, document.resolve id = .ok m) ↔ document.Valid := by
  rw [← Except.isOk_iff, resolve]
  simp only [Except.isOk_bind, Except.isOk_bind_pure, Except.isOk_mapM]
  constructor
  · rintro ⟨m, hm, hannotations⟩
    obtain ⟨hnodup, htypes, hacyclic, hoperations, hcontainers⟩ :=
      resolveElements_isOk_iff.mp (Except.isOk_iff.mpr ⟨m, hm⟩)
    exact ⟨hnodup, htypes, hacyclic, hoperations, hcontainers,
      fun a ha => (annotation_isOk_iff hm hnodup).mp (hannotations a ha)⟩
  · intro hvalid
    obtain ⟨m, hm⟩ := Except.isOk_iff.mp (resolveElements_isOk_iff.mpr ⟨hvalid.names_nodup,
      hvalid.entityTypes_valid, hvalid.bases_acyclic, hvalid.operations_valid,
      hvalid.containers_valid⟩ : (document.resolveElements id).isOk = true)
    exact ⟨m, hm, fun a ha =>
      (annotation_isOk_iff hm hvalid.names_nodup).mpr (hvalid.annotations_annotatable a ha)⟩

end Document

end ODataApi
