import ODataApi.Proofs.Document.Valid

/-!
# What the checks of a document decide

A document is refused in one of several places.  Each lemma here takes one of them and says of
which declarations it gives a result: of the valid ones.  What an earlier place has found out is
an assumption of the later ones, so containers are checked against resolved operations
(`ContainerDeclaration.resolve_isOk_iff`) and cycles are looked for in resolved types
(`Document.checkBases_isOk_iff`).
-/

namespace ODataApi

/-! ## Names -/

theorem firstRepeated?_eq_none_iff :
    ∀ {seen names : List String},
      firstRepeated? seen names = none ↔ names.Nodup ∧ ∀ name ∈ names, name ∉ seen
  | seen, [] => by simp [firstRepeated?]
  | seen, name :: names => by
      rw [firstRepeated?, List.nodup_cons, List.forall_mem_cons]
      by_cases hseen : name ∈ seen
      · simp [hseen]
      · simp only [List.contains_iff_mem, hseen, if_false, firstRepeated?_eq_none_iff,
          List.mem_cons, not_or, not_false_eq_true, true_and]
        constructor
        · rintro ⟨hnodup, hfresh⟩
          exact ⟨⟨fun h => (hfresh name h).1 rfl, hnodup⟩, fun n hn => (hfresh n hn).2⟩
        · rintro ⟨⟨hname, hnodup⟩, hfresh⟩
          exact ⟨hnodup, fun n hn => ⟨fun h => hname (h ▸ hn), hfresh n hn⟩⟩

theorem firstRepeated?_nil_eq_none_iff {names : List String} :
    firstRepeated? [] names = none ↔ names.Nodup := by
  simp [firstRepeated?_eq_none_iff]

/-- Where names do not repeat, a name is found at its position. -/
theorem findIdx?_eq_some_iff_getElem?_of_nodup {names : List String} (hnodup : names.Nodup)
    {name : String} {i : Nat} :
    names.findIdx? (· == name) = some i ↔ names[i]? = some name := by
  rw [List.findIdx?_eq_some_iff_getElem, List.getElem?_eq_some_iff]
  constructor
  · rintro ⟨hi, hfound, -⟩
    exact ⟨hi, beq_iff_eq.mp hfound⟩
  · rintro ⟨hi, rfl⟩
    refine ⟨hi, beq_self_eq_true _, fun j hj heq => ?_⟩
    exact absurd (hnodup.getElem_inj_iff.mp (beq_iff_eq.mp heq)) (Nat.ne_of_lt hj)

theorem Scope.type?_eq_some_iff {scope : Scope} (hnodup : scope.typeNames.Nodup) {name : String}
    {t : EntityTypeHandle} :
    scope.type? name = some t ↔ scope.typeNames[t.index]? = some (scope.qualify name) := by
  rw [← findIdx?_eq_some_iff_getElem?_of_nodup hnodup, Scope.type?, Option.map_eq_some_iff]
  constructor
  · rintro ⟨i, hi, rfl⟩
    exact hi
  · intro h
    exact ⟨t.index, h, rfl⟩

section

variable {document : Document} {name : String}

theorem Scope.type?_isSome_iff :
    ((Scope.ofDocument document).type? name).isSome = true ↔ document.DeclaresType name := by
  rw [Scope.type?, Option.isSome_map, List.findIdx?_isSome, List.any_eq_true]
  constructor
  · rintro ⟨qualified, hmem, heq⟩
    obtain ⟨d, hd, rfl⟩ := List.mem_map.mp hmem
    exact ⟨d, hd, beq_iff_eq.mp heq⟩
  · rintro ⟨d, hd, heq⟩
    exact ⟨document.qualify d.name, List.mem_map_of_mem hd, beq_iff_eq.mpr heq⟩

theorem Document.getElem?_typeNames {i : Nat} :
    (Scope.ofDocument document).typeNames[i]? = some (document.qualify name) ↔
      ∃ d, document.entityTypes[i]? = some d ∧ document.qualify d.name = document.qualify name := by
  rw [Scope.ofDocument, List.getElem?_map, Option.map_eq_some_iff]
  rfl

theorem Scope.typeOf_isOk_iff {referencedBy : String} :
    ((Scope.ofDocument document).typeOf name referencedBy).isOk = true ↔
      document.DeclaresType name := by
  rw [← Scope.type?_isSome_iff, Scope.typeOf]
  cases (Scope.ofDocument document).type? name with
  | none => simp [Except.isOk, Except.toBool]
  | some t => simp [Except.isOk, Except.toBool]

end

/-! ## Types and operations -/

section

variable {document : Document}

theorem NavigationDeclaration.resolve_isOk_iff {d : NavigationDeclaration} {owner : String} :
    (d.resolve (Scope.ofDocument document) owner).isOk = true ↔ document.DeclaresType d.type := by
  rw [NavigationDeclaration.resolve, Except.isOk_bind_pure, Scope.typeOf_isOk_iff]

theorem EntityTypeDeclaration.resolve_isOk_iff {d : EntityTypeDeclaration} :
    (d.resolve (Scope.ofDocument document)).isOk = true ↔ d.Valid document := by
  simp only [EntityTypeDeclaration.resolve, Except.isOk_bind, Except.isOk_bind_pure,
    Except.isOk_mapM, NavigationDeclaration.resolve_isOk_iff]
  rw [exists_and_right, ← Except.isOk_iff, Except.isOk_optionMapM]
  simp only [Scope.typeOf_isOk_iff]
  constructor
  · rintro ⟨hbase, htargets⟩
    exact ⟨hbase, htargets⟩
  · rintro ⟨hbase, htargets⟩
    exact ⟨hbase, htargets⟩

theorem EntityTypeDeclaration.resolve_navigation_names {d : EntityTypeDeclaration} {scope : Scope}
    {type : EntityType} (h : d.resolve scope = .ok type) :
    type.navigationProperties.map (·.name) = d.navigationProperties.map (·.name) := by
  simp only [EntityTypeDeclaration.resolve, Except.bind_eq_ok, Except.pure_eq_ok] at h
  obtain ⟨_, _, navigation, hnavigation, rfl⟩ := h
  refine Except.map_eq_of_mapM_eq_ok (fun n property hn => ?_) hnavigation
  simp only [NavigationDeclaration.resolve, Except.bind_eq_ok, Except.pure_eq_ok] at hn
  obtain ⟨_, _, rfl⟩ := hn
  rfl

theorem OperationDeclaration.resolve_isOk_iff {d : OperationDeclaration} :
    (d.resolve (Scope.ofDocument document)).isOk = true ↔ d.Valid document := by
  rw [OperationDeclaration.resolve, Except.isOk_bind_pure, OperationDeclaration.Valid,
    OperationDeclaration.resolveParameters]
  cases hbound : d.bound with
  | false => simp [Except.isOk, Except.toBool]
  | true =>
      cases hparameters : d.parameters with
      | nil => simp [Except.isOk, Except.toBool]
      | cons first rest =>
          simp only [if_true, Except.isOk_bind_pure, Scope.typeOf_isOk_iff, true_implies]
          constructor
          · intro h
            exact ⟨first, rest, rfl, h⟩
          · rintro ⟨_, _, heq, h⟩
            cases heq
            exact h

theorem Document.entityTypes_isOk_iff :
    (document.entityTypes.mapM fun d : EntityTypeDeclaration =>
        d.resolve (Scope.ofDocument document)).isOk = true ↔
      ∀ d ∈ document.entityTypes, d.Valid document := by
  simp only [Except.isOk_mapM, EntityTypeDeclaration.resolve_isOk_iff]

theorem Document.operations_isOk_iff :
    (document.operations.mapM fun d : OperationDeclaration =>
        d.resolve (Scope.ofDocument document)).isOk = true ↔
      ∀ d ∈ document.operations, d.Valid document := by
  simp only [Except.isOk_mapM, OperationDeclaration.resolve_isOk_iff]

/-- An operation is bound if it is declared so, whatever its parameters. -/
theorem OperationDeclaration.resolve_eq_ok {d : OperationDeclaration} {scope : Scope}
    {operation : Operation} (h : d.resolve scope = .ok operation) :
    operation.isBound = d.bound ∧
      operation.qualifiedName = Name.join scope.ns (Name.simple d.name) := by
  simp only [OperationDeclaration.resolve, Except.bind_eq_ok, Except.pure_eq_ok] at h
  obtain ⟨⟨binding, parameters⟩, hparameters, rfl⟩ := h
  refine ⟨?_, rfl⟩
  rw [OperationDeclaration.resolveParameters] at hparameters
  cases hbound : d.bound with
  | false =>
      rw [hbound] at hparameters
      cases hparameters
      rfl
  | true =>
      rw [hbound, if_pos rfl] at hparameters
      split at hparameters
      · cases hparameters
      · simp only [Except.bind_eq_ok, Except.pure_eq_ok] at hparameters
        obtain ⟨_, _, heq⟩ := hparameters
        cases heq
        rfl

/-- What holds of a declaration if and only if it holds of what it is resolved to. -/
theorem exists_mem_iff_of_forall₂ {α β : Type} {R : α → β → Prop} {p : α → Prop} {q : β → Prop}
    (hR : ∀ x y, R x y → (p x ↔ q y)) {xs : List α} {ys : List β} (h : List.Forall₂ R xs ys) :
    (∃ x ∈ xs, p x) ↔ ∃ y ∈ ys, q y := by
  induction h with
  | nil => simp
  | cons hxy _ ih => simp only [List.exists_mem_cons_iff, hR _ _ hxy, ih]

theorem exists_unbound_iff {operations : List Operation}
    (h : document.operations.mapM (fun d => d.resolve (Scope.ofDocument document))
      = .ok operations) {name : String} :
    (∃ operation ∈ operations, operation.isBound = false ∧
        operation.qualifiedName = (Scope.ofDocument document).qualify name) ↔
      document.DeclaresUnbound name := by
  refine (exists_mem_iff_of_forall₂ ?_ (Except.forall₂_of_mapM_eq_ok h)).symm
  intro d operation hd
  obtain ⟨hbound, hname⟩ := OperationDeclaration.resolve_eq_ok hd
  rw [hbound, hname]
  rfl

end

/-! ## Containers -/

section

variable {document : Document} {owner : String}

theorem memberTypes_isOk_iff :
    ∀ {seen : List String} {sources : List SourceDeclaration},
      (memberTypes (Scope.ofDocument document) owner seen sources).isOk = true ↔
        firstRepeated? seen (sources.map (·.name)) = none ∧
          ∀ source ∈ sources, document.DeclaresType source.type
  | seen, [] => by simp [memberTypes, firstRepeated?, Except.isOk, Except.toBool]
  | seen, source :: sources => by
      have htype : ((Scope.ofDocument document).typeOf source.type
          (Name.member owner source.name)).isOk = true ↔ document.DeclaresType source.type :=
        Scope.typeOf_isOk_iff
      rw [memberTypes, List.forall_mem_cons, List.map_cons, firstRepeated?, Except.isOk_bind,
        ← htype, Except.isOk_iff]
      cases hseen : seen.contains source.name with
      | true => simp [Except.isOk_throw_bind]
      | false =>
          simp only [Bool.false_eq_true, if_false, Except.isOk_bind_pure]
          rw [memberTypes_isOk_iff, exists_and_right, and_left_comm]

theorem SourceDeclaration.resolveBindings_isOk_iff {d : SourceDeclaration}
    {members : List (String × Element)} :
    (d.resolveBindings owner members).isOk = true ↔
      ∀ binding ∈ d.bindings, (members.lookup binding.2).isSome = true := by
  rw [SourceDeclaration.resolveBindings, Except.isOk_mapM]
  refine forall₂_congr fun binding _ => ?_
  cases hlookup : members.lookup binding.2 with
  | none => simp [hlookup, Except.isOk, Except.toBool]
  | some element => simp [hlookup, Except.isOk, Except.toBool]

theorem ImportDeclaration.resolve_isOk_iff {d : ImportDeclaration} {scope : Scope}
    {operations : List Operation} {members : List (String × Element)} :
    (d.resolve scope operations owner members).isOk = true ↔
      (∃ operation ∈ operations, operation.isBound = false ∧
        operation.qualifiedName = scope.qualify d.operation) ∧
      ∀ name, d.entitySet = some name → ∃ s, members.lookup name = some (.entitySet s) := by
  have hsome : (operations.findIdx? fun o =>
      !o.isBound && o.qualifiedName == scope.qualify d.operation).isSome = true ↔
        ∃ operation ∈ operations, operation.isBound = false ∧
          operation.qualifiedName = scope.qualify d.operation := by
    simp [List.findIdx?_isSome]
  rw [ImportDeclaration.resolve, ← hsome]
  cases hoperation : operations.findIdx? fun o =>
      !o.isBound && o.qualifiedName == scope.qualify d.operation with
  | none => simp [Except.isOk_bind]
  | some index =>
      simp only [Except.isOk_bind (x := .ok _), Except.ok.injEq, exists_eq_left',
        Except.isOk_bind_pure, Except.isOk_optionMapM, Option.isSome_some, true_and]
      refine forall₂_congr fun name _ => ?_
      split
      next s heq => simp [heq, Except.isOk, Except.toBool]
      next hne =>
        refine iff_of_false (by simp [Except.isOk, Except.toBool]) ?_
        rintro ⟨s, hs⟩
        exact hne s hs

/-- What is found by a name of a container. -/
theorem lookup_zip_isSome_iff {names : List String} {elements : List Element}
    (hlength : names.length = elements.length) {name : String} :
    ((names.zip elements).lookup name).isSome = true ↔ name ∈ names := by
  rw [List.lookup_isSome_iff]
  constructor
  · rintro ⟨⟨n, e⟩, hmem, heq⟩
    rw [beq_iff_eq.mp heq]
    exact (List.of_mem_zip hmem).1
  · intro h
    rw [← List.map_fst_zip (Nat.le_of_eq hlength)] at h
    obtain ⟨⟨n, e⟩, hmem, rfl⟩ := List.mem_map.mp h
    exact ⟨⟨n, e⟩, hmem, beq_self_eq_true n⟩

/-- Sets come before singletons, so the name of a set leads to a set in any case. -/
theorem lookup_zip_eq_entitySet_iff {ds ds' : List SourceDeclaration}
    {sets : List EntitySetHandle} {singletons : List SingletonHandle}
    (hlength : ds.length = sets.length) {name : String} :
    (∃ s, (((ds ++ ds').map (·.name)).zip
        (sets.map Element.entitySet ++ singletons.map Element.singleton)).lookup name
          = some (.entitySet s)) ↔ name ∈ ds.map (·.name) := by
  have hlength' : (ds.map (·.name)).length = (sets.map Element.entitySet).length := by
    rw [List.length_map, hlength, List.length_map]
  rw [List.map_append, List.zip_append hlength', List.lookup_append,
    ← lookup_zip_isSome_iff hlength']
  cases hset : ((ds.map (·.name)).zip (sets.map Element.entitySet)).lookup name with
  | none =>
      refine iff_of_false ?_ (by simp)
      rintro ⟨s, hs⟩
      rw [Option.none_or] at hs
      simpa using (List.of_mem_zip (mem_of_lookup_eq_some hs)).2
  | some e =>
      refine iff_of_true ?_ rfl
      obtain ⟨s, -, rfl⟩ := List.mem_map.mp (List.of_mem_zip (mem_of_lookup_eq_some hset)).2
      exact ⟨s, rfl⟩

theorem ContainerDeclaration.resolve_isOk_iff {d : ContainerDeclaration}
    {operations : List Operation}
    (hoperations : document.operations.mapM (fun d => d.resolve (Scope.ofDocument document))
      = .ok operations) {index setCount singletonCount : Nat} :
    (d.resolve (Scope.ofDocument document) operations index setCount singletonCount).isOk = true ↔
      d.Valid document := by
  simp only [ContainerDeclaration.resolve, Except.isOk_bind, Except.isOk_bind_pure,
    Except.isOk_mapM, ImportDeclaration.resolve_isOk_iff]
  rw [exists_and_right, ← Except.isOk_iff, exists_and_right, ← Except.isOk_iff,
    memberTypes_isOk_iff, firstRepeated?_nil_eq_none_iff]
  simp (disch := simp) only [Except.isOk_mapM, SourceDeclaration.resolveBindings_isOk_iff,
    exists_unbound_iff hoperations, lookup_zip_isSome_iff, lookup_zip_eq_entitySet_iff]
  constructor
  · rintro ⟨⟨hnodup, htypes⟩, hbindings, himports⟩
    exact ⟨hnodup, htypes, hbindings, fun i hi => ⟨(himports i hi).1, (himports i hi).2⟩⟩
  · intro h
    refine ⟨⟨h.names_nodup, h.type_declared⟩, h.binding_declared, ?_⟩
    intro i hi
    exact ⟨(h.imports_valid i hi).operation_declared, (h.imports_valid i hi).entitySet_declared⟩

/-- The counts a container goes on from make no difference to whether it is refused. -/
theorem resolveContainers_isOk_iff {operations : List Operation}
    (hoperations : document.operations.mapM (fun d => d.resolve (Scope.ofDocument document))
      = .ok operations) :
    ∀ {ds : List ContainerDeclaration} {index setCount singletonCount : Nat},
      (resolveContainers (Scope.ofDocument document) operations index setCount singletonCount
          ds).isOk = true ↔ ∀ d ∈ ds, d.Valid document
  | [], _, _, _ => by simp [resolveContainers, Except.isOk, Except.toBool]
  | d :: ds, index, setCount, singletonCount => by
      simp only [resolveContainers, Except.isOk_bind, Except.isOk_bind_pure,
        resolveContainers_isOk_iff hoperations]
      rw [List.forall_mem_cons, exists_and_right, ← Except.isOk_iff,
        ContainerDeclaration.resolve_isOk_iff hoperations]

end

/-! ## Cycles -/

theorem checkBases_isOk_iff_endsWithin {types : List EntityType} :
    (checkBases types).isOk = true ↔
      ∀ t, Model.endsWithin types types.length t = true := by
  constructor
  · intro h
    obtain ⟨⟨⟩, hok⟩ := Except.isOk_iff.mp h
    exact endsWithin_of_checkBases hok
  · intro h
    have hnone : endlessType? types = none := by
      rw [endlessType?_eq]
      exact List.find?_eq_none.mpr fun t _ => by simp [h t]
    rw [checkBases, hnone]
    rfl

theorem EntityTypeDeclaration.resolve_base {d : EntityTypeDeclaration} {scope : Scope}
    {type : EntityType} (h : d.resolve scope = .ok type) : type.base = d.base.bind scope.type? := by
  simp only [EntityTypeDeclaration.resolve, Except.bind_eq_ok, Except.pure_eq_ok] at h
  obtain ⟨base, hbase, _, _, rfl⟩ := h
  cases hd : d.base with
  | none =>
      rw [hd] at hbase
      cases hbase
      rfl
  | some name =>
      rw [hd, Option.mapM_some, Scope.typeOf] at hbase
      cases hname : scope.type? name with
      | none =>
          rw [hname] at hbase
          cases hbase
      | some t =>
          rw [hname] at hbase
          cases hbase
          exact hname.symm

namespace Document

variable {document : Document} {m : Model}

theorem getElem?_entityTypes
    (h : document.entityTypes.mapM (fun d => d.resolve (Scope.ofDocument document))
      = .ok m.entityTypes) {t : EntityTypeHandle} {d : EntityTypeDeclaration}
    (hd : document.entityTypes[t.index]? = some d) :
    d.resolve (Scope.ofDocument document) = .ok (m.entityType t) := by
  obtain ⟨type, htype, hresolve⟩ := Except.getElem?_of_mapM_eq_ok h hd
  rw [Model.entityType, htype]
  exact hresolve

/-- Types extend each other as their names do. -/
theorem extends_iff
    (h : document.entityTypes.mapM (fun d => d.resolve (Scope.ofDocument document))
      = .ok m.entityTypes)
    (hnodup : (Scope.ofDocument document).typeNames.Nodup) {t b : EntityTypeHandle} :
    m.Extends t b ↔ ∃ name base, (Scope.ofDocument document).typeNames[t.index]? = some name ∧
      (Scope.ofDocument document).typeNames[b.index]? = some base ∧ document.Extends name base := by
  constructor
  · intro ht
    have hlt : t.index < document.entityTypes.length := by
      rw [← Except.length_of_mapM_eq_ok h]
      exact Model.mem_handles.mp ht.mem_entityTypeHandles
    have hd := List.getElem?_eq_getElem hlt
    rw [Model.Extends, EntityTypeDeclaration.resolve_base (getElem?_entityTypes h hd),
      Option.bind_eq_some_iff] at ht
    obtain ⟨base, hbase, hb⟩ := ht
    refine ⟨_, _, getElem?_typeNames.mpr ⟨_, hd, rfl⟩, (Scope.type?_eq_some_iff hnodup).mp hb, ?_⟩
    exact ⟨_, List.getElem_mem hlt, rfl, congrArg (Option.map document.qualify) hbase⟩
  · rintro ⟨name, base, ht, hb, d, hmem, rfl, hbase⟩
    obtain ⟨base, hd, rfl⟩ := Option.map_eq_some_iff.mp hbase
    obtain ⟨i, hi⟩ := List.mem_iff_getElem?.mp hmem
    -- names do not repeat, so there is one type of this name
    have hname : (Scope.ofDocument document).typeNames[i]? = some (document.qualify d.name) :=
      getElem?_typeNames.mpr ⟨d, hi, rfl⟩
    have hlt := (List.getElem?_eq_some_iff.mp hname).1
    obtain rfl : i = t.index := (List.getElem?_inj hlt hnodup).mp (hname.trans ht.symm)
    rw [Model.Extends, EntityTypeDeclaration.resolve_base (getElem?_entityTypes h hi), hd]
    exact (Scope.type?_eq_some_iff hnodup).mpr hb

theorem mem_scopeNames {name : String} :
    document.qualify name ∈ (Scope.ofDocument document).typeNames ↔ document.DeclaresType name :=
  List.mem_map

/-- No chain of base types is infinite if no type has itself among its base types. -/
theorem acyclic_iff_names
    (h : document.entityTypes.mapM (fun d => d.resolve (Scope.ofDocument document))
      = .ok m.entityTypes)
    (hnodup : (Scope.ofDocument document).typeNames.Nodup)
    (hvalid : ∀ d ∈ document.entityTypes, d.Valid document) :
    m.Acyclic ↔ ∀ name, ¬ Relation.TransGen document.Extends name name := by
  rw [Model.acyclic_iff]
  constructor
  · intro hacyclic name hcycle
    refine hacyclic ⟨(Scope.ofDocument document).typeNames.idxOf name⟩ ?_
    refine Relation.TransGen.lift (fun name =>
      (⟨(Scope.ofDocument document).typeNames.idxOf name⟩ : EntityTypeHandle)) ?_ _ _ hcycle
    rintro name base ⟨d, hd, rfl, hbase⟩
    obtain ⟨base, hbase', rfl⟩ := Option.map_eq_some_iff.mp hbase
    -- bases are declared, so both names have a position
    have hname := mem_scopeNames.mpr ⟨d, hd, rfl⟩
    have hbasename := mem_scopeNames.mpr ((hvalid d hd).base_declared base hbase')
    exact (extends_iff h hnodup).mpr ⟨_, _, List.getElem?_idxOf hname,
      List.getElem?_idxOf hbasename, d, hd, rfl, hbase⟩
  · intro hacyclic t hcycle
    refine hacyclic ((Scope.ofDocument document).typeNames[t.index]?.getD "") ?_
    refine Relation.TransGen.lift (fun t : EntityTypeHandle =>
      (Scope.ofDocument document).typeNames[t.index]?.getD "") ?_ _ _ hcycle
    intro t b hb
    obtain ⟨name, base, hname, hbase, hextends⟩ := (extends_iff h hnodup).mp hb
    simpa [Function.onFun, hname, hbase] using hextends

/-- Types pass the check if no type has itself among its base types. -/
theorem checkBases_isOk_iff {types : List EntityType}
    (h : document.entityTypes.mapM (fun d => d.resolve (Scope.ofDocument document)) = .ok types)
    (hnodup : (Scope.ofDocument document).typeNames.Nodup)
    (hvalid : ∀ d ∈ document.entityTypes, d.Valid document) :
    (checkBases types).isOk = true ↔ ∀ name, ¬ Relation.TransGen document.Extends name name := by
  rw [checkBases_isOk_iff_endsWithin]
  exact acyclic_iff_names (m := { (default : Model) with entityTypes := types }) h hnodup hvalid

end Document

end ODataApi
