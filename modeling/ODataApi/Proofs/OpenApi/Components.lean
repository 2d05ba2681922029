import ODataApi.Proofs.OpenApi.References

/-!
# Components and references to them

The components of a document are the error and the entity types that its paths reach: the
types of paths, and the types their navigation properties lead to (`mem_names_schemas`).
Of reached types with one name the last declared is described (`mem_schemas_references`).

So the bodies of sets, singletons, navigation properties and casts refer to components
that are there, and so do the results of bound operations.  Three kinds of references may
lead nowhere: those of the members of a described type, those of the parameters of an
action, and the result of an import that has an entity set, since its path has the type of
the set.  A document has every component that it refers to if and only if all types named
there are reached (`references_present_iff`).
-/

namespace ODataApi

variable {settings : Settings} {m : Model} {paths : List ResourcePath} {t u : EntityTypeHandle}
  {name : String}

/-! ## The types that paths reach -/

namespace Model

/-- A path leads to the type, or a navigation property of the type of a path does. -/
def Reaches (m : Model) (paths : List ResourcePath) (u : EntityTypeHandle) : Prop :=
  ∃ path ∈ paths, ∃ t, path.entityType = some t ∧
    (u = t ∨ ∃ n ∈ m.navigationProperties t, u = (m.navigation n).target)

/-- A type of the name is reached. -/
def ReachesName (m : Model) (paths : List ResourcePath) (name : String) : Prop :=
  ∃ u, m.Reaches paths u ∧ (m.entityType u).qualifiedName = name

/-- The type is the last declared of the types of its name that are reached. -/
def Describes (m : Model) (paths : List ResourcePath) (u : EntityTypeHandle) : Prop :=
  m.Reaches paths u ∧ ∀ u', m.Reaches paths u' →
    (m.entityType u').qualifiedName = (m.entityType u).qualifiedName → u'.index ≤ u.index

theorem reachesName_of_entityType {path : ResourcePath} (hpath : path ∈ paths)
    (ht : path.entityType = some t) : m.ReachesName paths (m.entityType t).qualifiedName :=
  ⟨t, ⟨path, hpath, t, ht, Or.inl rfl⟩, rfl⟩

/-! ## Names of types -/

/-- The name is the name of an entity type. -/
def IsTypeName (m : Model) (name : String) : Prop := ∃ t, (m.entityType t).qualifiedName = name

theorem isTypeName_of_mem_typeNames {other : String} (h : other ∈ m.typeNames name) :
    m.IsTypeName other := by
  obtain ⟨rfl, t, ht⟩ := mem_typeNames.mp h
  exact ⟨t, findEntityType?_name ht⟩

theorem isTypeName_of_mem_parameterTypes {parameters : List Parameter}
    (h : name ∈ m.parameterTypes parameters) : m.IsTypeName name := by
  obtain ⟨⟨_, _⟩, hentry, hname⟩ := List.mem_flatMap.mp h
  obtain ⟨p, -, heq⟩ := List.mem_map.mp (Dictionary.mem_of_mem_ofList hentry)
  cases heq
  exact isTypeName_of_mem_typeNames hname

theorem isTypeName_of_mem_memberTypes (h : name ∈ m.memberTypes t) : m.IsTypeName name := by
  obtain ⟨⟨_, _⟩, hentry, hname⟩ := List.mem_flatMap.mp h
  rcases List.mem_append.mp (Dictionary.mem_of_mem_ofList hentry) with hproperty | hnavigation
  · obtain ⟨u, -, hproperty⟩ := List.mem_flatMap.mp hproperty
    obtain ⟨p, -, heq⟩ := List.mem_map.mp hproperty
    cases heq
    exact isTypeName_of_mem_typeNames hname
  · obtain ⟨n, -, heq⟩ := List.mem_map.mp hnavigation
    cases heq
    exact ⟨_, (List.mem_singleton.mp hname).symm⟩

end Model

namespace OpenApi

/-- No entity type is called as the error is: the name of a type has a dot in it. -/
theorem ne_errorComponent (h : m.IsTypeName name) : name ≠ errorComponent := by
  obtain ⟨t, rfl⟩ := h
  intro heq
  have hdot : '.' ∈ (m.entityType t).qualifiedName.toList := by
    simp [EntityType.qualifiedName, Name.join]
  rw [heq] at hdot
  exact absurd hdot (by decide)

/-! ## Components -/

namespace View

theorem mem_referencedTypes (provider : SchemaProvider) (hm : m.WellFormed)
    (h : m.paths settings = .ok paths) :
    u ∈ View.referencedTypes ⟨m, provider⟩ paths ↔ m.Reaches paths u := by
  have htypes := hm.entityType_mem_of_mem_paths h
  simp only [referencedTypes, typesOf, List.mem_filter, List.contains_iff_mem,
    List.mem_eraseDups, List.mem_flatMap, Option.mem_toList, List.mem_cons, List.mem_map]
  constructor
  · rintro ⟨-, path, hpath, t, ht, hu⟩
    refine ⟨path, hpath, t, ht, hu.imp_right ?_⟩
    rintro ⟨n, hn, rfl⟩
    exact ⟨n, hn, rfl⟩
  · rintro ⟨path, hpath, t, ht, hu⟩
    refine ⟨?_, path, hpath, t, ht, hu.imp_right ?_⟩
    · rcases hu with rfl | ⟨n, hn, rfl⟩
      · exact htypes path hpath u ht
      · exact hm.navigation_target_mem hn
    · rintro ⟨n, hn, rfl⟩
      exact ⟨n, hn, rfl⟩

/-- The components are the error and the types that are reached. -/
theorem mem_names_schemas (provider : SchemaProvider) (hm : m.WellFormed)
    (h : m.paths settings = .ok paths) :
    name ∈ Dictionary.names (View.schemas ⟨m, provider⟩ paths) ↔
      name = errorComponent ∨ m.ReachesName paths name := by
  rw [schemas, Dictionary.mem_names_ofList, List.map_cons, List.mem_cons, List.map_map]
  refine or_congr_right ?_
  simp only [List.mem_map, mem_referencedTypes provider hm h]
  rfl

theorem referencedTypes_pairwise (v : View) (paths : List ResourcePath) :
    (v.referencedTypes paths).Pairwise fun t t' => t.index < t'.index := by
  refine List.Pairwise.filter _ ?_
  rw [Model.entityTypeHandles, Model.handles, List.pairwise_map]
  exact List.pairwise_lt_range

/-- Of the types in order, the last of a name is the last declared of that name. -/
theorem exists_split_iff {types : List EntityTypeHandle} (name : EntityTypeHandle → String)
    (h : types.Pairwise fun t t' => t.index < t'.index) :
    (∃ before after, types = before ++ u :: after ∧ name u ∉ after.map name) ↔
      u ∈ types ∧ ∀ t ∈ types, name t = name u → t.index ≤ u.index := by
  constructor
  · rintro ⟨before, after, rfl, hafter⟩
    refine ⟨by simp, ?_⟩
    intro t ht hname
    rcases List.mem_append.mp ht with ht | ht
    · exact Nat.le_of_lt ((List.pairwise_append.mp h).2.2 t ht u List.mem_cons_self)
    · rcases List.mem_cons.mp ht with rfl | ht
      · exact Nat.le_refl _
      · exact absurd (List.mem_map.mpr ⟨t, ht, hname⟩) hafter
  · rintro ⟨hu, hlast⟩
    obtain ⟨before, after, rfl⟩ := List.append_of_mem hu
    refine ⟨before, after, rfl, ?_⟩
    intro hmem
    obtain ⟨t, ht, hname⟩ := List.mem_map.mp hmem
    have hlt := (List.pairwise_cons.mp (List.pairwise_append.mp h).2.1).1 t ht
    have hle := hlast t (by simp [ht]) hname
    omega

theorem errorSchema_references : errorSchema.references = [] := rfl

/-- The component schemas refer to the types of the members of described types. -/
theorem mem_schemas_references (hm : m.WellFormed) (h : m.paths settings = .ok paths) :
    name ∈ (View.schemas ⟨m, .edm⟩ paths).flatMap (·.2.references) ↔
      ∃ u, m.Describes paths u ∧ name ∈ m.memberTypes u := by
  have hdescribes : ∀ u, m.Describes paths u ↔
      ∃ before after, View.referencedTypes ⟨m, .edm⟩ paths = before ++ u :: after ∧
        (m.entityType u).qualifiedName ∉ after.map fun t => (m.entityType t).qualifiedName := by
    intro u
    rw [exists_split_iff (fun t => (m.entityType t).qualifiedName)
      (referencedTypes_pairwise ⟨m, .edm⟩ paths)]
    simp only [mem_referencedTypes .edm hm h, Model.Describes]
  rw [List.mem_flatMap, schemas]
  constructor
  · rintro ⟨⟨_, _⟩, hentry, hname⟩
    rcases Dictionary.mem_ofList_cons_iff.mp hentry with hentry | ⟨heq, -⟩
    · obtain ⟨u, hu, rfl, rfl⟩ := Dictionary.mem_ofList_map_iff.mp hentry
      rw [SchemaProvider.edm, SchemaProvider.edmEntity_references] at hname
      exact ⟨u, (hdescribes u).mpr hu, hname⟩
    · cases heq
      rw [errorSchema_references] at hname
      cases hname
  · rintro ⟨u, hu, hname⟩
    rw [← SchemaProvider.edmEntity_references] at hname
    refine ⟨((m.entityType u).qualifiedName, SchemaProvider.edmEntity m u), ?_, hname⟩
    refine Dictionary.mem_ofList_cons_iff.mpr (Or.inl ?_)
    exact Dictionary.mem_ofList_map_iff.mpr ⟨u, (hdescribes u).mp hu, rfl, rfl⟩

end View

/-! ## What a document refers to -/

variable {conversion : Conversion} {e : Endpoint}

theorem responses_nodup (h : m.convert settings = .ok conversion)
    (he : e ∈ conversion.endpoints) : (e.responses.map (·.status.text)).Nodup := by
  obtain ⟨path, -, navigation, he⟩ := Model.exists_context_of_mem_endpoints h he
  obtain ⟨r, hresponses, hsuccess⟩ := (PathContext.emits_of_mem he).responses_eq
  rw [hresponses]
  simpa using hsuccess.status_text_ne

/-- A document refers to what the bodies of the endpoints it keeps hold, and to the types
of the members of the types it describes. -/
theorem mem_references_iff (hm : m.WellFormed) (h : m.convert settings = .ok conversion)
    (info : Info) :
    name ∈ (Document.ofConversion m conversion info).references ↔
      (∃ e ∈ keptEndpoints conversion, ∃ payload ∈ e.payloads, name ∈ payloadReferences m payload) ∨
        ∃ u, m.Describes conversion.paths u ∧ name ∈ m.memberTypes u := by
  have hoperations := operations_references m (Model.convert_wellGrouped h) info .edm
  rw [Document.references, List.mem_append]
  refine or_congr ?_ (View.mem_schemas_references hm (Model.paths_of_convert h))
  rw [List.flatMap_def, hoperations.flatten.mem_iff, ← List.flatMap_def, List.mem_flatMap]
  refine exists_congr fun e => and_congr_right fun he => ?_
  exact View.mem_operation_references (responses_nodup h (mem_endpoints_of_kept he)) ""

/-! ## No reference leads nowhere -/

/-- The entity types that a document refers to are reached.  Wherever else a document refers
to an entity type, it is reached anyway. -/
structure ReferencesReached (m : Model) (conversion : Conversion) : Prop where
  /-- Those of the members of described types. -/
  members : ∀ t, m.Describes conversion.paths t →
    ∀ name ∈ m.memberTypes t, m.ReachesName conversion.paths name
  /-- Those of the parameters of actions. -/
  parameters : ∀ e ∈ keptEndpoints conversion, ∀ operation, e.path.called? m = some operation →
    operation.kind = .action →
    ∀ name ∈ m.parameterTypes operation.parameters, m.ReachesName conversion.paths name
  /-- Those of the results of imports with an entity set. -/
  results : ∀ e ∈ keptEndpoints conversion, ∀ i,
    e.path.segments.getLast? = some (.operationImport i) →
    (m.operationImport i).entitySet.isSome = true →
    ∀ result, (m.operation (m.operationImport i).operation).returnType = some result →
    ∀ name ∈ m.typeNames result.type, m.ReachesName conversion.paths name

theorem reachesName_of_carries {path : ResourcePath} {navigation : Option NavigationContext}
    (hpath : path ∈ paths) {payload : Payload}
    (h : (m.queryContext path navigation).value.Carries payload)
    (hname : name ∈ payloadReferences m payload) :
    name = errorComponent ∨ m.ReachesName paths name := by
  cases h with
  | entity htype | entityCollection htype =>
      obtain rfl := List.mem_singleton.mp hname
      obtain ⟨t, ht, rfl⟩ := Option.map_eq_some_iff.mp htype
      exact Or.inr (Model.reachesName_of_entityType hpath ht)
  | count | reference | referenceCollection => cases hname
  | error => exact Or.inl (List.mem_singleton.mp hname)

/-- The result of an operation is the type of the path, unless an import has an entity
set. -/
theorem ReferencesReached.reachesName_of_result (hr : ReferencesReached m conversion)
    (h : m.convert settings = .ok conversion) (he : e ∈ keptEndpoints conversion)
    (hpath : e.path ∈ conversion.paths) {operation : ODataApi.Operation} {result : ReturnType}
    (hcalled : e.path.called? m = some operation) (hresult : operation.returnType = some result)
    (hname : name ∈ m.typeNames result.type) : m.ReachesName conversion.paths name := by
  have hcalls := Model.callKnown_of_mem_paths (Model.paths_of_convert h) e.path hpath
  obtain ⟨rfl, t, ht⟩ := Model.mem_typeNames.mp hname
  have hreturned : ResourcePath.returnedType? m operation = some t := by
    rw [ResourcePath.returnedType?, hresult]
    exact ht
  rw [ResourcePath.called?] at hcalled
  split at hcalled
  case h_1 o hlast =>
      cases hcalled
      have htype := (hcalls.operation o hlast).2.trans hreturned
      rw [← Model.findEntityType?_name ht]
      exact Model.reachesName_of_entityType hpath htype
  case h_2 i hlast =>
      cases hcalled
      cases hset : (m.operationImport i).entitySet with
      -- the path has the type of the set, which need not be what is returned
      | some s => exact hr.results e he i hlast (by rw [hset]; rfl) result hresult _ hname
      | none =>
          have htype := (hcalls.operationImport i hlast).2
          rw [Model.elementType?, hset, hreturned] at htype
          rw [← Model.findEntityType?_name ht]
          exact Model.reachesName_of_entityType hpath htype
  case h_3 => cases hcalled

theorem ReferencesReached.reachesName_of_payload (hr : ReferencesReached m conversion)
    (h : m.convert settings = .ok conversion) (he : e ∈ keptEndpoints conversion)
    {payload : Payload} (hpayload : payload ∈ e.payloads)
    (hname : name ∈ payloadReferences m payload) :
    name = errorComponent ∨ m.ReachesName conversion.paths name := by
  obtain ⟨path, hpath, navigation, hmem⟩ :=
    Model.exists_context_of_mem_endpoints h (mem_endpoints_of_kept he)
  have hemits := PathContext.emits_of_mem hmem
  have heq : e.path = path := hemits.path_eq
  rcases hemits.payload_cases hpayload with hcarries | ⟨operation, called, hoperation, rfl⟩
  · exact reachesName_of_carries hpath hcarries hname
  · have hcalled := PathContext.called?_of_operation? hoperation
    rw [← PathContext.invoke_path operation called] at hcalled
    rcases PathContext.mem_invoke_payloads.mp hpayload with
      ⟨hkind, -, rfl⟩ | ⟨result, hresult, rfl⟩ | rfl
    · exact Or.inr (hr.parameters _ he operation hcalled hkind name hname)
    · rw [← heq] at hpath
      exact Or.inr (hr.reachesName_of_result h he hpath hcalled hresult hname)
    · exact Or.inl (List.mem_singleton.mp hname)

theorem exists_eq_invoke_of_kept (h : m.convert settings = .ok conversion)
    (he : e ∈ keptEndpoints conversion) {operation : ODataApi.Operation}
    (hcalled : e.path.called? m = some operation) :
    ∃ c name, e = PathContext.invoke c operation name := by
  obtain ⟨path, hpath, navigation, hmem⟩ :=
    Model.exists_context_of_mem_endpoints h (mem_endpoints_of_kept he)
  have heq : e.path = path := (PathContext.emits_of_mem hmem).path_eq
  have hcalls := Model.callKnown_of_mem_paths (Model.paths_of_convert h) path hpath
  rw [heq] at hcalled
  obtain ⟨name, hname⟩ := PathContext.exists_eq_invoke hcalls hcalled hmem
  exact ⟨_, name, hname⟩

theorem parameters_mem_payloads (h : m.convert settings = .ok conversion)
    (he : e ∈ keptEndpoints conversion) {operation : ODataApi.Operation}
    (hcalled : e.path.called? m = some operation) (hkind : operation.kind = .action)
    (hname : name ∈ m.parameterTypes operation.parameters) :
    Payload.parameters operation.parameters ∈ e.payloads := by
  obtain ⟨c, call, rfl⟩ := exists_eq_invoke_of_kept h he hcalled
  refine PathContext.mem_invoke_payloads.mpr (Or.inl ⟨hkind, ?_, rfl⟩)
  intro hnil
  rw [hnil] at hname
  cases hname

theorem value_mem_payloads (h : m.convert settings = .ok conversion)
    (he : e ∈ keptEndpoints conversion) {operation : ODataApi.Operation}
    (hcalled : e.path.called? m = some operation) {result : ReturnType}
    (hresult : operation.returnType = some result) :
    Payload.value result.type result.collection ∈ e.payloads := by
  obtain ⟨c, call, rfl⟩ := exists_eq_invoke_of_kept h he hcalled
  exact PathContext.mem_invoke_payloads.mpr (Or.inr (Or.inl ⟨result, hresult, rfl⟩))

/-- A document has every component that it refers to if and only if the entity types of the
members of described types, of the parameters of actions and of the results of imports with
an entity set are reached. -/
theorem references_present_iff {document : ODataApi.Document} {id : ModelId}
    (hm : document.resolve id = .ok m) (h : m.convert settings = .ok conversion) (info : Info) :
    (∀ name ∈ (Document.ofConversion m conversion info).references,
        name ∈ Dictionary.names (Document.ofConversion m conversion info).schemas) ↔
      ReferencesReached m conversion := by
  have hm := ODataApi.Document.resolve_wellFormed hm
  have hpresent : ∀ name,
      name ∈ Dictionary.names (Document.ofConversion m conversion info).schemas ↔
        name = errorComponent ∨ m.ReachesName conversion.paths name := by
    intro name
    exact View.mem_names_schemas .edm hm (Model.paths_of_convert h)
  simp only [hpresent, mem_references_iff hm h]
  constructor
  · intro hclosed
    refine ⟨?_, ?_, ?_⟩
    · intro t ht name hname
      exact (hclosed name (Or.inr ⟨t, ht, hname⟩)).resolve_left
        (ne_errorComponent (Model.isTypeName_of_mem_memberTypes hname))
    · intro e he operation hcalled hkind name hname
      have hpayload := parameters_mem_payloads h he hcalled hkind hname
      exact (hclosed name (Or.inl ⟨_, he, _, hpayload, hname⟩)).resolve_left
        (ne_errorComponent (Model.isTypeName_of_mem_parameterTypes hname))
    · intro e he i hlast _ result hresult name hname
      have hcalled : e.path.called? m
          = some (m.operation (m.operationImport i).operation) := by
        rw [ResourcePath.called?, hlast]
      have hpayload := value_mem_payloads h he hcalled hresult
      exact (hclosed name (Or.inl ⟨_, he, _, hpayload, hname⟩)).resolve_left
        (ne_errorComponent (Model.isTypeName_of_mem_typeNames hname))
  · rintro hr name (⟨e, he, payload, hpayload, hname⟩ | ⟨t, ht, hname⟩)
    · exact hr.reachesName_of_payload h he hpayload hname
    · exact Or.inr (hr.members t ht name hname)

/-- A type that leads to a second one, which leads to a third one. -/
def chainDocument : ODataApi.Document where
  ns := "A"
  entityTypes := [
    { name := "T", navigationProperties := [{ name := "n", type := "U" }] },
    { name := "U", navigationProperties := [{ name := "n", type := "V" }] },
    { name := "V" }]
  containers := [{ name := "C", singletons := [{ name := "S", type := "T" }] }]

/-- The model of `chainDocument`. -/
def chainModel : Model := chainDocument.loaded ⟨0⟩

/-- No navigation property is followed. -/
def shallow : Settings where
  maxNavigationDepth := 0

/-- Where navigation is not followed, the second type is described and the third is not. -/
theorem chainModel_reference_leads_nowhere :
    chainDocument.resolve ⟨0⟩ = .ok chainModel ∧
      ∃ conversion, chainModel.convert shallow = .ok conversion ∧
        "A.V" ∈ (Document.ofConversion chainModel conversion {}).references ∧
        "A.V" ∉ Dictionary.names (Document.ofConversion chainModel conversion {}).schemas ∧
        ¬ ReferencesReached chainModel conversion := by
  have hdepth : 0 ≤ shallow.maxNavigationDepth := by decide
  have hresolve : chainDocument.resolve ⟨0⟩ = .ok chainModel := rfl
  have hconvert := chainModel.convert_of_depth hdepth
  have hreferred : "A.V" ∈ (View.schemas ⟨chainModel, .edm⟩
      ((chainModel.queryAll (chainModel.allPaths shallow)).value.map (·.1))).flatMap
        (·.2.references) := by
    decide +kernel
  have hmissing : "A.V" ∉ Dictionary.names (View.schemas ⟨chainModel, .edm⟩
      ((chainModel.queryAll (chainModel.allPaths shallow)).value.map (·.1))) := by
    decide +kernel
  refine ⟨hresolve, _, hconvert, List.mem_append_right _ hreferred, hmissing, ?_⟩
  intro hreached
  have hpresent := (references_present_iff hresolve hconvert {}).mpr hreached
  exact hmissing (hpresent "A.V" (List.mem_append_right _ hreferred))

end OpenApi

end ODataApi
