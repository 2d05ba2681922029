import ODataApi.Proofs.OpenApi.Items

/-!
# References to component schemas

`Document.references` lists the components that a document refers to, from the
operations and from the component schemas themselves.

What a schema refers to is what stands under `$ref` when it is written
(`Schema.toJson_refs`).  A component schema refers to the entity types of its members
(`SchemaProvider.edmEntity_references`), a body to the entity types it holds
(`View.payloadSchema_references`).  A reference of the operations is one of a body of an
endpoint that the document keeps (`mem_operationReferences_iff`): the name of an operation
plays no part in it.
-/

namespace ODataApi

/-! ## The entity types that a model names -/

namespace Model

/-- A name, if it is the name of an entity type. -/
def typeNames (m : Model) (name : String) : List String :=
  if (m.findEntityType? name).isSome then [name] else []

/-- The entity types of the members of a type, of which the last of a name counts. -/
def memberTypes (m : Model) (t : EntityTypeHandle) : List String :=
  (Dictionary.ofList
    (((m.typeChain t).reverse.flatMap fun u =>
        (m.entityType u).properties.map fun p => (p.name, m.typeNames p.type))
      ++ (m.navigationProperties t).map fun n =>
        ((m.navigation n).name, [(m.entityType (m.navigation n).target).qualifiedName]))).flatMap
    (·.2)

/-- The entity types of parameters, of which the last of a name counts. -/
def parameterTypes (m : Model) (parameters : List Parameter) : List String :=
  (Dictionary.ofList (parameters.map fun p => (p.name, m.typeNames p.type))).flatMap (·.2)

theorem mem_typeNames {m : Model} {name other : String} :
    other ∈ m.typeNames name ↔ other = name ∧ ∃ t, m.findEntityType? name = some t := by
  rw [typeNames, List.mem_ite_nil_right, List.mem_singleton, Option.isSome_iff_exists, and_comm]

end Model

namespace OpenApi

/-- The components that a body refers to. -/
def payloadReferences (m : Model) : Payload → List String
  | .entity type | .entityCollection type => [type]
  | .value type _ => m.typeNames type
  | .parameters parameters => m.parameterTypes parameters
  | .count | .reference | .referenceCollection => []
  | .error => [errorComponent]

/-! ## Schemas -/

namespace Schema

theorem propertyReferences_eq : ∀ properties : List (String × Schema),
    propertyReferences properties = properties.flatMap fun p => p.2.references
  | [] => by
      rw [propertyReferences]
      rfl
  | (_, schema) :: rest => by
      rw [propertyReferences, propertyReferences_eq rest, List.flatMap_cons]

theorem references_record (properties : List (String × Schema)) (required : List String)
    (title : Option String) :
    (record properties required title).references
      = (Dictionary.ofList (properties.map fun p => (p.1, p.2.references))).flatMap (·.2) := by
  rw [record, references, propertyReferences_eq, Dictionary.ofList_map references,
    List.flatMap_map]

@[simp] theorem references_many (collection : Bool) (schema : Schema) :
    (many collection schema).references = schema.references := by
  cases collection with
  | false => rfl
  | true => rfl

@[simp] theorem edmPrimitive_references (name : String) :
    (SchemaProvider.edmPrimitive name).references = [] := by
  unfold SchemaProvider.edmPrimitive
  split <;> rfl

theorem references_ofType (m : Model) (name : String) (collection : Bool) :
    (ofType SchemaProvider.edmPrimitive m name collection).references = m.typeNames name := by
  rw [ofType, references_many, Model.typeNames]
  cases m.findEntityType? name with
  | none => exact edmPrimitive_references name
  | some t => rfl

end Schema

theorem SchemaProvider.edmEntity_references (m : Model) (t : EntityTypeHandle) :
    (edmEntity m t).references = m.memberTypes t := by
  rw [edmEntity, Schema.references_record, Model.memberTypes, List.map_append]
  congr 3
  · rw [edmProperties, List.map_flatMap]
    simp only [List.map_map, Function.comp_def, Schema.references_ofType]
  · rw [edmNavigation, List.map_map]
    simp only [Function.comp_def, Schema.references_many]
    rfl

theorem valueWrapper_references (items : Schema) :
    (valueWrapper items).references = items.references := by
  simp [valueWrapper, Schema.references_record, Dictionary.ofList, Dictionary.insert,
    Schema.references]

theorem View.payloadSchema_references (m : Model) (payload : Payload) :
    (View.payloadSchema ⟨m, .edm⟩ payload).references = payloadReferences m payload := by
  cases payload with
  | entity type => rfl
  | entityCollection type => exact valueWrapper_references _
  | value type collection =>
      cases collection with
      | false => exact Schema.references_ofType m type false
      | true =>
          rw [payloadSchema, valueWrapper_references]
          exact Schema.references_ofType m type false
  | parameters parameters =>
      rw [payloadSchema, Schema.references_record, List.map_map]
      simp only [Function.comp_def, payloadReferences, Model.parameterTypes]
      congr 3
      funext p
      exact congrArg (p.name, ·) (Schema.references_ofType m p.type p.collection)
  | count => rfl
  | reference => rfl
  | referenceCollection => rfl
  | error => rfl

end OpenApi

/-! ## References in JSON -/

namespace Json

mutual

/-- The texts that stand under `$ref` anywhere in a value. -/
def refs : Json → List String
  | .array items => refsOfItems items
  | .object members => refsOfMembers members
  | .null | .bool _ | .number _ | .string _ => []

/-- The texts that stand under `$ref` in items. -/
def refsOfItems : List Json → List String
  | [] => []
  | item :: rest => refs item ++ refsOfItems rest

/-- The texts that stand under `$ref` in members. -/
def refsOfMembers : List (String × Json) → List String
  | [] => []
  | (name, .string text) :: rest => (if name = "$ref" then [text] else []) ++ refsOfMembers rest
  | (_, value) :: rest => refs value ++ refsOfMembers rest

end

theorem refsOfMembers_append (members members' : List (String × Json)) :
    refsOfMembers (members ++ members') = refsOfMembers members ++ refsOfMembers members' := by
  induction members with
  | nil => rfl
  | cons first rest ih =>
      obtain ⟨name, value⟩ := first
      cases value <;> simp [refsOfMembers, ih]

theorem refs_ofStrings (items : List String) : refs (ofStrings items) = [] := by
  rw [ofStrings, refs]
  induction items with
  | nil => rfl
  | cons first rest ih => exact ih

end Json

namespace OpenApi

namespace Schema

theorem optionalMember_refs {name : String} (h : name ≠ "$ref") (value : Option String) :
    Json.refsOfMembers (optionalMember name value) = [] := by
  cases value with
  | none => rfl
  | some text => simp [optionalMember, Json.refsOfMembers, h]

theorem listMember_refs (name : String) (items : List String) :
    Json.refsOfMembers (listMember name items) = [] := by
  rw [listMember]
  split
  · rfl
  · have hitems := Json.refs_ofStrings items
    rw [Json.ofStrings] at hitems
    simp [Json.refsOfMembers, Json.ofStrings, hitems]

theorem refsOfMembers_toJson (name : String) (schema : Schema) (rest : List (String × Json)) :
    Json.refsOfMembers ((name, schema.toJson) :: rest)
      = schema.toJson.refs ++ Json.refsOfMembers rest := by
  cases schema <;> simp [toJson, Json.refsOfMembers]

mutual

/-- A schema as JSON refers to the components that the schema refers to. -/
theorem toJson_refs : ∀ schema : Schema,
    schema.toJson.refs = schema.references.map (componentPath ++ ·)
  | .component name => by simp [toJson, Json.refs, Json.refsOfMembers, references]
  | .scalar type format title => by
      simp [toJson, Json.refs, Json.refsOfMembers, references, Json.refsOfMembers_append,
        optionalMember_refs]
  | .array items => by
      simp [toJson, Json.refs, Json.refsOfMembers, references, refsOfMembers_toJson,
        toJson_refs items]
  | .object properties required title => by
      have ih := membersOf_refs properties
      rw [toJson, Json.refs, references, Json.refsOfMembers_append, Json.refsOfMembers_append,
        Json.refsOfMembers_append, optionalMember_refs (by decide), listMember_refs, ← ih]
      -- an object without properties is written without the member for them
      cases properties with
      | nil => simp [Json.refsOfMembers, membersOf]
      | cons first rest => simp [Json.refsOfMembers, Json.refs]

theorem membersOf_refs : ∀ properties : List (String × Schema),
    Json.refsOfMembers (membersOf properties)
      = (propertyReferences properties).map (componentPath ++ ·)
  | [] => by simp [membersOf, propertyReferences, Json.refsOfMembers]
  | (name, schema) :: rest => by
      rw [membersOf, propertyReferences, refsOfMembers_toJson, toJson_refs schema,
        membersOf_refs rest, List.map_append]

end

end Schema

/-! ## Operations -/

/-- The components that an operation refers to. -/
def Operation.references (operation : Operation) : List String :=
  operation.parameters.flatMap (·.schema.references)
    ++ operation.requestBody.toList.flatMap (·.content.schema.references)
    ++ operation.responses.flatMap fun (_, r) => r.content.toList.flatMap (·.schema.references)

namespace View

variable {m : Model} {e : Endpoint} {name : String}

theorem parameterSchema_references (type : ParameterType) :
    (View.parameterSchema ⟨m, .edm⟩ type).references = [] := by
  cases type with
  | primitive name => exact Schema.edmPrimitive_references name
  | integer => rfl
  | boolean => rfl
  | string => rfl
  | stringList => rfl

theorem mem_requestBody_references {body : Option ODataApi.RequestBody} :
    name ∈ (body.map (View.requestBody ⟨m, .edm⟩)).toList.flatMap (·.content.schema.references) ↔
      ∃ payload ∈ (body.map (·.payload)).toList, name ∈ payloadReferences m payload := by
  cases body with
  | none => simp
  | some body => simp [requestBody, payloadSchema_references]

theorem mem_response_references {r : ODataApi.Response} :
    name ∈ (View.response ⟨m, .edm⟩ r).content.toList.flatMap (·.schema.references) ↔
      ∃ payload, r.payload = some payload ∧ name ∈ payloadReferences m payload := by
  rw [response]
  cases r.payload with
  | none => simp
  | some payload => simp [payloadSchema_references]

/-- The responses of an operation are the responses of its endpoint. -/
theorem mem_responses_references (h : (e.responses.map (·.status.text)).Nodup) :
    (∃ entry ∈ Dictionary.ofList
        (e.responses.map fun r => (r.status.text, View.response ⟨m, .edm⟩ r)),
      name ∈ entry.2.content.toList.flatMap (·.schema.references)) ↔
      ∃ payload ∈ e.responses.filterMap (·.payload), name ∈ payloadReferences m payload := by
  have hkeys : ((e.responses.map fun r => (r.status.text, View.response ⟨m, .edm⟩ r)).map
      (·.1)).Nodup := by
    rw [List.map_map]
    exact h
  constructor
  · rintro ⟨⟨_, _⟩, hentry, hname⟩
    rw [Dictionary.mem_ofList_of_nodup hkeys, List.mem_map] at hentry
    obtain ⟨r, hr, heq⟩ := hentry
    cases heq
    obtain ⟨payload, hpayload, hname⟩ := mem_response_references.mp hname
    exact ⟨payload, List.mem_filterMap.mpr ⟨r, hr, hpayload⟩, hname⟩
  · rintro ⟨payload, hpayload, hname⟩
    obtain ⟨r, hr, hpayload⟩ := List.mem_filterMap.mp hpayload
    refine ⟨(r.status.text, View.response ⟨m, .edm⟩ r), ?_, ?_⟩
    · rw [Dictionary.mem_ofList_of_nodup hkeys]
      exact List.mem_map_of_mem hr
    · exact mem_response_references.mpr ⟨payload, hpayload, hname⟩

theorem mem_operation_references (h : (e.responses.map (·.status.text)).Nodup) (id : String) :
    name ∈ (View.operation ⟨m, .edm⟩ e id).references ↔
      ∃ payload ∈ e.payloads, name ∈ payloadReferences m payload := by
  have hparameters : (View.operation ⟨m, .edm⟩ e id).parameters.flatMap (·.schema.references)
      = [] := by
    rw [List.flatMap_eq_nil_iff]
    intro p hp
    obtain ⟨p, -, rfl⟩ := List.mem_map.mp hp
    exact parameterSchema_references p.type
  rw [Operation.references, hparameters, List.nil_append, List.mem_append]
  refine (or_congr mem_requestBody_references
    (List.mem_flatMap.trans (mem_responses_references h))).trans ?_
  simp only [Endpoint.payloads, List.mem_append, or_and_right, exists_or]

end View

/-! ## Documents -/

/-- The components that a document refers to. -/
def Document.references (document : Document) : List String :=
  document.operations.flatMap (·.references)
    ++ document.schemas.flatMap fun (_, schema) => schema.references

/-- The first endpoint of each template and method. -/
def keptEndpoints (conversion : Conversion) : List Endpoint :=
  (firsts (conversion.endpoints.map fun e => ((e.path.template, e.method), e))).map (·.2)

theorem mem_endpoints_of_kept {conversion : Conversion} {e : Endpoint}
    (h : e ∈ keptEndpoints conversion) : e ∈ conversion.endpoints := by
  obtain ⟨entry, hentry, rfl⟩ := List.mem_map.mp h
  obtain ⟨e, he, rfl⟩ := List.mem_map.mp ((firsts_sublist _).subset hentry)
  exact he

/-- The components that the operation of an endpoint refers to, whatever its name is. -/
def View.endpointReferences (v : View) (e : Endpoint) : List String :=
  (v.operation e "").references

theorem View.rendered_references (v : View) (used : List String) (endpoints : List Endpoint) :
    (v.rendered used endpoints).map (fun x => (x.1, x.2.references))
      = endpoints.map fun e => ((e.path.template, e.method), v.endpointReferences e) := by
  induction endpoints generalizing used with
  | nil => rfl
  | cons e rest ih => exact congrArg (_ :: ·) (ih (e.operationId :: used))

/-- The references of the operations of a document are those of the endpoints it keeps. -/
theorem operations_references (m : Model) {conversion : Conversion}
    (h : WellGrouped conversion.groups) (info : Info) (provider : SchemaProvider) :
    ((Document.ofConversion m conversion info provider).operations.map (·.references)).Perm
      ((keptEndpoints conversion).map (View.endpointReferences ⟨m, provider⟩)) := by
  have hentries := (entries_perm_firsts m conversion info provider h).map
    fun x => (x.1, x.2.references)
  have hkept : (conversion.endpoints.map fun e =>
        ((e.path.template, e.method), View.endpointReferences ⟨m, provider⟩ e))
      = (conversion.endpoints.map fun e => ((e.path.template, e.method), e)).map fun x =>
        (x.1, View.endpointReferences ⟨m, provider⟩ x.2) := by
    rw [List.map_map]
    rfl
  rw [← firsts_map, View.rendered_references, hkept, firsts_map] at hentries
  have hvalues := hentries.map (·.2)
  rw [List.map_map, List.map_map] at hvalues
  rw [← entries_map_operation, List.map_map, keptEndpoints, List.map_map]
  exact hvalues

end OpenApi

end ODataApi
