import ODataApi.Proofs.Endpoint.Permissive
import ODataApi.Proofs.Restriction.Context

/-!
# What reading asks of a client

A record on reading states permissions, headers and query options of the service's own.  An
endpoint that reads under the record asks a client for exactly these (`Endpoint.AsksFor`): the
permissions that name a scheme become its security, in order (`Demands`), and headers and query
options come last among its parameters (`Presents`).

Every GET of a resource, of a number of entities or of a resource as a derived type reads under the
record that governs its path.  The GET of a reference does not: whatever the record states, it asks
for nothing (`reading_asks_for_record`).
-/

namespace ODataApi

/-! ## What is asked for -/

/-- What permissions demand of a client: of each that names a scheme this scheme with the names of
its scopes, in order.  One that names no scheme demands nothing. -/
inductive Demands : List Permission → List SecurityRequirement → Prop
  | nil : Demands [] []
  | unnamed {permission : Permission} {permissions : List Permission}
      {security : List SecurityRequirement} (h : permission.schemeName = none)
      (rest : Demands permissions security) : Demands (permission :: permissions) security
  | named {permission : Permission} {permissions : List Permission}
      {security : List SecurityRequirement} {scheme : String}
      (h : permission.schemeName = some scheme) (rest : Demands permissions security) :
      Demands (permission :: permissions)
        (⟨scheme, permission.scopes.map (·.scope)⟩ :: security)

/-- A parameter presents a header or query option of the service's own. -/
structure Presents (place : ParameterPlace) (custom : CustomParameter)
    (parameter : EndpointParameter) : Prop where
  name : parameter.name = custom.name
  place : parameter.place = place
  required : parameter.required = true ↔ custom.required = some true
  described : ∀ text, custom.description = some text → parameter.description = some text
  examples : parameter.examples = custom.exampleValues

/-- After its standard parameters, an endpoint asks for what a record on reading states and for
nothing else. -/
structure Endpoint.AsksFor (e : Endpoint) (r : ReadRestrictionsBase)
    (standard : List EndpointParameter) : Prop where
  security : Demands (r.permissions.getD []) e.security
  parameters : ∃ headers options, e.parameters = standard ++ headers ++ options ∧
    List.Forall₂ (Presents .header) (r.customHeaders.getD []) headers ∧
    List.Forall₂ (Presents .query) (r.customQueryOptions.getD []) options

theorem demands_securityOf : ∀ permissions : List Permission,
    Demands permissions (securityOf (some permissions))
  | [] => .nil
  | permission :: permissions => by
      have rest := demands_securityOf permissions
      cases hscheme : permission.schemeName with
      | none =>
          have hskip : securityOf (some (permission :: permissions))
              = securityOf (some permissions) := by
            simp [securityOf, hscheme]
          rw [hskip]
          exact .unnamed hscheme rest
      | some scheme =>
          have htake : securityOf (some (permission :: permissions))
              = ⟨scheme, permission.scopes.map (·.scope)⟩ :: securityOf (some permissions) := by
            simp [securityOf, hscheme, Permission.scopeNames]
          rw [htake]
          exact .named hscheme rest

theorem presents_ofCustom (place : ParameterPlace) (custom : CustomParameter) :
    Presents place custom (.ofCustom place custom) where
  name := rfl
  place := rfl
  required := by
    show custom.required.getD false = true ↔ _
    cases custom.required with
    | none => simp
    | some required => simp
  described := by
    intro text h
    show (custom.description <|> _) = _
    rw [h]
    rfl
  examples := rfl

theorem forall₂_presents (place : ParameterPlace) (customs : List CustomParameter) :
    List.Forall₂ (Presents place) customs (customs.map (.ofCustom place)) := by
  rw [List.forall₂_map_right_iff, List.forall₂_same]
  exact fun custom _ => presents_ofCustom place custom

/-- Under a record, an endpoint that asked for nothing asks for what the record states. -/
theorem Endpoint.underRead_asksFor {e : Endpoint} (h : e.security = []) (r : ReadRestrictionsBase) :
    (e.underRead r).AsksFor r e.parameters := by
  constructor
  · have hsecurity : (e.underRead r).security = securityOf (some (r.permissions.getD [])) := by
      simp [underRead, withCustom, taking, h, securityOf]
    rw [hsecurity]
    exact demands_securityOf _
  · refine ⟨_, _, ?_, forall₂_presents .header (r.customHeaders.getD []),
      forall₂_presents .query (r.customQueryOptions.getD [])⟩
    rw [List.append_assoc]
    rfl

/-! ## What is read -/

/-- The record that governs the GET of a path: the one on reading by key for an entity addressed by
key, else the one on reading. -/
def PathRestrictions.readRecord (r : PathRestrictions) (path : ResourcePath) :
    ReadRestrictionsBase :=
  match path.kind with
  | .entity => r.read.value.byKey
  | _ => r.read.value.base

/-- The query options of the GET of a path. -/
def PathRestrictions.readOptions (r : PathRestrictions) (path : ResourcePath) :
    List EndpointParameter :=
  match path.kind with
  | .entitySet => r.collectionOptions
  | .entity | .singleton => r.entityOptions
  | .navigationProperty | .typeCast =>
    if path.collection then r.collectionOptions else r.entityOptions
  | .count => r.searchOption ++ r.filterOption
  | .ref => if path.collection then r.itemOptions else []
  | .operation | .operationImport => []

/-- The parameters of the GET of a path whatever is asked for: those of the template and the query
options. -/
def PathRestrictions.readParameters (r : PathRestrictions) (path : ResourcePath) :
    List EndpointParameter :=
  path.parameters.map .ofTemplate ++ r.readOptions path

namespace PathContext

variable {m : Model} {c : PathContext} {e : Endpoint}

/-- Every GET but that of a reference asks for what the record states. -/
theorem asksFor_of_mem (h : e ∈ c.endpoints m) (hget : e.method = .get)
    (hoperation : c.path.kind ≠ .operation) (himport : c.path.kind ≠ .operationImport)
    (href : c.path.kind ≠ .ref) :
    e.AsksFor (c.restrictions.readRecord c.path) (c.restrictions.readParameters c.path) := by
  rw [PathRestrictions.readRecord, PathRestrictions.readParameters, PathRestrictions.readOptions]
  rw [endpoints] at h
  cases hkind : c.path.kind with
  | entitySet =>
      rw [hkind] at h
      rw [(get_mem_ofCollection_iff.mp ⟨h, hget⟩).2]
      exact Endpoint.underRead_asksFor rfl _
  | entity =>
      rw [hkind] at h
      rw [(get_mem_ofEntity_iff.mp ⟨h, hget⟩).2.2]
      exact Endpoint.underRead_asksFor rfl _
  | singleton =>
      rw [hkind] at h
      rw [(get_mem_ofSingleton_iff.mp ⟨h, hget⟩).2]
      exact Endpoint.underRead_asksFor rfl _
  | navigationProperty =>
      simp only [hkind] at h ⊢
      -- a collection behind the property is read like a set
      split at h
      case isTrue hcollection =>
        rw [(get_mem_ofCollection_iff.mp ⟨h, hget⟩).2, if_pos hcollection]
        exact Endpoint.underRead_asksFor rfl _
      case isFalse hcollection =>
        rw [(get_mem_ofSingleNavigation_iff.mp ⟨h, hget⟩).2, if_neg hcollection]
        exact Endpoint.underRead_asksFor rfl _
  | typeCast =>
      rw [hkind] at h
      rw [(get_mem_ofCast_iff.mp ⟨h, hget⟩).2]
      simp only
      split
      · exact Endpoint.underRead_asksFor rfl _
      · exact Endpoint.underRead_asksFor rfl _
  | count =>
      rw [hkind] at h
      rw [(get_mem_ofCount_iff.mp ⟨h, hget⟩).2]
      exact Endpoint.underRead_asksFor rfl _
  | ref => exact absurd hkind href
  | operation => exact absurd hkind hoperation
  | operationImport => exact absurd hkind himport

/-- The GET of a reference asks for nothing. -/
theorem asks_nothing_of_ref (h : e ∈ c.endpoints m) (hget : e.method = .get)
    (href : c.path.kind = .ref) :
    e.security = [] ∧ e.parameters = c.restrictions.readParameters c.path := by
  rw [endpoints, href] at h
  rw [(get_mem_ofRef_iff.mp ⟨h, hget⟩).2, getRef, PathRestrictions.readParameters,
    PathRestrictions.readOptions, href]
  simp only
  split
  · exact ⟨rfl, rfl⟩
  · exact ⟨rfl, (List.append_nil _).symm⟩

end PathContext

/-- Every GET of a path that calls no operation has the parameters of the template and the query
options that are left, and asks for what the record in effect states: the one on reading by key for
an entity addressed by key, else the one on reading.  But the GET of a reference asks for nothing,
whatever the record states. -/
theorem reading_asks_for_record (m : Model) (settings : Settings)
    (hdepth : 0 ≤ settings.maxNavigationDepth) :
    ∃ conversion : Conversion, m.convert settings = .ok conversion ∧
      m.paths settings = .ok (conversion.byPath.map (·.1)) ∧
      ∀ path endpoints, (path, endpoints) ∈ conversion.byPath →
        path.kind ≠ .operation → path.kind ≠ .operationImport →
        ∀ e ∈ endpoints, e.method = .get →
          (path.kind ≠ .ref → e.AsksFor ((m.restrictionsOn path).readRecord path)
            ((m.restrictionsOn path).readParameters path)) ∧
          (path.kind = .ref → e.security = [] ∧
            e.parameters = (m.restrictionsOn path).readParameters path) := by
  obtain ⟨conversion, hconvert, hbyPath⟩ := m.exists_convert hdepth
  refine ⟨conversion, hconvert, hbyPath, ?_⟩
  intro path endpoints hmem hoperation himport e he hget
  obtain ⟨-, rfl⟩ := (Model.mem_byPath_iff_of_depth hdepth hconvert).mp hmem
  rcases m.queryEndpoints_restrictionsOn path with hnone | ⟨c, hendpoints, rfl, hrestrictions⟩
  · rw [hnone] at he
    cases he
  · rw [hendpoints] at he
    rw [← hrestrictions]
    exact ⟨PathContext.asksFor_of_mem he hget hoperation himport,
      PathContext.asks_nothing_of_ref he hget⟩

/-- People and their friends.  Reading a person takes a permission and a header, and there is a
query option. -/
def peopleDocument : Document where
  ns := "A"
  entityTypes := [
    { name := "Person", navigationProperties := [{ name := "friend", type := "Person" }] }]
  containers := [{ name := "C", singletons := [{ name := "Me", type := "Person" }] }]
  annotations := [
    ⟨"A.Person", "Org.OData.Capabilities.V1.ReadRestrictions", .record none [
      ("Permissions", .collection [.record none [("SchemeName", .string "OAuth"),
        ("Scopes", .collection [.record none [("Scope", .string "Person.Read")]])]]),
      ("CustomHeaders", .collection [
        .record none [("Name", .string "X-Reason"), ("Required", .bool true)]]),
      ("CustomQueryOptions", .collection [.record none [("Name", .string "trace")]])]⟩]

/-- The model of `peopleDocument`. -/
def peopleModel : Model := peopleDocument.loaded ⟨0⟩

/-- A friend is read with the permission, and the reference to a friend without it. -/
theorem peopleModel_reads :
    peopleDocument.resolve ⟨0⟩ = .ok peopleModel ∧
      0 ≤ (⟨1, true, true, true⟩ : Settings).maxNavigationDepth ∧
      ∃ conversion : Conversion, peopleModel.convert ⟨1, true, true, true⟩ = .ok conversion ∧
        (∃ path endpoints, (path, endpoints) ∈ conversion.byPath ∧
          path.template = "/Me/friend" ∧ ∃ e ∈ endpoints, e.method = .get ∧
            Demands [⟨some "OAuth", [⟨"Person.Read", none⟩]⟩] e.security) ∧
        ∃ path endpoints, (path, endpoints) ∈ conversion.byPath ∧
          path.template = "/Me/friend/$ref" ∧
          ((peopleModel.restrictionsOn path).readRecord path).permissions
            = some [⟨some "OAuth", [⟨"Person.Read", none⟩]⟩] ∧
          ∃ e ∈ endpoints, e.method = .get ∧ e.security = [] := by
  have hdepth : 0 ≤ (⟨1, true, true, true⟩ : Settings).maxNavigationDepth := by decide
  have hfriend : ∃ path ∈ peopleModel.allPaths ⟨1, true, true, true⟩,
      path.template = "/Me/friend" ∧ path.kind = .navigationProperty ∧
        ((peopleModel.restrictionsOn path).readRecord path).permissions
          = some [⟨some "OAuth", [⟨"Person.Read", none⟩]⟩] ∧
        ∃ e ∈ (peopleModel.queryEndpoints path).value, e.method = .get := by
    simp only [Model.restrictionsOn_eq]
    decide +kernel
  have href : ∃ path ∈ peopleModel.allPaths ⟨1, true, true, true⟩,
      path.template = "/Me/friend/$ref" ∧ path.kind = .ref ∧
        ((peopleModel.restrictionsOn path).readRecord path).permissions
          = some [⟨some "OAuth", [⟨"Person.Read", none⟩]⟩] ∧
        ∃ e ∈ (peopleModel.queryEndpoints path).value, e.method = .get := by
    simp only [Model.restrictionsOn_eq]
    decide +kernel
  obtain ⟨conversion, hconvert, -, hall⟩ :=
    reading_asks_for_record peopleModel ⟨1, true, true, true⟩ hdepth
  have hmem : ∀ path ∈ peopleModel.allPaths ⟨1, true, true, true⟩,
      (path, (peopleModel.queryEndpoints path).value) ∈ conversion.byPath :=
    fun _ hpath => (Model.mem_byPath_iff_of_depth hdepth hconvert).mpr ⟨hpath, rfl⟩
  refine ⟨rfl, hdepth, conversion, hconvert, ?_, ?_⟩
  · obtain ⟨path, hpath, htemplate, hkind, hpermissions, e, he, hget⟩ := hfriend
    have hread := hall path _ (hmem path hpath) (by simp [hkind]) (by simp [hkind]) e he hget
    have hsecurity := (hread.1 (by simp [hkind])).security
    rw [hpermissions] at hsecurity
    exact ⟨path, _, hmem path hpath, htemplate, e, he, hget, hsecurity⟩
  · obtain ⟨path, hpath, htemplate, hkind, hpermissions, e, he, hget⟩ := href
    have hread := hall path _ (hmem path hpath) (by simp [hkind]) (by simp [hkind]) e he hget
    exact ⟨path, _, hmem path hpath, htemplate, hpermissions, e, he, hget, (hread.2 hkind).1⟩

end ODataApi
