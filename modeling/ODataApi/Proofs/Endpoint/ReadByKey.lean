import ODataApi.Proofs.Endpoint.Permissive
import ODataApi.Proofs.Path.Narrowing
import ODataApi.Proofs.Restriction.Context
import ODataApi.Proofs.Restriction.Precedence

/-!
# Reading a set and its entities

A set with a record of its own on reading is governed by it, and so are its entities and both as a
derived type (`Model.StaysWith.governing_read`).  The record tells apart whether the set can be
read and whether an entity can be read by its key.

What can be read by key decides on the path of an entity alone.  As a derived type an entity can be
read exactly if the set can (`set_and_entities_read`), also where the record says something else
about reading by key.
-/

namespace ODataApi

/-! ## What is read -/

namespace PathContext

variable {c : PathContext}

theorem exists_get_ofCollection :
    (∃ e ∈ c.ofCollection, e.method = .get) ↔ c.restrictions.read.value.isReadable = true := by
  simp only [get_mem_ofCollection_iff, exists_and_left, exists_eq, and_true]

theorem exists_get_ofEntity :
    (∃ e ∈ c.ofEntity, e.method = .get) ↔
      c.restrictions.indexable.value.isSupported = true ∧
        c.restrictions.read.value.isReadableByKey = true := by
  simp only [get_mem_ofEntity_iff, exists_and_left, exists_eq, and_true]

theorem exists_get_ofCast :
    (∃ e ∈ c.ofCast, e.method = .get) ↔ c.restrictions.read.value.isReadable = true := by
  simp only [get_mem_ofCast_iff, exists_and_left, exists_eq, and_true]

end PathContext

namespace Model

variable {m : Model} {settings : Settings} {paths : List ResourcePath} {path : ResourcePath}
  {s : EntitySetHandle}

/-! ## Paths that stay with a set -/

/-- What is known of a path that starts from a set and stays with it. -/
structure StaysWith (m : Model) (s : EntitySetHandle) (path : ResourcePath) : Prop where
  /-- It starts from the set. -/
  root : path.root = .entitySet s
  /-- It leads to the set. -/
  target : path.target = .entitySet s
  /-- It is bound nowhere else. -/
  binding : path.binding = none
  /-- It follows no navigation property. -/
  depth : path.depth = 0

theorem staysWith_of_mem_paths (h : m.paths settings = .ok paths) (hpath : path ∈ paths)
    {rest : List Segment} (hsegments : path.segments = .entitySet s :: rest)
    (hstays : ∀ segment ∈ rest, segment.leadsAway = false) : StaysWith m s path := by
  have hroot := rooted_of_mem_paths h path hpath
  rw [ResourcePath.Rooted, hsegments] at hroot
  have hall : ∀ segment ∈ path.segments, segment.leadsAway = false := by
    rw [hsegments, List.forall_mem_cons]
    exact ⟨rfl, hstays⟩
  obtain ⟨htarget, hbinding⟩ := stays_of_mem_paths h path hpath hall
  have hcounted := ResourcePath.depthCounted_of_mem_paths h path hpath
  have hdepth : path.depth = 0 := by
    refine not_not.mp fun hdepth => ?_
    obtain ⟨n, hn⟩ := hcounted.depth_ne_zero_iff.mp hdepth
    cases hall _ hn
  have hroot := (Option.some.inj hroot).symm
  exact ⟨hroot, htarget.trans hroot, hbinding, hdepth⟩

/-- The record of the set governs reading. -/
theorem StaysWith.governing_read (hpath : m.StaysWith s path) {r : ReadRestrictions}
    (h : m.record (.entitySet s) .readRestrictions = some r) :
    (m.governing .readRestrictions path).value = r := by
  rw [governing_eq, queryPath, pathCandidates, candidates, hpath.target,
    List.filter_cons_of_pos rfl, List.cons_append, List.cons_append, queryFirst_of_record _ h]

/-- Without a cast, what governs the set governs the path. -/
theorem StaysWith.governing_value (hpath : m.StaysWith s path)
    (htype : path.entityType = some (m.entitySet s).type) (term : Term) :
    (m.governing term path).value = m.effective term (.entitySet s) := by
  rw [governing_eq, effective_eq, queryPath, queryFor, pathCandidates, hpath.target,
    hpath.binding, hpath.root, htype]
  rfl

/-- An entity of a set is of the type of the set. -/
theorem entityType_of_key (hm : m.Hierarchical) (h : m.paths settings = .ok paths)
    (hpath : path ∈ paths) {t : EntityTypeHandle} {names : List String}
    (hsegments : path.segments = [.entitySet s, .key t names]) :
    path.entityType = some (m.entitySet s).type := by
  obtain ⟨-, rfl⟩ := paths_eq_ok h
  obtain ⟨c, -, hmem⟩ := List.mem_flatMap.mp hpath
  have htraced := traced_of_mem_containerPaths hm path hmem
  have haddressable := htraced.addressable
  have hposition := htraced.position
  have hlast : path.isTerminal = false := by
    rw [ResourcePath.isTerminal, hsegments]
    rfl
  rw [hsegments] at haddressable hposition
  rw [ResourcePath.position_eq hlast] at hposition
  obtain ⟨-, ⟨htype, -⟩, -⟩ := haddressable
  exact (congrArg Position.type hposition).trans htype.symm

/-! ## What is read on them -/

section

variable {r : ReadRestrictions} (hpath : m.StaysWith s path)
  (hrecord : m.record (.entitySet s) .readRestrictions = some r)

include hpath hrecord

theorem StaysWith.exists_context :
    ∃ c : PathContext, c.path = path ∧ (m.queryEndpoints path).value = c.endpoints m ∧
      c.restrictions.read.value = r ∧
      c.restrictions.indexable = m.governing .indexableByKey path := by
  have hrestrictions := queryContext_restrictions (m := m) path none
  refine ⟨(m.queryContext path none).value, rfl, ?_, ?_, ?_⟩
  · rw [queryEndpoints_value, queryContext?_of_root hpath.depth]
    rfl
  · exact (congrArg (·.read.value) hrestrictions).trans (hpath.governing_read hrecord)
  · exact congrArg PathRestrictions.indexable hrestrictions

theorem StaysWith.exists_get_of_entitySet (hkind : path.kind = .entitySet) :
    (∃ e ∈ (m.queryEndpoints path).value, e.method = .get) ↔ r.isReadable = true := by
  obtain ⟨c, rfl, hendpoints, rfl, -⟩ := hpath.exists_context hrecord
  rw [hendpoints, PathContext.endpoints, hkind]
  exact PathContext.exists_get_ofCollection

theorem StaysWith.exists_get_of_typeCast (hkind : path.kind = .typeCast) :
    (∃ e ∈ (m.queryEndpoints path).value, e.method = .get) ↔ r.isReadable = true := by
  obtain ⟨c, rfl, hendpoints, rfl, -⟩ := hpath.exists_context hrecord
  rw [hendpoints, PathContext.endpoints, hkind]
  exact PathContext.exists_get_ofCast

theorem StaysWith.exists_get_of_entity (hkind : path.kind = .entity)
    (htype : path.entityType = some (m.entitySet s).type) :
    (∃ e ∈ (m.queryEndpoints path).value, e.method = .get) ↔
      (m.effective .indexableByKey (.entitySet s)).isSupported = true ∧
        r.isReadableByKey = true := by
  obtain ⟨c, rfl, hendpoints, rfl, hindexable⟩ := hpath.exists_context hrecord
  rw [hendpoints, PathContext.endpoints, hkind, ← hpath.governing_value htype, ← hindexable]
  exact PathContext.exists_get_ofEntity

end

end Model

/-- A set that has its own record on reading can be read exactly if the record lets it, also as a
derived type.  Its entities can be read by key exactly if they can be addressed by key and the
record lets them be read by key; but as a derived type they can be read exactly if the set can. -/
theorem set_and_entities_read {document : Document} {id : ModelId} {m : Model}
    {settings : Settings} {s : EntitySetHandle} {value : Expression} {r : ReadRestrictions}
    (hload : document.resolve id = .ok m) (hdepth : 0 ≤ settings.maxNavigationDepth)
    (hvalue : m.annotation? (.entitySet s) Term.readRestrictions.qualifiedName = some value)
    (hread : (ReadRestrictions.read value).value = some r) :
    ∃ conversion : Conversion, m.convert settings = .ok conversion ∧
      m.paths settings = .ok (conversion.byPath.map (·.1)) ∧
      ∀ path endpoints, (path, endpoints) ∈ conversion.byPath →
        (path.segments = [.entitySet s] →
          ((∃ e ∈ endpoints, e.method = .get) ↔ r.isReadable = true)) ∧
        (∀ u, path.segments = [.entitySet s, .typeCast u] →
          ((∃ e ∈ endpoints, e.method = .get) ↔ r.isReadable = true)) ∧
        (∀ t names, path.segments = [.entitySet s, .key t names] →
          ((∃ e ∈ endpoints, e.method = .get) ↔
            (m.effective .indexableByKey (.entitySet s)).isSupported = true ∧
              r.isReadableByKey = true)) ∧
        ∀ t names u, path.segments = [.entitySet s, .key t names, .typeCast u] →
          ((∃ e ∈ endpoints, e.method = .get) ↔ r.isReadable = true) := by
  have hrecord : m.record (.entitySet s) .readRestrictions = some r :=
    Model.record_eq_some_iff.mpr ⟨value, hvalue, hread⟩
  obtain ⟨conversion, hconvert, hbyPath⟩ := m.exists_convert hdepth
  refine ⟨conversion, hconvert, hbyPath, fun path endpoints hmem => ?_⟩
  obtain ⟨hpath, rfl⟩ := (Model.mem_byPath_iff_of_depth hdepth hconvert).mp hmem
  have hpaths := m.paths_of_depth hdepth
  have hkind : ∀ segment, path.segments.getLast? = some segment →
      path.kind = segment.addresses :=
    fun _ => (Model.ended_of_mem_paths hpaths path hpath).kind_eq
  refine ⟨fun hsegments => ?_, fun u hsegments => ?_, fun t names hsegments => ?_,
    fun t names u hsegments => ?_⟩
  · have hstays := Model.staysWith_of_mem_paths hpaths hpath hsegments (by simp)
    exact hstays.exists_get_of_entitySet hrecord (hkind (.entitySet s) (by rw [hsegments]; rfl))
  · have hstays := Model.staysWith_of_mem_paths hpaths hpath hsegments
      (by simp [Segment.leadsAway])
    exact hstays.exists_get_of_typeCast hrecord (hkind (.typeCast u) (by rw [hsegments]; rfl))
  · have hstays := Model.staysWith_of_mem_paths hpaths hpath hsegments
      (by simp [Segment.leadsAway])
    have hm := (Document.resolve_wellFormed hload).toHierarchical
    have htype := Model.entityType_of_key hm hpaths hpath hsegments
    exact hstays.exists_get_of_entity hrecord (hkind (.key t names) (by rw [hsegments]; rfl)) htype
  · have hstays := Model.staysWith_of_mem_paths hpaths hpath hsegments
      (by simp [Segment.leadsAway])
    exact hstays.exists_get_of_typeCast hrecord (hkind (.typeCast u) (by rw [hsegments]; rfl))

/-- Tickets, some of which are bugs.  They can be listed but not read by key. -/
def ticketsDocument : Document where
  ns := "A"
  entityTypes := [{ name := "Ticket", key := ["Id"] }, { name := "Bug", base := some "Ticket" }]
  containers := [{ name := "C", entitySets := [{ name := "Tickets", type := "Ticket" }] }]
  annotations := [
    ⟨"A.C/Tickets", "Org.OData.Capabilities.V1.ReadRestrictions",
      .record none [("ReadByKeyRestrictions", .record none [("Readable", .bool false)])]⟩]

/-- The model of `ticketsDocument`. -/
def ticketsModel : Model := ticketsDocument.loaded ⟨0⟩

/-- A ticket cannot be read by its key, but one that is a bug can be read by its key as a bug. -/
theorem ticketsModel_reads :
    ticketsDocument.resolve ⟨0⟩ = .ok ticketsModel ∧
      ∃ r : ReadRestrictions,
        (∃ value, ticketsModel.annotation? (.entitySet ⟨0⟩) Term.readRestrictions.qualifiedName
            = some value ∧ (ReadRestrictions.read value).value = some r) ∧
        r.isReadable = true ∧ r.isReadableByKey = false ∧
        ∃ conversion : Conversion, ticketsModel.convert {} = .ok conversion ∧
          (∃ path endpoints, (path, endpoints) ∈ conversion.byPath ∧
            path.template = "/Tickets/\x7bId\x7d" ∧ ¬ ∃ e ∈ endpoints, e.method = .get) ∧
          ∃ path endpoints, (path, endpoints) ∈ conversion.byPath ∧
            path.template = "/Tickets/\x7bId\x7d/A.Bug" ∧ ∃ e ∈ endpoints, e.method = .get := by
  have hload : ticketsDocument.resolve ⟨0⟩ = .ok ticketsModel := rfl
  have hdepth : 0 ≤ ({} : Settings).maxNavigationDepth := by decide
  have hvalue : ticketsModel.annotation? (.entitySet ⟨0⟩) Term.readRestrictions.qualifiedName
      = some (.record none [("ReadByKeyRestrictions", .record none [("Readable", .bool false)])]) :=
    rfl
  have hread : (ReadRestrictions.read (.record none
      [("ReadByKeyRestrictions", .record none [("Readable", .bool false)])])).value
        = some { readByKey := some { readable := some false } } := rfl
  have hticket : ∃ path ∈ ticketsModel.allPaths {}, path.template = "/Tickets/\x7bId\x7d" ∧
      path.segments = [.entitySet ⟨0⟩, .key ⟨0⟩ ["Id"]] := by decide +kernel
  have hbug : ∃ path ∈ ticketsModel.allPaths {}, path.template = "/Tickets/\x7bId\x7d/A.Bug" ∧
      path.segments = [.entitySet ⟨0⟩, .key ⟨0⟩ ["Id"], .typeCast ⟨1⟩] := by decide +kernel
  obtain ⟨conversion, hconvert, hpaths, hall⟩ := set_and_entities_read hload hdepth hvalue hread
  have hmem : ∀ path ∈ ticketsModel.allPaths {},
      (path, (ticketsModel.queryEndpoints path).value) ∈ conversion.byPath :=
    fun _ hpath => (Model.mem_byPath_iff_of_depth hdepth hconvert).mpr ⟨hpath, rfl⟩
  refine ⟨hload, _, ⟨_, hvalue, hread⟩, rfl, rfl, conversion, hconvert, ?_, ?_⟩
  · obtain ⟨path, hpath, htemplate, hsegments⟩ := hticket
    obtain ⟨-, -, hkey, -⟩ := hall path _ (hmem path hpath)
    refine ⟨path, _, hmem path hpath, htemplate, ?_⟩
    rw [hkey _ _ hsegments]
    rintro ⟨-, hreadable⟩
    cases hreadable
  · obtain ⟨path, hpath, htemplate, hsegments⟩ := hbug
    obtain ⟨-, -, -, hcast⟩ := hall path _ (hmem path hpath)
    exact ⟨path, _, hmem path hpath, htemplate, (hcast _ _ _ hsegments).mpr rfl⟩

end ODataApi
