import ODataApi.Proofs.Document.Coherent
import ODataApi.Proofs.Restriction.Reachable

/-!
# Which annotation governs

Of the candidates for a resource the first one governs whose annotation has the shape of a record
of the term (`Model.Governs`).  Candidates without an annotation and those whose annotation has
another shape are passed over, and if none is left the defaults of the term govern.

The candidates are told by what they are: elements, the type of the resource with its base types
(`Model.Lineage`), and a container.  A look-up finds what governs, with every cache that can be
met (`lookUp_finds_governing`).
-/

namespace ODataApi

/-! ## Annotations of the right shape -/

namespace Term

/-- Terms whose value is a boolean rather than a record. -/
def isTag : Term → Bool
  | indexableByKey | topSupported | skipSupported => true
  | _ => false

/-- Whether a value has the shape that a term asks for.  What its parts look like does not
matter, and a tag without a value stands for true. -/
def fits (term : Term) : Expression → Bool
  | .record _ _ => !term.isTag
  | .bool _ | .null => term.isTag
  | _ => false

theorem read_isSome (term : Term) (value : Expression) :
    (term.read value).value.isSome = term.fits value := by
  -- what the parts of a record look like is never a reason to give up the record
  cases term <;> cases value <;> rfl

end Term

namespace Model

variable {m : Model} {term : Term}

/-- An element has an annotation of the right shape. -/
def Gives (m : Model) (term : Term) (element : Element) : Prop :=
  ∃ value, m.annotation? element term.qualifiedName = some value ∧ term.fits value = true

instance (m : Model) (term : Term) (element : Element) : Decidable (m.Gives term element) :=
  decidable_of_iff ((m.annotation? element term.qualifiedName).any term.fits = true)
    (by simp [Gives, Option.any_eq_true])

theorem record_eq_some_iff {element : Element} {record : term.Record} :
    m.record element term = some record ↔
      ∃ value, m.annotation? element term.qualifiedName = some value ∧
        (term.read value).value = some record := by
  rw [record_eq, Option.bind_eq_some_iff]

theorem gives_iff {element : Element} :
    m.Gives term element ↔ ∃ record, m.record element term = some record := by
  simp only [record_eq_some_iff]
  constructor
  · rintro ⟨value, hvalue, hfits⟩
    rw [← Term.read_isSome] at hfits
    obtain ⟨record, hrecord⟩ := Option.isSome_iff_exists.mp hfits
    exact ⟨record, value, hvalue, hrecord⟩
  · rintro ⟨record, value, hvalue, hrecord⟩
    refine ⟨value, hvalue, ?_⟩
    rw [← Term.read_isSome, hrecord]
    rfl

/-! ## The first candidate that gives a record -/

/-- What governs where these are the candidates. -/
inductive Governs (m : Model) (term : Term) (candidates : List Element) :
    Resolved term.Record → Prop
  | first {before after : List Element} {element : Element} {value : Expression}
      {record : term.Record} (hcandidates : candidates = before ++ element :: after)
      (hbefore : ∀ e ∈ before, ¬ m.Gives term e)
      (hvalue : m.annotation? element term.qualifiedName = some value)
      (hrecord : (term.read value).value = some record) :
      Governs m term candidates ⟨record, some element⟩
  | defaults (hnone : ∀ e ∈ candidates, ¬ m.Gives term e) :
      Governs m term candidates ⟨term.defaults, none⟩

theorem Governs.cons {element : Element} {rest : List Element} {result : Resolved term.Record}
    (helement : ¬ m.Gives term element) (h : m.Governs term rest result) :
    m.Governs term (element :: rest) result := by
  cases h with
  | @first before after found value record hrest hbefore hvalue hrecord =>
      have hcandidates : element :: rest = (element :: before) ++ found :: after :=
        congrArg (element :: ·) hrest
      exact .first hcandidates (List.forall_mem_cons.mpr ⟨helement, hbefore⟩) hvalue hrecord
  | defaults hnone => exact .defaults (List.forall_mem_cons.mpr ⟨helement, hnone⟩)

theorem queryFirst_of_record {element : Element} {record : term.Record} (rest : List Element)
    (h : m.record element term = some record) :
    (m.queryFirst term (element :: rest)).value = ⟨record, some element⟩ := by
  simp [queryFirst, query, h]

theorem queryFirst_of_not_gives {element : Element} (rest : List Element)
    (h : ¬ m.Gives term element) :
    (m.queryFirst term (element :: rest)).value = (m.queryFirst term rest).value := by
  have hnone : m.record element term = none := by
    rw [gives_iff, not_exists] at h
    exact Option.eq_none_iff_forall_ne_some.mpr h
  simp [queryFirst, query, hnone]

/-- The search through the candidates finds what governs. -/
theorem queryFirst_governs :
    ∀ candidates : List Element, m.Governs term candidates (m.queryFirst term candidates).value
  | [] => .defaults fun e he => absurd he List.not_mem_nil
  | element :: rest => by
      by_cases hgives : m.Gives term element
      · obtain ⟨record, hrecord⟩ := gives_iff.mp hgives
        obtain ⟨value, hvalue, hread⟩ := record_eq_some_iff.mp hrecord
        rw [queryFirst_of_record rest hrecord]
        exact .first (List.nil_append _).symm (fun e he => absurd he List.not_mem_nil) hvalue hread
      · rw [queryFirst_of_not_gives rest hgives]
        exact (queryFirst_governs rest).cons hgives

theorem queryFirst_append {candidates : List Element} :
    ∀ {before : List Element}, (∀ e ∈ before, ¬ m.Gives term e) →
      (m.queryFirst term (before ++ candidates)).value = (m.queryFirst term candidates).value
  | [], _ => rfl
  | element :: before, h => by
      rw [List.forall_mem_cons] at h
      rw [List.cons_append, queryFirst_of_not_gives _ h.1, queryFirst_append h.2]

/-- Nothing else governs. -/
theorem governs_iff {candidates : List Element} {result : Resolved term.Record} :
    m.Governs term candidates result ↔ (m.queryFirst term candidates).value = result := by
  constructor
  · intro h
    cases h with
    | @first before after element value record hcandidates hbefore hvalue hrecord =>
        rw [hcandidates, queryFirst_append hbefore]
        exact queryFirst_of_record after (record_eq_some_iff.mpr ⟨value, hvalue, hrecord⟩)
    | defaults hnone =>
        rw [← List.append_nil candidates, queryFirst_append hnone]
        rfl
  · rintro rfl
    exact queryFirst_governs candidates

/-! ## Candidates -/

/-- A type, if there is one, its base, and so on. -/
inductive Lineage (m : Model) : Option EntityTypeHandle → List EntityTypeHandle → Prop
  | none : Lineage m none []
  | some {t : EntityTypeHandle} {chain : List EntityTypeHandle}
      (h : Lineage m (m.entityType t).base chain) : Lineage m (some t) (t :: chain)

theorem lineage_typeChain (hm : m.Acyclic) (t : EntityTypeHandle) :
    m.Lineage (some t) (m.typeChain t) := by
  induction t using hm.induction with
  | root t h =>
      rw [typeChain_of_root h]
      refine .some ?_
      rw [h]
      exact .none
  | extend t b h ih =>
      rw [typeChain_of_extends hm h]
      refine .some ?_
      rw [Extends] at h
      rw [h]
      exact ih

theorem exists_lineage (hm : m.Acyclic) (type : Option EntityTypeHandle) :
    ∃ chain, m.Lineage type chain ∧ type.toList.flatMap m.typeChain = chain := by
  cases type with
  | none => exact ⟨[], .none, rfl⟩
  | some t => exact ⟨m.typeChain t, lineage_typeChain hm t, List.flatMap_singleton m.typeChain t⟩

/-- An element by itself, but types and containers not. -/
def own : Element → List Element
  | .entityType _ | .container _ => []
  | e => [e]

theorem filter_isDirect (e : Element) : [e].filter isDirect = own e := by
  cases e with
  | entityType | container => rfl
  | entitySet | singleton | navigationProperty | operation | operationImport => rfl

/-! ## Elements that paths are bound to -/

theorem isDirect_of_mem_sources {c : ContainerHandle} {e : Element}
    (h : e ∈ (m.container c).sources) : isDirect e = true := by
  rw [Container.sources, List.mem_append] at h
  rcases h with h | h
  · obtain ⟨s, -, rfl⟩ := List.mem_map.mp h
    rfl
  · obtain ⟨s, -, rfl⟩ := List.mem_map.mp h
    rfl

theorem Linked.isDirect_of_navigationBinding? (hm : m.Linked) {owner e : Element} {name : String}
    (howner : owner ∈ m.elements) (h : m.navigationBinding? owner name = some e) :
    isDirect e = true := by
  obtain ⟨b, hb, rfl⟩ := Option.map_eq_some_iff.mp h
  obtain ⟨c, -, -, htarget⟩ := hm.binding_target_mem howner (List.mem_of_find?_eq_some hb)
  exact isDirect_of_mem_sources htarget

theorem WellFormed.root_mem_of_mem_rootPaths (hm : m.WellFormed) {c : ContainerHandle}
    (hc : c ∈ m.containerHandles) {path : ResourcePath} (h : path ∈ m.rootPaths c) :
    path.root ∈ m.elements := by
  rcases mem_rootPaths.mp h with (⟨s, hs, rfl⟩ | ⟨s, hs, rfl⟩) | ⟨i, hi, rfl⟩
  · exact entitySet_mem_elements.mpr (hm.mem_entitySetHandles hc hs)
  · exact singleton_mem_elements.mpr (hm.mem_singletonHandles hc hs)
  · rw [ResourcePath.ofImport, ResourcePath.call_root]
    exact operationImport_mem_elements.mpr ⟨c, hc, hi⟩

/-- Only sets and singletons are bound. -/
theorem Linked.isDirect_of_binding (hm : m.Linked) {settings : Settings}
    {paths : List ResourcePath} (h : m.paths settings = .ok paths) :
    ∀ path ∈ paths, ∀ e, path.binding = some e → isDirect e = true := by
  have hpaths : ∀ path ∈ paths,
      path.root ∈ m.elements ∧ ∀ e, path.binding = some e → isDirect e = true := by
    refine paths_forall ?_ ?_ h
    · intro c hc path hpath
      refine ⟨hm.toWellFormed.root_mem_of_mem_rootPaths hc hpath, ?_⟩
      rcases mem_rootPaths.mp hpath with (⟨s, -, rfl⟩ | ⟨s, -, rfl⟩) | ⟨i, -, rfl⟩
      · intro e he
        cases he
      · intro e he
        cases he
      · intro e he
        rw [ResourcePath.ofImport, ResourcePath.call_binding] at he
        cases he
    · intro path child hpath _ hfollow
      cases hfollow with
      | key _ _ h =>
          obtain ⟨_, _, _, _, -, rfl⟩ := ResourcePath.withKey?_eq_some h
          exact hpath
      | navigation =>
          -- bindings are read off the root, which no step changes
          refine ⟨hpath.1, fun e he => ?_⟩
          simp only [ResourcePath.withNavigation] at he
          split at he
          · exact hm.isDirect_of_navigationBinding? hpath.1 he
          · cases he
      | operation =>
          refine ⟨?_, ?_⟩
          · simpa [ResourcePath.withOperation, ResourcePath.push] using hpath.1
          · intro e he
            cases he
      | typeCast | count | ref => exact hpath
  exact fun path hpath => (hpaths path hpath).2

theorem Linked.pathCandidates_eq (hm : m.Linked) {settings : Settings}
    {paths : List ResourcePath} (h : m.paths settings = .ok paths) {path : ResourcePath}
    (hpath : path ∈ paths) :
    m.pathCandidates path = path.target :: path.binding.toList
      ++ (path.entityType.toList.flatMap m.typeChain).map .entityType
      ++ (m.containerOf? path.root).toList.map .container := by
  have hdirect : (path.target :: path.binding.toList).filter isDirect
      = path.target :: path.binding.toList := by
    rw [List.filter_eq_self, List.forall_mem_cons]
    refine ⟨(isDirect_of_mem_paths h path hpath).2, fun e he => ?_⟩
    exact hm.isDirect_of_binding h path hpath e (Option.mem_toList.mp he)
  rw [pathCandidates, candidates, hdirect]

end Model

open Model

/-- Whatever has been looked up before, what governs a path is the record of the first of its
target, its binding, its type with the base types, and the container of its root; and what
governs an element is the record of the first of itself, the given type or else its own with the
base types, and its container. -/
theorem lookUp_finds_governing {document : Document} {id : ModelId} {m : Model}
    {models : List Model} {cache : AnnotationCache} (hload : document.resolve id = .ok m)
    (hids : Distinct models) (hm : m ∈ models) (hcache : cache.Reachable models) (term : Term) :
    (∀ settings paths, m.paths settings = .ok paths → ∀ path ∈ paths,
      ∃ chain, m.Lineage path.entityType chain ∧ ∀ result,
        ((m.resolvePath term path).run cache).1 = result ↔
          m.Governs term (path.target :: path.binding.toList ++ chain.map .entityType
            ++ (m.containerOf? path.root).toList.map .container) result) ∧
    ∀ element type, ∃ chain, m.Lineage (type <|> m.elementType? element) chain ∧ ∀ result,
      ((m.resolveFor term element type).run cache).1 = result ↔
        m.Governs term (own element ++ chain.map .entityType
          ++ (m.containerOf? element).toList.map .container) result := by
  have hlinked := Document.resolve_linked hload
  constructor
  · intro settings paths hpaths path hpath
    obtain ⟨chain, hchain, heq⟩ := exists_lineage hlinked.acyclic path.entityType
    refine ⟨chain, hchain, fun result => ?_⟩
    -- with every reachable cache the look-ups come to the same search
    rw [governs_iff, ← heq, ← hlinked.pathCandidates_eq hpaths hpath,
      (hcache.run hids hm (resolvePath_reads term path)).1]
    rfl
  · intro element type
    obtain ⟨chain, hchain, heq⟩ := exists_lineage hlinked.acyclic (type <|> m.elementType? element)
    refine ⟨chain, hchain, fun result => ?_⟩
    have hreads : Reads m (m.resolveFor term element type)
        (m.queryFirst term (m.elementCandidates element type)) := firstResolved_reads term _
    rw [governs_iff, ← heq, ← filter_isDirect, (hcache.run hids hm hreads).1]
    rfl

/-- A set with an annotation of the wrong shape.  The base of its type has one that can be read, and
so has its container, which alone says something of counting. -/
def shadowedDocument : Document where
  ns := "A"
  entityTypes := [{ name := "Item", key := ["Id"] }, { name := "Book", base := some "Item" }]
  containers := [{ name := "C", entitySets := [{ name := "Books", type := "Book" }] }]
  annotations := [
    ⟨"A.C/Books", "Org.OData.Capabilities.V1.ReadRestrictions", .string "no"⟩,
    ⟨"A.Item", "Org.OData.Capabilities.V1.ReadRestrictions",
      .record none [("Readable", .bool false)]⟩,
    ⟨"A.C", "Org.OData.Capabilities.V1.ReadRestrictions", .record none []⟩,
    ⟨"A.C", "Org.OData.Capabilities.V1.CountRestrictions",
      .record none [("Countable", .bool false)]⟩]

/-- The model of `shadowedDocument`. -/
def shadowedModel : Model := shadowedDocument.loaded ⟨0⟩

/-- After a conversion, the base type governs reading the set and the container counting it. -/
theorem shadowedModel_governed :
    shadowedDocument.resolve ⟨0⟩ = .ok shadowedModel ∧
      ∃ conversion cache, shadowedModel.convertWith {} {} = .ok (conversion, cache) ∧
        cache.Reachable [shadowedModel] ∧
        ∃ path ∈ conversion.paths, path.template = "/Books" ∧
          ((shadowedModel.resolvePath .readRestrictions path).run cache).1
            = ⟨{ base := { readable := some false } }, some (.entityType ⟨0⟩)⟩ ∧
          ((shadowedModel.resolvePath .countRestrictions path).run cache).1
            = ⟨{ countable := some false }, some (.container ⟨0⟩)⟩ := by
  have hload : shadowedDocument.resolve ⟨0⟩ = .ok shadowedModel := rfl
  have hids : Distinct [shadowedModel] := by
    intro a ha b hb _
    rw [List.mem_singleton.mp ha, List.mem_singleton.mp hb]
  have hm : shadowedModel ∈ [shadowedModel] := List.mem_singleton_self _
  have hdepth : 0 ≤ ({} : Settings).maxNavigationDepth := by decide
  have hconvert := convertWith_of_depth hdepth (AnnotationCache.agrees_empty shadowedModel)
  have hcache := AnnotationCache.Reachable.empty.convertWith hids hm hconvert
  have hpath : ResourcePath.ofEntitySet shadowedModel ⟨0⟩ ∈ shadowedModel.allPaths {} := by
    decide +kernel
  have hchain : ∀ {chain}, shadowedModel.Lineage (some ⟨1⟩) chain → chain = [⟨1⟩, ⟨0⟩] := by
    intro chain h
    cases h with
    | some h =>
      change shadowedModel.Lineage (some ⟨0⟩) _ at h
      cases h with
      | some h =>
        change shadowedModel.Lineage none _ at h
        cases h
        rfl
  have hgoverns := fun term => (lookUp_finds_governing hload hids hm hcache term).1 {} _
    (paths_of_depth shadowedModel hdepth) _ hpath
  refine ⟨hload, _, _, hconvert, hcache, ResourcePath.ofEntitySet shadowedModel ⟨0⟩, ?_, rfl, ?_,
    ?_⟩
  · rw [Conversion.paths, queryAll_paths]
    exact hpath
  · obtain ⟨chain, hlineage, hreading⟩ := hgoverns .readRestrictions
    obtain rfl := hchain hlineage
    have hbefore : ∀ e ∈ [Element.entitySet ⟨0⟩, .entityType ⟨1⟩],
        ¬ shadowedModel.Gives .readRestrictions e := by
      decide +kernel
    have hbase : shadowedModel.Governs .readRestrictions
        ([.entitySet ⟨0⟩, .entityType ⟨1⟩] ++ .entityType ⟨0⟩ :: [.container ⟨0⟩])
        ⟨{ base := { readable := some false } }, some (.entityType ⟨0⟩)⟩ :=
      .first rfl hbefore rfl rfl
    exact (hreading _).mpr hbase
  · obtain ⟨chain, hlineage, hcounting⟩ := hgoverns .countRestrictions
    obtain rfl := hchain hlineage
    have hbefore : ∀ e ∈ [Element.entitySet ⟨0⟩, .entityType ⟨1⟩, .entityType ⟨0⟩],
        ¬ shadowedModel.Gives .countRestrictions e := by
      decide +kernel
    have hcontainer : shadowedModel.Governs .countRestrictions
        ([.entitySet ⟨0⟩, .entityType ⟨1⟩, .entityType ⟨0⟩] ++ .container ⟨0⟩ :: [])
        ⟨{ countable := some false }, some (.container ⟨0⟩)⟩ :=
      .first rfl hbefore rfl rfl
    exact (hcounting _).mpr hcontainer

end ODataApi
