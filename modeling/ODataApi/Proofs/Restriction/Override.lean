import ODataApi.Proofs.Capability.Entries
import ODataApi.Proofs.Path.Narrowing
import ODataApi.Proofs.Restriction.Context
import ODataApi.Proofs.Restriction.Locality

/-!
# What the entry of a navigation path governs

Two models may differ in what the entries for one navigation path say besides the path and its
navigability (`AnnotatedAlike`).  Then they allow the same paths, and all terms but the
restrictions on navigation are looked up alike.  What is left of the difference is the entry of the
navigation path, which only the paths with this navigation path ask for
(`queryEndpoints_value_of_alike`).

There each record that the first entry states stands in place of the one that is looked up, and
all the others are looked up (`entry_governs_its_path`).
-/

namespace ODataApi

/-- The same annotation, or two that restrict navigation from one element and differ in entries
for one navigation path. -/
inductive AnnotatedAlike (path : String) : Annotation → Annotation → Prop
  | same (a : Annotation) : AnnotatedAlike path a a
  | navigation {element : Element} {value value' : Expression}
      (halike : value.RestrictionsAlike path value') :
      AnnotatedAlike path ⟨element, Term.navigationRestrictions.qualifiedName, value⟩
        ⟨element, Term.navigationRestrictions.qualifiedName, value'⟩

theorem Term.qualifiedName_ne {term : Term} (h : term ≠ .navigationRestrictions) :
    term.qualifiedName ≠ Term.navigationRestrictions.qualifiedName := by
  cases term with
  | navigationRestrictions => exact absurd rfl h
  | _ => decide

theorem PathRestrictions.ofTerms_congr {record record' : (term : Term) → Resolved term.Record}
    (h : ∀ term, term ≠ .navigationRestrictions → record' term = record term) :
    ofTerms record' = ofTerms record := by
  simp only [ofTerms, h, ne_eq, reduceCtorEq, not_false_eq_true]

namespace Model

variable {m : Model} {id : ModelId} {annotations : List Annotation} {P : String} {term : Term}
  {path : ResourcePath}

section

variable (h : List.Forall₂ (AnnotatedAlike P) m.annotations annotations)

include h

/-! ## What an element says -/

theorem find?_alike (element : Element) (name : String) :
    Option.Rel
      (fun a a' => AnnotatedAlike P a a' ∧ (a.element == element && a.term == name) = true)
      (m.annotations.find? fun a => a.element == element && a.term == name)
      (annotations.find? fun a => a.element == element && a.term == name) := by
  refine forall₂_find? (fun a a' halike => ?_) h
  cases halike with
  | same => rfl
  | navigation => rfl

theorem record_of_alike (hterm : term ≠ .navigationRestrictions) (element : Element) :
    (m.annotated id annotations).record element term = m.record element term := by
  rw [record_eq, record_eq]
  refine congrArg (Option.bind · _) (eq_of_rel (Option.map Annotation.value) (fun a a' halike => ?_)
    (find?_alike h element term.qualifiedName))
  obtain ⟨halike, hfound⟩ := halike
  cases halike with
  | same => rfl
  | navigation =>
      -- what differs is said of another term
      rw [Bool.and_eq_true, beq_iff_eq, beq_iff_eq] at hfound
      exact absurd hfound.2.symm (Term.qualifiedName_ne hterm)

theorem record_alike (element : Element) :
    Option.Rel (NavigationRestrictions.Alike P) (m.record element .navigationRestrictions)
      ((m.annotated id annotations).record element .navigationRestrictions) := by
  rw [record_eq, record_eq, annotation?, annotation?, Option.bind_map, Option.bind_map]
  refine bind_rel (fun a a' halike => ?_)
    (find?_alike h element Term.navigationRestrictions.qualifiedName)
  obtain ⟨halike, -⟩ := halike
  cases halike with
  | same => exact NavigationRestrictions.read_alike (.same _)
  | navigation halike => exact NavigationRestrictions.read_alike halike

/-! ## What is looked up -/

theorem effective_of_alike (hterm : term ≠ .navigationRestrictions) (element : Element) :
    (m.annotated id annotations).effective term element = m.effective term element := by
  rw [effective_eq, effective_eq]
  exact congrArg Resolved.value
    (queryFirst_value_congr fun e _ => record_of_alike h hterm e)

theorem governing_of_alike (hterm : term ≠ .navigationRestrictions) (path : ResourcePath) :
    (m.annotated id annotations).governing term path = m.governing term path := by
  rw [governing_eq, governing_eq]
  exact queryFirst_value_congr fun e _ => record_of_alike h hterm e

theorem queryFirst_alike :
    ∀ elements : List Element, NavigationRestrictions.Alike P
      (m.queryFirst .navigationRestrictions elements).value.value
      ((m.annotated id annotations).queryFirst .navigationRestrictions elements).value.value
  | [] => .refl P {}
  | element :: rest => by
      have halike : Option.Rel _ _
          ((m.annotated id annotations).record element .navigationRestrictions) :=
        record_alike h element
      rw [queryFirst, queryFirst, Query.value_bind, Query.value_bind]
      simp only [query]
      generalize m.record element .navigationRestrictions = record at halike
      generalize (m.annotated id annotations).record element .navigationRestrictions = record'
        at halike
      cases halike with
      | some halike => exact halike
      | none => exact queryFirst_alike rest

theorem effective_alike (element : Element) :
    NavigationRestrictions.Alike P (m.effective .navigationRestrictions element)
      ((m.annotated id annotations).effective .navigationRestrictions element) := by
  rw [effective_eq, effective_eq]
  exact queryFirst_alike h (m.elementCandidates element)

/-! ## What governs a path -/

theorem queryRestrictions_value_of_alike (path : ResourcePath)
    (entry : Option NavigationPropertyRestriction) :
    ((m.annotated id annotations).queryRestrictions path entry).value
      = (m.queryRestrictions path entry).value := by
  rw [queryRestrictions_value, queryRestrictions_value]
  refine PathRestrictions.ofTerms_congr fun term hterm => ?_
  rw [governingUnder, governingUnder, governing_of_alike h hterm]

theorem queryContext_value_of_alike (path : ResourcePath) (navigation : Option NavigationContext) :
    ((m.annotated id annotations).queryContext path navigation).value
      = (m.queryContext path navigation).value := by
  simp only [queryContext, Query.value_bind, Query.value_pure,
    queryRestrictions_value_of_alike h]
  rfl

theorem rootContext_of_alike (hpath : path.navigationPath m ≠ P) :
    (m.annotated id annotations).rootContext path = m.rootContext path := by
  have hname : path.navigationPath (m.annotated id annotations) = path.navigationPath m := rfl
  have halike : NavigationRestrictions.Alike P _
      ((m.annotated id annotations).effective .navigationRestrictions path.root) :=
    effective_alike h path.root
  have hlist : ∀ term, term ≠ .navigationRestrictions →
      (m.annotated id annotations).effective term path.root = m.effective term path.root :=
    fun _ hterm => effective_of_alike h hterm path.root
  rw [rootContext, rootContext, hname, halike.entry_eq hpath, hlist .insertRestrictions (by decide),
    hlist .updateRestrictions (by decide), hlist .deleteRestrictions (by decide),
    hlist .countRestrictions (by decide)]

/-- What the entry of a navigation path says is of no concern to other paths. -/
theorem queryEndpoints_value_of_alike (hpath : path.depth ≠ 0 → path.navigationPath m ≠ P) :
    ((m.annotated id annotations).queryEndpoints path).value = (m.queryEndpoints path).value := by
  have hcontext : ((m.annotated id annotations).queryContext? path).value
      = (m.queryContext? path).value := by
    by_cases hdepth : path.depth = 0
    · rw [queryContext?_of_root hdepth, queryContext?_of_root hdepth,
        queryContext_value_of_alike h]
    · -- both roots allow the path or both forbid it
      have hname : path.navigationPath (m.annotated id annotations) = path.navigationPath m := rfl
      rw [queryContext?_of_navigation hdepth, queryContext?_of_navigation hdepth,
        queryContext_value_of_alike h, rootContext_of_alike h (hpath hdepth), hname,
        (effective_alike h path.root).allowsPath_eq]
  rw [queryEndpoints_value, queryEndpoints_value, hcontext]
  rfl

end

end Model

/-- Two models that differ in what the entries for one navigation path say besides the path and its
navigability have the same paths, and every path without navigation properties or with another
navigation path has the same endpoints.  Where the navigation path is that one and is allowed, the
first entry of the root decides: each record it states replaces the one that is looked up, and no
other. -/
theorem entry_governs_its_path (m : Model) (id : ModelId) (annotations : List Annotation)
    (P : String) (settings : Settings)
    (h : List.Forall₂ (AnnotatedAlike P) m.annotations annotations)
    (hdepth : 0 ≤ settings.maxNavigationDepth) :
    ∃ conversion conversion', m.convert settings = .ok conversion ∧
      (m.annotated id annotations).convert settings = .ok conversion' ∧
      conversion'.paths = conversion.paths ∧
      (∀ path endpoints, (∀ n, .navigation n ∈ path.segments → path.navigationPath m ≠ P) →
        ((path, endpoints) ∈ conversion'.byPath ↔ (path, endpoints) ∈ conversion.byPath)) ∧
      ∀ path endpoints n, (path, endpoints) ∈ conversion.byPath → .navigation n ∈ path.segments →
        path.navigationPath m = P →
        (m.effective .navigationRestrictions path.root).allowsPath P path.depth = true →
        ∃ c, ((m.pathContext? path).run {}).1 = some c ∧ endpoints = c.endpoints m ∧
          c.restrictions = .ofTerms (m.governingUnder path <|
            NavigationRestrictions.entry? (m.effective .navigationRestrictions path.root) P) := by
  obtain ⟨conversion, hconvert, -⟩ := m.exists_convert hdepth
  obtain ⟨conversion', hconvert', -⟩ := (m.annotated id annotations).exists_convert hdepth
  have hpaths := Model.paths_of_convert hconvert
  have hpaths' := Model.paths_of_convert hconvert'
  rw [Model.annotated_paths] at hpaths'
  have heq : conversion'.paths = conversion.paths := Except.ok.inj (hpaths'.symm.trans hpaths)
  have hcounted := ResourcePath.depthCounted_of_mem_paths hpaths
  refine ⟨conversion, conversion', hconvert, hconvert', heq, ?_, ?_⟩
  · intro path endpoints hother
    rw [Model.mem_byPath_iff hconvert, Model.mem_byPath_iff hconvert', heq]
    refine and_congr_right fun hpath => ?_
    rw [Model.queryEndpoints_value_of_alike h fun hnavigation => ?_]
    obtain ⟨n, hn⟩ := (hcounted path hpath).depth_ne_zero_iff.mp hnavigation
    exact hother n hn
  · rintro path endpoints n hmem hn rfl hallowed
    obtain ⟨hpath, rfl⟩ := (Model.mem_byPath_iff hconvert).mp hmem
    exact Model.pathContext?_of_allowed ((hcounted path hpath).depth_ne_zero_iff.mpr ⟨n, hn⟩)
      hallowed

/-- People with friends, and what the entry for the friends says besides. -/
def guestsDocument (besides : List (String × Expression)) : Document where
  ns := "A"
  entityTypes := [
    { name := "Person", key := ["Id"], navigationProperties := [
        { name := "friends", type := "Person", collection := true }] }]
  containers := [{ name := "C", entitySets := [{ name := "People", type := "Person" }] }]
  annotations := [
    ⟨"A.C/People", "Org.OData.Capabilities.V1.NavigationRestrictions",
      .record none [("RestrictedProperties", .collection [
        .record none (("NavigationProperty", .path "friends") :: besides)])]⟩]

/-- The model where nothing more is said of friends. -/
def guestsModel : Model := (guestsDocument []).loaded ⟨0⟩

/-- The model where friends cannot be read. -/
def secretGuestsModel : Model :=
  (guestsDocument [("ReadRestrictions", .record none [("Readable", .bool false)])]).loaded ⟨1⟩

/-- Three endpoints are missing where friends cannot be read: they read the friends of someone, one
of them, or references to them.  The friends of friends have another navigation path. -/
theorem secretGuestsModel_entry :
    secretGuestsModel.annotated ⟨0⟩ guestsModel.annotations = guestsModel ∧
      List.Forall₂ (AnnotatedAlike "friends") secretGuestsModel.annotations
        guestsModel.annotations ∧
      ∃ conversion conversion',
        secretGuestsModel.convert { maxNavigationDepth := 2 } = .ok conversion ∧
        guestsModel.convert { maxNavigationDepth := 2 } = .ok conversion' ∧
        conversion'.paths = conversion.paths ∧
        conversion.endpoints.length = 21 ∧ conversion'.endpoints.length = 24 ∧
        (∀ path endpoints, (∀ n, .navigation n ∈ path.segments →
            path.navigationPath secretGuestsModel ≠ "friends") →
          ((path, endpoints) ∈ conversion'.byPath ↔ (path, endpoints) ∈ conversion.byPath)) ∧
        ∃ path c, path.template = "/People/\x7bId\x7d/friends" ∧
          ((secretGuestsModel.pathContext? path).run {}).1 = some c ∧
          (path, c.endpoints secretGuestsModel) ∈ conversion.byPath ∧
          c.restrictions.read = .overridden { base := { readable := some false } } path.root ∧
          c.restrictions.insert = secretGuestsModel.governing .insertRestrictions path := by
  have hdepth : 0 ≤ ({ maxNavigationDepth := 2 } : Settings).maxNavigationDepth := by decide
  have hsame : secretGuestsModel.annotated ⟨0⟩ guestsModel.annotations = guestsModel := rfl
  have halike : List.Forall₂ (AnnotatedAlike "friends") secretGuestsModel.annotations
      guestsModel.annotations := by
    refine .cons (.navigation (.record ?_ rfl rfl (.cons (.entry rfl rfl rfl) .nil))) .nil
    intro name hname
    simp [Dictionary.get?, List.lookup_cons, beq_eq_false_iff_ne.mpr hname]
  have hfriends : ∃ path ∈ secretGuestsModel.allPaths { maxNavigationDepth := 2 },
      path.template = "/People/\x7bId\x7d/friends" ∧ path.root = .entitySet ⟨0⟩ ∧
        .navigation ⟨⟨0⟩, 0⟩ ∈ path.segments ∧
        path.navigationPath secretGuestsModel = "friends" := by decide +kernel
  have hrecord : secretGuestsModel.effective .navigationRestrictions (.entitySet ⟨0⟩)
      = { restrictedProperties := some [{
            navigationProperty := "friends"
            readRestrictions := some { base := { readable := some false } } }] } := by
    rw [Model.effective_eq]
    rfl
  obtain ⟨conversion, conversion', hconvert, hconvert', hpaths, hother, hentry⟩ :=
    entry_governs_its_path secretGuestsModel ⟨0⟩ guestsModel.annotations "friends"
      { maxNavigationDepth := 2 } halike hdepth
  rw [hsame] at hconvert'
  refine ⟨hsame, halike, conversion, conversion', hconvert, hconvert', hpaths, ?_, ?_, hother, ?_⟩
  · rw [Model.convert_of_depth _ hdepth] at hconvert
    cases hconvert
    decide +kernel
  · rw [Model.convert_of_depth _ hdepth] at hconvert'
    cases hconvert'
    decide +kernel
  · obtain ⟨path, hpath, htemplate, hroot, hn, hname⟩ := hfriends
    have hmem := (Model.mem_byPath_iff_of_depth hdepth hconvert).mpr ⟨hpath, rfl⟩
    have hgoverned := hentry path _ _ hmem hn hname
    rw [hroot, hrecord] at hgoverned
    obtain ⟨c, hcontext, hendpoints, hrestrictions⟩ := hgoverned rfl
    rw [hendpoints] at hmem
    exact ⟨path, c, htemplate, hcontext, hmem, congrArg (·.read) hrestrictions,
      congrArg (·.insert) hrestrictions⟩

end ODataApi
