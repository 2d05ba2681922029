import ODataApi.Proofs.Endpoint.Permissive
import ODataApi.Proofs.Path.Narrowing
import ODataApi.Proofs.Restriction.Context

/-!
# Excluded navigation paths

The root of a path may list navigation paths through which nothing is inserted, updated, deleted
or counted.  Whatever else governs a path behind navigation properties, no endpoint has a method
that its root excludes (`PathContext.excludes_eq_false_of_mem`), whether it addresses a collection,
an entity by key or not, or a reference.  A call is no modification of what the path leads to and
has its method all the same.

The lists are those of the records in effect for the root, also where these stand on its type or
its container (`excluded_methods_absent`).
-/

namespace ODataApi

/-! ## What a context excludes -/

/-- Whether a root excludes a navigation path from what a method does. -/
def RootRestrictions.excludes (root : RootRestrictions) (path : String) : Method → Bool
  | .get => false
  | .post => root.insert.excludesNavigation path
  | .put | .patch => root.update.excludesNavigation path
  | .delete => root.delete.excludesNavigation path

namespace PathContext

variable {m : Model} {c : PathContext} {e : Endpoint}

/-- Whether the root excludes the navigation path from what a method does. -/
def excludes (c : PathContext) : Method → Bool
  | .get => false
  | .post => c.excludesInsert
  | .put | .patch => c.excludesUpdate
  | .delete => c.excludesDelete

theorem excludes_eq {root : RootRestrictions} (h : c.root = some root) (method : Method) :
    c.excludes method = root.excludes c.navigationPath method := by
  cases method with
  | get => rfl
  | post => rw [excludes, excludesInsert, h, Option.any_some, RootRestrictions.excludes]
  | put | patch => rw [excludes, excludesUpdate, h, Option.any_some, RootRestrictions.excludes]
  | delete => rw [excludes, excludesDelete, h, Option.any_some, RootRestrictions.excludes]

theorem excludes_update : c.excludes c.update.method = c.excludesUpdate := by
  rw [update_method_eq]
  cases c.restrictions.update.value.method with
  | patch => rfl
  | put => rfl

theorem excludes_of_mem_ofCollection (h : e ∈ c.ofCollection) : c.excludes e.method = false := by
  simp only [ofCollection, List.mem_append, mem_provided, Bool.and_eq_true,
    Bool.not_eq_true'] at h
  rcases h with ⟨-, rfl⟩ | ⟨⟨-, hexcluded⟩, rfl⟩
  · rfl
  · exact hexcluded

theorem excludes_of_mem_ofEntity (h : e ∈ c.ofEntity) : c.excludes e.method = false := by
  rw [ofEntity] at h
  split at h
  · cases h
  · simp only [List.mem_append, mem_provided, Bool.and_eq_true, Bool.not_eq_true'] at h
    rcases h with (⟨-, rfl⟩ | ⟨⟨-, hexcluded⟩, rfl⟩) | ⟨⟨-, hexcluded⟩, rfl⟩
    · rfl
    · exact excludes_update.trans hexcluded
    · exact hexcluded

theorem excludes_of_mem_ofSingleNavigation (h : e ∈ c.ofSingleNavigation) :
    c.excludes e.method = false := by
  simp only [ofSingleNavigation, List.mem_append, mem_provided, Bool.and_eq_true,
    Bool.not_eq_true'] at h
  rcases h with (⟨-, rfl⟩ | ⟨⟨-, hexcluded⟩, rfl⟩) | ⟨⟨-, hexcluded⟩, rfl⟩
  · rfl
  · exact excludes_update.trans hexcluded
  · exact hexcluded

theorem excludes_of_mem_ofCast (h : e ∈ c.ofCast) : c.excludes e.method = false := by
  obtain ⟨-, rfl⟩ := mem_provided.mp h
  split
  · rfl
  · rfl

theorem excludes_of_mem_ofCount (h : e ∈ c.ofCount) : c.excludes e.method = false := by
  obtain ⟨-, rfl⟩ := mem_provided.mp h
  rfl

theorem excludes_of_mem_ofRef (h : e ∈ c.ofRef) : c.excludes e.method = false := by
  simp only [ofRef, List.mem_append, mem_provided, Bool.and_eq_true, Bool.not_eq_true'] at h
  rcases h with ((⟨-, rfl⟩ | ⟨⟨-, hexcluded⟩, rfl⟩) | ⟨⟨-, hexcluded⟩, rfl⟩) | ⟨hexcluded, rfl⟩
  · rw [getRef_method]
    rfl
  · exact hexcluded
  · exact hexcluded
  · exact hexcluded

/-- No endpoint has a method that the root excludes.  Singletons and calls are under no list. -/
theorem excludes_eq_false_of_mem (hsingleton : c.path.kind ≠ .singleton)
    (hoperation : c.path.kind ≠ .operation) (himport : c.path.kind ≠ .operationImport)
    (h : e ∈ c.endpoints m) : c.excludes e.method = false := by
  rw [endpoints] at h
  cases hkind : c.path.kind with
  | entitySet =>
      rw [hkind] at h
      exact excludes_of_mem_ofCollection h
  | entity =>
      rw [hkind] at h
      exact excludes_of_mem_ofEntity h
  | singleton => exact absurd hkind hsingleton
  | navigationProperty =>
      rw [hkind] at h
      simp only at h
      split at h
      · exact excludes_of_mem_ofCollection h
      · exact excludes_of_mem_ofSingleNavigation h
  | typeCast =>
      rw [hkind] at h
      exact excludes_of_mem_ofCast h
  | operation => exact absurd hkind hoperation
  | operationImport => exact absurd hkind himport
  | count =>
      rw [hkind] at h
      exact excludes_of_mem_ofCount h
  | ref =>
      rw [hkind] at h
      exact excludes_of_mem_ofRef h

theorem endpoints_of_excludesCount (hkind : c.path.kind = .count) (h : c.excludesCount = true) :
    c.endpoints m = [] := by
  rw [endpoints, hkind]
  simp only [ofCount, h, Bool.not_true, Bool.and_false]
  rfl

end PathContext

/-! ## Behind navigation properties -/

namespace Model

variable {m : Model} {settings : Settings} {paths : List ResourcePath} {path : ResourcePath}

/-- Only roots are singletons or imports. -/
theorem kind_of_depth_ne_zero (h : m.paths settings = .ok paths) :
    ∀ path ∈ paths, path.depth ≠ 0 → path.kind ≠ .singleton ∧ path.kind ≠ .operationImport := by
  refine paths_forall ?_ ?_ h
  · intro c _ path hpath hdepth
    rcases mem_rootPaths.mp hpath with (⟨s, -, rfl⟩ | ⟨s, -, rfl⟩) | ⟨i, -, rfl⟩
    · exact absurd rfl hdepth
    · exact absurd rfl hdepth
    · exact absurd (by simp [ResourcePath.ofImport, ResourcePath.ofRoot]) hdepth
  · intro path child _ _ hfollow _
    cases hfollow with
    | key _ _ h =>
        obtain ⟨_, _, _, _, -, rfl⟩ := ResourcePath.withKey?_eq_some h
        exact ⟨by simp [ResourcePath.push], by simp [ResourcePath.push]⟩
    | operation => simp [ResourcePath.withOperation, ResourcePath.push]
    | navigation => simp [ResourcePath.withNavigation, ResourcePath.push]
    | typeCast => simp [ResourcePath.withCast, ResourcePath.push]
    | count => simp [ResourcePath.withCount, ResourcePath.push]
    | ref => simp [ResourcePath.withRef, ResourcePath.push]

section

variable (h : m.paths settings = .ok paths) (hpath : path ∈ paths) (hdepth : path.depth ≠ 0)

include h hpath hdepth

/-- No endpoint behind navigation properties has a method that the root excludes. -/
theorem rootContext_excludes (hoperation : path.kind ≠ .operation) :
    ∀ e ∈ (m.queryEndpoints path).value,
      (m.rootContext path).root.excludes (path.navigationPath m) e.method = false := by
  intro e he
  obtain ⟨hsingleton, himport⟩ := kind_of_depth_ne_zero h path hpath hdepth
  rcases queryEndpoints_cases_of_navigation (m := m) hdepth with hnone | ⟨c, hc, rfl, hroot, hname⟩
  · rw [hnone] at he
    cases he
  · rw [hc] at he
    rw [← hname, ← PathContext.excludes_eq hroot]
    exact PathContext.excludes_eq_false_of_mem hsingleton hoperation himport he

omit h hpath in
theorem queryEndpoints_of_excludesCount (hkind : path.kind = .count)
    (hexcludes : (m.rootContext path).root.count.excludesNavigation (path.navigationPath m)
      = true) :
    (m.queryEndpoints path).value = [] := by
  rcases queryEndpoints_cases_of_navigation (m := m) hdepth with hnone | ⟨c, hc, rfl, hroot, hname⟩
  · exact hnone
  · rw [hc]
    refine PathContext.endpoints_of_excludesCount hkind ?_
    rw [PathContext.excludesCount, hroot, Option.any_some, hname]
    exact hexcludes

end

end Model

/-- On a path behind navigation properties that does not end with a call no endpoint has a method
that the records in effect for the root exclude the navigation path from, and an excluded count is
not there at all. -/
theorem excluded_methods_absent (m : Model) (settings : Settings)
    (hdepth : 0 ≤ settings.maxNavigationDepth) :
    ∃ conversion : Conversion, m.convert settings = .ok conversion ∧
      m.paths settings = .ok (conversion.byPath.map (·.1)) ∧
      ∀ path endpoints n, (path, endpoints) ∈ conversion.byPath →
        .navigation n ∈ path.segments → path.kind ≠ .operation →
        ((m.effective .insertRestrictions path.root).excludesNavigation (path.navigationPath m)
            = true → ∀ e ∈ endpoints, e.method ≠ .post) ∧
          ((m.effective .updateRestrictions path.root).excludesNavigation (path.navigationPath m)
            = true → ∀ e ∈ endpoints, e.method ≠ .patch ∧ e.method ≠ .put) ∧
          ((m.effective .deleteRestrictions path.root).excludesNavigation (path.navigationPath m)
            = true → ∀ e ∈ endpoints, e.method ≠ .delete) ∧
          ((m.effective .countRestrictions path.root).excludesNavigation (path.navigationPath m)
            = true → path.kind = .count → endpoints = []) := by
  obtain ⟨conversion, hconvert, hbyPath⟩ := m.exists_convert hdepth
  refine ⟨conversion, hconvert, hbyPath, fun path endpoints n hmem hn hoperation => ?_⟩
  obtain ⟨hpath, rfl⟩ := (Model.mem_byPath_iff_of_depth hdepth hconvert).mp hmem
  have hpaths := m.paths_of_depth hdepth
  have hcounted := ResourcePath.depthCounted_of_mem_paths hpaths path hpath
  have hnavigation := hcounted.depth_ne_zero_iff.mpr ⟨n, hn⟩
  have hexcludes := Model.rootContext_excludes hpaths hpath hnavigation hoperation
  -- an endpoint with an excluded method would be allowed and listed at once
  have habsent : ∀ method,
      (m.rootContext path).root.excludes (path.navigationPath m) method = true →
        ∀ e ∈ (m.queryEndpoints path).value, e.method ≠ method := by
    rintro _ hlisted e he rfl
    exact Bool.false_ne_true ((hexcludes e he).symm.trans hlisted)
  refine ⟨habsent .post, fun hlisted e he => ?_, habsent .delete, fun hlisted hkind => ?_⟩
  · exact ⟨habsent .patch hlisted e he, habsent .put hlisted e he⟩
  · exact Model.queryEndpoints_of_excludesCount hnavigation hkind hlisted

/-- People with friends.  Their type, their set and its container list the friends as what is not
counted, not inserted, not updated and not deleted. -/
def friendsDocument : Document where
  ns := "A"
  entityTypes := [
    { name := "Person", key := ["Id"], navigationProperties := [
        { name := "friends", type := "Person", collection := true }] }]
  containers := [{ name := "C", entitySets := [{ name := "People", type := "Person" }] }]
  annotations := [
    ⟨"A.Person", "Org.OData.Capabilities.V1.CountRestrictions",
      .record none [("NonCountableNavigationProperties", .paths ["friends"])]⟩,
    ⟨"A.Person", "Org.OData.Capabilities.V1.InsertRestrictions",
      .record none [("NonInsertableNavigationProperties", .paths ["friends"])]⟩,
    ⟨"A.C/People", "Org.OData.Capabilities.V1.UpdateRestrictions",
      .record none [("NonUpdatableNavigationProperties", .paths ["friends"])]⟩,
    ⟨"A.C", "Org.OData.Capabilities.V1.DeleteRestrictions",
      .record none [("NonDeletableNavigationProperties", .paths ["friends"])]⟩]

/-- The model of `friendsDocument`. -/
def friendsModel : Model := friendsDocument.loaded ⟨0⟩

/-- Friends can only be listed, a friend can only be read, and friends cannot be counted. -/
theorem friendsModel_excluded :
    0 ≤ ({ maxNavigationDepth := 1 } : Settings).maxNavigationDepth ∧
      ∃ conversion : Conversion,
        friendsModel.convert { maxNavigationDepth := 1 } = .ok conversion ∧
        (∃ path endpoints, (path, endpoints) ∈ conversion.byPath ∧
          path.template = "/People/\x7bId\x7d/friends" ∧ endpoints ≠ [] ∧
          ∀ e ∈ endpoints, e.method ≠ .post) ∧
        (∃ path endpoints, (path, endpoints) ∈ conversion.byPath ∧
          path.template = "/People/\x7bId\x7d/friends/\x7bPerson-Id\x7d" ∧ endpoints ≠ [] ∧
          ∀ e ∈ endpoints, (e.method ≠ .patch ∧ e.method ≠ .put) ∧ e.method ≠ .delete) ∧
        ∃ path, (path, []) ∈ conversion.byPath ∧
          path.template = "/People/\x7bId\x7d/friends/$count" := by
  have hdepth : 0 ≤ ({ maxNavigationDepth := 1 } : Settings).maxNavigationDepth := by decide
  have hfriends : ∃ path ∈ friendsModel.allPaths { maxNavigationDepth := 1 },
      path.template = "/People/\x7bId\x7d/friends" ∧
        .navigation ⟨⟨0⟩, 0⟩ ∈ path.segments ∧ path.kind ≠ .operation ∧
        (friendsModel.effective .insertRestrictions path.root).excludesNavigation
          (path.navigationPath friendsModel) = true ∧
        (friendsModel.queryEndpoints path).value.length = 1 := by
    simp only [Model.effective_eq]
    decide +kernel
  have hfriend : ∃ path ∈ friendsModel.allPaths { maxNavigationDepth := 1 },
      path.template = "/People/\x7bId\x7d/friends/\x7bPerson-Id\x7d" ∧
        .navigation ⟨⟨0⟩, 0⟩ ∈ path.segments ∧ path.kind ≠ .operation ∧
        (friendsModel.effective .updateRestrictions path.root).excludesNavigation
          (path.navigationPath friendsModel) = true ∧
        (friendsModel.effective .deleteRestrictions path.root).excludesNavigation
          (path.navigationPath friendsModel) = true ∧
        (friendsModel.queryEndpoints path).value.length = 1 := by
    simp only [Model.effective_eq]
    decide +kernel
  have hcount : ∃ path ∈ friendsModel.allPaths { maxNavigationDepth := 1 },
      path.template = "/People/\x7bId\x7d/friends/$count" ∧
        .navigation ⟨⟨0⟩, 0⟩ ∈ path.segments ∧ path.kind ≠ .operation ∧
        (friendsModel.effective .countRestrictions path.root).excludesNavigation
          (path.navigationPath friendsModel) = true ∧ path.kind = .count := by
    simp only [Model.effective_eq]
    decide +kernel
  obtain ⟨conversion, hconvert, hpaths, hall⟩ :=
    excluded_methods_absent friendsModel { maxNavigationDepth := 1 } hdepth
  have hmem : ∀ path ∈ friendsModel.allPaths { maxNavigationDepth := 1 },
      (path, (friendsModel.queryEndpoints path).value) ∈ conversion.byPath :=
    fun _ hpath => (Model.mem_byPath_iff_of_depth hdepth hconvert).mpr ⟨hpath, rfl⟩
  refine ⟨hdepth, conversion, hconvert, ?_, ?_, ?_⟩
  · obtain ⟨path, hpath, htemplate, hn, hkind, hinsert, hlength⟩ := hfriends
    obtain ⟨hinserts, -, -, -⟩ := hall path _ _ (hmem path hpath) hn hkind
    exact ⟨path, _, hmem path hpath, htemplate, List.ne_nil_of_length_pos (by omega),
      hinserts hinsert⟩
  · obtain ⟨path, hpath, htemplate, hn, hkind, hupdate, hdelete, hlength⟩ := hfriend
    obtain ⟨-, hupdates, hdeletes, -⟩ := hall path _ _ (hmem path hpath) hn hkind
    refine ⟨path, _, hmem path hpath, htemplate, List.ne_nil_of_length_pos (by omega), ?_⟩
    exact fun e he => ⟨hupdates hupdate e he, hdeletes hdelete e he⟩
  · obtain ⟨path, hpath, htemplate, hn, hkind, hcount, hcountKind⟩ := hcount
    obtain ⟨-, -, -, hcounts⟩ := hall path _ _ (hmem path hpath) hn hkind
    refine ⟨path, ?_, htemplate⟩
    rw [← hcounts hcount hcountKind]
    exact hmem path hpath

end ODataApi
