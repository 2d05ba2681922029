import ODataApi.Proofs.Conversion
import ODataApi.Proofs.Name
import ODataApi.Proofs.Path.Narrowing

/-!
# The parameters of a template

A parameter takes the name of the key property or function parameter it gives a value to.  If that
is taken it gets the name of the type or operation in front, and if that is taken too a number
behind.  `FreshlyNamed` is this rule with a search for the number that nothing bounds.  It ends,
since the numbered names all differ and only so many names are taken, and what it ends with is
`freshName` (`freshName_freshlyNamed`).

Along a path the parameters stay apart, each stands in the template in its place, and every segment
brings its own in one piece: a key one for each of its properties, a function one for each of its
parameters (`ResourcePath.Parameterized`).
-/

namespace ODataApi

/-! ## The search for a name -/

/-- The search for a number, from a number on, that makes a name which is not taken. -/
inductive NumberSearch (taken : List String) (owned : String) : Nat → String → Prop
  | found {n : Nat} (h : owned ++ toString n ∉ taken) :
      NumberSearch taken owned n (owned ++ toString n)
  | next {n : Nat} {name : String} (h : owned ++ toString n ∈ taken)
      (rest : NumberSearch taken owned (n + 1) name) : NumberSearch taken owned n name

/-- The name of a parameter: that of what it binds if it is not taken, else that after the name of
the owner if it is not taken, else the latter with the first number from two on that makes it
fresh. -/
inductive FreshlyNamed (taken : List String) (owner base : String) : String → Prop
  | base (h : base ∉ taken) : FreshlyNamed taken owner base base
  | owned (hbase : base ∈ taken) (h : owner ++ "-" ++ base ∉ taken) :
      FreshlyNamed taken owner base (owner ++ "-" ++ base)
  | numbered {name : String} (hbase : base ∈ taken) (howned : owner ++ "-" ++ base ∈ taken)
      (h : NumberSearch taken (owner ++ "-" ++ base) 2 name) : FreshlyNamed taken owner base name

section

variable {taken : List String} {owner base owned name : String}

theorem NumberSearch.not_mem {n : Nat} (h : NumberSearch taken owned n name) : name ∉ taken := by
  induction h with
  | found h => exact h
  | next _ _ ih => exact ih

theorem FreshlyNamed.not_mem (h : FreshlyNamed taken owner base name) : name ∉ taken := by
  cases h with
  | base h => exact h
  | owned _ h => exact h
  | numbered _ _ h => exact h.not_mem

/-- The search through a range of numbers that has a fresh name ends with the first. -/
theorem numberSearch_of_find? :
    ∀ {count n : Nat}, ((List.range' n count).map fun k => owned ++ toString k).find?
        (fun name => !taken.contains name) = some name → NumberSearch taken owned n name
  | 0, _, h => by cases h
  | count + 1, n, h => by
      rw [List.range'_succ, List.map_cons, List.find?_cons] at h
      split at h
      case h_1 hfresh =>
        cases h
        exact .found (by simpa using hfresh)
      case h_2 htaken => exact .next (by simpa using htaken) (numberSearch_of_find? h)

theorem numbered_injective (owned : String) :
    Function.Injective fun n : Nat => owned ++ toString n := by
  intro n k h
  have hlists := congrArg String.toList h
  simp only [String.toList_append] at hlists
  exact toString_toList_inj (List.append_cancel_left hlists)

/-- Of more numbered names than there are taken names one is fresh. -/
theorem exists_numbered_not_mem (taken : List String) (owned : String) (n : Nat) :
    ∃ name ∈ (List.range' n (taken.length + 1)).map fun k => owned ++ toString k,
      name ∉ taken := by
  by_contra hall
  push Not at hall
  have hnodup : ((List.range' n (taken.length + 1)).map fun k => owned ++ toString k).Nodup :=
    List.Nodup.map (numbered_injective owned) List.nodup_range'
  have hle := (List.subperm_of_subset hnodup hall).length_le
  rw [List.length_map, List.length_range'] at hle
  omega

/-- The search for a number ends, and the bounded search ends with the same name. -/
theorem numberSearch_candidates (taken : List String) (owned : String) :
    NumberSearch taken owned 2
      ((((List.range (taken.length + 1)).map fun n => owned ++ toString (n + 2)).find?
        fun name => !taken.contains name).getD owned) := by
  have hnumbers : (List.range (taken.length + 1)).map (fun n => owned ++ toString (n + 2))
      = (List.range' 2 (taken.length + 1)).map fun k => owned ++ toString k := by
    rw [List.range'_eq_map_range, List.map_map]
    exact List.map_congr_left fun n _ => by rw [Function.comp_apply, Nat.add_comm]
  obtain ⟨name, hmem, hfresh⟩ := exists_numbered_not_mem taken owned 2
  rw [hnumbers]
  cases hfirst : ((List.range' 2 (taken.length + 1)).map fun k => owned ++ toString k).find?
      fun name => !taken.contains name with
  | none => exact absurd (by simpa using hfresh) (List.find?_eq_none.mp hfirst name hmem)
  | some first => exact numberSearch_of_find? hfirst

/-- The search for a name ends, and `freshName` is what it ends with. -/
theorem freshName_freshlyNamed (taken : List String) (owner base : String) :
    FreshlyNamed taken owner base (freshName taken owner base) := by
  rw [freshName]
  split
  case isTrue hbase => exact .base (by simpa using hbase)
  case isFalse hbase =>
    have hbase : base ∈ taken := by simpa using hbase
    simp only
    split
    case isTrue howned => exact .owned hbase (by simpa using howned)
    case isFalse howned =>
      exact .numbered hbase (by simpa using howned) (numberSearch_candidates taken _)

theorem freshName_not_mem (taken : List String) (owner base : String) :
    freshName taken owner base ∉ taken :=
  (freshName_freshlyNamed taken owner base).not_mem

end

/-! ## Parameters in a text -/

/-- The text holds the parameters in braces, in order and one after the other. -/
inductive Spells : String → List TemplateParameter → Prop
  | text (s : String) : Spells s []
  | parameter (before : String) (p : TemplateParameter) {rest : String}
      {parameters : List TemplateParameter} (h : Spells rest parameters) :
      Spells (before ++ placeholder p.name ++ rest) (p :: parameters)

namespace Spells

variable {s t : String} {p : TemplateParameter} {parameters more : List TemplateParameter}

theorem prepend (t : String) (h : Spells s parameters) : Spells (t ++ s) parameters := by
  cases h with
  | text => exact .text _
  | parameter before p h =>
      rw [← String.append_assoc, ← String.append_assoc]
      exact .parameter (t ++ before) p h

theorem append (h : Spells s parameters) (hmore : Spells t more) :
    Spells (s ++ t) (parameters ++ more) := by
  induction h with
  | text s => exact hmore.prepend s
  | parameter before p _ ih =>
      rw [String.append_assoc, List.cons_append]
      exact .parameter before p ih

theorem append_text (h : Spells s parameters) (t : String) : Spells (s ++ t) parameters := by
  rw [← List.append_nil parameters]
  exact h.append (.text t)

theorem exists_eq (h : Spells s parameters) (hp : p ∈ parameters) :
    ∃ before after, s = before ++ placeholder p.name ++ after := by
  induction h with
  | text => cases hp
  | parameter before q _ ih =>
      rcases List.mem_cons.mp hp with rfl | hp
      · exact ⟨before, _, rfl⟩
      · obtain ⟨between, after, rfl⟩ := ih hp
        refine ⟨before ++ placeholder q.name ++ between, after, ?_⟩
        simp only [String.append_assoc]

theorem of_placeholder (p : TemplateParameter) : Spells (placeholder p.name) [p] := by
  have h := parameter "" p (.text "")
  rwa [String.empty_append, String.append_empty] at h

theorem of_arguments : ∀ parameters : List TemplateParameter,
    Spells (",".intercalate (parameters.map fun p => p.binds ++ "=" ++ placeholder p.name))
      parameters
  | [] => .text _
  | [p] => by
      rw [List.map_singleton, String.intercalate_singleton]
      exact (of_placeholder p).prepend _
  | p :: q :: rest => by
      rw [List.map_cons, List.map_cons, String.intercalate_cons_cons]
      exact (((of_placeholder p).prepend _).append_text _).append (of_arguments (q :: rest))

theorem of_argumentList (parameters : List TemplateParameter) :
    Spells (argumentList (parameters.map fun p => (p.binds, p.name))) parameters := by
  rw [argumentList, List.map_map]
  exact ((of_arguments parameters).prepend "(").append_text ")"

theorem of_keyText : ∀ parameters : List TemplateParameter,
    Spells (ResourcePath.keyText parameters) parameters
  | [] => .text _
  | [p] => (of_placeholder p).prepend "/"
  | p :: q :: rest => of_argumentList (p :: q :: rest)

end Spells

/-! ## What a segment brings -/

/-- The parameters that a call of an operation has in the template: those of a function, in order,
and none of an action. -/
def Operation.Passes (operation : Operation) (block : List TemplateParameter) : Prop :=
  match operation.kind with
  | .action => block = []
  | .function =>
    block.map (·.binds) = operation.parameters.map (·.name) ∧ ∀ p ∈ block, p.source = .function

/-- The parameters that a segment brings into the template: those of a key bind its properties in
order and have the names that the segment notes. -/
def Brings (m : Model) : Segment → List TemplateParameter → Prop
  | .key t names, block =>
    block.map (·.binds) = m.key t ∧ block.map (·.name) = names ∧ ∀ p ∈ block, p.source = .key
  | .operation o, block => (m.operation o).Passes block
  | .operationImport i, block => (m.operation (m.operationImport i).operation).Passes block
  | .entitySet _, block | .singleton _, block | .navigation _, block | .typeCast _, block
  | .count, block | .ref, block => block = []

namespace ResourcePath

variable {settings : Settings} {m : Model} {path child : ResourcePath}

/-- Parameters that have different names still do when more are added. -/
theorem addParameters_nodup (owner : String) (source : ParameterSource) :
    ∀ (parameters : List TemplateParameter) (pairs : List (String × String)),
      (parameters.map (·.name)).Nodup →
        ((addParameters owner source parameters pairs).map (·.name)).Nodup
  | _, [], h => h
  | parameters, (binds, type) :: rest, h => by
      rw [addParameters]
      refine addParameters_nodup owner source _ rest ?_
      rw [List.map_append, List.map_singleton, ← List.concat_eq_append, List.nodup_concat]
      exact ⟨freshName_not_mem _ owner binds, h⟩

/-! ## Along a path -/

/-- The parameters of a path have different names, stand in the template in order, and come in one
piece from each segment. -/
structure Parameterized (m : Model) (path : ResourcePath) : Prop where
  names_nodup : (path.parameters.map (·.name)).Nodup
  spelled : Spells path.template path.parameters
  blocks : ∃ blocks, path.parameters = blocks.flatten ∧
    List.Forall₂ (Brings m) path.segments blocks

/-- What a segment adds to the template of a path and to its parameters. -/
structure Adds (path child : ResourcePath) (text : String) (block : List TemplateParameter) :
    Prop where
  template : child.template = path.template ++ text
  parameters : child.parameters = path.parameters ++ block
  spelled : Spells text block
  names_nodup : (path.parameters.map (·.name)).Nodup → (child.parameters.map (·.name)).Nodup

theorem Parameterized.extend (h : path.Parameterized m) {segment : Segment} {text : String}
    {block : List TemplateParameter} (hsegments : child.segments = path.segments ++ [segment])
    (hadds : Adds path child text block) (hbrings : Brings m segment block) :
    child.Parameterized m := by
  refine ⟨hadds.names_nodup h.names_nodup, ?_, ?_⟩
  · rw [hadds.template, hadds.parameters]
    exact h.spelled.append hadds.spelled
  · obtain ⟨blocks, hblocks, hall⟩ := h.blocks
    refine ⟨blocks ++ [block], ?_, ?_⟩
    · rw [hadds.parameters, hblocks, List.flatten_append, List.flatten_singleton]
    · rw [hsegments]
      exact List.rel_append hall (.cons hbrings .nil)

/-- A segment without parameters only adds to the template. -/
theorem adds_of_parameters_eq {text : String} (htemplate : child.template = path.template ++ text)
    (hparameters : child.parameters = path.parameters) : Adds path child text [] where
  template := htemplate
  parameters := hparameters.trans (List.append_nil _).symm
  spelled := .text text
  names_nodup := by
    rw [hparameters]
    exact id

theorem call_adds (path : ResourcePath) (operation : Operation) (name : String) :
    ∃ text block, Adds path (path.call operation name) text block ∧ operation.Passes block := by
  simp only [Operation.Passes]
  rw [call]
  cases hkind : operation.kind with
  | action => exact ⟨name, [], adds_of_parameters_eq rfl rfl, rfl⟩
  | function =>
      obtain ⟨block, hblock, -, hbinds, hsource⟩ := addParameters_eq_append operation.name .function
        path.parameters (operation.parameters.map fun p => (p.name, p.type))
      have hnodup := addParameters_nodup operation.name .function path.parameters
        (operation.parameters.map fun p => (p.name, p.type))
      simp only [hblock] at hnodup
      simp only [hblock, List.drop_left]
      refine ⟨name ++ argumentList (block.map fun p => (p.binds, p.name)), block, ?_, ?_, hsource⟩
      · exact ⟨String.append_assoc .., rfl, (Spells.of_argumentList block).prepend name, hnodup⟩
      · rw [hbinds, List.map_map]
        rfl

theorem withKey?_adds (h : path.withKey? m = some child) :
    ∃ t text block, child.segments = path.segments ++ [.key t (block.map (·.name))] ∧
      Adds path child text block ∧ block.map (·.binds) = m.key t ∧
      ∀ p ∈ block, p.source = .key := by
  rw [withKey?] at h
  split at h
  case h_1 => cases h
  case h_2 t _ =>
    simp only at h
    split at h
    case h_1 => cases h
    case h_2 =>
      obtain ⟨block, hblock, -, hbinds, hsource⟩ := addParameters_eq_append
        (m.entityType t).name .key path.parameters (keyOf m t)
      have hnodup := addParameters_nodup (m.entityType t).name .key path.parameters (keyOf m t)
      rw [hblock] at hnodup
      simp only [hblock, List.drop_left, Option.some.injEq] at h
      subst h
      have hspelled := Spells.of_keyText block
      refine ⟨t, keyText block, block, rfl, ⟨rfl, rfl, hspelled, hnodup⟩, ?_, hsource⟩
      rw [hbinds, keyOf, List.map_map]
      exact List.map_id' _

theorem Parameterized.follows (h : path.Parameterized m)
    (hfollow : Follows settings m path child) : child.Parameterized m := by
  cases hfollow with
  | key _ _ hkey =>
      obtain ⟨t, text, block, hsegments, hadds, hbinds, hsource⟩ := withKey?_adds hkey
      exact h.extend hsegments hadds ⟨hbinds, rfl, hsource⟩
  | @navigation _ n =>
      have htemplate : (path.withNavigation m n).template
          = path.template ++ ("/" ++ (m.navigation n).name) := String.append_assoc ..
      exact h.extend rfl (adds_of_parameters_eq htemplate rfl) rfl
  | @typeCast _ u =>
      have htemplate : (path.withCast m u).template
          = path.template ++ ("/" ++ (m.entityType u).qualifiedName) := String.append_assoc ..
      exact h.extend rfl (adds_of_parameters_eq htemplate rfl) rfl
  | @operation _ o =>
      obtain ⟨text, block, hadds, hpasses⟩ := call_adds
        { path.push (.operation o) .operation with template := path.template ++ "/" }
        (m.operation o) (m.operation o).qualifiedName
      have htemplate : (path.withOperation m o).template = path.template ++ ("/" ++ text) :=
        hadds.template.trans (String.append_assoc ..)
      exact h.extend (withOperation_segments o)
        ⟨htemplate, hadds.parameters, hadds.spelled.prepend "/", hadds.names_nodup⟩ hpasses
  | count | ref => exact h.extend rfl (adds_of_parameters_eq rfl rfl) rfl

theorem ofRoot_parameterized {segment : Segment} (template : String) (kind : PathKind)
    (root : Element) (entityType : Option EntityTypeHandle) (collection : Bool)
    (h : Brings m segment []) :
    (ofRoot segment template kind root entityType collection).Parameterized m where
  names_nodup := List.nodup_nil
  spelled := .text template
  blocks := ⟨[[]], rfl, .cons h .nil⟩

theorem ofImport_parameterized (m : Model) (i : ImportHandle) :
    (ofImport m i).Parameterized m := by
  obtain ⟨text, block, hadds, hpasses⟩ := call_adds
    (ofRoot (.operationImport i) "/" .operationImport (.operationImport i)
      (m.elementType? (.operationImport i) <|>
        returnedType? m (m.operation (m.operationImport i).operation))
      (m.operation (m.operationImport i).operation).returnsCollection)
    (m.operation (m.operationImport i).operation) (m.operationImport i).name
  refine ⟨hadds.names_nodup List.nodup_nil, ?_, [block], ?_, ?_⟩
  · rw [ofImport, hadds.template, hadds.parameters]
    exact hadds.spelled.prepend "/"
  · exact hadds.parameters.trans (List.append_nil block).symm
  · have hsegments : (ofImport m i).segments = [.operationImport i] := call_segments _ _
    rw [hsegments]
    exact .cons hpasses .nil

theorem parameterized_of_mem_rootPaths {c : ContainerHandle} (h : path ∈ m.rootPaths c) :
    path.Parameterized m := by
  rcases Model.mem_rootPaths.mp h with (⟨s, -, rfl⟩ | ⟨s, -, rfl⟩) | ⟨i, -, rfl⟩
  · exact ofRoot_parameterized _ _ _ _ _ rfl
  · exact ofRoot_parameterized _ _ _ _ _ rfl
  · exact ofImport_parameterized m i

end ResourcePath

/-! ## The paths of a model -/

theorem Model.parameterized_of_mem_paths {m : Model} {settings : Settings}
    {paths : List ResourcePath} (h : m.paths settings = .ok paths) :
    ∀ path ∈ paths, path.Parameterized m :=
  Model.paths_forall (fun _ _ _ => ResourcePath.parameterized_of_mem_rootPaths)
    (fun _ _ hparameterized _ hfollow => hparameterized.follows hfollow) h

/-- The search for the name of a parameter ends, whatever is taken.  On every path the parameters
have different names and stand in the template in braces, and they are in order those of its
segments: of a key one for each of its properties, under the name that the segment notes. -/
theorem parameters_named_and_bound (m : Model) (settings : Settings)
    (hdepth : 0 ≤ settings.maxNavigationDepth) :
    (∀ taken owner base, FreshlyNamed taken owner base (freshName taken owner base)) ∧
      ∃ paths, m.paths settings = .ok paths ∧ ∀ path ∈ paths,
        (path.parameters.map (·.name)).Nodup ∧
        (∀ p ∈ path.parameters, ∃ before after,
          path.template = before ++ ("\x7b" ++ p.name ++ "\x7d") ++ after) ∧
        ∃ blocks, path.parameters = blocks.flatten ∧
          List.Forall₂ (Brings m) path.segments blocks := by
  have hpaths := m.paths_of_depth hdepth
  refine ⟨freshName_freshlyNamed, _, hpaths, fun path hpath => ?_⟩
  have h := Model.parameterized_of_mem_paths hpaths path hpath
  exact ⟨h.names_nodup, fun p hp => h.spelled.exists_eq hp, h.blocks⟩

/-- A key that names one property three times, with properties in between that are named like the
parameters made up for it, and a function named like the type. -/
def lookalikesDocument : Document where
  ns := "A"
  entityTypes := [{ name := "T", key := ["Id", "T-Id", "Id", "T-Id2", "Id"] }]
  operations := [
    { name := "T", kind := .function, bound := true, parameters := [
        ⟨"it", "T", false, false⟩, ⟨"Id", "Edm.Int32", false, false⟩] }]
  containers := [{ name := "C", entitySets := [{ name := "S", type := "T" }] }]

/-- The model of `lookalikesDocument`. -/
def lookalikesModel : Model := lookalikesDocument.loaded ⟨0⟩

theorem lookalikesModel_parameters :
    lookalikesDocument.resolve ⟨0⟩ = .ok lookalikesModel ∧
      0 ≤ ({} : Settings).maxNavigationDepth ∧
      ∃ paths, lookalikesModel.paths {} = .ok paths ∧ ∃ path ∈ paths,
        path.template = "/S(Id=\x7bId\x7d,T-Id=\x7bT-Id\x7d,Id=\x7bT-Id2\x7d,"
          ++ "T-Id2=\x7bT-T-Id2\x7d,Id=\x7bT-Id3\x7d)/A.T(Id=\x7bT-Id4\x7d)" ∧
        (path.parameters.map (·.name)).Nodup ∧
        ∃ blocks, path.parameters = blocks.flatten ∧
          List.Forall₂ (Brings lookalikesModel) path.segments blocks := by
  have hdepth : 0 ≤ ({} : Settings).maxNavigationDepth := by decide
  have hcall : ∃ path ∈ lookalikesModel.allPaths {},
      path.template = "/S(Id=\x7bId\x7d,T-Id=\x7bT-Id\x7d,Id=\x7bT-Id2\x7d,"
        ++ "T-Id2=\x7bT-T-Id2\x7d,Id=\x7bT-Id3\x7d)/A.T(Id=\x7bT-Id4\x7d)" := by decide +kernel
  obtain ⟨-, paths, hpaths, hall⟩ := parameters_named_and_bound lookalikesModel {} hdepth
  obtain rfl := Except.ok.inj ((lookalikesModel.paths_of_depth hdepth).symm.trans hpaths)
  obtain ⟨path, hpath, htemplate⟩ := hcall
  obtain ⟨hnodup, -, hblocks⟩ := hall path hpath
  exact ⟨rfl, hdepth, _, hpaths, path, hpath, htemplate, hnodup, hblocks⟩

end ODataApi
