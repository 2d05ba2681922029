import ODataApi.Proofs.Document.Resolve
import ODataApi.Proofs.Name

/-!
# Relative and qualified names

A name without a namespace belongs to the namespace of the document, and may as well be written
with it (`Document.Respelled`).  Wherever a name is qualified before it is compared, this makes no
difference (`Name.Respelled.qualify_eq`), and neither does it where the simple name is kept
(`Name.Respelled.simple_eq`).

Two places do not look at names in this way.  A container keeps its name as it is written, and the
target of an annotation is cut at its first slash before its head is qualified, which goes wrong if
the namespace has a slash.  Where these are left alone the other names can be written either way
(`Document.Respelled.resolve_alike`).
-/

namespace ODataApi

/-! ## Names -/

namespace Name

/-- A name, or the name with the namespace that it belongs to. -/
inductive Respelled (ns name : String) : String → Prop
  | same : Respelled ns name name
  | qualified (h : isQualified name = false) : Respelled ns name (join ns name)

variable {ns name name' : String}

theorem Respelled.qualify_eq (h : Respelled ns name name') :
    qualify ns name' = qualify ns name := by
  cases h with
  | same => rfl
  | qualified h => rw [qualify, qualify, isQualified_join, h, if_pos rfl, if_neg Bool.false_ne_true]

theorem Respelled.simple_eq (h : Respelled ns name name') : simple name' = simple name := by
  cases h with
  | same => rfl
  | qualified h => rw [simple_join h, simple_of_not_qualified h]

/-! ### Annotation targets -/

/-- The part of an annotation target that is the name of a type, container or operation. -/
def targetHead (target : String) : String := ((splitMember? target).map (·.1)).getD target

/-- An annotation target, or the target with the namespace in front of its head. -/
inductive TargetRespelled (ns target : String) : String → Prop
  | same : TargetRespelled ns target target
  | qualified (h : isQualified (targetHead target) = false) :
      TargetRespelled ns target (join ns target)

end Name

/-! ## Computations with the same results -/

/-- Two computations give the same results.  They may fail for different reasons. -/
def Alike {ε α : Type} (x y : Except ε α) : Prop := ∀ a, x = .ok a ↔ y = .ok a

namespace Alike

variable {ε α β γ : Type}

theorem refl (x : Except ε α) : Alike x x := fun _ => Iff.rfl

theorem of_ne_ok {x y : Except ε α} (hx : ∀ a, x ≠ .ok a) (hy : ∀ a, y ≠ .ok a) : Alike x y :=
  fun a => iff_of_false (hx a) (hy a)

theorem error (e e' : ε) : Alike (.error e : Except ε α) (.error e') := of_ne_ok nofun nofun

theorem bind {x y : Except ε α} {f g : α → Except ε β} (h : Alike x y)
    (hfg : ∀ a, Alike (f a) (g a)) : Alike (x >>= f) (y >>= g) := by
  intro b
  rw [Except.bind_eq_ok, Except.bind_eq_ok]
  exact exists_congr fun a => and_congr (h a) (hfg a b)

theorem mapM {R : α → γ → Prop} {f : α → Except ε β} {g : γ → Except ε β} {xs : List α}
    {ys : List γ} (hfg : ∀ x y, R x y → Alike (f x) (g y)) (h : List.Forall₂ R xs ys) :
    Alike (xs.mapM f) (ys.mapM g) := by
  induction h with
  | nil => exact refl _
  | cons hxy _ ih =>
      rw [List.mapM_cons, List.mapM_cons]
      exact (hfg _ _ hxy).bind fun _ => ih.bind fun _ => refl _

theorem optionMapM {R : α → γ → Prop} {f : α → Except ε β} {g : γ → Except ε β} {x : Option α}
    {y : Option γ} (hfg : ∀ x y, R x y → Alike (f x) (g y)) (h : Option.Rel R x y) :
    Alike (x.mapM f) (y.mapM g) := by
  cases h with
  | none => exact refl _
  | some hxy =>
      rw [Option.mapM_some, Option.mapM_some]
      exact (hfg _ _ hxy).bind fun a => refl (pure (some a))

end Alike

/-! ## Lists that agree item by item -/

theorem zipWith_eq_of_forall₂ {α β γ : Type} {f : α → β → γ} {xs xs' : List α}
    (h : List.Forall₂ (fun x x' => f x = f x') xs xs') :
    ∀ ys : List β, List.zipWith f xs ys = List.zipWith f xs' ys := by
  induction h with
  | nil => exact fun ys => rfl
  | cons hx _ ih =>
      intro ys
      cases ys with
      | nil => rfl
      | cons y ys => rw [List.zipWith_cons_cons, List.zipWith_cons_cons, hx, ih]

theorem forall₂_and_of_map_eq {α β : Type} {R : α → α → Prop} {f : α → β} {xs ys : List α}
    (h : List.Forall₂ R xs ys) (hmap : ys.map f = xs.map f) :
    List.Forall₂ (fun x y => R x y ∧ f y = f x) xs ys := by
  induction h with
  | nil => exact .nil
  | cons hxy _ ih =>
      rw [List.map_cons, List.map_cons, List.cons.injEq] at hmap
      exact .cons ⟨hxy, hmap.1⟩ (ih hmap.2)

/-! ## Declarations -/

section

variable (ns : String)

/-- The type may be respelled. -/
structure NavigationDeclaration.Respelled (d d' : NavigationDeclaration) : Prop where
  type : Name.Respelled ns d.type d'.type
  rest : d' = { d with type := d'.type }

/-- The name, the base and the targets may be respelled. -/
structure EntityTypeDeclaration.Respelled (d d' : EntityTypeDeclaration) : Prop where
  name : Name.Respelled ns d.name d'.name
  base : Option.Rel (Name.Respelled ns) d.base d'.base
  navigationProperties :
    List.Forall₂ (NavigationDeclaration.Respelled ns) d.navigationProperties d'.navigationProperties
  rest : d' = { d with
    name := d'.name, base := d'.base, navigationProperties := d'.navigationProperties }

/-- The type of a parameter may be respelled. -/
structure Parameter.Respelled (p p' : Parameter) : Prop where
  type : Name.Respelled ns p.type p'.type
  rest : p' = { p with type := p'.type }

/-- Of the parameters of a bound operation the first may be respelled. -/
inductive Parameter.FirstRespelled : List Parameter → List Parameter → Prop
  | nil : FirstRespelled [] []
  | cons {first first' : Parameter} (h : first.Respelled ns first') (rest : List Parameter) :
      FirstRespelled (first :: rest) (first' :: rest)

/-- The name and the type of the binding parameter may be respelled. -/
structure OperationDeclaration.Respelled (d d' : OperationDeclaration) : Prop where
  name : Name.Respelled ns d.name d'.name
  bound : d.bound = true → Parameter.FirstRespelled ns d.parameters d'.parameters
  unbound : d.bound = false → d'.parameters = d.parameters
  rest : d' = { d with name := d'.name, parameters := d'.parameters }

/-- The type may be respelled. -/
structure SourceDeclaration.Respelled (d d' : SourceDeclaration) : Prop where
  type : Name.Respelled ns d.type d'.type
  rest : d' = { d with type := d'.type }

/-- The operation may be respelled. -/
structure ImportDeclaration.Respelled (d d' : ImportDeclaration) : Prop where
  operation : Name.Respelled ns d.operation d'.operation
  rest : d' = { d with operation := d'.operation }

/-- The name and the names in the parts may be respelled. -/
structure ContainerDeclaration.Respelled (d d' : ContainerDeclaration) : Prop where
  name : Name.Respelled ns d.name d'.name
  entitySets : List.Forall₂ (SourceDeclaration.Respelled ns) d.entitySets d'.entitySets
  singletons : List.Forall₂ (SourceDeclaration.Respelled ns) d.singletons d'.singletons
  imports : List.Forall₂ (ImportDeclaration.Respelled ns) d.imports d'.imports

/-- The target may be respelled. -/
structure AnnotationDeclaration.Respelled (d d' : AnnotationDeclaration) : Prop where
  target : Name.TargetRespelled ns d.target d'.target
  rest : d' = { d with target := d'.target }

end

/-- Any of the names may be respelled, where they are declared and where they are referred to. -/
structure Document.Respelled (document document' : Document) : Prop where
  ns : document'.ns = document.ns
  entityTypes : List.Forall₂ (EntityTypeDeclaration.Respelled document.ns) document.entityTypes
    document'.entityTypes
  operations : List.Forall₂ (OperationDeclaration.Respelled document.ns) document.operations
    document'.operations
  containers : List.Forall₂ (ContainerDeclaration.Respelled document.ns) document.containers
    document'.containers
  annotations : List.Forall₂ (AnnotationDeclaration.Respelled document.ns) document.annotations
    document'.annotations

/-! ## Types and operations -/

section

variable {scope : Scope}

theorem Scope.type?_respelled {name name' : String} (h : Name.Respelled scope.ns name name') :
    scope.type? name' = scope.type? name := by
  rw [type?, type?, qualify, qualify, h.qualify_eq]

theorem Scope.typeOf_alike {name name' : String} (h : Name.Respelled scope.ns name name')
    (referencedBy : String) :
    Alike (scope.typeOf name referencedBy) (scope.typeOf name' referencedBy) := by
  rw [typeOf, typeOf, type?_respelled h]
  cases scope.type? name with
  | none => exact Alike.error _ _
  | some t => exact Alike.refl _

theorem NavigationDeclaration.Respelled.resolve_alike {d d' : NavigationDeclaration}
    (h : d.Respelled scope.ns d') (owner : String) :
    Alike (d.resolve scope owner) (d'.resolve scope owner) := by
  have htype := h.type
  rw [h.rest]
  exact (Scope.typeOf_alike htype _).bind fun _ => Alike.refl _

theorem EntityTypeDeclaration.Respelled.resolve_alike {d d' : EntityTypeDeclaration}
    (h : d.Respelled scope.ns d') : Alike (d.resolve scope) (d'.resolve scope) := by
  have howner : scope.qualify d'.name = scope.qualify d.name := h.name.qualify_eq
  have hbase : ∀ owner, Alike (d.base.mapM fun base => scope.typeOf base owner)
      (d'.base.mapM fun base => scope.typeOf base owner) :=
    fun owner => Alike.optionMapM (fun _ _ hb => Scope.typeOf_alike hb owner) h.base
  have hnavigation : ∀ owner, Alike (d.navigationProperties.mapM fun n => n.resolve scope owner)
      (d'.navigationProperties.mapM fun n => n.resolve scope owner) :=
    fun owner => Alike.mapM (fun _ _ hn => hn.resolve_alike owner) h.navigationProperties
  rw [EntityTypeDeclaration.resolve, EntityTypeDeclaration.resolve]
  simp only [howner, h.name.simple_eq]
  refine (hbase _).bind fun base => (hnavigation _).bind fun navigationProperties => ?_
  rw [h.rest]
  exact Alike.refl _

theorem OperationDeclaration.Respelled.resolveParameters_alike {d d' : OperationDeclaration}
    (h : d.Respelled scope.ns d') :
    Alike (d.resolveParameters scope) (d'.resolveParameters scope) := by
  have hbound : d'.bound = d.bound := by rw [h.rest]
  rw [resolveParameters, resolveParameters, hbound, Scope.qualify, Scope.qualify, h.name.qualify_eq]
  split
  case isTrue hd =>
      have hparameters := h.bound hd
      generalize d.parameters = parameters at hparameters
      generalize d'.parameters = parameters' at hparameters
      cases hparameters with
      | nil => exact Alike.refl _
      | cons hfirst rest =>
          have htype := hfirst.type
          rw [hfirst.rest]
          exact (Scope.typeOf_alike htype _).bind fun _ => Alike.refl _
  case isFalse hd =>
      rw [h.unbound (Bool.eq_false_iff.mpr hd)]
      exact Alike.refl _

theorem OperationDeclaration.Respelled.resolve_alike {d d' : OperationDeclaration}
    (h : d.Respelled scope.ns d') : Alike (d.resolve scope) (d'.resolve scope) := by
  refine h.resolveParameters_alike.bind fun _ => ?_
  rw [h.name.simple_eq, h.rest]
  exact Alike.refl _

/-! ## Containers -/

theorem memberTypes_alike (owner : String) {ds ds' : List SourceDeclaration}
    (h : List.Forall₂ (SourceDeclaration.Respelled scope.ns) ds ds') :
    ∀ seen, Alike (memberTypes scope owner seen ds) (memberTypes scope owner seen ds') := by
  induction h with
  | nil => exact fun seen => Alike.refl _
  | @cons d d' _ _ hd _ ih =>
      intro seen
      have hname : d'.name = d.name := by rw [hd.rest]
      rw [memberTypes, memberTypes, hname]
      refine (Scope.typeOf_alike hd.type _).bind fun type => ?_
      split
      · exact Alike.of_ne_ok (fun _ => Except.throw_bind_ne_ok) fun _ => Except.throw_bind_ne_ok
      · exact (ih (d.name :: seen)).bind fun _ => Alike.refl _

theorem ImportDeclaration.Respelled.resolve_alike {d d' : ImportDeclaration}
    (h : d.Respelled scope.ns d') (operations : List Operation) (owner : String)
    (members : List (String × Element)) :
    Alike (d.resolve scope operations owner members)
      (d'.resolve scope operations owner members) := by
  have hname : d'.name = d.name := by rw [h.rest]
  have hset : d'.entitySet = d.entitySet := by rw [h.rest]
  rw [ImportDeclaration.resolve, ImportDeclaration.resolve, Scope.qualify, Scope.qualify,
    h.operation.qualify_eq, hname, hset]
  split
  · exact Alike.refl _
  · exact Alike.error _ _

theorem ContainerDeclaration.Respelled.resolve_alike {d d' : ContainerDeclaration}
    (h : d.Respelled scope.ns d') (hname : d'.name = d.name) (operations : List Operation)
    (index setCount singletonCount : Nat) :
    Alike (d.resolve scope operations index setCount singletonCount)
      (d'.resolve scope operations index setCount singletonCount) := by
  have hsources := List.rel_append h.entitySets h.singletons
  have hnames : (d.entitySets ++ d.singletons).map (·.name)
      = (d'.entitySets ++ d'.singletons).map (·.name) :=
    map_eq_of_forall₂ (hsources.imp fun s s' hs => by rw [hs.rest])
  have hbindings : ∀ owner members,
      Alike ((d.entitySets ++ d.singletons).mapM fun s => s.resolveBindings owner members)
        ((d'.entitySets ++ d'.singletons).mapM fun s => s.resolveBindings owner members) :=
    fun owner members => Alike.mapM (R := SourceDeclaration.Respelled scope.ns)
      (fun s s' hs => by rw [hs.rest]; exact Alike.refl _) hsources
  have himports : ∀ owner members,
      Alike (d.imports.mapM fun i => i.resolve scope operations owner members)
        (d'.imports.mapM fun i => i.resolve scope operations owner members) :=
    fun owner members => Alike.mapM (fun _ _ hi => hi.resolve_alike operations owner members)
      h.imports
  rw [ContainerDeclaration.resolve, ContainerDeclaration.resolve]
  simp only [hname, ← hnames, ← h.entitySets.length_eq, ← h.singletons.length_eq]
  refine (memberTypes_alike _ hsources _).bind fun types => ?_
  refine (hbindings _ _).bind fun bindings => (himports _ _).bind fun imports => ?_
  rw [zipWith_eq_of_forall₂ (hsources.imp fun s s' hs => ?_)]
  · exact Alike.refl _
  · rw [hs.rest]

theorem resolveContainers_alike {operations : List Operation} {ds ds' : List ContainerDeclaration}
    (h : List.Forall₂ (fun d d' => d.Respelled scope.ns d' ∧ d'.name = d.name) ds ds') :
    ∀ index setCount singletonCount,
      Alike (resolveContainers scope operations index setCount singletonCount ds)
        (resolveContainers scope operations index setCount singletonCount ds') := by
  induction h with
  | nil => exact fun _ _ _ => Alike.refl _
  | cons hd _ ih =>
      intro index setCount singletonCount
      rw [resolveContainers, resolveContainers]
      refine (hd.1.resolve_alike hd.2 operations _ _ _).bind fun content => ?_
      exact (ih _ _ _).bind fun _ => Alike.refl _

/-! ## Annotations -/

theorem AnnotationDeclaration.Respelled.eq_or_target_eq {ns : String}
    {d d' : AnnotationDeclaration} (h : d.Respelled ns d') :
    d' = d ∨ d'.target = Name.join ns d.target := by
  obtain ⟨htarget, hrest⟩ := h
  generalize d'.target = target at htarget hrest ⊢
  cases htarget with
  | same => exact Or.inl hrest
  | qualified => exact Or.inr rfl

variable {m : Model}

theorem Scope.targets_respelled {target target' : String}
    (h : Name.TargetRespelled scope.ns target target')
    (hns : '/' ∈ scope.ns.toList → target' = target) :
    scope.targets m target' = scope.targets m target := by
  cases h with
  | same => rfl
  | qualified hhead =>
      by_cases hslash : '/' ∈ scope.ns.toList
      · rw [hns hslash]
      · rw [targets, targets, Name.splitMember?_join hslash]
        cases hsplit : Name.splitMember? target with
        | none =>
            rw [Name.targetHead, hsplit] at hhead
            have hname : Name.Respelled scope.ns _ _ := .qualified hhead
            simp only [Option.map_none, Option.getD_none] at hname ⊢
            rw [type?_respelled hname, qualify, qualify, hname.qualify_eq]
        | some parts =>
            obtain ⟨head, name⟩ := parts
            rw [Name.targetHead, hsplit] at hhead
            have hname : Name.Respelled scope.ns _ _ := .qualified hhead
            simp only [Option.map_some, Option.getD_some] at hname ⊢
            rw [type?_respelled hname, qualify, qualify, hname.qualify_eq]

theorem AnnotationDeclaration.Respelled.resolve_alike {d d' : AnnotationDeclaration}
    (h : d.Respelled scope.ns d') (hns : '/' ∈ scope.ns.toList → d'.target = d.target) :
    Alike (d.resolve scope m) (d'.resolve scope m) := by
  have htargets : scope.targets m d'.target = scope.targets m d.target :=
    Scope.targets_respelled h.target hns
  have hterm : d'.term = d.term := by rw [h.rest]
  have hvalue : d'.value = d.value := by rw [h.rest]
  rw [resolve, resolve, htargets, hterm, hvalue]
  split
  · exact Alike.error _ _
  · exact Alike.refl _

end

/-! ## Documents -/

namespace Document

variable {document document' : Document} {id id' : ModelId} {m m' : Model}

theorem Respelled.scope_eq (h : document.Respelled document') :
    Scope.ofDocument document' = Scope.ofDocument document := by
  have hnames := map_eq_of_forall₂ (f := fun d => Name.qualify document.ns d.name)
    (h.entityTypes.imp fun _ _ hd => hd.name.qualify_eq.symm)
  rw [Scope.ofDocument, Scope.ofDocument, h.ns, hnames]

/-- Names that are respelled lead to the same elements, but containers must keep theirs. -/
theorem Respelled.resolveElements_alike (h : document.Respelled document')
    (hnames : document'.containers.map (·.name) = document.containers.map (·.name)) :
    Alike (document.resolveElements id) (document'.resolveElements id) := by
  have htypes : Alike (document.entityTypes.mapM fun d => d.resolve (Scope.ofDocument document))
      (document'.entityTypes.mapM fun d => d.resolve (Scope.ofDocument document)) :=
    Alike.mapM (fun d d' (hd : d.Respelled (Scope.ofDocument document).ns d') => hd.resolve_alike)
      h.entityTypes
  have hoperations : Alike
      (document.operations.mapM fun d => d.resolve (Scope.ofDocument document))
      (document'.operations.mapM fun d => d.resolve (Scope.ofDocument document)) :=
    Alike.mapM (fun d d' (hd : d.Respelled (Scope.ofDocument document).ns d') => hd.resolve_alike)
      h.operations
  rw [resolveElements, resolveElements, h.scope_eq]
  simp only
  split
  · exact Alike.of_ne_ok (fun _ => Except.throw_bind_ne_ok) fun _ => Except.throw_bind_ne_ok
  · refine htypes.bind fun types => (Alike.refl (checkBases types)).bind fun _ => ?_
    refine hoperations.bind fun operations => ?_
    refine (resolveContainers_alike ?_ _ _ _).bind fun _ => Alike.refl _
    exact forall₂_and_of_map_eq h.containers hnames

/-- Respelled annotation targets lead to the same elements too, unless the namespace has a
slash. -/
theorem Respelled.resolve_alike (h : document.Respelled document')
    (hnames : document'.containers.map (·.name) = document.containers.map (·.name))
    (htargets : '/' ∈ document.ns.toList →
      document'.annotations.map (·.target) = document.annotations.map (·.target)) :
    Alike (document.resolve id) (document'.resolve id) := by
  have hannotations : ∀ m, Alike
      (document.annotations.mapM fun d => d.resolve (Scope.ofDocument document) m)
      (document'.annotations.mapM fun d => d.resolve (Scope.ofDocument document) m) := by
    intro m
    have hdeclaration : ∀ d d' : AnnotationDeclaration,
        d.Respelled (Scope.ofDocument document).ns d' →
        ('/' ∈ document.ns.toList → d'.target = d.target) →
        Alike (d.resolve (Scope.ofDocument document) m)
          (d'.resolve (Scope.ofDocument document) m) :=
      fun d d' hd htarget => hd.resolve_alike htarget
    by_cases hslash : '/' ∈ document.ns.toList
    · exact Alike.mapM (fun d d' hd => hdeclaration d d' hd.1 fun _ => hd.2)
        (forall₂_and_of_map_eq h.annotations (htargets hslash))
    · exact Alike.mapM (fun d d' hd => hdeclaration d d' hd fun hns => absurd hns hslash)
        h.annotations
  rw [resolve, resolve, h.scope_eq]
  exact (h.resolveElements_alike hnames).bind fun m => (hannotations m).bind fun _ => Alike.refl _

end Document

end ODataApi
