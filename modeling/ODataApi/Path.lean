import ODataApi.Model.Hierarchy

/-!
# Resource paths

A resource path leads from a set, a singleton or an operation import to the
resource it addresses, segment by segment.  Along with its segments a path carries
what they come to: its URL template and the position they lead to.

* A key addresses one entity of a collection.
* A navigation property leads to another resource, with the set or singleton that
  the root binds to it if it is the first one followed.
* A cast narrows the type and keeps everything else.
* A bound operation leads to what it returns.
* `$count` and `$ref` keep the position.

A template names its parameters in braces, and no two of them alike: `freshName`
puts the name of the type or operation in front of a name that is taken, and then
counts.
-/

namespace ODataApi

/-! ## Segments -/

/-- A step of a resource path. -/
inductive Segment
  | entitySet (handle : EntitySetHandle)
  | singleton (handle : SingletonHandle)
  /-- The type whose key it is, and the template parameters for the key. -/
  | key (type : EntityTypeHandle) (parameters : List String)
  | navigation (handle : NavigationHandle)
  | typeCast (type : EntityTypeHandle)
  | operation (handle : OperationHandle)
  | operationImport (handle : ImportHandle)
  | count
  | ref
deriving DecidableEq, Repr, Inhabited

namespace Segment

/-- Whether no segment can follow. -/
def isTerminal : Segment → Bool
  | operation _ | operationImport _ | count | ref => true
  | entitySet _ | singleton _ | key _ _ | navigation _ | typeCast _ => false

/-- The kind of a segment, as a label. -/
def kind : Segment → String
  | entitySet _ => "entity_set"
  | singleton _ => "singleton"
  | key _ _ => "key"
  | navigation _ => "navigation"
  | typeCast _ => "type_cast"
  | operation _ => "operation"
  | operationImport _ => "operation_import"
  | count => "$count"
  | ref => "$ref"

end Segment

/-! ## Paths -/

/-- What a path addresses, by its last segment. -/
inductive PathKind
  | entitySet
  | entity
  | singleton
  | navigationProperty
  | typeCast
  | operation
  | operationImport
  | count
  | ref
deriving DecidableEq, Repr, Inhabited

/-- Where the value of a template parameter goes. -/
inductive ParameterSource
  | key
  | function
deriving DecidableEq, Repr, Inhabited

/-- A parameter of a URL template. -/
structure TemplateParameter where
  /-- The name in the template. -/
  name : String
  /-- The key property or function parameter it gives a value to. -/
  binds : String
  /-- The name of its type. -/
  type : String
  /-- Whether that is a key property or a function parameter. -/
  source : ParameterSource
deriving DecidableEq, Repr, Inhabited

/-- A resource path. -/
structure ResourcePath where
  /-- The segments. -/
  segments : List Segment
  /-- The URL template. -/
  template : String
  /-- What it addresses. -/
  kind : PathKind
  /-- The set, singleton or import it starts from. -/
  root : Element
  /-- The element whose restrictions govern the resource. -/
  target : Element
  /-- The set or singleton that the first navigation property is bound to. -/
  binding : Option Element
  /-- The type of the resource. -/
  entityType : Option EntityTypeHandle
  /-- The type before the last cast. -/
  castFrom : Option EntityTypeHandle
  /-- Whether it addresses any number of entities. -/
  collection : Bool
  /-- The last navigation property followed. -/
  navigation : Option NavigationHandle
  /-- Whether the entities behind that property belong to the one before it. -/
  containment : Bool
  /-- How many navigation properties it follows. -/
  depth : Nat
  /-- The parameters of the template, in order. -/
  parameters : List TemplateParameter
deriving DecidableEq, Repr, Inhabited

/-! ## Names of parameters -/

/-- A name for a parameter that is not taken: `base`, or that after the name of
its owner, or that with the first number from two on. -/
def freshName (taken : List String) (owner base : String) : String :=
  if !taken.contains base then base
  else
    let owned := owner ++ "-" ++ base
    if !taken.contains owned then owned
    else
      let candidates := (List.range (taken.length + 1)).map fun n => owned ++ toString (n + 2)
      (candidates.find? fun name => !taken.contains name).getD owned

/-- A parameter in a template. -/
def placeholder (name : String) : String := "\x7b" ++ name ++ "\x7d"

/-- Parameters with their values, in parentheses. -/
def argumentList (pairs : List (String × String)) : String :=
  "(" ++ ",".intercalate (pairs.map fun (name, value) => name ++ "=" ++ placeholder value) ++ ")"

namespace ResourcePath

/-- More parameters, each under a fresh name. -/
def addParameters (owner : String) (source : ParameterSource) :
    List TemplateParameter → List (String × String) → List TemplateParameter
  | parameters, [] => parameters
  | parameters, (binds, type) :: rest =>
    let name := freshName (parameters.map (·.name)) owner binds
    addParameters owner source (parameters ++ [{ name, binds, type, source }]) rest

/-! ## Roots -/

/-- A path of one segment. -/
def ofRoot (segment : Segment) (template : String) (kind : PathKind) (root : Element)
    (entityType : Option EntityTypeHandle) (collection : Bool) : ResourcePath where
  segments := [segment]
  template
  kind
  root
  target := root
  binding := none
  entityType
  castFrom := none
  collection
  navigation := none
  containment := false
  depth := 0
  parameters := []

/-- The path of an entity set. -/
def ofEntitySet (m : Model) (s : EntitySetHandle) : ResourcePath :=
  ofRoot (.entitySet s) ("/" ++ (m.entitySet s).name) .entitySet (.entitySet s)
    (some (m.entitySet s).type) true

/-- The path of a singleton. -/
def ofSingleton (m : Model) (s : SingletonHandle) : ResourcePath :=
  ofRoot (.singleton s) ("/" ++ (m.singleton s).name) .singleton (.singleton s)
    (some (m.singleton s).type) false

/-- The entity type an operation returns, if it returns one. -/
def returnedType? (m : Model) (operation : Operation) : Option EntityTypeHandle :=
  operation.returnType.bind fun result => m.findEntityType? result.type

/-! ## Calling operations -/

/-- The path with an operation called at its end.  A function takes its parameters
in the template, an action takes them in the body of the request. -/
def call (path : ResourcePath) (operation : Operation) (name : String) : ResourcePath :=
  match operation.kind with
  | .action => { path with template := path.template ++ name }
  | .function =>
    let parameters := addParameters operation.name .function path.parameters
      (operation.parameters.map fun p => (p.name, p.type))
    let added := parameters.drop path.parameters.length
    { path with
      template := path.template ++ name ++ argumentList (added.map fun p => (p.binds, p.name))
      parameters }

/-- The path of an operation import. -/
def ofImport (m : Model) (i : ImportHandle) : ResourcePath :=
  let imported := m.operationImport i
  let operation := m.operation imported.operation
  (ofRoot (.operationImport i) "/" .operationImport (.operationImport i)
    (m.elementType? (.operationImport i) <|> returnedType? m operation)
    operation.returnsCollection).call operation imported.name

/-! ## Steps -/

/-- The path with one more segment and nothing else changed. -/
def push (path : ResourcePath) (segment : Segment) (kind : PathKind) : ResourcePath :=
  { path with segments := path.segments ++ [segment], kind }

/-- The key of the type at the end of a path with the type of each property. -/
def keyOf (m : Model) (t : EntityTypeHandle) : List (String × String) :=
  (m.key t).map fun name => (name, ((m.property? t name).map (·.type)).getD "Edm.String")

/-- A key in a template: a segment of its own if it has one part, else a list of
parts in parentheses. -/
def keyText : List TemplateParameter → String
  | [parameter] => "/" ++ placeholder parameter.name
  | parameters => argumentList (parameters.map fun p => (p.binds, p.name))

/-- One entity of the collection, if its type has a key. -/
def withKey? (m : Model) (path : ResourcePath) : Option ResourcePath :=
  match path.entityType with
  | none => none
  | some t =>
    match keyOf m t with
    | [] => none
    | key =>
      let parameters := addParameters (m.entityType t).name .key path.parameters key
      let added := parameters.drop path.parameters.length
      some { path.push (.key t (added.map (·.name))) .entity with
        template := path.template ++ keyText added
        collection := false
        parameters }

/-- What a navigation property leads to. -/
def withNavigation (m : Model) (path : ResourcePath) (n : NavigationHandle) : ResourcePath :=
  let property := m.navigation n
  { path.push (.navigation n) .navigationProperty with
    template := path.template ++ "/" ++ property.name
    target := .navigationProperty n
    binding := if path.depth = 0 then m.navigationBinding? path.root property.name else none
    entityType := some property.target
    castFrom := none
    collection := property.collection
    navigation := some n
    containment := property.containsTarget
    depth := path.depth + 1 }

/-- The same resource as a derived type. -/
def withCast (m : Model) (path : ResourcePath) (t : EntityTypeHandle) : ResourcePath :=
  { path.push (.typeCast t) .typeCast with
    template := path.template ++ "/" ++ (m.entityType t).qualifiedName
    castFrom := path.entityType
    entityType := some t }

/-- A bound operation called on the resource. -/
def withOperation (m : Model) (path : ResourcePath) (o : OperationHandle) : ResourcePath :=
  let operation := m.operation o
  { ({ path.push (.operation o) .operation with template := path.template ++ "/" }).call
      operation operation.qualifiedName with
    target := .operation o
    binding := none
    entityType := returnedType? m operation
    castFrom := none
    collection := operation.returnsCollection }

/-- The number of entities. -/
def withCount (path : ResourcePath) : ResourcePath :=
  { path.push .count .count with template := path.template ++ "/$count" }

/-- The reference to the entities in place of the entities. -/
def withRef (path : ResourcePath) : ResourcePath :=
  { path.push .ref .ref with template := path.template ++ "/$ref" }

/-! ## Navigation paths -/

/-- The name of a segment on a navigation path: only navigation properties and
casts have one. -/
def navigationName? (m : Model) : Segment → Option String
  | .navigation n => some (m.navigation n).name
  | .typeCast t => some (m.entityType t).qualifiedName
  | _ => none

/-- The navigation properties and casts of a path as annotations write them,
without the casts at its end.  A cast is told by the dot in its name. -/
def navigationPath (m : Model) (path : ResourcePath) : String :=
  if path.depth = 0 then ""
  else
    let names := path.segments.tail.filterMap (navigationName? m)
    "/".intercalate (names.reverse.dropWhile Name.isQualified).reverse

end ResourcePath

/-! ## Tests -/

example : freshName [] "T" "Id" = "Id" := by decide +kernel
example : freshName ["Id"] "T" "Id" = "T-Id" := by decide +kernel
example : freshName ["Id", "T-Id", "T-Id2"] "T" "Id" = "T-Id3" := by decide +kernel

end ODataApi
