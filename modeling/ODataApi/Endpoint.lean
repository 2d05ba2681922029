import ODataApi.Capability.CustomParameter
import ODataApi.Path

/-!
# Endpoints

An endpoint is an HTTP method on a resource path: what it is for, what it takes and
what it answers.  Restrictions that leave the endpoint in place are kept with it as
constraints, on a parameter or on the endpoint as a whole.
-/

namespace ODataApi

/-! ## Constraints -/

/-- A restriction that is told to the client. -/
inductive Constraint
  | requiresFilter
  | requiredFilterProperties (names : List String)
  | nonFilterableProperties (names : List String)
  | nonSortableProperties (names : List String)
  | ascendingOnlyProperties (names : List String)
  | descendingOnlyProperties (names : List String)
  | nonExpandableProperties (names : List String)
  | maxExpandLevels (levels : Nat)
  | nonCountableProperties (names : List String)
  | unsupportedSearchExpressions (flags : String)
  | nonInsertableProperties (names : List String)
  | nonInsertableNavigationProperties (names : List String)
  | nonUpdatableNavigationProperties (names : List String)
  | nonDeletableNavigationProperties (names : List String)
  | maxDeepLevels (levels : Nat)
deriving DecidableEq, Repr

/-- A label with names after it. -/
def labelled (label : String) (names : List String) : String :=
  label ++ ": " ++ ", ".intercalate names

/-- A constraint in words. -/
def Constraint.text : Constraint → String
  | requiresFilter => "a filter expression is required"
  | maxExpandLevels levels => "at most " ++ toString levels ++ " levels of expansion"
  | maxDeepLevels levels => "at most " ++ toString levels ++ " levels of nested entities"
  | unsupportedSearchExpressions flags => "unsupported search expressions: " ++ flags
  | requiredFilterProperties names => labelled "properties required in filter" names
  | nonFilterableProperties names => labelled "non-filterable properties" names
  | nonSortableProperties names => labelled "non-sortable properties" names
  | ascendingOnlyProperties names => labelled "ascending-only properties" names
  | descendingOnlyProperties names => labelled "descending-only properties" names
  | nonExpandableProperties names => labelled "non-expandable properties" names
  | nonCountableProperties names => labelled "non-countable properties" names
  | nonInsertableProperties names => labelled "non-insertable properties" names
  | nonInsertableNavigationProperties names =>
    labelled "non-insertable navigation properties" names
  | nonUpdatableNavigationProperties names => labelled "non-updatable navigation properties" names
  | nonDeletableNavigationProperties names => labelled "non-deletable navigation properties" names

/-! ## Parameters -/

/-- Where a parameter stands in a request. -/
inductive ParameterPlace
  | path
  | query
  | header
deriving DecidableEq, Repr, Inhabited

/-- What a parameter holds. -/
inductive ParameterType
  /-- A value of a named primitive type. -/
  | primitive (name : String)
  | integer
  | boolean
  | string
  /-- Items with commas between them. -/
  | stringList
deriving DecidableEq, Repr, Inhabited

/-- A parameter of an endpoint. -/
structure EndpointParameter where
  /-- The name. -/
  name : String
  /-- Where it stands. -/
  place : ParameterPlace
  /-- Whether a request must have it. -/
  required : Bool
  /-- What it is for. -/
  description : Option String
  /-- What it holds. -/
  type : ParameterType
  /-- What it cannot hold. -/
  constraints : List Constraint
  /-- Example values. -/
  examples : List ExampleValue
deriving Repr, Inhabited

/-! ## Bodies -/

/-- What the body of a request or response holds. -/
inductive Payload
  /-- An entity. -/
  | entity (type : String)
  /-- Entities. -/
  | entityCollection (type : String)
  /-- The result of an operation. -/
  | value (type : String) (collection : Bool)
  /-- The parameters of an action. -/
  | parameters (parameters : List Parameter)
  /-- A number of entities. -/
  | count
  /-- A reference to an entity. -/
  | reference
  /-- References to entities. -/
  | referenceCollection
  /-- An error. -/
  | error
deriving DecidableEq, Repr, Inhabited

/-- The media type of all bodies but a count. -/
def applicationJson : String := "application/json"

/-- The media type of a count. -/
def textPlain : String := "text/plain"

/-- The body of a request. -/
structure RequestBody where
  /-- The media type. -/
  contentType : String
  /-- What it is for. -/
  description : Option String
  /-- What it holds. -/
  payload : Payload
  /-- Whether a request must have it. -/
  required : Bool
deriving DecidableEq, Repr, Inhabited

/-- The status of a response. -/
inductive ResponseStatus
  | code (number : Nat)
  /-- Any status that has no response of its own. -/
  | other
deriving DecidableEq, Repr, Inhabited

/-- A status as text. -/
def ResponseStatus.text : ResponseStatus → String
  | code number => toString number
  | other => "default"

/-- A response. -/
structure Response where
  /-- The status. -/
  status : ResponseStatus
  /-- The media type. -/
  contentType : String
  /-- When it is given. -/
  description : String
  /-- What its body holds, if it has one. -/
  payload : Option Payload
deriving DecidableEq, Repr, Inhabited

/-! ## Endpoints -/

/-- An HTTP method. -/
inductive Method
  | get
  | post
  | put
  | patch
  | delete
deriving DecidableEq, Repr, Inhabited

/-- The name of a method. -/
def Method.text : Method → String
  | get => "GET"
  | post => "POST"
  | put => "PUT"
  | patch => "PATCH"
  | delete => "DELETE"

/-- One way to be authorized. -/
structure SecurityRequirement where
  /-- The scheme. -/
  scheme : String
  /-- The scopes of the scheme that suffice. -/
  scopes : List String
deriving DecidableEq, Repr, Inhabited

/-- An HTTP method on a resource path. -/
structure Endpoint where
  /-- The method. -/
  method : Method
  /-- The path. -/
  path : ResourcePath
  /-- The name of the endpoint. -/
  operationId : String
  /-- What it does, in a few words. -/
  summary : String
  /-- What it does, at length. -/
  description : Option String
  /-- The groups it belongs to. -/
  tags : List String
  /-- What it takes, those of the template first. -/
  parameters : List EndpointParameter
  /-- The body it takes. -/
  requestBody : Option RequestBody
  /-- What it answers. -/
  responses : List Response
  /-- The ways to be authorized for it. -/
  security : List SecurityRequirement
  /-- What it cannot do. -/
  constraints : List Constraint
deriving Repr, Inhabited

namespace Endpoint

/-- The parameter of a name. -/
def parameter? (endpoint : Endpoint) (name : String) : Option EndpointParameter :=
  endpoint.parameters.find? fun p => p.name == name

/-- The status of the first response that says all went well. -/
def successStatus? (endpoint : Endpoint) : Option Nat :=
  endpoint.responses.findSome? fun response =>
    match response.status with
    | .code number => if number < 300 then some number else none
    | .other => none

end Endpoint

end ODataApi
