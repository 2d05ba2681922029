import ODataApi.Json.Shape

/-!
# Settings of a conversion

Paths follow at most `maxNavigationDepth` navigation properties, and three kinds of
paths can be left out.  The depth is written as a whole number of thirty-two bits;
one below zero is refused before anything else is done.
-/

namespace ODataApi

/-- Which paths a conversion makes. -/
structure Settings where
  /-- How many navigation properties a path may follow. -/
  maxNavigationDepth : Int := 5
  /-- Whether there are paths that cast to a derived type. -/
  typeCastPaths : Bool := true
  /-- Whether there are paths to bound operations. -/
  operationPaths : Bool := true
  /-- Whether there are paths that count. -/
  countPaths : Bool := true
deriving DecidableEq, Repr, Inhabited

/-- Why settings are refused. -/
inductive SettingsError
  /-- The depth is below zero. -/
  | invalidNavigationDepth (depth : Int)
deriving DecidableEq, Repr

/-- An error in words. -/
def SettingsError.message : SettingsError → String
  | invalidNavigationDepth depth =>
    "max_navigation_depth must be >= 0, got " ++ toString depth

namespace Settings

/-- Refuse a depth below zero. -/
def validate (settings : Settings) : Except SettingsError Unit :=
  if settings.maxNavigationDepth < 0 then
    .error (.invalidNavigationDepth settings.maxNavigationDepth)
  else .ok ()

/-- The depth as a count. -/
def navigationDepth (settings : Settings) : Nat := settings.maxNavigationDepth.toNat

/-! ## JSON -/

/-- A whole number of thirty-two bits. -/
def int32? (json : Json) : Option Int :=
  json.int?.bind fun n => if -0x80000000 ≤ n ∧ n < 0x80000000 then some n else none

/-- The names of the settings. -/
def names : List String :=
  ["max_navigation_depth", "enable_type_cast_paths", "enable_operation_paths",
    "enable_dollar_count_paths"]

/-- Settings, with defaults for what is left out. -/
def ofJson? (json : Json) : Option Settings := do
  let [depth, typeCasts, operations, counts] ← json.fields? names | none
  pure {
    maxNavigationDepth := ← Json.optional? int32? 5 depth
    typeCastPaths := ← Json.optional? Json.bool? true typeCasts
    operationPaths := ← Json.optional? Json.bool? true operations
    countPaths := ← Json.optional? Json.bool? true counts }

/-- Settings as an object. -/
def toJson (settings : Settings) : Json :=
  .object (names.zip [Json.ofInt settings.maxNavigationDepth, .bool settings.typeCastPaths,
    .bool settings.operationPaths, .bool settings.countPaths])

end Settings

end ODataApi
