import ODataApi.Dictionary
import ODataApi.Json

/-!
# Layers of values

One value lies over another.  Two objects are joined member by member, and anything
else hides what is below it.  Objects have their members sorted by name, each name
once, as `canonical` leaves them.  `nest` makes an object with one value, some levels
down, so that a single value can be laid over an object.
-/

namespace ODataApi

namespace Json

mutual

/-- A value with another one over it. -/
def overlay (below above : Json) : Json :=
  match below, above with
  | .object members, .object others => .object (overlayMembers members others)
  | _, above => above
termination_by sizeOf above

/-- Members with others over them. -/
def overlayMembers (members : Dictionary Json) (others : List (String × Json)) :
    Dictionary Json :=
  match others with
  | [] => members
  | (name, value) :: rest =>
    let value :=
      match members.get? name with
      | some below => overlay below value
      | none => value
    overlayMembers (members.insert name value) rest
termination_by sizeOf others

end

/-- A value at a place, which lists the names of the levels above it. -/
def nest (value : Json) : (place : List String) → Json
  | [] => value
  | level :: rest => .object [(level, nest value rest)]

/-! ## Tests -/

example : overlay (.object [("a", .null), ("b", .object [("c", .null)])])
    (.object [("b", .object [("d", .bool true)])])
    = .object [("a", .null), ("b", .object [("c", .null), ("d", .bool true)])] := by
  cbv
example : overlay (.object [("a", .null)]) (.array []) = .array [] := by cbv

end Json

end ODataApi
