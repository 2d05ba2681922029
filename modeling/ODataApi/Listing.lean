import ODataApi.Conversion

/-!
# Listings

A listing has a line for each path: its template, a blank, and the methods of its
endpoints with commas between them, or a dash if there are none.
-/

namespace ODataApi

/-- The line of a path. -/
def listingLine (path : ResourcePath) (endpoints : List Endpoint) : String :=
  let methods :=
    match endpoints with
    | [] => "-"
    | endpoints => ",".intercalate (endpoints.map fun endpoint => endpoint.method.text)
  path.template ++ " " ++ methods ++ "\n"

/-- The listing of a conversion. -/
def Conversion.listing (conversion : Conversion) : String :=
  String.join (conversion.groups.map fun (path, endpoints) => listingLine path endpoints)

end ODataApi
