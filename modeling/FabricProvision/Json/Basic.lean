/-!
# JSON values

Fabric files, plans and device operations are written as JSON.  A value keeps the order of an object's fields.
Whole numbers are exact; a number with a fraction or an exponent is kept as it was written, because no field of
this library holds one.
-/

namespace FabricProvision

/-- A JSON value. -/
inductive Json where
  | null
  | bool (value : Bool)
  | int (value : Int)
  | real (literal : String)
  | str (value : String)
  | arr (items : List Json)
  | obj (fields : List (String × Json))
deriving Inhabited

namespace Json

/-- The first field of that name in an object. -/
def field? (j : Json) (name : String) : Option Json :=
  match j with
  | .obj fields => fields.lookup name
  | _ => none

/-- The fields of an object. -/
def fields? : Json → Option (List (String × Json))
  | .obj fields => some fields
  | _ => none

end Json

end FabricProvision
