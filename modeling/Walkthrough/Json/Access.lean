import Walkthrough.Failure

/-!
Taking JSON values apart on trust: members that have to be there, and values that are looped over.
-/

namespace Walkthrough.Json

/-- A member that has to be there. -/
def required (v : Json) (key : String) : Except Failure Json :=
  match v with
  | .obj members =>
    match Table.get? members key with
    | some found => .ok found
    | none => .error (.missingKey (.str key))
  | _ => .error .wrongType

/-- A member that may be missing. -/
def optional (v : Json) (key : String) : Json :=
  (v.member? key).getD .null

/-- The values that a loop over a value meets: items, characters, or keys. -/
def elements : Json → Except Failure (List Json)
  | .arr items => .ok items
  | .str s => .ok (s.toList.map fun c => .str (String.singleton c))
  | .obj members => .ok (members.map fun entry => .str entry.1)
  | _ => .error .wrongType

end Walkthrough.Json
