import Walkthrough.Failure
import Walkthrough.Json.Printer

/-!
JSON documents: the text of a value that is to be kept or shown. A whole number with more digits
than a reader takes is not written.
-/

namespace Walkthrough.Json

mutual

/-- Whether a value holds a whole number with too many digits. -/
def isOverlong : Json → Bool
  | .int n => digitLimit < (Nat.toDigits 10 n.natAbs).length
  | .arr items => anyOverlong items
  | .obj members => anyMemberOverlong members
  | _ => false

def anyOverlong : List Json → Bool
  | [] => false
  | v :: rest => isOverlong v || anyOverlong rest

def anyMemberOverlong : List (String × Json) → Bool
  | [] => false
  | (_, v) :: rest => isOverlong v || anyMemberOverlong rest

end

/-- The indented text, unless a whole number in it is too long. -/
def document (v : Json) : Except Failure String :=
  if v.isOverlong then .error (.value .overlongInteger) else .ok v.pretty

/-- The text on one line, unless a whole number in it is too long. -/
def oneLine (v : Json) : Except Failure String :=
  if v.isOverlong then .error (.value .overlongInteger) else .ok v.compact

end Walkthrough.Json
