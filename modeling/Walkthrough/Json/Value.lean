import Walkthrough.Number.Shortest
import Walkthrough.Table

/-!
JSON values. Whole numbers and binary floating point numbers are told apart by how they are written,
and an object keeps its members in order.
-/

namespace Walkthrough

inductive Json where
  | null
  | bool (b : Bool)
  | int (n : Int)
  | float (x : Binary64)
  | str (s : String)
  | arr (items : List Json)
  | obj (members : List (String × Json))
  deriving Inhabited

namespace Json

/-- A float with a whole value becomes that whole number; all else stays. -/
def settle : Json → Json
  | .float x => match x.toInt? with
    | some n => .int n
    | none => .float x
  | v => v

/-- Empty and zero values, `false` and `null` count as absent. -/
def isTruthy : Json → Bool
  | .null => false
  | .bool b => b
  | .int n => n != 0
  | .float x => !x.isZero
  | .str s => s != ""
  | .arr items => !items.isEmpty
  | .obj members => !members.isEmpty

def isSet : Json → Bool
  | .null => false
  | _ => true

/-- A whole number; truth values act as one and zero. -/
def toInt? : Json → Option Int
  | .int n => some n
  | .bool b => some (if b then 1 else 0)
  | _ => none

def str? : Json → Option String
  | .str s => some s
  | _ => none

def member? : Json → String → Option Json
  | .obj members, key => Table.get? members key
  | _, _ => none

def ofOption : Option String → Json
  | some s => .str s
  | none => .null

end Json
end Walkthrough
