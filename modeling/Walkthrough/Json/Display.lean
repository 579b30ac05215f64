import Walkthrough.Json.Value
import Walkthrough.Text.Quoted

/-!
Values as messages show them: `None`, `True` and `False` for null and the truth values, quoted
strings, and brackets around items and members.
-/

namespace Walkthrough.Json

mutual

/-- A value inside a message. -/
def shown : Json → String
  | .null => "None"
  | .bool b => if b then "True" else "False"
  | .int n => toString n
  | .float x => x.text
  | .str s => Text.quote s
  | .arr items => "[" ++ shownItems items ++ "]"
  | .obj members => "\x7b" ++ shownMembers members ++ "\x7d"

def shownItems : List Json → String
  | [] => ""
  | [v] => shown v
  | v :: rest => shown v ++ ", " ++ shownItems rest

def shownMembers : List (String × Json) → String
  | [] => ""
  | [(k, v)] => Text.quote k ++ ": " ++ shown v
  | (k, v) :: rest => Text.quote k ++ ": " ++ shown v ++ ", " ++ shownMembers rest

end

/-- A value as text of its own: a string stands bare. -/
def display : Json → String
  | .str s => s
  | v => shown v

end Walkthrough.Json
