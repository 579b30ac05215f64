/-!
Cutting a text at a separator: at its first place, at its last one, or at all of them.
-/

namespace Walkthrough.Text

/-- The text before the first separator, or all of it. -/
def before (sep : Char) (cs : List Char) : List Char :=
  cs.takeWhile (· ≠ sep)

/-- The text after the first separator, if there is one. -/
def after? (sep : Char) (cs : List Char) : Option (List Char) :=
  match cs.dropWhile (· ≠ sep) with
  | [] => none
  | _ :: rest => some rest

/-- The text after the last separator, or all of it. -/
def afterLast (sep : Char) (cs : List Char) : List Char :=
  (cs.reverse.takeWhile (· ≠ sep)).reverse

/-- The pieces between separators; there is one more piece than separators. -/
def splitAt (sep : Char) : List Char → List (List Char)
  | [] => [[]]
  | c :: cs =>
    if c = sep then [] :: splitAt sep cs
    else match splitAt sep cs with
      | [] => [[c]]
      | piece :: pieces => (c :: piece) :: pieces

def join (sep : String) : List String → String
  | [] => ""
  | [s] => s
  | s :: rest => s ++ sep ++ join sep rest

def unlines : List String → String
  | [] => ""
  | line :: rest => line ++ "\n" ++ unlines rest

def occursIn (part cs : List Char) : Bool :=
  match cs with
  | [] => part.isEmpty
  | _ :: rest => part.isPrefixOf cs || occursIn part rest

end Walkthrough.Text
