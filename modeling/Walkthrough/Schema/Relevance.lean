import Walkthrough.Schema

/-!
Which violation to report. The most relevant one is nearest to the root, and of equally near ones
the one with the last path, members by name and items by index. Where no option admits a value, the
violation of the option that comes nearest is reported instead, if one option comes nearest.
-/

namespace Walkthrough.Schema

/-- Members by name, items by index, members before items. -/
def PathPart.compare : PathPart → PathPart → Ordering
  | .key a, .key b => compareOfLessAndEq a b
  | .index m, .index n => Ord.compare m n
  | .key _, .index _ => .lt
  | .index _, .key _ => .gt

/-- Paths by their first difference. -/
def comparePaths : List PathPart → List PathPart → Ordering
  | [], [] => .eq
  | [], _ :: _ => .lt
  | _ :: _, [] => .gt
  | a :: as, b :: bs => (PathPart.compare a b).then (comparePaths as bs)

/-- Whether a violation only says that no option admits the value. -/
def Violation.isWeak (x : Violation) : Bool :=
  match x.breach with
  | .noOption _ => true
  | _ => false

/-- Violations by relevance, the more relevant one greater. A value of the expected kind makes its
violation less relevant. -/
def Violation.compare (x y : Violation) : Ordering :=
  (Ord.compare y.path.length x.path.length).then <|
  (comparePaths x.path y.path).then <|
  (Ord.compare (!x.isWeak) (!y.isWeak)).then <|
  Ord.compare (!x.ofKind) (!y.ofKind)

/-- The first of the greatest among violations. -/
def greatest (first : Violation) (others : List Violation) : Violation :=
  others.foldl (fun best x => if x.compare best = .gt then x else best) first

/-- The least of some violations, unless two of them are least. -/
def uniqueLeast? (xs : List Violation) : Option Violation :=
  match xs.filter fun x => xs.all fun y => x.compare y != .gt with
  | [x] => some x
  | _ => none

mutual

def Violation.depth : Violation → Nat
  | .mk _ _ _ options => optionsDepth options + 1

def optionsDepth : List Violation → Nat
  | [] => 0
  | x :: rest => max x.depth (optionsDepth rest)

end

/-- Replaces a violation by that of its nearest option, again and again. -/
def sharpen : Nat → Violation → Violation
  | 0, x => x
  | fuel + 1, x =>
    match uniqueLeast? x.options with
    | some y => sharpen fuel y
    | none => x

/-- The violation to report. -/
def mostRelevant? : List Violation → Option Violation
  | [] => none
  | first :: others =>
    let best := greatest first others
    some (sharpen best.depth best)

/-- The violation to report for a value, if it does not conform. -/
def firstViolation? (schema : Schema) (v : Json) : Except Url.Fault (Option Violation) :=
  match schema.violations v with
  | .ok found => .ok (mostRelevant? found)
  | .error fault => .error fault

end Walkthrough.Schema
