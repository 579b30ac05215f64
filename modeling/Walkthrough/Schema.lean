import Walkthrough.Json.Display
import Walkthrough.Text.Split
import Walkthrough.Url

/-!
Schemas for JSON values. Each rule of a schema looks at one kind of value and passes the others.
Checking lists every violation, in the order of the rules; a value conforms when there is none.
-/

namespace Walkthrough

inductive Kind where
  | object
  | array
  | string
  | integer
  deriving DecidableEq, Repr

def Kind.name : Kind → String
  | .object => "object"
  | .array => "array"
  | .string => "string"
  | .integer => "integer"

/-- Whether a value is of a kind. A float with a whole value is an integer; a truth value is not. -/
def Kind.admits : Kind → Json → Bool
  | .object, .obj _ => true
  | .array, .arr _ => true
  | .string, .str _ => true
  | .integer, .int _ => true
  | .integer, .float x => x.toInt?.isSome
  | _, _ => false

/-- A form that a string has to match, named by its expression. -/
structure Form where
  expression : String
  accepts : String → Bool

mutual

/-- A list of rules that a value has to obey. -/
inductive Schema where
  | ofRules (rules : List Rule)

inductive Rule where
  | kind (k : Kind)
  | constant (s : String)
  | oneOf (options : List String)
  | minLength
  | absoluteUrl
  | matching (form : Form)
  | minimum (n : Int)
  | maximum (n : Int)
  | minItems
  | maxItems (n : Nat)
  | items (each : Schema)
  | properties (fields : List (String × Schema))
  | required (keys : List String)
  | noOthers (keys : List String)
  | anyOf (options : List Schema)

end

namespace Schema

/-- One step of the way from a value to a part of it. -/
inductive PathPart where
  | key (name : String)
  | index (n : Nat)
  deriving DecidableEq, Repr

def PathPart.text : PathPart → String
  | .key name => name
  | .index n => toString n

/-- Which rule a value breaks, with the value where the wording shows it. -/
inductive Breach where
  | kind (value : Json) (k : Kind)
  | constant (s : String)
  | oneOf (value : Json) (options : List String)
  | empty (value : Json)
  | notUrl (value : Json)
  | form (value : Json) (expression : String)
  | tooSmall (value : Json) (bound : Int)
  | tooLarge (value : Json) (bound : Int)
  | tooLong (value : Json)
  | missing (key : String)
  | unexpected (keys : List String)
  | noOption (value : Json)

def Breach.message : Breach → String
  | .kind v k => v.shown ++ " is not of type '" ++ k.name ++ "'"
  | .constant s => Text.quote s ++ " was expected"
  | .oneOf v options => v.shown ++ " is not one of " ++ Json.shown (.arr (options.map .str))
  | .empty v => v.shown ++ " should be non-empty"
  | .notUrl v => v.shown ++ " is not a 'uri'"
  | .form v expression => v.shown ++ " does not match " ++ Text.quote expression
  | .tooSmall v bound => v.shown ++ s!" is less than the minimum of {bound}"
  | .tooLarge v bound => v.shown ++ s!" is greater than the maximum of {bound}"
  | .tooLong v => v.shown ++ " is too long"
  | .missing key => Text.quote key ++ " is a required property"
  | .unexpected keys =>
    let sorted := keys.mergeSort fun a b => a ≤ b
    "Additional properties are not allowed (" ++ Text.join ", " (sorted.map Text.quote) ++
      (if keys.length = 1 then " was" else " were") ++ " unexpected)"
  | .noOption v => v.shown ++ " is not valid under any of the given schemas"

/-- A breach at a place. `ofKind` says whether the value there is of the kind that the schema of
the broken rule asks for. A value that no option admits lists what each option had against it. -/
inductive Violation where
  | mk (path : List PathPart) (breach : Breach) (ofKind : Bool) (options : List Violation)

def Violation.path : Violation → List PathPart
  | .mk path _ _ _ => path

def Violation.breach : Violation → Breach
  | .mk _ breach _ _ => breach

def Violation.ofKind : Violation → Bool
  | .mk _ _ ofKind _ => ofKind

def Violation.options : Violation → List Violation
  | .mk _ _ _ options => options

def kind? : Schema → Option Kind
  | .ofRules rules => rules.findSome? fun
    | .kind k => some k
    | _ => none

/-- A whole number compared with a bound, if the value is a number. -/
def isBelow (v : Json) (bound : Int) : Bool :=
  match v with
  | .int n => n < bound
  | .float x => x.ltInt bound
  | _ => false

def isAbove (v : Json) (bound : Int) : Bool :=
  match v with
  | .int n => bound < n
  | .float x => x.gtInt bound
  | _ => false

def isEmptyText : Json → Bool
  | .str s => s == ""
  | _ => false

/-- Whether a string is an absolute URL; other values pass. -/
def urlConforms : Json → Except Url.Fault Bool
  | .str s => Url.isAbsolute s
  | _ => .ok true

/-- The answer of a check. A URL that cannot be split ends the check. -/
abbrev Check := Except Url.Fault (List Violation)

/-- Runs a check on every item with its index and joins the answers. -/
def checkEach (check : Nat → Json → Check) : Nat → List Json → Check
  | _, [] => .ok []
  | i, v :: rest =>
    match check i v with
    | .error fault => .error fault
    | .ok found =>
      match checkEach check (i + 1) rest with
      | .error fault => .error fault
      | .ok more => .ok (found ++ more)

mutual

/-- The violations of a value at a place. -/
def check (path : List PathPart) (v : Json) : Schema → Check
  | .ofRules rules =>
    let ofKind := (kind? (.ofRules rules)).any (·.admits v)
    checkRules path v ofKind rules

def checkRules (path : List PathPart) (v : Json) (ofKind : Bool) : List Rule → Check
  | [] => .ok []
  | rule :: rest =>
    match checkRule path v ofKind rule with
    | .error fault => .error fault
    | .ok found =>
      match checkRules path v ofKind rest with
      | .error fault => .error fault
      | .ok more => .ok (found ++ more)

def checkRule (path : List PathPart) (v : Json) (ofKind : Bool) : Rule → Check
  | .kind k =>
    .ok (if k.admits v then [] else [.mk path (.kind v k) ofKind []])
  | .constant s =>
    .ok (if v.str? == some s then [] else [.mk path (.constant s) ofKind []])
  | .oneOf options =>
    .ok (if v.str?.any options.contains then [] else [.mk path (.oneOf v options) ofKind []])
  | .minLength =>
    .ok (if isEmptyText v then [.mk path (.empty v) ofKind []] else [])
  | .absoluteUrl =>
    match urlConforms v with
    | .error fault => .error fault
    | .ok conforms => .ok (if conforms then [] else [.mk path (.notUrl v) ofKind []])
  | .matching form =>
    .ok (if v.str?.all form.accepts then []
      else [.mk path (.form v form.expression) ofKind []])
  | .minimum bound =>
    .ok (if isBelow v bound then [.mk path (.tooSmall v bound) ofKind []] else [])
  | .maximum bound =>
    .ok (if isAbove v bound then [.mk path (.tooLarge v bound) ofKind []] else [])
  | .minItems =>
    match v with
    | .arr [] => .ok [.mk path (.empty v) ofKind []]
    | _ => .ok []
  | .maxItems n =>
    match v with
    | .arr items => .ok (if n < items.length then [.mk path (.tooLong v) ofKind []] else [])
    | _ => .ok []
  | .items each =>
    match v with
    | .arr items => checkEach (fun i item => check (path ++ [PathPart.index i]) item each) 0 items
    | _ => .ok []
  | .properties fields =>
    match v with
    | .obj members => checkFields path members fields
    | _ => .ok []
  | .required keys =>
    match v with
    | .obj members =>
      .ok ((keys.filter fun key => !Table.has members key).map fun key =>
        .mk path (.missing key) ofKind [])
    | _ => .ok []
  | .noOthers keys =>
    match v with
    | .obj members =>
      let others := (Table.keys members).filter fun key => !keys.contains key
      .ok (if others.isEmpty then [] else [.mk path (.unexpected others) ofKind []])
    | _ => .ok []
  | .anyOf options =>
    match checkOptions path v options with
    | .error fault => .error fault
    | .ok none => .ok []
    | .ok (some found) => .ok [.mk path (.noOption v) ofKind found]

/-- The violations of the listed members of an object; absent members pass. -/
def checkFields (path : List PathPart) (members : List (String × Json)) :
    List (String × Schema) → Check
  | [] => .ok []
  | (key, schema) :: rest =>
    match (match Table.get? members key with
      | some v => check (path ++ [PathPart.key key]) v schema
      | none => .ok []) with
    | .error fault => .error fault
    | .ok found =>
      match checkFields path members rest with
      | .error fault => .error fault
      | .ok more => .ok (found ++ more)

/-- What the options have against a value; `none` once one admits it. -/
def checkOptions (path : List PathPart) (v : Json) :
    List Schema → Except Url.Fault (Option (List Violation))
  | [] => .ok (some [])
  | schema :: rest =>
    match check path v schema with
    | .error fault => .error fault
    | .ok [] => .ok none
    | .ok found =>
      match checkOptions path v rest with
      | .error fault => .error fault
      | .ok none => .ok none
      | .ok (some more) => .ok (some (found ++ more))

end

def violations (schema : Schema) (v : Json) : Check :=
  schema.check [] v

end Schema
end Walkthrough
