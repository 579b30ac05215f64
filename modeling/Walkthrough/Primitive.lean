import Walkthrough.Json.Document
import Walkthrough.Plan
import Walkthrough.Text.Blank

/-!
Primitive steps, which a browser can carry out one by one. A step of a plan becomes one primitive
step, but a login becomes four: both fields are filled, the form is sent, and there is a pause.
-/

namespace Walkthrough

/-- What a primitive step does: its kind, a description for people, and its arguments. -/
structure Action where
  kind : String
  description : String
  payload : Table Json
  deriving Inhabited

/-- An action at its place among all primitive steps, with the index of the plan's step that it
comes from. -/
structure Primitive extends Action where
  index : Nat
  source : Nat
  deriving Inhabited

namespace Action

/-- How many texts are extracted where a step sets no limit. -/
def defaultLimit : Int := 5

/-- What a login clicks to send its form. -/
def submitTarget : String := "Sign in"

/-- How long a login waits after sending its form, in milliseconds. -/
def settleTime : Int := 2000

def setArguments (arguments : Table Json) : Table Json :=
  arguments.filter fun argument => argument.2.isSet

def stripped : Json → Except Failure Json
  | .str s => .ok (.str (Text.strip s))
  | _ => .error .noField

/-- A value, or the empty text for an absent one. -/
def orEmpty (v : Json) : Json :=
  if v.isTruthy then v else .str ""

def login (username password : Json) : List Action :=
  [⟨"fill", "login username",
      [("field", .str "username"), ("value", username), ("selector", .str "")]⟩,
    ⟨"fill", "login password",
      [("field", .str "password"), ("value", password), ("selector", .str "")]⟩,
    ⟨"click", "login submit", [("target", .str submitTarget), ("selector", .str "")]⟩,
    ⟨"waitFor", "wait for post-login navigation", [("timeoutMs", .int settleTime)]⟩]

def ofStep : Step → Except Failure (List Action)
  | .goto url => .ok [⟨"goto", "goto " ++ url.display, [("url", url)]⟩]
  | .click target selector =>
    match stripped target with
    | .error failure => .error failure
    | .ok t =>
      .ok [⟨"click", "click " ++ target.display, [("target", t), ("selector", orEmpty selector)]⟩]
  | .fill field value selector =>
    match stripped field with
    | .error failure => .error failure
    | .ok f =>
      .ok [⟨"fill", "fill " ++ field.display,
        [("field", f), ("value", value), ("selector", orEmpty selector)]⟩]
  | .expect textVisible urlIncludes elementVisible timeoutMs =>
    .ok [⟨"expect", "expect condition", setArguments [("textVisible", textVisible),
      ("urlIncludes", urlIncludes), ("elementVisible", elementVisible),
      ("timeoutMs", timeoutMs)]⟩]
  | .login username password => .ok (login username password)
  | .waitFor textVisible selector timeoutMs =>
    .ok [⟨"waitFor", "wait for condition", setArguments [("textVisible", textVisible),
      ("selector", selector), ("timeoutMs", timeoutMs)]⟩]
  | .extractTextList selector outputKey limit =>
    .ok [⟨"extractTextList", "extract text list " ++ outputKey.display, [("selector", selector),
      ("limit", if limit.isSet then limit else .int defaultLimit), ("outputKey", outputKey)]⟩]

/-- The actions of a step under a tag that may not be its own. -/
def ofTagged (tag : String) (step : Step) : Except Failure (List Action) :=
  if tag = step.tag then ofStep step
  else if tag ∈ Step.tags then .error .noField
  else .error (.value (.unknownStep tag))

/-- The arguments that a call shows: all but the empty texts. -/
def shown (payload : Table Json) : Table Json :=
  payload.filter fun argument => argument.2.str? != some ""

/-- A numbered call with the arguments that it shows. -/
def callText (number : Int) (kind : String) (payload : Table Json) : Except Failure String := do
  let arguments ← (shown payload).mapM fun argument =>
    argument.2.oneLine.map fun text => argument.1 ++ "=" ++ text
  let first ← (Json.int number).oneLine
  return first ++ ". " ++ kind ++ "(" ++ Text.join ", " arguments ++ ")"

end Action

namespace Primitive

def number (start source : Nat) : List Action → List Primitive
  | [] => []
  | action :: rest => ⟨action, start, source⟩ :: number (start + 1) source rest

/-- The primitive steps of tagged steps, of which the first has the given source index and whose
first primitive step has the given start index. -/
def ofTagged (source start : Nat) : List (String × Step) → Except Failure (List Primitive)
  | [] => .ok []
  | (tag, step) :: rest =>
    match Action.ofTagged tag step with
    | .error failure => .error failure
    | .ok actions =>
      match ofTagged (source + 1) (start + actions.length) rest with
      | .error failure => .error failure
      | .ok more => .ok (number start source actions ++ more)

/-- One line that shows a primitive step as a numbered call. -/
def line (p : Primitive) : Except Failure String :=
  Action.callText (p.index + 1) p.kind p.payload

def toJson (p : Primitive) : Json :=
  .obj [("index", .int p.index), ("sourceStepIndex", .int p.source), ("type", .str p.kind),
    ("description", .str p.description), ("payload", .obj p.payload)]

end Primitive

namespace Plan

def compile (p : Plan) : Except Failure (List Primitive) :=
  Primitive.ofTagged 0 0 (p.steps.map fun step => (step.tag, step))

/-- The lines that show what a plan does. -/
def lines (p : Plan) : Except Failure (List String) :=
  match p.compile with
  | .error failure => .error failure
  | .ok primitives => primitives.mapM Primitive.line

end Plan
end Walkthrough
