import Walkthrough.Plan
import Walkthrough.Schema.Relevance
import Walkthrough.Text.Newline

/-!
The plan grammar. A plan is checked as a whole first, with every step known only by its tag, and
then step by step, so that the first step with a fault is the one reported.
-/

namespace Walkthrough.Plan

open Schema (PathPart)

def textSchema : Schema :=
  .ofRules [.kind .string, .minLength]

def urlSchema : Schema :=
  .ofRules [.kind .string, .minLength, .absoluteUrl]

/-- Whole numbers of milliseconds from one up to a bound. -/
def timeoutSchema (bound : Int) : Schema :=
  .ofRules [.kind .integer, .minimum 1, .maximum bound]

/-- Plans whose steps are known by their tags alone. -/
def planSchema : Schema :=
  .ofRules [
    .kind .object,
    .properties [
      ("version", .ofRules [.constant "1"]),
      ("name", textSchema),
      ("baseUrl", urlSchema),
      ("steps", .ofRules [
        .kind .array,
        .minItems,
        .items (.ofRules [
          .kind .object,
          .properties [("type", .ofRules [.oneOf Step.tags])],
          .required ["type"]])])],
    .required ["version", "steps"]]

/-- Steps of a kind: the tag, typed fields of which some are required, and no other members. -/
def stepSchemaOf (tag : String) (fields : List (String × Schema)) (required : List String) :
    Schema :=
  .ofRules [
    .kind .object,
    .properties (("type", .ofRules [.constant tag]) :: fields),
    .required ("type" :: required),
    .noOthers ("type" :: fields.map (·.1))]

def stepSchema : String → Schema
  | "goto" => stepSchemaOf "goto" [("url", urlSchema)] ["url"]
  | "click" => stepSchemaOf "click" [("target", textSchema), ("selector", textSchema)] ["target"]
  | "fill" =>
    stepSchemaOf "fill" [("field", textSchema), ("value", textSchema), ("selector", textSchema)]
      ["field", "value"]
  | "expect" =>
    stepSchemaOf "expect" [("textVisible", textSchema), ("urlIncludes", textSchema),
      ("elementVisible", textSchema), ("timeoutMs", timeoutSchema 60000)] []
  | "login" =>
    stepSchemaOf "login" [("username", textSchema), ("password", textSchema)]
      ["username", "password"]
  | "waitFor" =>
    stepSchemaOf "waitFor" [("textVisible", textSchema), ("selector", textSchema),
      ("timeoutMs", timeoutSchema 120000)] []
  | "extractTextList" =>
    stepSchemaOf "extractTextList" [("selector", textSchema), ("outputKey", textSchema),
      ("limit", .ofRules [.kind .integer, .minimum 1])] ["selector", "outputKey"]
  | _ => .ofRules [.oneOf Step.tags]

/-- The conditions of which a step of a kind has exactly one. -/
def conditionKeys : String → List String
  | "expect" => ["textVisible", "urlIncludes", "elementVisible"]
  | "waitFor" => ["textVisible", "selector", "timeoutMs"]
  | _ => []

/-- Whether exactly one of the keys, if any, has a value. -/
def hasOneCondition (keys : List String) (members : Table Json) : Bool :=
  keys.isEmpty ||
    (keys.filter fun key => (Table.get? members key).any Json.isSet).length = 1

def stepTag (v : Json) : String :=
  ((v.member? "type").bind Json.str?).getD ""

/-- Checks a value against a schema; a violation is reported under a path. -/
def conform (path : List PathPart) (schema : Schema) (v : Json) : Except Failure Unit :=
  match schema.firstViolation? v with
  | .error fault => .error (.value (.url fault))
  | .ok none => .ok ()
  | .ok (some violation) => .error (.grammar (path ++ violation.path) (.breach violation.breach))

def checkStep (index : Nat) (v : Json) : Except Failure Unit :=
  let path := [PathPart.key "steps", .index index]
  let tag := stepTag v
  let keys := conditionKeys tag
  match conform path (stepSchema tag) v with
  | .error failure => .error failure
  | .ok () =>
    match v with
    | .obj members =>
      if hasOneCondition keys members then .ok ()
      else .error (.grammar path (.notExactlyOne tag keys))
    | _ => .ok ()

def checkSteps : Nat → List Json → Except Failure Unit
  | _, [] => .ok ()
  | index, v :: rest =>
    match checkStep index v with
    | .error failure => .error failure
    | .ok () => checkSteps (index + 1) rest

/-- The plan of a JSON value that follows the grammar. -/
def validate (v : Json) : Except Failure Plan :=
  match conform [] planSchema v with
  | .error failure => .error failure
  | .ok () =>
    match v.member? "steps" with
    | some (.arr steps) =>
      match checkSteps 0 steps with
      | .error failure => .error failure
      | .ok () => ofJson v
    | _ => ofJson v

/-- The plan of a JSON text that follows the grammar. -/
def parse (s : String) : Except Failure Plan :=
  match Json.parse s with
  | .ok v => validate v
  | .error (.malformed kind place) => .error (.grammar [] (.notJson (.malformed kind place)))
  | .error fault => .error (.notJson fault)

end Walkthrough.Plan
