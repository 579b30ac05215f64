import Walkthrough.Plan.Grammar
import Walkthrough.Text.Digit

/-!
Patches: a reason and up to eight operations, each of which overwrites one field of one step. Only
listed fields can be addressed, a step is never added, removed or changed in kind, and a patched
plan has to follow the plan grammar again.
-/

namespace Walkthrough

/-- An operation as it is applied; one that was not checked may hold values of any kind. -/
structure Patch.Operation where
  op : Json
  path : Json
  value : Json
  deriving Inhabited

structure Patch where
  reason : Json
  operations : List Patch.Operation
  deriving Inhabited

namespace Patch

def operationLimit : Nat := 8

/-- The names of operations; both overwrite. -/
def ops : List String := ["replace", "add"]

/-- The fields that may be overwritten. -/
def fields : List String :=
  ["target", "selector", "field", "value", "url", "textVisible", "urlIncludes", "elementVisible",
    "timeoutMs"]

/-- The digits and the field of a path `/steps/<digits>/<field>`. Digits may be of any script, and a
line feed may end the path. -/
def address? (path : String) : Option (List Char × String) :=
  let opening := "/steps/".toList
  let cs := path.toList
  if opening.isPrefixOf cs then
    let body := cs.drop opening.length
    let digits := body.takeWhile Text.isDecimal
    match body.drop digits.length with
    | '/' :: rest =>
      let name := String.ofList (if rest.getLast? = some '\n' then rest.dropLast else rest)
      if digits.isEmpty || !fields.contains name then none else some (digits, name)
    | _ => none
  else none

def pathForm : Form where
  expression := "^/steps/(\\d+)/(" ++ Text.join "|" fields ++ ")$"
  accepts path := (address? path).isSome

def schema : Schema :=
  .ofRules [
    .kind .object,
    .properties [
      ("reason", .ofRules [.kind .string, .minLength]),
      ("operations", .ofRules [
        .kind .array,
        .maxItems operationLimit,
        .items (.ofRules [
          .kind .object,
          .properties [
            ("op", .ofRules [.oneOf ops]),
            ("path", .ofRules [.kind .string, .matching pathForm]),
            ("value", .ofRules [.anyOf [
              .ofRules [.kind .string],
              .ofRules [.kind .integer, .minimum 0]]])],
          .required ["op", "path", "value"]])])],
    .required ["reason", "operations"]]

/-- The operation of a JSON value, taken on trust. -/
def Operation.ofJson (settle : Json → Json) (v : Json) : Except Failure Operation := do
  let op ← v.required "op"
  let path ← v.required "path"
  let value ← v.required "value"
  return ⟨op, path, settle value⟩

/-- The patch of a JSON value, taken on trust. -/
def ofJson (settle : Json → Json) (v : Json) : Except Failure Patch := do
  let reason ← v.required "reason"
  let operations ← (← (← v.required "operations").elements).mapM (Operation.ofJson settle)
  return ⟨reason, operations⟩

/-- The patch of a JSON value that follows the schema; whole floats become whole numbers. -/
def parse (v : Json) : Except Failure Patch :=
  match schema.firstViolation? v with
  | .error fault => .error (.value (.url fault))
  | .ok (some violation) => .error (.patchRejected (.breach violation.path violation.breach))
  | .ok none => ofJson Json.settle v

def toJson (patch : Patch) : Json :=
  .obj [("reason", patch.reason), ("operations", .arr (patch.operations.map fun o =>
    .obj [("op", o.op), ("path", o.path), ("value", o.value)]))]

/-- The number that digits spell, if there are not too many of them. -/
def indexOf (digits : List Char) : Except Failure Nat :=
  if Json.digitLimit < digits.length then .error (.value (.hugeInteger digits.length))
  else .ok (Text.decimalValue digits)

/-- A step with a member overwritten. -/
def overwriteMember (field : String) (value : Json) : Json → Json
  | .obj members => .obj (Table.set members field value)
  | v => v

def overwrite (steps : List Json) (o : Operation) : Except Failure (List Json) :=
  if !o.op.str?.any ops.contains then .error (.patchRejected (.unknownOp o.op))
  else
    match o.path with
    | .str path =>
      match address? path with
      | none => .error (.patchRejected (.unknownPath path))
      | some (digits, field) =>
        match indexOf digits with
        | .error failure => .error failure
        | .ok index =>
          if steps.length ≤ index then .error (.patchRejected (.noSuchStep index))
          else .ok (steps.modify index (overwriteMember field o.value))
    | _ => .error .wrongType

def overwriteAll (steps : List Json) : List Operation → Except Failure (List Json)
  | [] => .ok steps
  | o :: rest =>
    match overwrite steps o with
    | .error failure => .error failure
    | .ok steps => overwriteAll steps rest

/-- A plan as JSON with other steps. -/
def withSteps (p : Plan) (steps : List Json) : Json :=
  match p.toJson with
  | .obj members => .obj (Table.set members "steps" (.arr steps))
  | v => v

def apply (p : Plan) (patch : Patch) : Except Failure Plan :=
  let count := patch.operations.length
  if operationLimit < count then .error (.patchRejected (.tooMany count operationLimit))
  else
    match overwriteAll (p.steps.map Step.toJson) patch.operations with
    | .error failure => .error failure
    | .ok steps =>
      match Plan.validate (withSteps p steps) with
      | .ok patched => .ok patched
      | .error (.grammar path fault) => .error (.patchRejected (.spoilsPlan path fault))
      | .error failure => .error failure

end Patch
end Walkthrough
