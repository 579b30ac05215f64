import Walkthrough.Json.Value

/-!
Submissions of runs: a plan, and optionally a file of variables, whether to run for show only, and
texts to label the run with. What is submitted has to be of that shape before the plan is looked at.
-/

namespace Walkthrough.Http

/-- A submission; the plan may be any value. -/
structure Submission where
  plan : Json
  envFile : Option String
  dryRun : Bool
  labels : Json
  deriving Inhabited

namespace Submission

/-- What is wrong with the shape of a submission. -/
inductive Problem where
  | notObject
  | envFile
  | labels
  | dryRun
  deriving DecidableEq, Repr

def Problem.message : Problem → String
  | .notObject => "请求体必须是 JSON 对象"
  | .envFile => "envRef must be a non-empty string"
  | .labels => "metadata must map strings to strings"
  | .dryRun => "dryRun must be a boolean"

/-- The file of variables; a null is none. -/
def readEnvFile : Json → Except Problem (Option String)
  | .null => .ok none
  | .str s => if s = "" then .error .envFile else .ok (some s)
  | _ => .error .envFile

/-- The labels of a run; a null is none. -/
def readLabels : Json → Except Problem Json
  | .null => .ok (.obj [])
  | .obj members =>
    if members.all fun member => member.2.str?.isSome then .ok (.obj members) else .error .labels
  | _ => .error .labels

/-- Whether a run is for show only; a null is no answer to that. -/
def readDryRun : Option Json → Except Problem Bool
  | none => .ok false
  | some (.bool b) => .ok b
  | some _ => .error .dryRun

/-- The submission in a JSON value, or the first problem with it. -/
def ofJson : Json → Except Problem Submission
  | .obj members => do
    let member (key : String) : Json := (Table.get? members key).getD .null
    let envFile ← readEnvFile (member "envRef")
    let labels ← readLabels (member "metadata")
    let dryRun ← readDryRun (Table.get? members "dryRun")
    return ⟨member "plan", envFile, dryRun, labels⟩
  | _ => .error .notObject

end Submission
end Walkthrough.Http
