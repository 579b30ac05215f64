import Walkthrough.Json.Access
import Walkthrough.Run.Report

/-!
Records: reports read back from JSON. A record takes what it finds on trust, so most of its members
are JSON values of any kind; what is missing or cannot be listed is a failure.
-/

namespace Walkthrough

/-- The outcome of a step, read back. A missing error or list of artifacts is `null`. -/
structure StepRecord where
  index : Json
  kind : Json
  description : Json
  status : Json
  startedAt : Json
  endedAt : Json
  durationMs : Json
  error : Json
  artifactPaths : Json
  deriving Inhabited

def setMembers (members : List (String × Json)) : List (String × Json) :=
  members.filter fun member => member.2.isSet

namespace StepRecord

def ofJson (v : Json) : Except Failure StepRecord := do
  return {
    index := ← v.required "index"
    kind := ← v.required "type"
    description := ← v.required "description"
    status := ← v.required "status"
    startedAt := ← v.required "startedAt"
    endedAt := ← v.required "endedAt"
    durationMs := ← v.required "durationMs"
    error := v.optional "error"
    artifactPaths := v.optional "artifactPaths" }

def toJson (r : StepRecord) : Except Failure Json := do
  let paths ← match r.artifactPaths with
    | .null => .ok .null
    | other => (Json.elements other).map Json.arr
  return .obj ([("index", r.index), ("type", r.kind), ("description", r.description),
      ("status", r.status), ("startedAt", r.startedAt), ("endedAt", r.endedAt),
      ("durationMs", r.durationMs)] ++ setMembers [("error", r.error), ("artifactPaths", paths)])

def isFailed (r : StepRecord) : Bool :=
  r.status.str? == some Verdict.failed.name

end StepRecord

/-- The record of an outcome that was just reported. -/
def StepReport.record (r : StepReport) : StepRecord where
  index := .int r.index
  kind := .str r.kind
  description := .str r.description
  status := .str r.verdict.name
  startedAt := .str r.startedAt.text
  endedAt := .str r.endedAt.text
  durationMs := .int r.durationMs
  error := .ofOption r.error
  artifactPaths := (r.artifactPaths.map textArray).getD .null

/-- Where artifacts are, read back. Missing ones are `null`. -/
structure ArtifactsRecord where
  runDir : Json
  tracePath : Json
  resultPath : Json
  screenshot : Json
  snapshot : Json
  deriving Inhabited

namespace ArtifactsRecord

def ofJson (v : Json) : Except Failure ArtifactsRecord := do
  return {
    runDir := ← v.required "runDir"
    tracePath := ← v.required "tracePath"
    resultPath := ← v.required "resultPath"
    screenshot := v.optional "failureScreenshotPath"
    snapshot := v.optional "failureDomPath" }

def toJson (a : ArtifactsRecord) : Json :=
  .obj ([("runDir", a.runDir), ("tracePath", a.tracePath), ("resultPath", a.resultPath)] ++
    setMembers [("failureScreenshotPath", a.screenshot), ("failureDomPath", a.snapshot)])

end ArtifactsRecord

def Artifacts.record (a : Artifacts) : ArtifactsRecord where
  runDir := .str a.runDir
  tracePath := .str a.tracePath
  resultPath := .str a.resultPath
  screenshot := .ofOption a.screenshot
  snapshot := .ofOption a.snapshot

/-- A report, read back. -/
structure Record where
  runId : Json
  status : Json
  startedAt : Json
  endedAt : Json
  durationMs : Json
  plan : Plan
  artifacts : ArtifactsRecord
  steps : List StepRecord
  outputs : Table (List Json)
  deriving Inhabited

namespace Record

/-- The lists of texts in a JSON value; an empty or absent one has none. -/
def outputsOf (v : Json) : Except Failure (Table (List Json)) :=
  if v.isTruthy then
    match v with
    | .obj members => members.mapM fun entry => do return (entry.1, ← Json.elements entry.2)
    | _ => .error .noField
  else .ok []

def ofJson (v : Json) : Except Failure Record := do
  return {
    runId := ← v.required "runId"
    status := ← v.required "status"
    startedAt := ← v.required "startedAt"
    endedAt := ← v.required "endedAt"
    durationMs := ← v.required "durationMs"
    plan := ← Plan.ofJson (← v.required "plan")
    artifacts := ← ArtifactsRecord.ofJson (← v.required "artifacts")
    steps := ← (← Json.elements ((v.member? "steps").getD (.arr []))).mapM StepRecord.ofJson
    outputs := ← outputsOf (v.optional "outputs") }

def toJson (r : Record) : Except Failure Json := do
  let steps ← r.steps.mapM StepRecord.toJson
  return .obj [("runId", r.runId), ("status", r.status), ("startedAt", r.startedAt),
    ("endedAt", r.endedAt), ("durationMs", r.durationMs), ("plan", r.plan.toJson),
    ("steps", .arr steps), ("outputs", .obj (r.outputs.map fun entry => (entry.1, .arr entry.2))),
    ("artifacts", r.artifacts.toJson)]

def parse (s : String) : Except Failure Record :=
  match Json.parse s with
  | .error fault => .error (.notJson fault)
  | .ok v => ofJson v

def failedStep? (r : Record) : Option StepRecord :=
  r.steps.find? StepRecord.isFailed

def noFailure : String := "No failed step in run result."

/-- A summary of the failure, for whoever is to mend the plan. -/
def summary (r : Record) : String :=
  match r.failedStep? with
  | none => noFailure
  | some step =>
    Json.pretty (.obj [("runId", r.runId), ("failedStep", .obj [("index", step.index),
      ("type", step.kind), ("description", step.description), ("error", step.error)])])

end Record

/-- The record of a run that was just reported. -/
def Report.record (r : Report) : Record where
  runId := .str r.runId
  status := .str r.verdict.name
  startedAt := .str r.startedAt.text
  endedAt := .str r.endedAt.text
  durationMs := .int r.durationMs
  plan := r.plan
  artifacts := r.artifacts.record
  steps := r.steps.map StepReport.record
  outputs := r.outputs.map fun entry => (entry.1, entry.2.map Json.str)

end Walkthrough
