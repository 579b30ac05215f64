import Walkthrough.Clock
import Walkthrough.Primitive

/-!
What a run reports: the outcome of every primitive step that was carried out, the texts extracted,
and where the artifacts are. A report is kept as JSON.
-/

namespace Walkthrough

/-- How a step or a run ended. -/
inductive Verdict where
  | passed
  | failed
  deriving DecidableEq, Repr, Inhabited

def Verdict.name : Verdict → String
  | .passed => "passed"
  | .failed => "failed"

/-- The outcome of a primitive step. -/
structure StepReport where
  index : Nat
  kind : String
  description : String
  verdict : Verdict
  startedAt : Instant
  endedAt : Instant
  durationMs : Int
  error : Option String
  artifactPaths : Option (List String)
  deriving DecidableEq, Repr, Inhabited

/-- The member of a value that may be missing. -/
def optionalMember (key : String) (value : Option Json) : List (String × Json) :=
  (value.map fun v => (key, v)).toList

def textArray (texts : List String) : Json :=
  .arr (texts.map .str)

def StepReport.toJson (r : StepReport) : Json :=
  .obj ([("index", .int r.index), ("type", .str r.kind), ("description", .str r.description),
      ("status", .str r.verdict.name), ("startedAt", .str r.startedAt.text),
      ("endedAt", .str r.endedAt.text), ("durationMs", .int r.durationMs)] ++
    optionalMember "error" (r.error.map .str) ++
    optionalMember "artifactPaths" (r.artifactPaths.map textArray))

/-- Where the artifacts of a run are; those of a failure only if they came about. -/
structure Artifacts where
  runDir : String
  tracePath : String
  resultPath : String
  screenshot : Option String
  snapshot : Option String
  deriving DecidableEq, Repr, Inhabited

def Artifacts.toJson (a : Artifacts) : Json :=
  .obj ([("runDir", .str a.runDir), ("tracePath", .str a.tracePath),
      ("resultPath", .str a.resultPath)] ++
    optionalMember "failureScreenshotPath" (a.screenshot.map .str) ++
    optionalMember "failureDomPath" (a.snapshot.map .str))

structure Report where
  runId : String
  verdict : Verdict
  startedAt : Instant
  endedAt : Instant
  durationMs : Int
  plan : Plan
  artifacts : Artifacts
  steps : List StepReport
  outputs : Table (List String)
  deriving Inhabited

namespace Report

def failedStep? (r : Report) : Option StepReport :=
  r.steps.find? fun step => step.verdict = .failed

def toJson (r : Report) : Json :=
  .obj [("runId", .str r.runId), ("status", .str r.verdict.name),
    ("startedAt", .str r.startedAt.text), ("endedAt", .str r.endedAt.text),
    ("durationMs", .int r.durationMs), ("plan", r.plan.toJson),
    ("steps", .arr (r.steps.map StepReport.toJson)),
    ("outputs", .obj (r.outputs.map fun entry => (entry.1, textArray entry.2))),
    ("artifacts", r.artifacts.toJson)]

end Report
end Walkthrough
