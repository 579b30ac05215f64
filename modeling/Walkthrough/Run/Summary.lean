import Walkthrough.Run.Record
import Walkthrough.Text.Capital

/-!
Records as people read them: a line for the run, a line for each step, the texts extracted, and
where the artifacts are.
-/

namespace Walkthrough

def padEnd (width : Nat) (s : String) : String :=
  s ++ String.ofList (List.replicate (width - s.length) ' ')

namespace StepRecord

/-- The number of a step, counted from one. -/
def number (r : StepRecord) : Except Failure Json :=
  match r.index with
  | .int n => .ok (.int (n + 1))
  | .bool b => .ok (.int (if b then 2 else 1))
  | .float x => .ok (.float (x.addInt 1))
  | _ => .error .wrongType

/-- The line of a step, and another one with its error. -/
def lines (r : StepRecord) : Except Failure (List String) := do
  let status ← match r.status with
    | .str s => .ok (Text.upper s)
    | _ => .error .noField
  let number ← r.number
  let line := padEnd 6 status ++ " step=" ++ number.display ++ " " ++ r.description.display ++
    " (" ++ r.durationMs.display ++ "ms)"
  return line :: (if r.error.isTruthy then ["  error=" ++ r.error.display] else [])

end StepRecord

namespace Record

def lines (r : Record) : Except Failure (List String) := do
  let steps ← r.steps.mapM StepRecord.lines
  let outputs : Json := .obj (r.outputs.map fun entry => (entry.1, .arr entry.2))
  return ["runId=" ++ r.runId.display ++ " status=" ++ r.status.display ++ " durationMs=" ++
      r.durationMs.display] ++ steps.flatten ++
    (if outputs.isTruthy then ["outputs=" ++ outputs.compact] else []) ++
    ["artifacts=" ++ r.artifacts.runDir.display]

/-- The lines of a record, and where its trace and the evidence of a failure are. -/
def fullLines (r : Record) : Except Failure (List String) := do
  let lines ← r.lines
  let evidence (title : String) (v : Json) : List String :=
    if v.isTruthy then [title ++ v.display] else []
  return lines ++ ["trace=" ++ r.artifacts.tracePath.display] ++
    evidence "failureScreenshot=" r.artifacts.screenshot ++
    evidence "failureDom=" r.artifacts.snapshot

end Record
end Walkthrough
