import Walkthrough.Patch
import Walkthrough.Run

/-!
Running a plan and repairing it. After a failed run an adapter is asked for a patch; an accepted one
changes the plan, which is then run again from its first step. Each request costs an attempt, a bad
answer keeps the plan, and an empty patch ends the repair.
-/

namespace Walkthrough.Repair

/-- The target that the built-in adapter proposes. -/
def fallbackTarget : String := "Submit"

/-- The source of the primitive step that an index names. Negative indices count from the end, and
an index beyond the last step names itself. -/
def sourceText (primitives : List Primitive) (index : Json) : Except Failure String :=
  let size : Int := primitives.length
  let pick (n : Int) : Except Failure String :=
    let place := if n < 0 then n + size else n
    if place < 0 then .error .outOfRange
    else match primitives[place.toNat]? with
      | some p => .ok (toString p.source)
      | none => .error .outOfRange
  match index with
  | .int n => if n < size then pick n else .ok (toString n)
  | .bool b => if (if b then 1 else 0) < size then pick (if b then 1 else 0) else .ok index.display
  | .float x => if x.ltInt size then .error .wrongType else .ok x.text
  | _ => .error .wrongType

def proposal (reason : String) (operations : List Json) : Json :=
  .obj [("reason", .str reason), ("operations", .arr operations)]

/-- What the built-in adapter proposes: another target for a click that failed, and else nothing. -/
def propose (request : Request) : Except Failure Json :=
  match request.record.failedStep? with
  | none => .ok (proposal "No failure detected" [])
  | some step => do
    let operations ←
      if step.kind.str? = some "click" then do
        let source ← sourceText (← request.plan.compile) step.index
        pure [Json.obj [("op", .str "replace"), ("path", .str ("/steps/" ++ source ++ "/target")),
          ("value", .str fallbackTarget)]]
      else pure []
    return proposal "Fallback selector refinement from failed click target" operations

/-- The adapter that is always at hand. -/
def builtIn : Adapter :=
  .ofAnswer fun _ request =>
    match propose request with
    | .ok raw => .value raw
    | .error failure => .failure failure

def defaultSeconds : Binary64 := .ofInt 30

/-- How long to wait for an adapter where nothing is said of it. -/
def defaultPatience : Json := .float defaultSeconds

/-- Whether a time to wait is over at once. -/
def isOver : Json → Bool
  | .int n => n ≤ 0
  | .bool b => !b
  | .float x => x.ltInt 0 || x.isZero
  | _ => false

/-- The patch in an answer that came within some seconds. -/
def received (patience : Json) : Answer → Except Failure Patch
  | .value raw => Patch.parse raw
  | .silence => .error (.adapterTimeout patience.display)
  | .failure (.expired _) => .error (.adapterTimeout patience.display)
  | .failure failure => .error failure

/-- The patch for a request, outside of any run. -/
def patchFor (adapter : Adapter) (patience : Json) (request : Request) : Except Failure Patch :=
  if isOver patience then .error (.adapterTimeout patience.display)
  else received patience (adapter.answer 1 request)

variable {σ : Type}

/-- Asks an adapter for a patch. Without any time to wait it is not asked. -/
def ask (adapter : Adapter) (patience : Json) (attempt : Nat) (request : Request) :
    Work σ Patch := do
  if isOver patience then throw (.adapterTimeout patience.display)
  else
    Work.record (.ask request)
    modify fun w => { w with files := adapter.touch attempt request w.files }
    Effect.ofExcept (received patience (adapter.answer attempt request))

/-- The snapshot of a failure; one that cannot be read is noted and left empty. -/
def readSnapshot (artifacts : Artifacts) : Work σ String := do
  match artifacts.snapshot with
  | none => pure ""
  | some path =>
    Effect.handling (Work.look fun files => files.readText (Path.ofText path)) Failure.isSystem
      fun failure => do
        Work.note .warning ("Could not read DOM snapshot " ++ path ++ ": " ++ failure.message)
        pure ""

/-- The file of the plan that an attempt led to. -/
def planFile (runDir : String) (attempt : Nat) : Path :=
  (Path.ofText runDir).child s!"plan.repaired.{attempt}.json"

/-- Keeps a repaired plan without the names of secrets; if that does not work, it is noted. -/
def keepPlan (runDir : String) (attempt : Nat) (plan : Plan) : Work σ Unit :=
  let path := planFile runDir attempt
  Effect.handling (Work.writeFile path (.text plan.redact.text)) Failure.isSystem fun failure =>
    Work.note .error (Failure.noArtifact (.repairedPlan path.text) failure.message).message

/-- What an attempt leads to: no more attempts, another attempt with the same plan, or a repaired
plan with the reason for it. -/
inductive Turn where
  | stop
  | again
  | repaired (plan : Plan) (reason : String)
  deriving Inhabited

/-- One attempt: asks for a patch of a plan and applies it. -/
def attempt (adapter : Adapter) (patience : Json) (number : Nat) (plan : Plan) (report : Report) :
    Work σ Turn := do
  let snapshot ← readSnapshot report.artifacts
  let request : Request := ⟨plan, report.record, some snapshot, report.artifacts.screenshot⟩
  let answer ← Effect.attempt do
    let patch ← ask adapter patience number request
    if patch.operations.isEmpty then return (patch.reason.display, none)
    else return (patch.reason.display, some (← Effect.ofExcept (patch.apply plan)))
  match answer with
  | .ok (reason, none) =>
    Work.note .info s!"Repair attempt {number} returned no operations ({reason}); stopping"
    return .stop
  | .ok (reason, some repaired) => return .repaired repaired reason
  | .error failure =>
    match failure with
    | .adapterTimeout _ | .model _ =>
      Work.note .warning s!"Repair attempt {number} produced no patch: {failure.message}"
      return .again
    | .patchRejected _ =>
      Work.note .warning s!"Repair attempt {number} rejected: {failure.message}"
      return .again
    | _ => throw failure

/-- Attempts after a run, as many as are left, the next one with the given number. -/
def attempts (host : Host σ) (options : RunOptions) (adapter : Adapter) (patience : Json) :
    Nat → Nat → Plan → Report → Work σ Report
  | 0, _, _, report => pure report
  | left + 1, number, plan, report =>
    match report.verdict with
    | .passed => pure report
    | .failed => do
      match ← attempt adapter patience number plan report with
      | .stop => pure report
      | .again => attempts host options adapter patience left (number + 1) plan report
      | .repaired repaired reason =>
        keepPlan report.artifacts.runDir number repaired
        Work.note .info s!"Repair attempt {number} applied ({reason}); re-running from step 1"
        let next ← run host { options with runId := none } repaired
        attempts host options adapter patience left (number + 1) repaired next

end Repair

/-- Runs a plan, and repairs and runs it again for a number of attempts while it fails. -/
def runWithRepair {σ : Type} (host : Host σ) (options : RunOptions) (adapter : Repair.Adapter)
    (patience : Json) (maxAttempts : Int) (plan : Plan) : Work σ Report := do
  let report ← run host options plan
  if options.dryRun then pure report
  else Repair.attempts host options adapter patience maxAttempts.toNat 1 plan report

end Walkthrough
