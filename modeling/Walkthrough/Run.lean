import Walkthrough.Json.Document
import Walkthrough.Profile.Store
import Walkthrough.Run.Record
import Walkthrough.Run.Step
import Walkthrough.Secret.Store

/-!
Running a plan. A run has a directory of its own for its log, its artifacts and its report. A live
run opens one browser session, carries out the primitive steps up to the first that fails, and
closes the session and saves the site profile whatever happens. A dry run only reports what would
be done.
-/

namespace Walkthrough

structure RunOptions where
  runId : Option String
  artifactsRoot : Path
  profilesRoot : Option Path
  envFile : Option Path
  timeoutMs : Int
  headless : Bool
  dryRun : Bool
  deriving Inhabited

namespace RunOptions

/-- The time limit of an action where none is given, in milliseconds. -/
def defaultTimeout : Int := 10000

def defaultRoot : String := "runs"

/-- Runs in the usual places with the usual time limit. -/
def usual : RunOptions :=
  ⟨none, Path.ofText defaultRoot, none, none, defaultTimeout, true, false⟩

def profiles (options : RunOptions) : Path :=
  options.profilesRoot.getD (options.artifactsRoot.child "site-profiles")

end RunOptions

/-- What runs are given: a browser, the environment of the process, and the values of secrets if
they are not to be looked for there. -/
structure Host (σ : Type) where
  browser : Browser σ
  environment : Table String
  secrets : Option Secret.Store

namespace Run

variable {σ : Type}

def reportFile (runDir : Path) : Path :=
  runDir.child "RunResult.json"

def traceFile (runDir : Path) : Path :=
  runDir.child "trace.zip"

/-- The artifacts of a run without a failure. -/
def artifactsIn (runDir : Path) : Artifacts :=
  ⟨runDir.text, (traceFile runDir).text, (reportFile runDir).text, none, none⟩

/-- The report of a dry run: every step passes at once. -/
def dryReport (runId : String) (now : Instant) (plan : Plan) (primitives : List Primitive)
    (artifacts : Artifacts) : Report where
  runId := runId
  verdict := .passed
  startedAt := now
  endedAt := now
  durationMs := 0
  plan := plan
  artifacts := artifacts
  steps := primitives.map fun p =>
    ⟨p.index, p.kind, "DRY RUN: " ++ p.description, .passed, now, now, 0, none, none⟩
  outputs := []

/-- What the steps of a run come to. -/
structure Progress where
  verdict : Verdict
  steps : List StepReport
  outputs : Table (List String)
  artifacts : Artifacts
  deriving Inhabited

def Progress.add (progress : Progress) (outcome : Stage.Outcome) : Progress where
  verdict := outcome.report.verdict
  steps := progress.steps ++ [outcome.report]
  outputs := match outcome.extract with
    | some (key, texts) => Table.set progress.outputs key texts
    | none => progress.outputs
  artifacts := match outcome.evidence with
    | some (screenshot, snapshot) =>
      { progress.artifacts with screenshot := screenshot, snapshot := snapshot }
    | none => progress.artifacts

/-- Carries out steps up to the first that fails. -/
def steps (stage : Stage σ) : Progress → List Primitive → Work σ Progress
  | progress, [] => pure progress
  | progress, p :: rest => do
    let outcome ← stage.run p
    let progress := progress.add outcome
    match outcome.report.verdict with
    | .failed => pure progress
    | .passed => steps stage progress rest

/-- Starts the trace; a browser that cannot is only noted. -/
def startTrace (stage : Stage σ) : Work σ Unit :=
  Effect.handling (Work.call .startTrace stage.browser.startTrace) Failure.isBrowser
    fun failure =>
      stage.log .error (Failure.noArtifact .traceStart failure.message).message

/-- Ends the trace and keeps it; if that does not work, it is only noted. -/
def stopTrace (stage : Stage σ) : Work σ Unit :=
  let path := traceFile stage.runDir
  Effect.handling
    (do
      let data ← Work.call (.stopTrace path.text) stage.browser.stopTrace
      Work.writeFile path data)
    Stage.isTolerated
    fun failure => stage.log .error (Failure.noArtifact .traceEnd failure.message).message

/-- Opens a browser session, works in it, and closes it. -/
def session {α : Type} (stage : Stage σ) (headless : Bool) (x : Work σ α) : Work σ α := do
  Work.call (.openSession headless) (stage.browser.openSession headless)
  Effect.andFinally x (Work.call .closeSession stage.browser.closeSession)

/-- Saves the site profile with the time; if that does not work, it is only noted. -/
def saveProfile (stage : Stage σ) (root : Path) : Work σ Unit := do
  modify fun w => { w with profile := { w.profile with updatedAt := w.now.text } }
  let profile := (← get).profile
  match ← Effect.attempt (Profile.save root profile) with
  | .ok _ => pure ()
  | .error failure =>
    match failure with
    | .noArtifact .. => stage.log .error failure.message
    | _ => throw failure

/-- Carries out the steps of a plan in a session of their own. -/
def live (host : Host σ) (options : RunOptions) (runId : String) (runDir : Path) (plan : Plan)
    (primitives : List Primitive) : Work σ Report := do
  let started ← Work.now
  let secrets ← match host.secrets with
    | some store => pure store
    | none => Work.look fun files => Secret.Store.build host.environment files options.envFile
  let stage : Stage σ := ⟨host.browser, options.timeoutMs, secrets, runDir⟩
  let domain ← Effect.ofExcept (Profile.domainOf (primitives.map Primitive.toAction))
  let profile ← Profile.load options.profiles domain
  modify fun w => { w with profile := profile }
  stage.log .info (s!"Starting run {runId} ({primitives.length} compiled steps, site profile " ++
    profile.domain ++ ")")
  let start : Progress := ⟨.passed, [], [], artifactsIn runDir⟩
  let progress ← Effect.andFinally
    (session stage options.headless do
      startTrace stage
      Effect.andFinally (steps stage start primitives) (stopTrace stage))
    (saveProfile stage options.profiles)
  let ended ← Work.now
  return {
    runId := runId
    verdict := progress.verdict
    startedAt := started
    endedAt := ended
    durationMs := ended - started
    plan := plan
    artifacts := progress.artifacts
    steps := progress.steps
    outputs := progress.outputs }

/-- Writes the report of a run to its file. -/
def keep (runDir : Path) (report : Report) : Work σ Unit := do
  let path := reportFile runDir
  let text ← Effect.ofExcept report.toJson.document
  Effect.handling (Work.writeFile path (.text text)) Failure.isSystem
    fun failure => throw (.noArtifact (.runRecord path.text) failure.message)

/-- Opens the log of a run. A failure names the log by its place from the root on. -/
def openLog (runDir : Path) : Work σ Unit :=
  Work.change fun files =>
    files.openForAppend (Path.ofParts ((runLog runDir).resolve files.home))

end Run

/-- Runs a plan and keeps its report. -/
def run {σ : Type} (host : Host σ) (options : RunOptions) (plan : Plan) : Work σ Report := do
  let runId ← match options.runId.filter (· != "") with
    | some name => pure name
    | none => Work.nameRun
  let runDir := options.artifactsRoot.child runId
  Work.change fun files => files.ensureDirectory runDir
  let primitives ← Effect.ofExcept plan.compile
  Run.openLog runDir
  let report ←
    if options.dryRun then do
      let now ← Work.now
      pure (Run.dryReport runId now plan primitives (Run.artifactsIn runDir))
    else Run.live host options runId runDir plan primitives
  Run.keep runDir report
  logTo runDir .info s!"Run {runId} finished with status {report.verdict.name}"
  return report

/-- The record of a run that was kept. -/
def loadRecord {σ : Type} (artifactsRoot : Path) (runId : String) : Work σ Record := do
  let path := Run.reportFile (artifactsRoot.child runId)
  let s ← Work.look fun files => files.readText path
  Effect.ofExcept (Record.parse s)

end Walkthrough
