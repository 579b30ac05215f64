import Walkthrough.Proofs.Path
import Walkthrough.Run

/-! # The parts of a run

A run picks a name, makes its directory, and reports on its plan; a live one looks up the values of
secrets and the site profile first, and then carries out the steps in a session. -/

namespace Walkthrough.Run

open Effect

variable {σ : Type}

/-! ## Files -/

/-- The file with the screenshot of a failed step. -/
def screenshotFile (runDir : Path) (n : Nat) : Path :=
  runDir.child s!"failure-step-{n}.png"

/-- The file with the snapshot of a failed step. -/
def snapshotFile (runDir : Path) (n : Nat) : Path :=
  runDir.child s!"failure-step-{n}.dom.html"

theorem isPart_snapshot (n : Nat) :
    Path.IsPart s!"failure-step-{n}.dom.html" ∧ s!"failure-step-{n}.dom.html" ≠ ".." :=
  Path.isPart_numbered (c := 'f') (by decide) rfl (by decide) (by decide) n

theorem isPart_screenshot (n : Nat) :
    Path.IsPart s!"failure-step-{n}.png" ∧ s!"failure-step-{n}.png" ≠ ".." :=
  Path.isPart_numbered (c := 'f') (by decide) rfl (by decide) (by decide) n

theorem hasNull_screenshotFile {runDir : Path} (h : Path.hasNull runDir.text = false) (n : Nat) :
    Path.hasNull (screenshotFile runDir n).text = false :=
  Path.hasNull_child (isPart_screenshot n).1 (Path.hasNull_numbered (by decide) (by decide) n) h

theorem hasNull_snapshotFile {runDir : Path} (h : Path.hasNull runDir.text = false) (n : Nat) :
    Path.hasNull (snapshotFile runDir n).text = false :=
  Path.hasNull_child (isPart_snapshot n).1 (Path.hasNull_numbered (by decide) (by decide) n) h

theorem hasNull_traceFile {runDir : Path} (h : Path.hasNull runDir.text = false) :
    Path.hasNull (traceFile runDir).text = false :=
  Path.hasNull_child (by decide) (by decide) h

/-- The files that a run writes, and what it writes there. -/
inductive Output (runDir profiles : Path) : Path → Text.Content → Prop
  | report (r : Report) : Output runDir profiles (reportFile runDir) (.text r.toJson.pretty)
  | trace (data : Text.Content) : Output runDir profiles (traceFile runDir) data
  | screenshot (n : Nat) (data : Text.Content) :
      Output runDir profiles (screenshotFile runDir n) data
  | snapshot (n : Nat) (html : String) :
      Output runDir profiles (snapshotFile runDir n) (.text (Stage.excerpt html))
  | profile (p : Profile) :
      Output runDir profiles (Profile.file profiles p.domain) (.text p.toJson.pretty)

/-! ## Work -/

/-- The values of secrets of a run. -/
def secretsFor (host : Host σ) (options : RunOptions) : Work σ Secret.Store :=
  match host.secrets with
  | some store => pure store
  | none => Work.look fun files => Secret.Store.build host.environment files options.envFile

/-- The steps of a run, in a session of their own. -/
def carryOut (stage : Stage σ) (options : RunOptions) (primitives : List Primitive) :
    Work σ Progress :=
  andFinally
    (session stage options.headless do
      startTrace stage
      andFinally (steps stage ⟨.passed, [], [], artifactsIn stage.runDir⟩ primitives)
        (stopTrace stage))
    (saveProfile stage options.profiles)

/-- What is left of a live run that knows its start and its secrets. -/
def liveWith (host : Host σ) (options : RunOptions) (runId : String) (runDir : Path) (plan : Plan)
    (primitives : List Primitive) (started : Instant) (secrets : Secret.Store) :
    Work σ Report := do
  let stage : Stage σ := ⟨host.browser, options.timeoutMs, secrets, runDir⟩
  let domain ← Effect.ofExcept (Profile.domainOf (primitives.map Primitive.toAction))
  let profile ← Profile.load options.profiles domain
  modify fun w => { w with profile := profile }
  stage.log .info (s!"Starting run {runId} ({primitives.length} compiled steps, site profile " ++
    profile.domain ++ ")")
  let progress ← carryOut stage options primitives
  let ended ← Work.now
  return {
    runId := runId
    verdict := progress.verdict
    startedAt := started
    endedAt := ended
    durationMs := ended - started
    plan := plan
    artifacts := progress.artifacts
    steps := progress.steps
    outputs := progress.outputs }

theorem live_eq (host : Host σ) (options : RunOptions) (runId : String) (runDir : Path)
    (plan : Plan) (primitives : List Primitive) :
    live host options runId runDir plan primitives =
      Work.now >>= fun started => secretsFor host options >>= fun secrets =>
        liveWith host options runId runDir plan primitives started secrets := by
  unfold live secretsFor
  cases host.secrets <;> rfl

/-- The name of a run, given or new. -/
def pickName (options : RunOptions) : Work σ String := do
  match options.runId.filter (· != "") with
  | some name => pure name
  | none => Work.nameRun

/-- What a run reports, live or dry. -/
def reportOn (host : Host σ) (options : RunOptions) (runId : String) (runDir : Path) (plan : Plan)
    (primitives : List Primitive) : Work σ Report :=
  if options.dryRun then do
    let now ← Work.now
    pure (dryReport runId now plan primitives (artifactsIn runDir))
  else live host options runId runDir plan primitives

/-- A run with a name. -/
def runAs (host : Host σ) (options : RunOptions) (plan : Plan) (runId : String) :
    Work σ Report := do
  let runDir := options.artifactsRoot.child runId
  Work.change fun files => files.ensureDirectory runDir
  let primitives ← Effect.ofExcept plan.compile
  openLog runDir
  let report ← reportOn host options runId runDir plan primitives
  keep runDir report
  logTo runDir .info s!"Run {runId} finished with status {report.verdict.name}"
  return report

theorem run_eq (host : Host σ) (options : RunOptions) (plan : Plan) :
    run host options plan = pickName options >>= runAs host options plan := by
  unfold run pickName
  cases options.runId.filter (· != "") <;> refine bind_congr fun runId => ?_ <;>
    cases hdry : options.dryRun <;> simp [runAs, reportOn, hdry]

/-! ## Reports -/

theorem keep_of_isOverlong {report : Report} (h : report.toJson.isOverlong = true) (runDir : Path) :
    (keep runDir report : Work σ Unit) = throw (.value .overlongInteger) := by
  rw [keep, Json.document, if_pos h]
  rfl

theorem keep_of_not_isOverlong {report : Report} (h : report.toJson.isOverlong = false)
    (runDir : Path) :
    (keep runDir report : Work σ Unit) =
      handling (Work.writeFile (reportFile runDir) (.text report.toJson.pretty)) Failure.isSystem
        fun failure => throw (.noArtifact (.runRecord (reportFile runDir).text) failure.message) := by
  rw [keep, Json.document, if_neg (by simp [h])]
  rfl

end Walkthrough.Run
