import Walkthrough.Page
import Walkthrough.Proofs.Profile.Document
import Walkthrough.Proofs.Run.Session

/-! # How a run winds up

However its steps end, a live run closes the session it opened, ends the trace it started, and then
saves the site profile once. Only a run that gives a report leaves one among its files. -/

namespace Walkthrough.Run

open Effect

variable {σ α : Type}

/-! ## Live runs -/

/-- What a live run knows when its site profile is loaded. -/
structure Prepared where
  runId : String
  primitives : List Primitive
  started : Instant
  secrets : Secret.Store
  domain : String

def Prepared.directory (known : Prepared) (options : RunOptions) : Path :=
  options.artifactsRoot.child known.runId

def Prepared.stage (known : Prepared) (host : Host σ) (options : RunOptions) : Stage σ :=
  ⟨host.browser, options.timeoutMs, known.secrets, known.directory options⟩

/-- The steps that a run carries out, from its start. -/
def Prepared.work (known : Prepared) (host : Host σ) (options : RunOptions) : Work σ Progress :=
  steps (known.stage host options) ⟨.passed, [], [], artifactsIn (known.directory options)⟩
    known.primitives

section Live

variable (host : Host σ) (options : RunOptions) (plan : Plan)

/-- What a live run with a name does until its site profile is loaded. -/
def prepareAs (runId : String) : Work σ Prepared := do
  Work.change fun files => files.ensureDirectory (options.artifactsRoot.child runId)
  let primitives ← Effect.ofExcept plan.compile
  openLog (options.artifactsRoot.child runId)
  let started ← Work.now
  let secrets ← secretsFor host options
  let domain ← Effect.ofExcept (Profile.domainOf (primitives.map Primitive.toAction))
  let profile ← Profile.load options.profiles domain
  modify fun w => { w with profile := profile }
  return ⟨runId, primitives, started, secrets, profile.domain⟩

/-- What a live run does until its site profile is loaded. -/
def prepare : Work σ Prepared :=
  pickName options >>= prepareAs host options plan

/-- What a live run does once its site profile is loaded. -/
def finish (known : Prepared) : Work σ Report := do
  (known.stage host options).log .info
    (s!"Starting run {known.runId} ({known.primitives.length} compiled steps, site profile " ++
      known.domain ++ ")")
  let progress ← andFinally
    (session (known.stage host options) options.headless
      (traced (known.stage host options) (known.work host options)))
    (saveProfile (known.stage host options) options.profiles)
  let ended ← Work.now
  conclude (known.directory options) {
    runId := known.runId
    verdict := progress.verdict
    startedAt := known.started
    endedAt := ended
    durationMs := ended - known.started
    plan := plan
    artifacts := progress.artifacts
    steps := progress.steps
    outputs := progress.outputs }

theorem run_eq_prepare (hlive : options.dryRun = false) :
    run host options plan = prepare host options plan >>= finish host options plan := by
  rw [run_eq, prepare, bind_assoc]
  refine bind_congr fun runId => ?_
  simp only [runAs, reportOn, hlive, Bool.false_eq_true, if_false, live_eq, liveWith, carryOut,
    prepareAs, finish, Prepared.stage, Prepared.work, Prepared.directory, traced, conclude,
    bind_assoc, pure_bind]

end Live

/-! ## Before the session -/

theorem Preparing.secretsFor {r : World σ → World σ → Prop} {runDir : Path} (h : Preparing r runDir)
    (host : Host σ) (options : RunOptions) : Respects r (secretsFor host options) := by
  unfold Run.secretsFor
  split
  · exact lockstep_pure rfl
  · exact h.looked _

theorem Preparing.prepareAs {r : World σ → World σ → Prop} {options : RunOptions} {runId : String}
    (h : Preparing r (options.artifactsRoot.child runId)) (host : Host σ) (plan : Plan) :
    Respects r (prepareAs host options plan runId) :=
  h.housed.bind_eq fun _ => (respects_ofExcept _).bind_eq fun _ => h.opened.bind_eq fun _ =>
    Lockstep.bind_eq (lockstep_get.bind fun _ _ hr => lockstep_pure (h.now hr).symm) fun _ =>
    (h.secretsFor host options).bind_eq fun _ => (respects_ofExcept _).bind_eq fun _ =>
    (h.load _ _).bind_eq fun profile =>
    (lockstep_modify fun _ _ hr => h.profiled profile hr).bind_eq fun _ => lockstep_pure rfl

/-- What a live run leaves alone until its site profile is loaded. -/
structure Unseen (runDir : Path) (w w' : World σ) : Prop where
  browser : w'.browser = w.browser
  events : w'.events = w.events
  unreported : Unreported runDir w.files → Unreported runDir w'.files

theorem Unseen.trans {runDir : Path} {w w' w'' : World σ} (h : Unseen runDir w w')
    (h' : Unseen runDir w' w'') : Unseen runDir w w'' :=
  ⟨h'.browser.trans h.browser, h'.events.trans h.events, h'.unreported ∘ h.unreported⟩

instance (runDir : Path) : Std.Refl (α := World σ) (Unseen runDir) :=
  ⟨fun _ => ⟨rfl, rfl, id⟩⟩

instance (runDir : Path) : IsTrans (World σ) (Unseen runDir) :=
  ⟨fun _ _ _ => .trans⟩

section Preparing

variable {runDir : Path}

theorem follows_unseen_change {f : Files → Except Failure Files}
    (hf : ∀ files files', f files = .ok files' → Unreported runDir files → Unreported runDir files') :
    Follows (Unseen runDir) (Work.change f : Work σ Unit) := by
  intro w
  simp only [Work.change, outcome_bind, outcome_get]
  split
  · rename_i files hfiles
    exact .single ⟨rfl, rfl, hf _ _ hfiles⟩
  · exact .refl

theorem follows_unseen_openLog (p : Path) : Follows (Unseen runDir) (openLog p : Work σ Unit) := by
  refine follows_unseen_change fun files files' hopen h => ?_
  rcases Files.openForAppend_eq_ok hopen with rfl | rfl
  · exact h
  · obtain ⟨q, hq⟩ := Path.resolve_ofParts_child p (s := "runner.log") (by decide) (by decide)
      files.home
    rw [runLog, hq]
    exact h.put_child q (by decide) (by decide) (by decide) _

theorem preparing_unseen (other : Path) (w : World σ) :
    Preparing (Along (Unseen runDir) w) other where
  now h := by rw [h.1]
  profiled profile h := by
    obtain ⟨rfl, hsteps⟩ := h
    exact ⟨rfl, hsteps.tail ⟨rfl, rfl, id⟩⟩
  housed := (follows_unseen_change fun _ _ hmade h =>
    h.of_sameFiles (Files.sameFiles_ensureDirectory hmade)).respects
  looked _ := (follows_look _).respects
  noted _ _ := (follows_modify fun w => .single ⟨rfl, rfl, id⟩).respects
  opened := (follows_unseen_openLog other).respects

variable (host : Host σ) (options : RunOptions) (plan : Plan)

theorem follows_unseen_prepare : Follows (Unseen runDir) (prepare host options plan) := by
  refine Follows.bind ?_ fun runId => ?_
  · unfold pickName
    split
    · exact follows_pure _
    · intro w
      simp only [Work.nameRun, outcome_bind, outcome_get, outcome_set, outcome_pure]
      exact .single ⟨rfl, rfl, id⟩
  · exact follows_of_respects fun w => (preparing_unseen _ w).prepareAs host plan

/-- A live run calls nothing and writes no report until its site profile is loaded. -/
theorem unseen_prepare (w : World σ) : Unseen runDir w (outcome (prepare host options plan) w).2 :=
  (follows_unseen_prepare host options plan).related w

end Preparing

/-- A live run that has loaded its site profile has compiled its plan, and the profile is that of a
domain. -/
theorem compile_of_prepare {host : Host σ} {options : RunOptions} {plan : Plan} {known : Prepared}
    {w loaded : World σ} (h : outcome (prepare host options plan) w = (.ok known, loaded)) :
    plan.compile = .ok known.primitives ∧ Profile.IsDomain loaded.profile.domain := by
  obtain ⟨runId, _, -, h⟩ := outcome_bind_eq_ok_iff.mp h
  obtain ⟨_, _, -, h⟩ := outcome_bind_eq_ok_iff.mp h
  obtain ⟨primitives, _, hcompile, h⟩ := outcome_bind_eq_ok_iff.mp h
  obtain ⟨_, _, -, h⟩ := outcome_bind_eq_ok_iff.mp h
  obtain ⟨_, _, -, h⟩ := outcome_bind_eq_ok_iff.mp h
  obtain ⟨_, _, -, h⟩ := outcome_bind_eq_ok_iff.mp h
  obtain ⟨domain, _, hdomain, h⟩ := outcome_bind_eq_ok_iff.mp h
  obtain ⟨profile, _, hload, h⟩ := outcome_bind_eq_ok_iff.mp h
  simp only [outcome_bind, outcome_modify, outcome_pure, Prod.mk.injEq, Except.ok.injEq] at h
  obtain ⟨rfl, rfl⟩ := h
  refine ⟨congrArg Prod.fst hcompile, ?_⟩
  rw [show profile.domain = domain from Profile.domain_of_load hload]
  exact Profile.isDomain_of_domainOf (congrArg Prod.fst hdomain)

/-! ## All ways to end -/

/-- How a live run ends that has loaded its site profile. The session and its trace come first; then
the profile is saved once, with its time; the report comes last. -/
structure WoundUp (host : Host σ) (options : RunOptions) (known : Prepared) (loaded : World σ)
    (visit : List Event) (progress : Except Failure Progress) (closed : World σ)
    (saving : List Event) (saved : Files) (recording : List Event)
    (answer : Except Failure Report) (final : World σ) : Prop where
  visited : Visited (known.stage host options) options.headless (known.work host options)
    loaded.browser loaded.events visit progress closed.browser
  session : closed.events = loaded.events ++ visit
  domain : closed.profile.domain = loaded.profile.domain
  saves : Saves options.profiles (stamped closed) closed.files saving saved
  events : final.events = closed.events ++ saving ++ recording
  idle : final.browser = closed.browser ∧ final.now = closed.now
  reported : ∀ report, answer = .ok report → ∃ done, progress = .ok done ∧
    report.steps = done.steps ∧ report.verdict = done.verdict
  unreported : Unreported (known.directory options) loaded.files →
    Unreported (known.directory options) saved
  report : ReportKept (known.directory options) saved final.files answer recording

/-- Every live run that has loaded its site profile winds up. -/
theorem exists_woundUp (host : Host σ) (options : RunOptions) (plan : Plan) (known : Prepared)
    {loaded : World σ} (hdomain : Profile.IsDomain loaded.profile.domain) :
    ∃ visit progress closed saving saved recording answer final,
      outcome (finish host options plan known) loaded = (answer, final) ∧
      WoundUp host options known loaded visit progress closed saving saved recording answer
        final := by
  obtain ⟨ready, hlog, hready⟩ := exists_log (known.stage host options) .info
    (s!"Starting run {known.runId} ({known.primitives.length} compiled steps, site profile " ++
      known.domain ++ ")") loaded
  obtain ⟨visit, progress, closed, hsession, hvisited, hclosed, hspared⟩ :=
    exists_visited (known.stage host options) options.headless (x := known.work host options)
      (fun w => worked_steps _ _ _ w) ready
  obtain ⟨last, saving, saved, idle, hsave, hsaves, hfiled⟩ :=
    exists_saveProfile (known.stage host options) options.profiles closed
  rw [hready.browser, hready.events] at hvisited
  rw [hready.events] at hclosed
  have hcarried := outcome_andFinally_eq (session (known.stage host options) options.headless
    (traced (known.stage host options) (known.work host options)))
    (saveProfile (known.stage host options) options.profiles) ready
  rw [hsession, hsave] at hcarried
  have hdomain' : closed.profile.domain = loaded.profile.domain := by
    rw [hspared.domain, hready.profile]
  have hvacant : Unreported (known.directory options) loaded.files →
      Unreported (known.directory options) saved := fun h =>
    hsaves.unreported (by rw [stamped, hdomain']; exact hdomain)
      (hspared.unreported (hready.unreported h))
  -- A failure of the session or of saving ends the run before there is a report.
  cases hend : unlessFailed progress last with
  | error failure =>
      rw [hend] at hcarried
      refine ⟨visit, progress, closed, saving, saved, [], .error failure, idle, ?_, hvisited, hclosed,
        hdomain', hsaves, ?_, ⟨hfiled.browser, hfiled.now⟩, (fun _ h => nomatch h), hvacant,
        .failed hfiled.unreported⟩
      · rw [finish, outcome_bind_of_ok hlog, outcome_bind_of_error hcarried]
      · simpa using hfiled.events
  | ok done =>
      rw [hend] at hcarried
      obtain ⟨answer, recording, final, hconclude, hevents, hbrowser, hnow, hreport, hkept⟩ :=
        exists_conclude (known.directory options) {
          runId := known.runId
          verdict := done.verdict
          startedAt := known.started
          endedAt := idle.now
          durationMs := idle.now - known.started
          plan := plan
          artifacts := done.artifacts
          steps := done.steps
          outputs := done.outputs } idle
      refine ⟨visit, progress, closed, saving, saved, recording, answer, final, ?_, hvisited, hclosed,
        hdomain', hsaves, ?_, ⟨hbrowser.trans hfiled.browser, hnow.trans hfiled.now⟩,
        fun report h => ?_, hvacant, hkept.since hfiled.unreported⟩
      · rw [finish, outcome_bind_of_ok hlog, outcome_bind_of_ok hcarried,
          outcome_bind_of_ok (outcome_now idle)]
        exact hconclude
      · rw [hevents, hfiled.events]
      · obtain rfl := hreport report h
        exact ⟨done, eq_ok_of_unlessFailed hend, rfl, rfl⟩

/-- The attempts to write files among events. -/
def writesIn (events : List Event) : List (String × Bool) :=
  events.filterMap fun
    | .write path done => some (path, done)
    | _ => none

end Walkthrough.Run
