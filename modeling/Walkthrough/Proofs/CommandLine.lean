import Walkthrough.CommandLine
import Walkthrough.Page
import Walkthrough.Proofs.Repair.Intent
import Walkthrough.Proofs.Run.Record

/-! # Replaying runs

What is said of a run from the command line is said again when its record is replayed, with where the
trace and the evidence of a failure are. -/

namespace Walkthrough

open Effect

variable {σ : Type}

namespace Run

variable {runDir profiles : Path}

theorem Change.said_eq {w w' : World σ} (h : Change runDir profiles w w') : w'.said = w.said := by
  cases h <;> rfl

/-- A run says nothing by itself. -/
theorem said_run (host : Host σ) (options : RunOptions) (plan : Plan) (w : World σ) :
    (outcome (run host options plan) w).2.said = w.said := by
  obtain ⟨runId, h⟩ := exists_changes host options plan w
  generalize (outcome (run host options plan) w).2 = w' at h ⊢
  induction h with
  | refl => rfl
  | tail _ hchange ih => exact hchange.said_eq.trans ih

end Run

namespace Repair

/-- The same files and the same said, whatever else happened. -/
structure Quiet (w w' : World σ) : Prop where
  files : w'.files = w.files
  said : w'.said = w.said

theorem Logged.quiet {w w' : World σ} (h : Logged w w') : Quiet w w' := by
  obtain ⟨lines, rfl⟩ := h
  exact ⟨rfl, rfl⟩

variable {host : Host σ} {options : RunOptions} {adapter : Adapter} {patience : Json}

theorem Attempted.quiet {number : Nat} {plan : Plan} {report : Report} {w w' : World σ}
    {request : Request} {answer : Option Answer} {turn : Except Failure Turn}
    (htouch : ∀ n request files, adapter.touch n request files = files)
    (h : Attempted adapter patience number plan report w request answer turn w') : Quiet w w' := by
  have hlogged := h.world.quiet
  unfold afterRequest at hlogged
  split at hlogged
  · exact hlogged
  · exact ⟨hlogged.files.trans (htouch _ _ _), hlogged.said⟩

theorem Kept.said_eq {runDir : String} {number : Nat} {plan : Plan} {w w' : World σ} {done : Bool}
    (h : Kept runDir number plan w done w') : w'.said = w.said := by
  have hworld := h.world
  cases done with
  | true =>
      obtain ⟨files, -, rfl⟩ := hworld
      rfl
  | false => exact hworld.2.quiet.said

theorem Patched.said_eq {number : Nat} {plan repaired : Plan} {report : Report}
    {w w₁ w₂ w₃ : World σ} {request : Request} {answer : Option Answer} {reason : String}
    {done : Bool} (htouch : ∀ n request files, adapter.touch n request files = files)
    (h : Patched adapter patience number plan report w request answer repaired reason w₁ done w₂
      w₃) : w₃.said = w.said := by
  rw [(logged_of_announce h.announced).quiet.said, h.kept.said_eq, (h.attempt.quiet htouch).said]

/-- The last report of a repair is found again, unless the adapter changes files. -/
theorem Rounds.recorded {left number : Nat} {plan : Plan} {report : Report} {w : World σ}
    {deeds : List (Deed σ)} {ending : Ending σ}
    (h : Rounds host options adapter patience left number plan report w deeds ending)
    (htouch : ∀ n request files, adapter.touch n request files = files) (hplan : plan.Accepted)
    (hrecorded : Run.Recorded options.artifactsRoot report w.files) {last : Report}
    (hlast : ending.1 = .ok last) :
    Run.Recorded options.artifactsRoot last ending.2.files ∧ ending.2.said = w.said := by
  induction h with
  | spent | passed =>
      obtain rfl := Except.ok.inj hlast
      exact ⟨hrecorded, rfl⟩
  | unread | raised | crashed => cases hlast
  | stopped _ attempt =>
      obtain rfl := Except.ok.inj hlast
      have hquiet := attempt.quiet htouch
      exact ⟨by rwa [hquiet.files], hquiet.said⟩
  | again _ attempt _ ih =>
      have hquiet := attempt.quiet htouch
      obtain ⟨hfound, hsaid⟩ := ih hplan (by rwa [hquiet.files]) hlast
      exact ⟨hfound, hsaid.trans hquiet.said⟩
  | @repaired _ _ _ _ _ _ _ repaired _ _ _ _ w₃ _ w₄ _ _ _ patched run _ ih =>
      have hrepaired := (patched.attempt.agrees hplan).1
      have hrun : w₄.said = w₃.said := by
        have heq := Run.said_run host { options with runId := none } repaired w₃
        rwa [run] at heq
      have hnext := Run.recorded_of_run hrepaired run
      obtain ⟨hfound, hsaid⟩ := ih hrepaired hnext hlast
      exact ⟨hfound, (hsaid.trans hrun).trans (patched.said_eq htouch)⟩

theorem recorded_of_runWithRepair {maxAttempts : Int} {plan : Plan} {report : Report}
    {w w' : World σ} (htouch : ∀ n request files, adapter.touch n request files = files)
    (hplan : plan.Accepted)
    (h : outcome (runWithRepair host options adapter patience maxAttempts plan) w =
      (.ok report, w')) :
    Run.Recorded options.artifactsRoot report w'.files ∧ w'.said = w.said := by
  obtain ⟨deeds, ending, hhistory⟩ := exists_history host options adapter patience maxAttempts plan w
  obtain rfl := hhistory.execution.symm.trans h
  have hsaid : ∀ {first : Report} {u : World σ},
      outcome (run host options plan) w = (.ok first, u) → u.said = w.said := by
    intro first u hrun
    have heq := Run.said_run host options plan w
    rwa [hrun] at heq
  cases hhistory with
  | dry _ hrun => exact ⟨Run.recorded_of_run hplan hrun, hsaid hrun⟩
  | live _ hrun rest =>
      obtain ⟨hfound, hrest⟩ := rest.recorded htouch hplan (Run.recorded_of_run hplan hrun) rfl
      exact ⟨hfound, hrest.trans (hsaid hrun)⟩

end Repair

/-! ## Lines -/

/-- The line for an artifact that may not have come about. -/
def evidenceLine (title : String) (path : Option String) : List String :=
  ((path.filter (· != "")).map (title ++ ·)).toList

/-- The lines for the trace of a run, and for the evidence of its failure. -/
def Artifacts.lines (a : Artifacts) : List String :=
  ["trace=" ++ a.tracePath] ++ evidenceLine "failureScreenshot=" a.screenshot ++
    evidenceLine "failureDom=" a.snapshot

theorem evidenceLine_eq (title : String) (path : Option String) :
    (if (Json.ofOption path).isTruthy then [title ++ (Json.ofOption path).display] else []) =
      evidenceLine title path := by
  cases path with
  | none => rfl
  | some s =>
      by_cases hs : s = "" <;>
        simp [Json.ofOption, Json.isTruthy, Json.display, evidenceLine, Option.filter, hs]

/-- The record of a report always has its lines, and those of its artifacts after them. -/
theorem Report.exists_lines (r : Report) :
    ∃ lines, r.record.lines = .ok lines ∧ r.record.fullLines = .ok (lines ++ r.artifacts.lines) := by
  have hsteps : ∃ steps, (r.steps.map StepReport.record).mapM StepRecord.lines = .ok steps := by
    simp only [mapM_eq_ok_iff, List.forall₂_map_left_iff]
    exact exists_forall₂ fun step _ => ⟨_, rfl⟩
  obtain ⟨steps, hsteps⟩ := hsteps
  have hlines : ∃ lines, r.record.lines = .ok lines := by
    simp only [Record.lines, Report.record, hsteps, bind, Except.bind]
    exact ⟨_, rfl⟩
  obtain ⟨lines, hlines⟩ := hlines
  have htrace : r.record.artifacts.tracePath.display = r.artifacts.tracePath := rfl
  have hscreenshot := evidenceLine_eq "failureScreenshot=" r.artifacts.screenshot
  have hsnapshot := evidenceLine_eq "failureDom=" r.artifacts.snapshot
  refine ⟨lines, hlines, ?_⟩
  rw [Artifacts.lines, ← hscreenshot, ← hsnapshot, ← htrace, Record.fullLines, hlines]
  simp only [bind, Except.bind, pure, Except.pure, List.append_assoc]
  rfl

namespace CommandLine

theorem outcome_sayAll (lines : List String) (w : World σ) :
    outcome (sayAll lines) w = (.ok (), { w with said := w.said ++ lines }) := by
  induction lines generalizing w with
  | nil => simp [sayAll]
  | cons line rest ih => simp [sayAll, Work.say, outcome_bind, ih]

/-- A report is replayed with its lines and those of its artifacts. -/
def Replays (artifactsRoot : String) (report : Report) (lines : List String) (w : World σ) : Prop :=
  outcome (replay report.runId artifactsRoot) w =
    (.ok 0, { w with said := w.said ++ (lines ++ report.artifacts.lines) })

theorem outcome_replay {artifactsRoot : String} {report : Report} {w : World σ}
    (h : Run.Recorded (Path.ofText artifactsRoot) report w.files) :
    ∃ lines, report.record.lines = .ok lines ∧ Replays artifactsRoot report lines w := by
  obtain ⟨lines, hlines, hfull⟩ := report.exists_lines
  refine ⟨lines, hlines, ?_⟩
  rw [Replays, replay, outcome_bind_of_ok h.outcome_loadRecord, hfull,
    outcome_bind_of_ok (outcome_ofExcept w _), outcome_bind_of_ok (outcome_sayAll _ w), outcome_pure]

/-! ## The command line -/

theorem accepted_of_load {files : Files} {path : Path} {plan : Plan}
    (h : Plan.load files path = .ok plan) : plan.Accepted := by
  unfold Plan.load Plan.parse at h
  split at h
  · cases h
  · split at h
    · exact Plan.accepted_of_validate h
    · cases h
    · cases h

theorem touch_of_adapter {environment : Table String} {service : Chat.Service} {provider : Provider}
    {adapter : Repair.Adapter} (h : provider.adapter environment service = .ok adapter) (n : Nat)
    (request : Repair.Request) (files : Files) : adapter.touch n request files = files := by
  cases provider with
  | builtIn =>
      obtain rfl := Except.ok.inj h
      rfl
  | model =>
      cases hconfig : Chat.Config.ofEnvironment environment with
      | error failure => simp [Provider.adapter, hconfig, Except.map] at h
      | ok config =>
          obtain rfl : _ = adapter := by simpa [Provider.adapter, hconfig, Except.map] using h
          rfl

/-- What is said of a plan before it is run: what a dry run would do, and nothing of other runs. -/
def preview (settings : RunSettings) (plan : Plan) : Except Failure (List String) :=
  if settings.dryRun then plan.lines else .ok []

/-- What is left of running a plan that was loaded, once its preview was said. -/
def conclude (host : Host σ) (service : Chat.Service) (settings : RunSettings) (plan : Plan) :
    Work σ Nat := do
  let provider ← Effect.ofExcept (Provider.ofText (some settings.provider))
  let adapter ← Effect.ofExcept (provider.adapter host.environment service)
  let report ← runWithRepair host settings.options adapter (.float settings.repairTimeout)
    settings.repairAttempts plan
  sayAll (← Effect.ofExcept report.record.lines)
  return match report.verdict with
    | .passed => 0
    | .failed => 1

theorem run_eq (host : Host σ) (service : Chat.Service) (settings : RunSettings) :
    run host service settings =
      loadPlan settings.planFile >>= fun plan =>
        Effect.ofExcept (preview settings plan) >>= fun lines =>
          sayAll lines >>= fun _ => conclude host service settings plan := by
  unfold run preview
  refine bind_congr fun plan => ?_
  cases settings.dryRun with
  | true => rfl
  | false => rfl

/-- The course of a command that runs a plan: the plan is loaded and its preview said, it is run and
repaired with the adapter of the provider, and the lines of the report are said. -/
structure Course (host : Host σ) (service : Chat.Service) (settings : RunSettings) (plan : Plan)
    (before : List String) (adapter : Repair.Adapter) (report : Report) (lines : List String)
    (w final : World σ) : Prop where
  loads : Plan.load w.files (Path.ofText settings.planFile) = .ok plan
  previews : preview settings plan = .ok before
  adapts : ∃ provider, Provider.ofText (some settings.provider) = .ok provider ∧
    provider.adapter host.environment service = .ok adapter
  runs : outcome (runWithRepair host settings.options adapter (.float settings.repairTimeout)
    settings.repairAttempts plan) { w with said := w.said ++ before } = (.ok report, final)
  lists : report.record.lines = .ok lines

theorem Course.execution {host : Host σ} {service : Chat.Service} {settings : RunSettings} {plan : Plan}
    {before lines : List String} {adapter : Repair.Adapter} {report : Report} {w final : World σ}
    (h : Course host service settings plan before adapter report lines w final) :
    outcome (run host service settings) w =
      (.ok (match report.verdict with | .passed => 0 | .failed => 1),
        { final with said := final.said ++ lines }) := by
  obtain ⟨provider, hprovider, hadapter⟩ := h.adapts
  have hloaded : outcome (loadPlan settings.planFile) w = (.ok plan, w) := by
    simp [loadPlan, Work.look, outcome_bind, h.loads]
  rw [run_eq, outcome_bind_of_ok hloaded, h.previews, outcome_bind_of_ok (outcome_ofExcept w _),
    outcome_bind_of_ok (outcome_sayAll before w), conclude, hprovider,
    outcome_bind_of_ok (outcome_ofExcept _ _), hadapter, outcome_bind_of_ok (outcome_ofExcept _ _),
    outcome_bind_of_ok h.runs, h.lists, outcome_bind_of_ok (outcome_ofExcept _ _),
    outcome_bind_of_ok (outcome_sayAll lines final)]
  rfl

theorem exists_course {host : Host σ} {service : Chat.Service} {settings : RunSettings} {code : Nat}
    {w w' : World σ} (h : outcome (run host service settings) w = (.ok code, w')) :
    ∃ plan before adapter report lines final,
      Course host service settings plan before adapter report lines w final ∧
        w' = { final with said := final.said ++ lines } := by
  rw [run_eq] at h
  obtain ⟨plan, loaded, hload, h⟩ := outcome_bind_eq_ok_iff.mp h
  obtain ⟨hplan, rfl⟩ : Plan.load w.files (Path.ofText settings.planFile) = .ok plan ∧ w = loaded := by
    simpa [loadPlan, Work.look, outcome_bind] using hload
  obtain ⟨before, _, hbefore, h⟩ := outcome_bind_eq_ok_iff.mp h
  obtain ⟨_, said, hsaid, h⟩ := outcome_bind_eq_ok_iff.mp h
  obtain ⟨provider, _, hprovider, h⟩ := outcome_bind_eq_ok_iff.mp h
  obtain ⟨adapter, _, hadapter, h⟩ := outcome_bind_eq_ok_iff.mp h
  obtain ⟨report, final, hrun, h⟩ := outcome_bind_eq_ok_iff.mp h
  obtain ⟨lines, _, hlines, h⟩ := outcome_bind_eq_ok_iff.mp h
  obtain ⟨_, told, htold, h⟩ := outcome_bind_eq_ok_iff.mp h
  simp only [outcome_ofExcept, Prod.mk.injEq] at hbefore hprovider hadapter hlines
  obtain ⟨hbefore, rfl⟩ := hbefore
  rw [outcome_sayAll] at hsaid htold
  obtain ⟨hprovider, rfl⟩ := hprovider
  obtain ⟨hadapter, rfl⟩ := hadapter
  obtain ⟨hlines, rfl⟩ := hlines
  obtain rfl := (Prod.mk.inj hsaid).2
  obtain rfl := (Prod.mk.inj htold).2
  exact ⟨plan, before, adapter, report, lines, final,
    ⟨hplan, hbefore, ⟨provider, hprovider, hadapter⟩, hrun, hlines⟩, (Prod.mk.inj h).2.symm⟩

/-- What a command that ran a plan has said: the preview of the plan, and then the lines of the report
that the run ended with, whose record is found again. -/
structure Told (host : Host σ) (settings : RunSettings) (w : World σ) (report : Report)
    (lines : List String) (w' : World σ) : Prop where
  ran : ∃ plan before adapter, Plan.load w.files (Path.ofText settings.planFile) = .ok plan ∧
    preview settings plan = .ok before ∧ w'.said = w.said ++ before ++ lines ∧
    (outcome (runWithRepair host settings.options adapter (.float settings.repairTimeout)
      settings.repairAttempts plan) { w with said := w.said ++ before }).1 = .ok report
  listed : report.record.lines = .ok lines
  recorded : Run.Recorded (Path.ofText settings.artifactsRoot) report w'.files

theorem exists_told {host : Host σ} {service : Chat.Service} {settings : RunSettings} {code : Nat}
    {w w' : World σ} (h : outcome (run host service settings) w = (.ok code, w')) :
    ∃ report lines, Told host settings w report lines w' := by
  obtain ⟨plan, before, adapter, report, lines, final, hcourse, rfl⟩ := exists_course h
  obtain ⟨provider, -, hadapter⟩ := hcourse.adapts
  obtain ⟨hrecorded, hquiet⟩ := Repair.recorded_of_runWithRepair (touch_of_adapter hadapter)
    (accepted_of_load hcourse.loads) hcourse.runs
  exact ⟨report, lines, ⟨plan, before, adapter, hcourse.loads, hcourse.previews, by simp [hquiet],
    by rw [hcourse.runs]⟩, hcourse.lists, hrecorded⟩

/-- The report that a run of an accepted plan gives, live or dry, passed or failed, is loaded as its
record when the run is over. Replaying it says its lines, as a command does that runs a plan, and then
those for its trace and the evidence of its failure. -/
theorem reports_are_replayed (host : Host σ) :
    (∀ {raw plan options report} {w w' : World σ}, Plan.validate raw = .ok plan →
      outcome (Walkthrough.run host options plan) w = (.ok report, w') →
      outcome (loadRecord options.artifactsRoot report.runId) w' = (.ok report.record, w') ∧
      ∀ artifactsRoot, Path.ofText artifactsRoot = options.artifactsRoot →
        ∃ lines, report.record.lines = .ok lines ∧ Replays artifactsRoot report lines w') ∧
    ∀ {service settings code} {w w' : World σ},
      outcome (run host service settings) w = (.ok code, w') →
      ∃ report lines, Told host settings w report lines w' ∧
        Replays settings.artifactsRoot report lines w' := by
  constructor
  · intro raw plan options report w w' hplan hrun
    have hrecorded := Run.recorded_of_run (Plan.accepted_of_validate hplan) hrun
    refine ⟨hrecorded.outcome_loadRecord, fun artifactsRoot hroot => ?_⟩
    exact outcome_replay (hroot ▸ hrecorded)
  · intro service settings code w w' hrun
    obtain ⟨report, lines, htold⟩ := exists_told hrun
    obtain ⟨lines', hlines, hreplays⟩ := outcome_replay htold.recorded
    obtain rfl : lines = lines' := Except.ok.inj (htold.listed.symm.trans hlines)
    exact ⟨report, lines, htold, hreplays⟩

/-- A run that finds nothing to click is loaded, and replayed as it was told. -/
theorem reports_are_replayed_unreachable :
    let plan : Plan := ⟨.str "1", .str "Öffnen\r\n\"☃\"", .null,
      [.click (.str "😀") .null]⟩
    let w : World Page := ⟨.blank, 0, (Files.empty []).put ["plan.json"] (.file (.text plan.text)),
      .empty Profile.defaultDomain, 0, [], [], []⟩
    let host : Host Page := ⟨Page.browser, [], some []⟩
    let settings : RunSettings :=
      ⟨"plan.json", none, false, "runs", 0, "mock", .ofInt 30, 5000, false⟩
    Plan.validate plan.toJson = .ok plan ∧
      (∃ report w', outcome (Walkthrough.run host .usual plan) w = (.ok report, w') ∧
        report.verdict = .failed ∧
        outcome (loadRecord RunOptions.usual.artifactsRoot report.runId) w' =
          (.ok report.record, w')) ∧
      ∃ w', outcome (run host (fun _ => default) settings) w = (.ok 1, w') ∧
        ∃ report lines, Told host settings w report lines w' ∧
          Replays "runs" report lines w' := by
  intro plan w host settings
  have hplan : Plan.validate plan.toJson = .ok plan := rfl
  have hverdict : (outcome (Walkthrough.run host .usual plan) w).1.toOption.map Report.verdict =
      some .failed := by decide +kernel
  have hcode : (outcome (run host (fun _ => default) settings) w).1.toOption = some 1 := by
    decide +kernel
  refine ⟨hplan, ?_, ?_⟩
  · rcases hrun : outcome (Walkthrough.run host .usual plan) w with ⟨failure | report, w'⟩
    · simp [hrun, Except.toOption] at hverdict
    · have hfailed : report.verdict = .failed := by
        simpa [hrun, Except.toOption] using hverdict
      exact ⟨report, w', rfl, hfailed, ((reports_are_replayed host).1 hplan hrun).1⟩
  · rcases hrun : outcome (run host (fun _ => default) settings) w with ⟨failure | code, w'⟩
    · simp [hrun, Except.toOption] at hcode
    · obtain rfl : code = 1 := by simpa [hrun, Except.toOption] using hcode
      exact ⟨w', rfl, (reports_are_replayed host).2 hrun⟩

end CommandLine
end Walkthrough
