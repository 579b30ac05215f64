import Walkthrough.Proofs.Run.Change
import Walkthrough.Proofs.Run.Steps

/-! # What a run reports

A report is about the plan that was run, in the directory of the run. A dry run passes, and a
snapshot that a report names can be read as a text when the run is over. -/

namespace Walkthrough.Run

open Effect

variable {σ α : Type} {runDir profiles : Path}

/-! ## Snapshots stay legible -/

/-- A snapshot has a place of its own among the files in its directory. -/
theorem resolve_ne_snapshot {name : String} (hname : Path.IsPart name) (hup : name ≠ "..")
    (hlast : name.toList.getLast? ≠ some 'l') (n : Nat) (home : List String) :
    (runDir.child name).resolve home ≠ (snapshotFile runDir n).resolve home := by
  refine Path.resolve_child_ne runDir runDir hname hup (isPart_snapshot n).1 (isPart_snapshot n).2
    ?_ home
  rintro rfl
  apply hlast
  rw [String.toList_append, List.getLast?_append]
  rfl

theorem legible_of_change {w w' : World σ} {n : Nat} (h : Change runDir profiles w w')
    (hl : w.files.Legible (snapshotFile runDir n)) :
    w'.files.Legible (snapshotFile runDir n) := by
  cases h with
  | called | replied | learned | noted | named | unwritten => exact hl
  | written output write =>
      obtain ⟨-, rfl⟩ := Files.write_eq_ok write
      cases output with
      | report | snapshot | profile => exact hl.put_text _ _
      | trace data =>
          exact hl.put_of_ne (resolve_ne_snapshot (by decide) (by decide) (by decide) n _) _
      | screenshot m data =>
          refine hl.put_of_ne (resolve_ne_snapshot (isPart_screenshot m).1
            (isPart_screenshot m).2 ?_ n _) _
          rw [String.toList_append, List.getLast?_append,
            show (toString ".png").toList.getLast? = some 'g' from rfl, Option.some_or]
          decide
  | housed known made => exact hl.of_sameFiles (Files.sameFiles_ensureDirectory made)
  | opened open_ =>
      rcases Files.openForAppend_eq_ok open_ with rfl | rfl
      · exact hl
      · exact hl.put_text _ _
  | logged append =>
      obtain ⟨old, -, rfl⟩ := Files.append_eq_ok append
      exact hl.put_of_ne (resolve_ne_snapshot (by decide) (by decide) (by decide) n _) _

theorem legible_of_changes {w w' : World σ} {n : Nat}
    (h : Relation.ReflTransGen (Change runDir profiles) w w')
    (hl : w.files.Legible (snapshotFile runDir n)) :
    w'.files.Legible (snapshotFile runDir n) := by
  induction h with
  | refl => exact hl
  | tail _ hchange ih => exact legible_of_change hchange ih

/-! ## Evidence of failures -/

/-- The artifacts of a run in a directory: a snapshot among them is a legible file there. -/
structure Evidence (runDir : Path) (files : Files) (artifacts : Artifacts) : Prop where
  place : artifacts.runDir = runDir.text
  snapshot : ∀ path, artifacts.snapshot = some path →
    ∃ n, path = (snapshotFile runDir n).text ∧ files.Legible (snapshotFile runDir n)

theorem evidence_artifactsIn (runDir : Path) (files : Files) :
    Evidence runDir files (artifactsIn runDir) :=
  ⟨rfl, fun _ h => by cases h⟩

theorem Evidence.of_changes {w w' : World σ} {artifacts : Artifacts}
    (h : Evidence runDir w.files artifacts)
    (hchanges : Relation.ReflTransGen (Change runDir profiles) w w') :
    Evidence runDir w'.files artifacts := by
  refine ⟨h.place, fun path hpath => ?_⟩
  obtain ⟨n, hn, hl⟩ := h.snapshot path hpath
  exact ⟨n, hn, legible_of_changes hchanges hl⟩

/-- Work that went well leaves what its steps lead to. -/
theorem changes_of_follows {x : Work σ α} (hx : Follows (Change runDir profiles) x) {w w' : World σ}
    {answer : Except Failure α} (h : outcome x w = (answer, w')) :
    Relation.ReflTransGen (Change runDir profiles) w w' := by
  simpa [h] using hx w

theorem outcome_of_tolerating {stage : Stage σ} {artifact : Artifact} {path found : String}
    {x : Work σ Unit} {w w' : World σ}
    (h : outcome (stage.tolerating artifact path x) w = (.ok (some found), w')) :
    found = path ∧ outcome x w = (.ok (), w') := by
  simp only [Stage.tolerating, outcome_bind, outcome_attempt] at h
  rcases hx : outcome x w with ⟨failure | _, mid⟩
  · simp only [hx] at h
    split at h
    · obtain ⟨_, _, -, hpure⟩ := outcome_bind_eq_ok_iff.mp h
      simp at hpure
    · simp at h
  · simp only [hx, outcome_pure, Prod.mk.injEq, Except.ok.injEq, Option.some.injEq] at h
    exact ⟨h.1.symm, by rw [h.2]⟩

/-- A snapshot that is kept is there to be read. -/
theorem snapshot_of_keepEvidence {stage : Stage σ} {n : Nat} {w w' : World σ}
    {screenshot snapshot : Option String}
    (h : outcome (stage.keepEvidence n) w = (.ok (screenshot, snapshot), w')) {path : String}
    (hpath : snapshot = some path) :
    path = (snapshotFile stage.runDir n).text ∧
      w'.files.Legible (snapshotFile stage.runDir n) := by
  obtain ⟨_, _, -, h⟩ := outcome_bind_eq_ok_iff.mp h
  obtain ⟨found, _, hfound, h⟩ := outcome_bind_eq_ok_iff.mp h
  simp only [outcome_pure, Prod.mk.injEq, Except.ok.injEq] at h
  obtain ⟨⟨-, rfl⟩, rfl⟩ := h
  obtain rfl := hpath
  obtain ⟨hplace, hx⟩ := outcome_of_tolerating hfound
  obtain ⟨html, _, -, hwrite⟩ := outcome_bind_eq_ok_iff.mp hx
  obtain ⟨hnull, hfiles⟩ := Files.write_eq_ok (write_of_writeFile hwrite)
  refine ⟨hplace, ?_⟩
  rw [hfiles]
  exact Files.legible_put_self hnull _

theorem StepDerivation.snapshot {stage : Stage σ} {p : Primitive} {w w' : World σ}
    {out : Stage.Outcome} (h : StepDerivation stage p w w' out) {screenshot : Option String}
    {path : String} (hevidence : out.evidence = some (screenshot, some path)) :
    ∃ n, path = (snapshotFile stage.runDir n).text ∧
      w'.files.Legible (snapshotFile stage.runDir n) := by
  cases h with
  | passed => cases hevidence
  | failed _ _ _ _ keeps =>
      obtain ⟨-, hsnapshot⟩ := Prod.mk.inj (Option.some.inj hevidence)
      exact ⟨p.index + 1, snapshot_of_keepEvidence keeps hsnapshot⟩

theorem StepDerivation.evidence {stage : Stage σ} {p : Primitive} {w w' : World σ}
    {out : Stage.Outcome} (h : StepDerivation stage p w w' out) {progress : Progress}
    (hstart : Evidence stage.runDir w.files progress.artifacts) :
    Evidence stage.runDir w'.files (progress.add out).artifacts := by
  have hchanges : Relation.ReflTransGen (Change stage.runDir default) w w' :=
    changes_of_follows (follows_runStep stage p) (stepDerivation_iff.mp h)
  have hkept := hstart.of_changes hchanges
  cases hevidence : out.evidence with
  | none => simpa [Progress.add, hevidence] using hkept
  | some found =>
      obtain ⟨screenshot, snapshot⟩ := found
      refine ⟨by simpa [Progress.add, hevidence] using hkept.place, fun path hpath => ?_⟩
      obtain rfl : snapshot = some path := by simpa [Progress.add, hevidence] using hpath
      exact h.snapshot hevidence

/-- Steps leave evidence of the failure that ends them, and of no other. -/
theorem StepsDerivation.evidence {stage : Stage σ} {primitives : List Primitive} {w w' : World σ}
    {outs : List Stage.Outcome} (h : StepsDerivation stage primitives w outs w')
    {progress : Progress} (hstart : Evidence stage.runDir w.files progress.artifacts) :
    Evidence stage.runDir w'.files (outs.foldl Progress.add progress).artifacts := by
  induction h generalizing progress with
  | nil => exact hstart
  | failed rest step verdict => exact step.evidence hstart
  | passed step verdict _ ih => exact ih (step.evidence hstart)

/-- Work in a session that ends well has carried out steps, and changed nothing after them but what a
run changes. -/
theorem exists_steps_of_carryOut {stage : Stage σ} {options : RunOptions}
    {primitives : List Primitive} {progress : Progress} {w w' : World σ}
    (h : outcome (carryOut stage options primitives) w = (.ok progress, w')) :
    ∃ started outs done, StepsDerivation stage primitives started outs done ∧
      outs.foldl Progress.add ⟨.passed, [], [], artifactsIn stage.runDir⟩ = progress ∧
      Relation.ReflTransGen (Change stage.runDir options.profiles) done w' := by
  obtain ⟨closed, hsession, rfl⟩ := outcome_andFinally_eq_ok h
  obtain ⟨_, opened, -, hwork⟩ := outcome_bind_eq_ok_iff.mp hsession
  obtain ⟨traced, htraced, rfl⟩ := outcome_andFinally_eq_ok hwork
  obtain ⟨_, started, -, hwork⟩ := outcome_bind_eq_ok_iff.mp htraced
  obtain ⟨done, hsteps, rfl⟩ := outcome_andFinally_eq_ok hwork
  obtain ⟨outs, houts, rfl⟩ := stepsDerivation_iff.mpr hsteps
  have hstopped : Relation.ReflTransGen (Change stage.runDir options.profiles) done _ :=
    follows_stopTrace stage done
  exact ⟨started, outs, done, houts, rfl,
    (hstopped.trans (follows_call _ _ _)).trans (follows_saveProfile stage _)⟩

theorem evidence_of_carryOut {stage : Stage σ} {options : RunOptions} {primitives : List Primitive}
    {progress : Progress} {w w' : World σ}
    (h : outcome (carryOut stage options primitives) w = (.ok progress, w')) :
    Evidence stage.runDir w'.files progress.artifacts := by
  obtain ⟨started, outs, done, houts, rfl, hchanges⟩ := exists_steps_of_carryOut h
  let start : Progress := ⟨.passed, [], [], artifactsIn stage.runDir⟩
  have hdone := houts.evidence (show Evidence stage.runDir started.files start.artifacts from
    evidence_artifactsIn _ _)
  exact hdone.of_changes hchanges

/-! ## Reports -/

/-- A report of the run of a plan, in a directory that can be named. -/
structure Reported (options : RunOptions) (plan : Plan) (report : Report) (files : Files) :
    Prop where
  plan : report.plan = plan
  dry : options.dryRun → report.verdict = .passed
  named : Path.hasNull (options.artifactsRoot.child report.runId).text = false
  evidence : Evidence (options.artifactsRoot.child report.runId) files report.artifacts

theorem Reported.hasNull_runDir {options : RunOptions} {plan : Plan} {report : Report}
    {files : Files} (h : Reported options plan report files) :
    Path.hasNull report.artifacts.runDir = false := by
  rw [h.evidence.place]
  exact h.named

theorem report_of_liveWith {host : Host σ} {options : RunOptions} {runId : String} {runDir : Path}
    {plan : Plan} {primitives : List Primitive} {started : Instant} {secrets : Secret.Store}
    {report : Report} {w w' : World σ}
    (h : outcome (liveWith host options runId runDir plan primitives started secrets) w =
      (.ok report, w')) :
    report.plan = plan ∧ report.runId = runId ∧ Evidence runDir w'.files report.artifacts := by
  obtain ⟨_, _, -, h⟩ := outcome_bind_eq_ok_iff.mp h
  obtain ⟨_, _, -, h⟩ := outcome_bind_eq_ok_iff.mp h
  obtain ⟨_, _, -, h⟩ := outcome_bind_eq_ok_iff.mp h
  obtain ⟨_, _, -, h⟩ := outcome_bind_eq_ok_iff.mp h
  obtain ⟨progress, done, hdone, h⟩ := outcome_bind_eq_ok_iff.mp h
  obtain ⟨_, _, hnow, h⟩ := outcome_bind_eq_ok_iff.mp h
  simp only [Work.now, outcome_bind, outcome_get, outcome_pure, Prod.mk.injEq] at hnow
  obtain ⟨-, rfl⟩ := hnow
  simp only [outcome_pure, Prod.mk.injEq, Except.ok.injEq] at h
  obtain ⟨rfl, rfl⟩ := h
  exact ⟨rfl, rfl, evidence_of_carryOut hdone⟩

theorem report_of_reportOn {host : Host σ} {options : RunOptions} {runId : String} {runDir : Path}
    {plan : Plan} {primitives : List Primitive} {report : Report} {w w' : World σ}
    (h : outcome (reportOn host options runId runDir plan primitives) w = (.ok report, w')) :
    report.plan = plan ∧ report.runId = runId ∧ Evidence runDir w'.files report.artifacts ∧
      (options.dryRun → report.verdict = .passed) := by
  unfold reportOn at h
  split at h
  · obtain ⟨_, _, -, h⟩ := outcome_bind_eq_ok_iff.mp h
    simp only [outcome_pure, Prod.mk.injEq, Except.ok.injEq] at h
    obtain ⟨rfl, rfl⟩ := h
    exact ⟨rfl, rfl, evidence_artifactsIn _ _, fun _ => rfl⟩
  · rename_i hlive
    rw [live_eq] at h
    obtain ⟨_, _, -, h⟩ := outcome_bind_eq_ok_iff.mp h
    obtain ⟨_, _, -, h⟩ := outcome_bind_eq_ok_iff.mp h
    obtain ⟨hplan, hname, hevidence⟩ := report_of_liveWith h
    exact ⟨hplan, hname, hevidence, fun hdry => absurd hdry hlive⟩

/-- What a run that gives a report has reported. -/
theorem reported_of_run {host : Host σ} {options : RunOptions} {plan : Plan} {report : Report}
    {w w' : World σ} (h : outcome (run host options plan) w = (.ok report, w')) :
    Reported options plan report w'.files := by
  rw [run_eq] at h
  obtain ⟨runId, named, -, h⟩ := outcome_bind_eq_ok_iff.mp h
  obtain ⟨_, housed, hhoused, h⟩ := outcome_bind_eq_ok_iff.mp h
  obtain ⟨_, _, -, h⟩ := outcome_bind_eq_ok_iff.mp h
  obtain ⟨_, _, -, h⟩ := outcome_bind_eq_ok_iff.mp h
  obtain ⟨found, reported, hreport, h⟩ := outcome_bind_eq_ok_iff.mp h
  obtain ⟨_, kept, hkept, h⟩ := outcome_bind_eq_ok_iff.mp h
  obtain ⟨_, logged, hlogged, h⟩ := outcome_bind_eq_ok_iff.mp h
  simp only [outcome_pure, Prod.mk.injEq, Except.ok.injEq] at h
  obtain ⟨rfl, rfl⟩ := h
  obtain ⟨hplan, rfl, hevidence, hdry⟩ := report_of_reportOn hreport
  have hhouse : Path.hasNull (options.artifactsRoot.child found.runId).text = false := by
    simp only [Work.change, outcome_bind, outcome_get] at hhoused
    split at hhoused
    · rename_i files hfiles
      exact Files.hasNull_of_ensureDirectory hfiles
    · simp at hhoused
  have hkept : Relation.ReflTransGen
      (Change (options.artifactsRoot.child found.runId) options.profiles) reported kept :=
    changes_of_follows (follows_keep found) hkept
  exact ⟨hplan, hdry, hhouse, hevidence.of_changes
    (hkept.trans (changes_of_follows (follows_logTo _ _) hlogged))⟩

end Walkthrough.Run
