import Walkthrough.Proofs.Plan.Document
import Walkthrough.Proofs.Run.Course
import Walkthrough.Proofs.Run.Report

/-! # Records of runs

The report of a run of an accepted plan is kept as a document, and what is loaded from there when the
run is over is the record of the report. -/

namespace Walkthrough

open Effect Json

/-! ## Reports as documents -/

@[simp] theorem plain_textArray (texts : List String) : (textArray texts).Plain := by
  simp [textArray]

theorem StepReport.plain_toJson (r : StepReport) : r.toJson.Plain := by
  cases herror : r.error <;> cases hpaths : r.artifactPaths <;>
    simp [StepReport.toJson, optionalMember, herror, hpaths, Table.keys]

theorem Artifacts.plain_toJson (a : Artifacts) : a.toJson.Plain := by
  cases hscreenshot : a.screenshot <;> cases hsnapshot : a.snapshot <;>
    simp [Artifacts.toJson, optionalMember, hscreenshot, hsnapshot, Table.keys]

/-- A report is plain if its plan is and no two of its outputs have one key. -/
theorem Report.plain_toJson {r : Report} (hplan : r.plan.toJson.Plain)
    (houtputs : (Table.keys r.outputs).Nodup) : r.toJson.Plain := by
  have hsteps : (Json.arr (r.steps.map StepReport.toJson)).Plain := by
    simp [StepReport.plain_toJson]
  have hlists : (Json.obj (r.outputs.map fun entry => (entry.1, textArray entry.2))).Plain := by
    refine .obj (by rwa [Table.keys_map_values]) fun entry hentry => ?_
    obtain ⟨found, -, rfl⟩ := List.mem_map.mp hentry
    exact plain_textArray found.2
  refine .obj (by simp [Table.keys]) ?_
  simp only [List.forall_mem_cons, List.not_mem_nil, false_implies, implies_true, and_true,
    true_and, Plain.str, Plain.int]
  exact ⟨hplan, hsteps, hlists, r.artifacts.plain_toJson⟩

theorem StepRecord.ofJson_toJson (r : StepReport) : StepRecord.ofJson r.toJson = .ok r.record := by
  obtain ⟨_, _, _, _, _, _, _, error, paths⟩ := r
  cases error <;> cases paths <;> rfl

theorem ArtifactsRecord.ofJson_toJson (a : Artifacts) :
    ArtifactsRecord.ofJson a.toJson = .ok a.record := by
  obtain ⟨_, _, _, screenshot, snapshot⟩ := a
  cases screenshot <;> cases snapshot <;> rfl

theorem Record.outputsOf_toJson (outputs : Table (List String)) :
    Record.outputsOf (.obj (outputs.map fun entry => (entry.1, textArray entry.2))) =
      .ok (outputs.map fun entry => (entry.1, entry.2.map Json.str)) := by
  have hmap : (outputs.map fun entry => (entry.1, textArray entry.2)).mapM
      (fun entry : String × Json => do return (entry.1, ← Json.elements entry.2)) =
      .ok (outputs.map fun entry => (entry.1, entry.2.map Json.str)) := by
    rw [mapM_eq_ok_iff, List.forall₂_map_left_iff, List.forall₂_map_right_iff, List.forall₂_same]
    intro entry _
    rfl
  cases outputs with
  | nil => rfl
  | cons entry outputs => exact hmap

/-- A report is read back from its own object as its record, if its plan is. -/
theorem Record.ofJson_toJson {r : Report} (hplan : Plan.ofJson r.plan.toJson = .ok r.plan) :
    Record.ofJson r.toJson = .ok r.record := by
  have hsteps : (r.steps.map StepReport.toJson).mapM StepRecord.ofJson =
      .ok (r.steps.map StepReport.record) := by
    rw [mapM_eq_ok_iff, List.forall₂_map_left_iff, List.forall₂_map_right_iff, List.forall₂_same]
    intro step _
    exact StepRecord.ofJson_toJson step
  have houtputs := Record.outputsOf_toJson r.outputs
  have hartifacts := ArtifactsRecord.ofJson_toJson r.artifacts
  simp only [Record.ofJson, Report.toJson, Json.required, Json.optional, Json.member?, Table.get?_cons]
  simp [Json.elements, hplan, hsteps, houtputs, hartifacts, bind, Except.bind, pure, Except.pure, Report.record]

namespace Run

variable {σ : Type}

/-! ## Outputs -/

theorem nodup_outputs_foldl_add (outs : List Stage.Outcome) {progress : Progress}
    (h : (Table.keys progress.outputs).Nodup) :
    (Table.keys (outs.foldl Progress.add progress).outputs).Nodup := by
  induction outs generalizing progress with
  | nil => exact h
  | cons out outs ih =>
      refine ih ?_
      cases hextract : out.extract with
      | none => simpa [Progress.add, hextract] using h
      | some extract => simpa [Progress.add, hextract] using Table.nodup_keys_set h _ _

/-- Later texts under a key replace earlier ones, so no key comes twice. -/
theorem nodup_outputs_of_reportOn {host : Host σ} {options : RunOptions} {runId : String}
    {runDir : Path} {plan : Plan} {primitives : List Primitive} {report : Report} {w w' : World σ}
    (h : outcome (reportOn host options runId runDir plan primitives) w = (.ok report, w')) :
    (Table.keys report.outputs).Nodup := by
  unfold reportOn at h
  split at h
  · obtain ⟨_, _, -, h⟩ := outcome_bind_eq_ok_iff.mp h
    simp only [outcome_pure, Prod.mk.injEq, Except.ok.injEq] at h
    obtain ⟨rfl, -⟩ := h
    simp [dryReport, Table.keys]
  · rw [live_eq] at h
    obtain ⟨_, _, -, h⟩ := outcome_bind_eq_ok_iff.mp h
    obtain ⟨_, _, -, h⟩ := outcome_bind_eq_ok_iff.mp h
    obtain ⟨_, _, -, h⟩ := outcome_bind_eq_ok_iff.mp h
    obtain ⟨_, _, -, h⟩ := outcome_bind_eq_ok_iff.mp h
    obtain ⟨_, _, -, h⟩ := outcome_bind_eq_ok_iff.mp h
    obtain ⟨_, _, -, h⟩ := outcome_bind_eq_ok_iff.mp h
    obtain ⟨progress, done, hdone, h⟩ := outcome_bind_eq_ok_iff.mp h
    obtain ⟨_, _, -, h⟩ := outcome_bind_eq_ok_iff.mp h
    simp only [outcome_pure, Prod.mk.injEq, Except.ok.injEq] at h
    obtain ⟨rfl, -⟩ := h
    obtain ⟨_, outs, _, -, rfl, -⟩ := exists_steps_of_carryOut hdone
    exact nodup_outputs_foldl_add outs (by simp [Table.keys])

/-! ## Loading -/

/-- What is found in the place of a report is read as its record. -/
def Recorded (artifactsRoot : Path) (report : Report) (files : Files) : Prop :=
  ∃ s, files.readText (reportFile (artifactsRoot.child report.runId)) = .ok s ∧
    Record.parse s = .ok report.record

theorem Recorded.outcome_loadRecord {artifactsRoot : Path} {report : Report} {w : World σ}
    (h : Recorded artifactsRoot report w.files) :
    outcome (loadRecord artifactsRoot report.runId) w = (.ok report.record, w) := by
  obtain ⟨s, hread, hparse⟩ := h
  simp [loadRecord, Work.look, outcome_bind, hread, hparse]

theorem recorded_of_read {artifactsRoot : Path} {report : Report} {files : Files}
    (hplan : report.plan.Accepted) (houtputs : (Table.keys report.outputs).Nodup)
    (hshort : report.toJson.isOverlong = false)
    (h : files.read (reportFile (artifactsRoot.child report.runId)) =
      .ok (.text report.toJson.pretty)) : Recorded artifactsRoot report files := by
  have hplain := Report.plain_toJson hplan.plain houtputs
  have hdocument : report.toJson.document = .ok report.toJson.pretty :=
    document_eq_ok_iff.mpr ⟨hshort, rfl⟩
  refine ⟨report.toJson.pretty, ?_, ?_⟩
  · simp [Files.readText, h, read_document hplain hdocument, bind, Except.bind]
  · simp [Record.parse, parse_document hplain hdocument, Record.ofJson_toJson hplan.ofJson_toJson]

theorem read_of_keep {runDir : Path} {report : Report} {w w' : World σ}
    (h : outcome (keep runDir report) w = (.ok (), w')) :
    report.toJson.isOverlong = false ∧
      w'.files.read (reportFile runDir) = .ok (.text report.toJson.pretty) := by
  cases hlong : report.toJson.isOverlong with
  | true =>
      rw [keep_of_isOverlong hlong] at h
      cases congrArg Prod.fst h
  | false =>
      refine ⟨rfl, ?_⟩
      cases hwrite : w.files.write (reportFile runDir) (.text report.toJson.pretty) with
      | error failure =>
          rw [outcome_keep_of_error hlong hwrite] at h
          cases congrArg Prod.fst h
      | ok files =>
          rw [outcome_keep_of_ok hlong hwrite] at h
          obtain rfl := (Prod.mk.inj h).2
          exact Files.read_of_write hwrite

theorem eq_of_conclude {runDir : Path} {report found : Report} {w w' : World σ}
    (h : outcome (conclude runDir report) w = (.ok found, w')) :
    found = report ∧ report.toJson.isOverlong = false := by
  obtain ⟨_, _, hkeep, h⟩ := outcome_bind_eq_ok_iff.mp h
  obtain ⟨_, _, -, h⟩ := outcome_bind_eq_ok_iff.mp h
  simp only [outcome_pure, Prod.mk.injEq, Except.ok.injEq] at h
  exact ⟨h.1.symm, (read_of_keep hkeep).1⟩

/-- A report that was given in the end, and kept in the directory of its run, where a log was opened. -/
structure Delivered (options : RunOptions) (plan : Plan) (report : Report) (w final : World σ) : Prop where
  named : ∃ picked, outcome (pickName options) w = (.ok report.runId, picked)
  plan : report.plan = plan
  place : report.artifacts.runDir = (options.artifactsRoot.child report.runId).text
  outputs : (Table.keys report.outputs).Nodup
  short : report.toJson.isOverlong = false
  opened : ∃ files files' : Files, files.home = w.files.home ∧ files.openForAppend (Path.ofParts
    ((runLog (options.artifactsRoot.child report.runId)).resolve files.home)) = .ok files'
  kept : final.files.read (reportFile (options.artifactsRoot.child report.runId)) =
    .ok (.text report.toJson.pretty)

/-- Every report that a run gives is kept. -/
theorem delivered_of_run {host : Host σ} {options : RunOptions} {plan : Plan} {report : Report}
    {w w' : World σ} (h : outcome (run host options plan) w = (.ok report, w')) :
    Delivered options plan report w w' := by
  rw [run_eq] at h
  obtain ⟨runId, picked, hpick, h⟩ := outcome_bind_eq_ok_iff.mp h
  obtain ⟨_, housed, hhouse, h⟩ := outcome_bind_eq_ok_iff.mp h
  obtain ⟨_, _, hcompile, h⟩ := outcome_bind_eq_ok_iff.mp h
  obtain ⟨_, logging, hopen, h⟩ := outcome_bind_eq_ok_iff.mp h
  obtain ⟨found, _, hreport, h⟩ := outcome_bind_eq_ok_iff.mp h
  obtain ⟨_, _, hkeep, h⟩ := outcome_bind_eq_ok_iff.mp h
  obtain ⟨_, _, hlog, h⟩ := outcome_bind_eq_ok_iff.mp h
  simp only [outcome_pure, Prod.mk.injEq, Except.ok.injEq] at h
  obtain ⟨rfl, rfl⟩ := h
  obtain ⟨hplan, rfl, hevidence, -⟩ := report_of_reportOn hreport
  obtain ⟨hshort, hread⟩ := read_of_keep hkeep
  rw [outcome_ofExcept] at hcompile
  obtain ⟨-, rfl⟩ := Prod.mk.inj hcompile
  have hhome : housed.files.home = w.files.home :=
    (Files.directoriesStay_ensureDirectory (eq_ok_of_change hhouse)).home.trans
      (congrArg Files.home (files_of_pickName hpick))
  exact ⟨⟨picked, hpick⟩, hplan, hevidence.place, nodup_outputs_of_reportOn hreport, hshort,
    ⟨housed.files, logging.files, hhome, eq_ok_of_change hopen⟩,
    read_of_logTo hlog (by decide) (by decide) (by decide) hread⟩

/-- The report that a run of an accepted plan gives is found again. -/
theorem recorded_of_run {host : Host σ} {options : RunOptions} {plan : Plan} {report : Report}
    {w w' : World σ} (hplan : plan.Accepted)
    (h : outcome (run host options plan) w = (.ok report, w')) :
    Recorded options.artifactsRoot report w'.files := by
  have hdelivered := delivered_of_run h
  exact recorded_of_read (hdelivered.plan ▸ hplan) hdelivered.outputs hdelivered.short hdelivered.kept

end Run
end Walkthrough
