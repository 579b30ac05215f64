import Walkthrough.Page
import Walkthrough.Proofs.Plan
import Walkthrough.Proofs.Primitive
import Walkthrough.Proofs.Run.Cleanup
import Walkthrough.Proofs.Run.Steps

/-! # The shape of a report

A live run that gives a report has carried out the compiled steps in order up to the first that failed.
Its report tells of these steps, each once, and the page was called for no others. -/

namespace Walkthrough.Run

open Effect

variable {σ : Type}

/-! ## Reports on steps -/

/-- The shape of a report on compiled steps. It tells of the first of them, and all but the last of
these passed. It is that of a failure if the last failed, and else tells of all steps. -/
structure Shape (primitives : List Primitive) (report : Report) : Prop where
  nonempty : report.steps ≠ []
  tells : List.Forall₂ Tells report.steps (primitives.take report.steps.length)
  counted : report.steps.map StepReport.index = List.range report.steps.length
  earlier : ∀ r ∈ report.steps.dropLast, r.verdict = .passed ∧ r.error = none
  failed_iff : report.verdict = .failed ↔
    ∃ r, report.steps.getLast? = some r ∧ r.verdict = .failed
  failure : ∀ r, report.steps.getLast? = some r → r.verdict = .failed →
    r.error.isSome ∧ report.failedStep? = some r
  passed_iff : report.verdict = .passed ↔
    report.steps.length = primitives.length ∧ ∀ r ∈ report.steps, r.verdict = .passed

section Shapes

variable {total : Nat} {reports : List StepReport} {verdict : Verdict}

theorem Ended.ne_nil (h : Ended total reports verdict) (htotal : total ≠ 0) : reports ≠ [] := by
  cases h with
  | passed complete => exact List.ne_nil_of_length_pos (by omega)
  | failed => simp

theorem Ended.passed_of_mem_dropLast (h : Ended total reports verdict) :
    ∀ r ∈ reports.dropLast, r.verdict = .passed := by
  intro r hr
  cases h with
  | passed _ all => exact all r (List.dropLast_subset _ hr)
  | failed all => exact all r (by simpa using hr)

theorem Ended.failed_iff (h : Ended total reports verdict) :
    verdict = .failed ↔ ∃ r, reports.getLast? = some r ∧ r.verdict = .failed := by
  cases h with
  | passed _ all =>
      simp only [reduceCtorEq, false_iff, not_exists, not_and]
      intro r hr
      simp [all r (List.mem_of_getLast? hr)]
  | failed _ failure => simpa using failure

theorem Ended.passed_iff (h : Ended total reports verdict) :
    verdict = .passed ↔ reports.length = total ∧ ∀ r ∈ reports, r.verdict = .passed := by
  cases h with
  | passed complete all => simpa using ⟨complete, all⟩
  | @failed before last _ failure =>
      simp only [reduceCtorEq, false_iff, not_and]
      intro _ hall
      have hlast := hall last (by simp)
      rw [failure] at hlast
      cases hlast

theorem Ended.find?_failed (h : Ended total reports verdict) {r : StepReport}
    (hlast : reports.getLast? = some r) (hr : r.verdict = .failed) :
    reports.find? (fun step => step.verdict = .failed) = some r := by
  cases h with
  | passed _ all =>
      have hpassed := all r (List.mem_of_getLast? hlast)
      rw [hr] at hpassed
      cases hpassed
  | failed all failure =>
      obtain rfl : _ = r := by simpa using hlast
      rw [List.find?_append, List.find?_eq_none.mpr fun step hstep => by simp [all step hstep]]
      simp [failure]

end Shapes

theorem exists_tells_of_mem {reports : List StepReport} {primitives : List Primitive}
    (h : List.Forall₂ Tells reports primitives) {r : StepReport} (hr : r ∈ reports) :
    ∃ p, Tells r p := by
  induction h with
  | nil => cases hr
  | cons htells _ ih =>
      rcases List.mem_cons.mp hr with rfl | hr
      · exact ⟨_, htells⟩
      · exact ih hr

theorem map_index_of_tells {reports : List StepReport} {primitives : List Primitive}
    (h : List.Forall₂ Tells reports primitives) :
    reports.map StepReport.index = primitives.map Primitive.index := by
  induction h with
  | nil => rfl
  | cons htells _ ih => simp [htells.index, ih]

/-- A report on the first steps, numbered in order, has its shape from how the steps ended. -/
theorem shape_of_ended {primitives : List Primitive} {report : Report} (hsteps : primitives ≠ [])
    (hindex : primitives.map Primitive.index = List.range primitives.length)
    (htells : List.Forall₂ Tells report.steps (primitives.take report.steps.length))
    (hended : Ended primitives.length report.steps report.verdict) : Shape primitives report where
  nonempty := hended.ne_nil (by simpa using hsteps)
  tells := htells
  counted := by
    -- The length of both sides shows that no more steps are told of than there are.
    have hlength := htells.length_eq
    rw [map_index_of_tells htells, List.map_take, hindex, List.take_range]
    rw [List.length_take] at hlength
    rw [← hlength]
  earlier r hr := by
    have hpassed := hended.passed_of_mem_dropLast r hr
    obtain ⟨p, hp⟩ := exists_tells_of_mem htells (List.dropLast_subset _ hr)
    refine ⟨hpassed, Option.not_isSome_iff_eq_none.mp fun herror => ?_⟩
    rw [hp.error.mp herror] at hpassed
    cases hpassed
  failed_iff := hended.failed_iff
  failure r hlast hr := by
    obtain ⟨p, hp⟩ := exists_tells_of_mem htells (List.mem_of_getLast? hlast)
    exact ⟨hp.error.mpr hr, hended.find?_failed hlast hr⟩
  passed_iff := hended.passed_iff

/-! ## What is done on the page -/

/-- The calls among events. -/
def callsIn (events : List Event) : List Call :=
  events.filterMap fun
    | .call c => some c
    | _ => none

@[simp] theorem callsIn_append (before after : List Event) :
    callsIn (before ++ after) = callsIn before ++ callsIn after :=
  List.filterMap_append

theorem TraceKept.callsIn_eq_nil {runDir : Path} {events : List Event} (h : TraceKept runDir events) :
    callsIn events = [] := by
  cases h <;> rfl

theorem Saves.callsIn_eq_nil {root : Path} {profile : Profile} {files files' : Files}
    {events : List Event} (h : Saves root profile files events files') : callsIn events = [] := by
  cases h <;> rfl

theorem ReportKept.callsIn_eq_nil {runDir : Path} {before after : Files}
    {answer : Except Failure Report} {events : List Event}
    (h : ReportKept runDir before after answer events) : callsIn events = [] := by
  cases h <;> rfl

/-- A live run carries out steps in its session, with what is reported of them. What it calls the
browser for besides is to open the session and its trace before them, and to end both after them. -/
def Performs (host : Host σ) (options : RunOptions) (primitives : List Primitive)
    (reports : List StepReport) (w w' : World σ) : Prop :=
  ∃ (stage : Stage σ) (start finish : World σ) (outs : List Stage.Outcome) (rest : List Event),
    stage.browser = host.browser ∧ stage.timeoutMs = options.timeoutMs ∧
    start.events = w.events ++ [.call (.openSession options.headless), .call .startTrace] ∧
    StepsDerivation stage primitives start outs finish ∧
    outs.map Stage.Outcome.report = reports ∧
    w'.events = finish.events ++ rest ∧
    callsIn rest = [.stopTrace (traceFile stage.runDir).text, .closeSession] ∧
    w'.browser = (host.browser.closeSession (host.browser.stopTrace finish.browser).state).state

/-- A live run of an accepted plan that gives a report tells of the first compiled steps, up to the
first that failed, and carries out these steps and no others. -/
theorem run_reports_steps {host : Host σ} {options : RunOptions} {raw : Json} {plan : Plan}
    {report : Report} {w w' : World σ} (hplan : Plan.validate raw = .ok plan)
    (hlive : options.dryRun = false)
    (hrun : outcome (run host options plan) w = (.ok report, w')) :
    ∃ primitives, plan.compile = .ok primitives ∧ Shape primitives report ∧
      Performs host options (primitives.take report.steps.length) report.steps w w' := by
  rw [run_eq_prepare host options plan hlive] at hrun
  obtain ⟨known, loaded, hprepare, hfinish⟩ := outcome_bind_eq_ok_iff.mp hrun
  obtain ⟨hcompile, hdomain⟩ := compile_of_prepare hprepare
  obtain ⟨visit, progress, closed, saving, saved, recording, answer, final, hend, hwound⟩ :=
    exists_woundUp host options plan known hdomain
  rw [hfinish] at hend
  obtain ⟨rfl, rfl⟩ := Prod.mk.inj hend
  obtain ⟨done, rfl, hsteps, hverdict⟩ := hwound.reported report rfl
  obtain ⟨start, finish, kept, hwork, hstart, hkept, hvisit, hbrowser⟩ :=
    hwound.visited.exists_of_ok
  obtain ⟨outs, houts, rfl⟩ := stepsDerivation_iff.mpr hwork
  rw [steps_foldl_add, List.nil_append] at hsteps
  have hlength : report.steps.length = outs.length := by rw [hsteps, List.length_map]
  have hopened : loaded.events = w.events := by
    have hunseen : Unseen (known.directory options) w _ := unseen_prepare host options plan w
    rw [hprepare] at hunseen
    exact hunseen.events
  refine ⟨known.primitives, hcompile, shape_of_ended ?_ ?_ ?_ ?_, ?_⟩
  · exact Plan.compile_ne_nil (Plan.accepted_of_validate hplan).nonempty hcompile
  · exact Plan.map_index_compile hcompile
  · -- There is one report for each outcome, so the compiled steps are cut at the same place.
    rw [hlength, hsteps]
    exact houts.tells
  · rw [hverdict, hsteps]
    exact houts.ended rfl
  · refine ⟨known.stage host options, start, finish, outs,
      (.call (.stopTrace (traceFile (known.directory options)).text) :: kept ++
        [.call .closeSession]) ++ saving ++ recording,
      rfl, rfl, hopened ▸ hstart, hlength ▸ houts.take, hsteps.symm, ?_, ?_,
      hwound.idle.1.trans hbrowser⟩
    · rw [hwound.events, hwound.session, hvisit]
      simp only [List.append_assoc]
      rfl
    · simp only [callsIn_append, hwound.saves.callsIn_eq_nil, hwound.report.callsIn_eq_nil,
        List.append_nil]
      have hended : callsIn (.call (.stopTrace (traceFile (known.directory options)).text) :: kept) =
          .stopTrace (traceFile (known.directory options)).text :: callsIn kept := rfl
      rw [hended, hkept.callsIn_eq_nil]
      rfl

/-- Of three pages to go to, the second cannot be reached: the run fails, tells of two steps, and does
not go to the third. -/
theorem run_reports_steps_unreachable :
    let plan : Plan := ⟨.str "1", .null, .null, [.goto (.str "https://example.com/"),
      .goto (.str "https://example.com/shop"), .goto (.str "https://example.com/cart")]⟩
    let page : Page :=
      { Page.blank with faults := [("goto:https://example.com/shop", .browserTimeout "")] }
    let w : World Page := ⟨page, 0, .empty [], .empty Profile.defaultDomain, 0, [], [], []⟩
    let host : Host Page := ⟨Page.browser, [], some []⟩
    Plan.validate plan.toJson = .ok plan ∧ RunOptions.usual.dryRun = false ∧
      ∃ report w' primitives, outcome (run host .usual plan) w = (.ok report, w') ∧
        plan.compile = .ok primitives ∧ Shape primitives report ∧
        Performs host .usual (primitives.take report.steps.length) report.steps w w' ∧
        report.verdict = .failed ∧ report.steps.length = 2 := by
  intro plan page w host
  have hplan : Plan.validate plan.toJson = .ok plan := rfl
  have hended : (outcome (run host .usual plan) w).1.toOption.map
      (fun report => (report.verdict, report.steps.length)) = some (.failed, 2) := by
    decide +kernel
  rcases hrun : outcome (run host .usual plan) w with ⟨failure | report, w'⟩
  · rw [hrun] at hended
    cases hended
  rw [hrun] at hended
  obtain ⟨hverdict, hlength⟩ := Prod.mk.inj (Option.some.inj hended)
  obtain ⟨primitives, hcompile, hshape, hperforms⟩ := run_reports_steps hplan rfl hrun
  exact ⟨hplan, rfl, report, w', primitives, rfl, hcompile, hshape, hperforms, hverdict, hlength⟩

end Walkthrough.Run
