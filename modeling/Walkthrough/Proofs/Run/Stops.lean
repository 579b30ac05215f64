import Walkthrough.Proofs.Run.Record
import Walkthrough.Proofs.Run.Shape

/-! # Where a run stops

A live run that gives a report stops at the first step that fails, if one does. All that the report says of
a failure comes from that step. -/

namespace Walkthrough.Run

open Effect

variable {σ : Type} {stage : Stage σ} {primitives : List Primitive} {w w' : World σ}

/-! ## The step that fails -/

/-- Steps up to one that fails: the steps before it pass, and it is the last that is carried out. -/
structure StopsAt (stage : Stage σ) (primitives : List Primitive) (w : World σ)
    (outs : List Stage.Outcome) (w' : World σ) (p : Primitive) (out : Stage.Outcome) : Prop where
  split : ∃ earlier mid before after, outs = earlier ++ [out] ∧ primitives = before ++ p :: after ∧
    earlier.length = before.length ∧ (∀ o ∈ earlier, o.report.verdict = .passed) ∧
    StepsDerivation stage before w earlier mid ∧ StepDerivation stage p mid w' out
  failed : out.report.verdict = .failed

theorem StopsAt.cons {p q : Primitive} {mid : World σ} {first out : Stage.Outcome}
    {outs : List Stage.Outcome} (h : StopsAt stage primitives mid outs w' p out)
    (step : StepDerivation stage q w mid first) (passed : first.report.verdict = .passed) :
    StopsAt stage (q :: primitives) w (first :: outs) w' p out := by
  obtain ⟨earlier, last, before, after, rfl, rfl, hlength, hpassed, hearlier, hstep⟩ := h.split
  exact ⟨⟨first :: earlier, last, q :: before, after, rfl, rfl, by simp [hlength],
    List.forall_mem_cons.mpr ⟨passed, hpassed⟩, .passed step passed hearlier, hstep⟩, h.failed⟩

/-- Steps of which not all pass stop at one that fails. -/
theorem StepsDerivation.exists_stopsAt {outs : List Stage.Outcome}
    (h : StepsDerivation stage primitives w outs w')
    (hfailed : ¬ ∀ out ∈ outs, out.report.verdict = .passed) :
    ∃ p out, StopsAt stage primitives w outs w' p out := by
  induction h with
  | nil => simp at hfailed
  | @failed p v _ out rest step verdict =>
      exact ⟨p, out, ⟨[], v, [], rest, rfl, rfl, rfl, List.forall_mem_nil _, .nil v, step⟩, verdict⟩
  | passed step verdict _ ih =>
      obtain ⟨p, out, hstops⟩ := ih fun hall => hfailed (List.forall_mem_cons.mpr ⟨verdict, hall⟩)
      exact ⟨p, out, hstops.cons step verdict⟩

/-! ## Reports -/

/-- What some outcomes come to, from the start of a run. -/
def Prepared.progress (known : Prepared) (options : RunOptions) (outs : List Stage.Outcome) :
    Progress :=
  outs.foldl Progress.add ⟨.passed, [], [], artifactsIn (known.directory options)⟩

/-- A live run that gave a report on what its steps came to. -/
structure Ran (host : Host σ) (options : RunOptions) (plan : Plan) (known : Prepared)
    (outs : List Stage.Outcome) (report : Report) (w start stopped closed saved final : World σ) : Prop
    extends Phases host options plan known (known.progress options outs) report w start stopped closed
      saved final where
  compiles : plan.compile = .ok known.primitives
  steps : StepsDerivation (known.stage host options) known.primitives start outs stopped
  reports : report = known.report plan saved.now (known.progress options outs)

theorem exists_ran {host : Host σ} {options : RunOptions} {plan : Plan} (hlive : options.dryRun = false)
    {report : Report} {final : World σ} (h : outcome (run host options plan) w = (.ok report, final)) :
    ∃ known outs start stopped closed saved,
      Ran host options plan known outs report w start stopped closed saved final := by
  obtain ⟨known, progress, start, stopped, closed, saved, hphases⟩ := exists_phases hlive h
  obtain ⟨loaded, hprepared, -⟩ := begun_eq_ok_iff.mp hphases.begins
  obtain ⟨outs, houts, rfl⟩ := stepsDerivation_iff.mpr hphases.works
  exact ⟨known, outs, start, stopped, closed, saved, hphases, (compile_of_prepare hprepared).1, houts,
    (eq_of_conclude hphases.concludes).1⟩

namespace Ran

variable {host : Host σ} {options : RunOptions} {plan : Plan} {known : Prepared}
  {outs : List Stage.Outcome} {report : Report} {start stopped closed saved final : World σ}

theorem steps_eq (h : Ran host options plan known outs report w start stopped closed saved final) :
    report.steps = outs.map Stage.Outcome.report := by
  rw [h.reports]
  exact (steps_foldl_add outs _).trans (List.nil_append _)

theorem ended (h : Ran host options plan known outs report w start stopped closed saved final) :
    Ended known.primitives.length report.steps report.verdict := by
  rw [h.steps_eq, h.reports]
  exact h.steps.ended rfl

theorem tells (h : Ran host options plan known outs report w start stopped closed saved final) :
    List.Forall₂ Tells report.steps (known.primitives.take report.steps.length) := by
  rw [h.steps_eq, List.length_map]
  exact h.steps.tells

theorem verdict_eq_passed_iff
    (h : Ran host options plan known outs report w start stopped closed saved final) :
    report.verdict = .passed ↔ ∀ out ∈ outs, out.report.verdict = .passed := by
  rw [h.reports]
  exact h.steps.passed_iff rfl

/-- A run that failed stopped at a step that failed. -/
theorem exists_stopsAt (h : Ran host options plan known outs report w start stopped closed saved final)
    (hfailed : report.verdict = .failed) :
    ∃ p out, StopsAt (known.stage host options) known.primitives start outs stopped p out := by
  refine h.steps.exists_stopsAt fun hall => ?_
  rw [h.verdict_eq_passed_iff.mpr hall] at hfailed
  cases hfailed

/-- The failed step of a report is the one that the run stopped at, under its number. -/
theorem failedStep?_eq (h : Ran host options plan known outs report w start stopped closed saved final)
    {p : Primitive} {out : Stage.Outcome}
    (hstops : StopsAt (known.stage host options) known.primitives start outs stopped p out) :
    report.failedStep? = some out.report ∧ Tells out.report p ∧ known.primitives[p.index]? = some p := by
  obtain ⟨earlier, mid, before, after, hsplit, hprimitives, hlength, hpassed, -, hstep⟩ := hstops.split
  refine ⟨?_, hstep.tells, ?_⟩
  · rw [Report.failedStep?, h.steps_eq, hsplit, List.map_append, List.find?_append,
      List.find?_eq_none.mpr]
    · simp [hstops.failed]
    · intro r hr
      obtain ⟨o, ho, rfl⟩ := List.mem_map.mp hr
      simp [hpassed o ho]
  · have hindex : p.index = before.length := by
      have hnumbers := congrArg (·[before.length]?) (Plan.map_index_compile h.compiles)
      simpa [hprimitives] using hnumbers
    rw [hindex, hprimitives]
    simp

end Ran
end Walkthrough.Run
