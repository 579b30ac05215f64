import Walkthrough.Proofs.Run.Parts
import Walkthrough.Proofs.World

/-! # Steps that are reported

Local rules for the steps of a run. A step is reported if its action passes or fails in a foreseen way,
and the first step that fails is the last one. -/

namespace Walkthrough.Run

open Effect

variable {σ : Type} {stage : Stage σ} {primitives : List Primitive} {w w' : World σ}

/-! ## One step -/

/-- What comes of a primitive step that is reported: its action passes, or fails in a foreseen way, and
then the page is kept. -/
inductive StepDerivation (stage : Stage σ) (p : Primitive) (w w' : World σ) : Stage.Outcome → Prop
  | passed {begun : World σ} {extract : Option Extract}
      (begins : outcome (stage.log .info s!"Step {p.index + 1}: {p.description}") w = (.ok (), begun))
      (acts : outcome (stage.act p.toAction) begun = (.ok extract, w')) :
      StepDerivation stage p w w'
        ⟨⟨p.index, p.kind, p.description, .passed, w.now, w'.now, w'.now - w.now, none, none⟩,
          extract, none⟩
  | failed {begun broken warned : World σ} {failure : Failure} {screenshot snapshot : Option String}
      (begins : outcome (stage.log .info s!"Step {p.index + 1}: {p.description}") w = (.ok (), begun))
      (acts : outcome (stage.act p.toAction) begun = (.error failure, broken))
      (foreseen : Stage.failsStep failure)
      (warns : outcome (stage.log .warning s!"Step {p.index + 1} failed: {failure.message}") broken =
        (.ok (), warned))
      (keeps : outcome (stage.keepEvidence (p.index + 1)) warned = (.ok (screenshot, snapshot), w')) :
      StepDerivation stage p w w'
        ⟨⟨p.index, p.kind, p.description, .failed, w.now, w'.now, broken.now - w.now,
            some failure.message, some (screenshot.toList ++ snapshot.toList)⟩,
          none, some (screenshot, snapshot)⟩

theorem StepDerivation.execution {p : Primitive} {out : Stage.Outcome}
    (h : StepDerivation stage p w w' out) : outcome (stage.run p) w = (.ok out, w') := by
  cases h with
  | passed begins acts =>
      rw [Stage.run, outcome_bind_of_ok (outcome_now w), outcome_bind_of_ok begins,
        outcome_bind_of_ok (outcome_attempt_of acts)]
      rfl
  | @failed _ broken _ _ _ _ begins acts foreseen warns keeps =>
      rw [Stage.run, outcome_bind_of_ok (outcome_now w), outcome_bind_of_ok begins,
        outcome_bind_of_ok (outcome_attempt_of acts)]
      dsimp only
      rw [if_pos foreseen, outcome_bind_of_ok (outcome_now broken), outcome_bind_of_ok warns,
        outcome_bind_of_ok keeps]
      rfl

theorem runStep_derivation {p : Primitive} {out : Stage.Outcome}
    (h : outcome (stage.run p) w = (.ok out, w')) : StepDerivation stage p w w' out := by
  rw [Stage.run, outcome_bind_of_ok (outcome_now w)] at h
  obtain ⟨_, begun, begins, h⟩ := outcome_bind_eq_ok_iff.mp h
  rcases acts : outcome (stage.act p.toAction) begun with ⟨failure | extract, acted⟩
  · rw [outcome_bind_of_ok (outcome_attempt_of acts)] at h
    dsimp only at h
    split at h
    · rename_i foreseen
      rw [outcome_bind_of_ok (outcome_now acted)] at h
      obtain ⟨_, warned, warns, h⟩ := outcome_bind_eq_ok_iff.mp h
      obtain ⟨⟨screenshot, snapshot⟩, kept, keeps, h⟩ := outcome_bind_eq_ok_iff.mp h
      dsimp only at h
      rw [outcome_bind_of_ok (outcome_now kept)] at h
      cases h
      exact .failed begins acts foreseen warns keeps
    · cases h
  · rw [outcome_bind_of_ok (outcome_attempt_of acts)] at h
    dsimp only at h
    rw [outcome_bind_of_ok (outcome_now acted)] at h
    cases h
    exact .passed begins acts

theorem stepDerivation_iff {p : Primitive} {out : Stage.Outcome} :
    StepDerivation stage p w w' out ↔ outcome (stage.run p) w = (.ok out, w') :=
  ⟨StepDerivation.execution, runStep_derivation⟩

/-- A report tells of a primitive step: it names the step, and has an error if the step failed. -/
structure Tells (r : StepReport) (p : Primitive) : Prop where
  index : r.index = p.index
  kind : r.kind = p.kind
  description : r.description = p.description
  error : r.error.isSome ↔ r.verdict = .failed

theorem StepDerivation.tells {p : Primitive} {out : Stage.Outcome}
    (h : StepDerivation stage p w w' out) : Tells out.report p := by
  cases h with
  | passed => exact ⟨rfl, rfl, rfl, by simp⟩
  | failed => exact ⟨rfl, rfl, rfl, by simp⟩

/-! ## All steps -/

/-- What comes of steps in order: each is carried out where the one before it left off, and the first
that fails is the last. -/
inductive StepsDerivation (stage : Stage σ) :
    List Primitive → World σ → List Stage.Outcome → World σ → Prop
  | nil (w : World σ) : StepsDerivation stage [] w [] w
  | failed {p : Primitive} {w w' : World σ} {out : Stage.Outcome} (rest : List Primitive)
      (step : StepDerivation stage p w w' out) (verdict : out.report.verdict = .failed) :
      StepsDerivation stage (p :: rest) w [out] w'
  | passed {p : Primitive} {w mid w' : World σ} {out : Stage.Outcome} {rest : List Primitive}
      {outs : List Stage.Outcome} (step : StepDerivation stage p w mid out)
      (verdict : out.report.verdict = .passed) :
      StepsDerivation stage rest mid outs w' → StepsDerivation stage (p :: rest) w (out :: outs) w'

theorem StepsDerivation.execution {outs : List Stage.Outcome}
    (h : StepsDerivation stage primitives w outs w') (progress : Progress) :
    outcome (steps stage progress primitives) w = (.ok (outs.foldl Progress.add progress), w') := by
  induction h generalizing progress with
  | nil => rfl
  | failed rest step verdict =>
      rw [steps, outcome_bind_of_ok step.execution]
      simp [verdict]
  | passed step verdict _ ih =>
      rw [steps, outcome_bind_of_ok step.execution]
      simp [verdict, ih]

theorem steps_derivation {progress done : Progress}
    (h : outcome (steps stage progress primitives) w = (.ok done, w')) :
    ∃ outs, StepsDerivation stage primitives w outs w' ∧ outs.foldl Progress.add progress = done := by
  induction primitives generalizing progress w with
  | nil =>
      cases h
      exact ⟨[], .nil _, rfl⟩
  | cons p rest ih =>
      obtain ⟨out, mid, hout, h⟩ := outcome_bind_eq_ok_iff.mp h
      have step := runStep_derivation hout
      cases hverdict : out.report.verdict with
      | failed =>
          simp only [hverdict] at h
          cases h
          exact ⟨[out], .failed rest step hverdict, rfl⟩
      | passed =>
          simp only [hverdict] at h
          obtain ⟨outs, houts, rfl⟩ := ih h
          exact ⟨out :: outs, .passed step hverdict houts, rfl⟩

theorem stepsDerivation_iff {progress done : Progress} :
    (∃ outs, StepsDerivation stage primitives w outs w' ∧ outs.foldl Progress.add progress = done) ↔
      outcome (steps stage progress primitives) w = (.ok done, w') := by
  refine ⟨?_, steps_derivation⟩
  rintro ⟨outs, h, rfl⟩
  exact h.execution progress

/-- Only the steps that are reported are carried out. -/
theorem StepsDerivation.take {outs : List Stage.Outcome}
    (h : StepsDerivation stage primitives w outs w') :
    StepsDerivation stage (primitives.take outs.length) w outs w' := by
  induction h with
  | nil => exact .nil _
  | failed rest step verdict => exact .failed _ step verdict
  | passed step verdict _ ih => exact .passed step verdict ih

/-- What an invariant gives of each step, it gives of all steps that are reported. -/
theorem StepsDerivation.forall₂ (inv : World σ → Prop) (q : StepReport → Primitive → Prop)
    {outs : List Stage.Outcome} (h : StepsDerivation stage primitives w outs w')
    (hstep : ∀ p ∈ primitives, ∀ (v v' : World σ) (out : Stage.Outcome), inv v →
      StepDerivation stage p v v' out → inv v' ∧ q out.report p) (hw : inv w) :
    List.Forall₂ q (outs.map Stage.Outcome.report) (primitives.take outs.length) := by
  induction h with
  | nil => exact .nil
  | failed rest step verdict => exact .cons (hstep _ List.mem_cons_self _ _ _ hw step).2 .nil
  | passed step verdict _ ih =>
      obtain ⟨hmid, hout⟩ := hstep _ List.mem_cons_self _ _ _ hw step
      exact .cons hout (ih (fun p hp => hstep p (List.mem_cons_of_mem _ hp)) hmid)

theorem StepsDerivation.tells {outs : List Stage.Outcome}
    (h : StepsDerivation stage primitives w outs w') :
    List.Forall₂ Tells (outs.map Stage.Outcome.report) (primitives.take outs.length) :=
  h.forall₂ (fun _ => True) Tells (fun _ _ _ _ _ _ step => ⟨trivial, step.tells⟩) trivial

/-- How steps end: all pass, or one fails after others that pass. -/
inductive Ended (total : Nat) : List StepReport → Verdict → Prop
  | passed {reports : List StepReport} (complete : reports.length = total)
      (all : ∀ r ∈ reports, r.verdict = .passed) : Ended total reports .passed
  | failed {before : List StepReport} {last : StepReport}
      (all : ∀ r ∈ before, r.verdict = .passed) (failure : last.verdict = .failed) :
      Ended total (before ++ [last]) .failed

theorem Ended.cons {total : Nat} {reports : List StepReport} {verdict : Verdict} {r : StepReport}
    (h : Ended total reports verdict) (hr : r.verdict = .passed) :
    Ended (total + 1) (r :: reports) verdict := by
  cases h with
  | passed complete all =>
      exact .passed (congrArg (· + 1) complete) (List.forall_mem_cons.mpr ⟨hr, all⟩)
  | failed all failure => exact .failed (List.forall_mem_cons.mpr ⟨hr, all⟩) failure

theorem StepsDerivation.ended {outs : List Stage.Outcome}
    (h : StepsDerivation stage primitives w outs w') {progress : Progress}
    (hstart : progress.verdict = .passed) :
    Ended primitives.length (outs.map Stage.Outcome.report)
      (outs.foldl Progress.add progress).verdict := by
  induction h generalizing progress with
  | nil =>
      rw [List.foldl_nil, hstart]
      exact .passed rfl (by simp)
  | @failed _ _ _ out rest step verdict =>
      have hlast : (progress.add out).verdict = .failed := verdict
      rw [List.foldl_cons, List.foldl_nil, hlast]
      exact .failed (List.forall_mem_nil _) verdict
  | @passed _ _ _ _ out _ _ step verdict _ ih =>
      -- Each step sets the verdict anew, so the verdict so far is that of this step.
      have hnext : (progress.add out).verdict = .passed := verdict
      exact (ih hnext).cons verdict

/-- Steps pass if each of them does. -/
theorem StepsDerivation.passed_iff {outs : List Stage.Outcome}
    (h : StepsDerivation stage primitives w outs w') {progress : Progress}
    (hstart : progress.verdict = .passed) :
    (outs.foldl Progress.add progress).verdict = .passed ↔
      ∀ out ∈ outs, out.report.verdict = .passed := by
  have hended := h.ended hstart
  generalize (outs.foldl Progress.add progress).verdict = verdict at hended
  have hreports : (∀ out ∈ outs, out.report.verdict = .passed) ↔
      ∀ r ∈ outs.map Stage.Outcome.report, r.verdict = .passed := by simp
  rw [hreports]
  generalize outs.map Stage.Outcome.report = reports at hended
  cases hended with
  | passed complete all => simpa using all
  | failed all failure => simp [failure]

theorem steps_foldl_add (outs : List Stage.Outcome) (progress : Progress) :
    (outs.foldl Progress.add progress).steps = progress.steps ++ outs.map Stage.Outcome.report := by
  induction outs generalizing progress with
  | nil => simp
  | cons out outs ih => simp [ih, Progress.add]

end Walkthrough.Run
