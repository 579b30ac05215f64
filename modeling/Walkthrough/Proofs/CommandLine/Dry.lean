import Walkthrough.Proofs.CommandLine
import Walkthrough.Proofs.Plan.Lines
import Walkthrough.Proofs.Plan.Redaction
import Walkthrough.Proofs.Run.Dry

/-! # Dry runs from the command line

A command that runs a plan dry says one line for each step of the report before it says the report. -/

namespace Walkthrough.CommandLine

open Effect

variable {σ : Type} {host : Host σ} {service : Chat.Service} {settings : RunSettings} {plan : Plan}
  {primitives : List Primitive} {before after : List String} {report : Report} {w w' : World σ}

theorem runWithRepair_of_dry {options : RunOptions} (hdry : options.dryRun = true) (host : Host σ)
    (adapter : Repair.Adapter) (patience : Json) (maxAttempts : Int) (plan : Plan) :
    runWithRepair host options adapter patience maxAttempts plan = Walkthrough.run host options plan := by
  simp [runWithRepair, hdry]

/-- How a dry run of a plan is told: the lines of the plan are said, it is run, and the lines of the report
are said. The provider of repairs is looked for, but not asked. -/
structure Rehearses (host : Host σ) (service : Chat.Service) (settings : RunSettings) (plan : Plan)
    (before : List String) (report : Report) (after : List String) (w w' : World σ) : Prop where
  shows : plan.lines = .ok before
  adapts : ∃ provider adapter, Provider.ofText (some settings.provider) = .ok provider ∧
    provider.adapter host.environment service = .ok adapter
  runs : ∃ final, outcome (Walkthrough.run host settings.options plan)
      { w with said := w.said ++ before } = (.ok report, final) ∧
    w' = { final with said := w.said ++ before ++ after }
  lists : report.record.lines = .ok after

/-- A line calls a step of a report: it starts with the number and the kind of the step. -/
def Calls (line : String) (step : StepReport) : Prop :=
  ∃ payload, Action.callText (step.index + 1) step.kind payload = .ok line

theorem calls_of_announces {steps : List StepReport}
    (hlines : List.Forall₂ (fun primitive line => Primitive.line primitive = .ok line) primitives before)
    (hsteps : List.Forall₂ Run.Announces steps primitives) : List.Forall₂ Calls before steps := by
  induction hlines generalizing steps with
  | nil =>
      cases hsteps
      exact .nil
  | @cons primitive _ _ _ hline _ ih =>
      cases hsteps with
      | cons hannounces hrest =>
          refine .cons ⟨primitive.payload, ?_⟩ (ih hrest)
          rw [hannounces.index, hannounces.kind]
          exact hline

theorem rehearses_iff (hdry : settings.dryRun = true) (hcompile : plan.compile = .ok primitives)
    (hload : Plan.load w.files (Path.ofText settings.planFile) = .ok plan) {code : Nat} :
    outcome (run host service settings) w = (.ok code, w') ↔
      code = 0 ∧ ∃ before report after, Rehearses host service settings plan before report after w w' := by
  have hpreview : preview settings plan = plan.lines := by rw [preview, if_pos hdry]
  have hoptions : settings.options.dryRun = true := hdry
  have hpassed : ∀ {report : Report} {v final : World σ},
      outcome (Walkthrough.run host settings.options plan) v = (.ok report, final) →
      report.verdict = .passed ∧ final.said = v.said := by
    intro report v final hrun
    have hrehearsal := Run.rehearsal_of_dry hoptions hcompile host v
    have hsaid := hrehearsal.idle.said
    rw [hrun] at hsaid
    exact ⟨(hrehearsal.previews (by rw [hrun])).passed, hsaid⟩
  constructor
  · intro h
    obtain ⟨_, before, adapter, report, after, final, hcourse, rfl⟩ := exists_course h
    obtain rfl := Except.ok.inj (hload.symm.trans hcourse.loads)
    have hruns := hcourse.runs
    rw [runWithRepair_of_dry hoptions] at hruns
    obtain ⟨hverdict, hsaid⟩ := hpassed hruns
    obtain ⟨provider, hprovider, hadapter⟩ := hcourse.adapts
    have hexecution := hcourse.execution
    rw [hverdict, h] at hexecution
    have hcode : code = 0 := Except.ok.inj (Prod.mk.inj hexecution).1
    have hsame : ({ final with said := final.said ++ after } : World σ) =
        { final with said := w.said ++ before ++ after } := by rw [hsaid]
    exact ⟨hcode, before, report, after, hpreview.symm.trans hcourse.previews,
      ⟨provider, adapter, hprovider, hadapter⟩, ⟨final, hruns, hsame⟩, hcourse.lists⟩
  · rintro ⟨rfl, before, report, after, h⟩
    obtain ⟨provider, adapter, hprovider, hadapter⟩ := h.adapts
    obtain ⟨final, hruns, rfl⟩ := h.runs
    obtain ⟨hverdict, hsaid⟩ := hpassed hruns
    rw [← runWithRepair_of_dry hoptions host adapter (.float settings.repairTimeout)
      settings.repairAttempts plan] at hruns
    have hcourse : Course host service settings plan before adapter report after w final :=
      ⟨hload, hpreview.trans h.shows, ⟨provider, hprovider, hadapter⟩, hruns, h.lists⟩
    rw [hcourse.execution, hverdict, hsaid]

theorem Rehearses.calls (h : Rehearses host service settings plan before report after w w')
    (hdry : settings.dryRun = true) (hcompile : plan.compile = .ok primitives) :
    List.Forall₂ Calls before report.steps := by
  obtain ⟨final, hruns, -⟩ := h.runs
  obtain ⟨primitives', hcompile', hlines⟩ := Plan.lines_eq_ok_iff.mp h.shows
  obtain rfl := Except.ok.inj (hcompile.symm.trans hcompile')
  have hoptions : settings.options.dryRun = true := hdry
  have hpreviews := (Run.rehearsal_of_dry hoptions hcompile host
    { w with said := w.said ++ before }).previews (by rw [hruns])
  exact calls_of_announces hlines hpreviews.steps

end Walkthrough.CommandLine
