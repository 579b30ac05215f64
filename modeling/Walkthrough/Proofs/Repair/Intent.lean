import Walkthrough.Page
import Walkthrough.Proofs.Patch.Intent
import Walkthrough.Proofs.Repair.History

/-! # What a repair cannot change

Every plan that is run in the course of a repair is accepted, and agrees with the plan at the start
on what is checked. -/

namespace Walkthrough.Repair

open Effect

variable {σ : Type} {host : Host σ} {options : RunOptions} {adapter : Adapter} {patience : Json}

theorem Attempted.agrees {number : Nat} {plan repaired : Plan} {report : Report} {w w' : World σ}
    {request : Request} {answer : Option Answer} {reason : String} (hplan : plan.Accepted)
    (h : Attempted adapter patience number plan report w request answer
      (.ok (.repaired repaired reason)) w') : repaired.Accepted ∧ plan.Agrees repaired := by
  obtain ⟨patch, hpatch, -, happly⟩ := turnOf_eq_repaired h.decided.symm
  obtain ⟨raw, -, hparse⟩ := patchIn_eq_ok hpatch
  exact ⟨Patch.accepted_of_apply happly, Patch.agrees_of_apply hplan hparse happly⟩

/-- The plans that are run agree with the plan before, and so with all plans that it agrees with. -/
theorem Rounds.agrees {left number : Nat} {plan : Plan} {report : Report} {w : World σ}
    {deeds : List (Deed σ)} {ending : Ending σ}
    (h : Rounds host options adapter patience left number plan report w deeds ending)
    (hplan : plan.Accepted) {p : Plan} {before after : World σ} {result : Except Failure Report}
    (hran : .ran p before result after ∈ deeds) : p.Accepted ∧ plan.Agrees p := by
  induction h with
  | spent | passed | unread => cases hran
  | raised | stopped => simp at hran
  | again _ _ _ ih => exact ih hplan (by simpa using hran)
  | crashed _ patched _ =>
      obtain rfl : p = _ := by
        simp at hran
        exact hran.1
      exact patched.attempt.agrees hplan
  | repaired _ patched _ _ ih =>
      obtain ⟨hrepaired, hagrees⟩ := patched.attempt.agrees hplan
      simp only [List.mem_cons, reduceCtorEq, false_or, Deed.ran.injEq] at hran
      rcases hran with ⟨rfl, -⟩ | hran
      · exact ⟨hrepaired, hagrees⟩
      · obtain ⟨hp, hagrees'⟩ := ih hrepaired hran
        exact ⟨hp, hagrees.trans hagrees'⟩

theorem History.agrees {maxAttempts : Int} {plan : Plan} {w : World σ} {deeds : List (Deed σ)}
    {ending : Ending σ} (h : History host options adapter patience maxAttempts plan w deeds ending)
    (hplan : plan.Accepted) {p : Plan} {before after : World σ} {result : Except Failure Report}
    (hran : .ran p before result after ∈ deeds) : p.Accepted ∧ plan.Agrees p := by
  cases h with
  | crashed | dry =>
      obtain rfl : p = plan := by
        simp at hran
        exact hran.1
      exact ⟨hplan, .refl hplan⟩
  | live _ _ rest =>
      simp only [List.mem_cons, Deed.ran.injEq] at hran
      rcases hran with ⟨rfl, -⟩ | hran
      · exact ⟨hplan, .refl hplan⟩
      · exact rest.agrees hplan hran

/-- A repair of an accepted plan only runs plans that are accepted and agree with it. -/
theorem runWithRepair_agrees {raw : Json} {plan : Plan} (hplan : Plan.validate raw = .ok plan)
    (host : Host σ) (options : RunOptions) (adapter : Adapter) (patience : Json)
    (maxAttempts : Int) (w : World σ) :
    (∃ deeds ending, History host options adapter patience maxAttempts plan w deeds ending) ∧
      ∀ deeds ending, History host options adapter patience maxAttempts plan w deeds ending →
        outcome (runWithRepair host options adapter patience maxAttempts plan) w = ending ∧
        ∀ p before result after, .ran p before result after ∈ deeds →
          p.Accepted ∧ plan.Agrees p := by
  refine ⟨exists_history host options adapter patience maxAttempts plan w, ?_⟩
  intro deeds ending h
  refine ⟨h.execution, fun p before result after hran => ?_⟩
  exact h.agrees (Plan.accepted_of_validate hplan) hran

/-- A click on a link with another name is repaired, and then the plan passes. -/
theorem runWithRepair_agrees_click :
    let page : Json := .str "https://example.com/"
    let p : Plan := ⟨.str "1", .null, .null, [.goto page, .click (.str "Help") .null]⟩
    let raw : Json := .obj [("reason", .str "renamed"), ("operations", .arr [.obj [
      ("op", .str "replace"), ("path", .str "/steps/1/target"), ("value", .str "Guide")]])]
    let shown : Page := { Page.blank with elements := [("role:button:Guide", ["Guide"])] }
    let w : World Page := ⟨shown, 0, .empty [], .empty Profile.defaultDomain, 0, [], [], []⟩
    Plan.validate p.toJson = .ok p ∧
      ∃ deeds ending, History ⟨Page.browser, [], none⟩ .usual (.ofAnswer fun _ _ => .value raw)
          defaultPatience 3 p w deeds ending ∧
        (∀ q before result after, .ran q before result after ∈ deeds → q.Accepted ∧ p.Agrees q) ∧
        ending.1.toOption.map Report.verdict = some .passed := by
  intro page p raw shown w
  have hp : Plan.validate p.toJson = .ok p := rfl
  obtain ⟨⟨deeds, ending, h⟩, hall⟩ := runWithRepair_agrees hp ⟨Page.browser, [], none⟩ .usual
    (.ofAnswer fun _ _ => .value raw) defaultPatience 3 w
  obtain ⟨hending, hagrees⟩ := hall deeds ending h
  refine ⟨hp, deeds, ending, h, hagrees, ?_⟩
  rw [← hending]
  decide +kernel

end Walkthrough.Repair
