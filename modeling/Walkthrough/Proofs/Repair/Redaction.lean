import Walkthrough.Proofs.Plan.Redaction
import Walkthrough.Proofs.Repair.Intent
import Walkthrough.Proofs.Run.Record

/-! # Kept plans

A patched plan is kept redacted, and the plan that is loaded from its file is the redacted one. In the
course of a repair all plans that are kept have such files: a patch writes no limit, so what has been
reported once can be written. -/

namespace Walkthrough

/-! ## Numbers -/

namespace Step

/-- A patch changes no limit. -/
theorem Agrees.limit_eq {s t : Step} (h : s.Agrees t) : t.limit = s.limit := by
  have htag := h.tag
  cases s with
  | extractTextList selector outputKey limit =>
      obtain ⟨selector', rfl⟩ := h.output _ _ _ rfl
      rfl
  | goto | click | fill | expect | login | waitFor =>
      cases t with
      | extractTextList => simp [Step.tag] at htag
      | goto | click | fill | expect | login | waitFor => rfl

end Step

/-- Plans that agree can both be written, or neither. -/
theorem Plan.Agrees.isOverlong_eq {p q : Plan} (h : p.Agrees q) (hp : p.Accepted) (hq : q.Accepted) :
    q.toJson.isOverlong = p.toJson.isOverlong := by
  have hlimits : q.steps.map Step.limit = p.steps.map Step.limit := by
    rw [← List.forall₂_eq_eq_eq, List.forall₂_map_left_iff, List.forall₂_map_right_iff]
    exact h.flip.imp fun _ _ hs => hs.limit_eq
  have hany (r : Plan) : (r.steps.any fun s => s.limit.isOverlong) =
      (r.steps.map Step.limit).any Json.isOverlong := by
    rw [List.any_map]
    rfl
  rw [hq.isOverlong_eq, hp.isOverlong_eq, hany, hany, hlimits]

namespace Run

open Effect

/-- A plan of which a run gave a report can be written. -/
theorem isOverlong_of_run {σ : Type} {host : Host σ} {options : RunOptions} {plan : Plan}
    {report : Report} {w w' : World σ} (h : outcome (run host options plan) w = (.ok report, w')) :
    plan.toJson.isOverlong = false := by
  have hdelivered := delivered_of_run h
  have hshort := hdelivered.short
  rw [Report.toJson, Json.isOverlong_obj, hdelivered.plan] at hshort
  simp only [List.any_cons, Bool.or_eq_false_iff] at hshort
  exact hshort.2.2.2.2.2.1

end Run

namespace Repair

open Effect

variable {σ : Type} {host : Host σ} {options : RunOptions} {adapter : Adapter} {patience : Json}
  {plan q : Plan} {w before after : World σ} {deeds : List (Deed σ)} {ending : Ending σ} {path : Path}
  {done : Bool}

/-! ## Keeping a plan -/

/-- The plan that is loaded from the file of a kept plan is the redacted one. -/
theorem Kept.load {runDir : String} {number : Nat} (h : Kept runDir number q before true after)
    (hq : q.Accepted) (hshort : q.toJson.isOverlong = false) :
    Plan.load after.files (planFile runDir number) = .ok q.redact := by
  obtain ⟨files, hwrite, rfl⟩ := h.world
  have hdocument : q.redact.toJson.document = .ok q.redact.text :=
    Json.document_eq_ok_iff.mpr ⟨hq.isOverlong_redact.trans hshort, rfl⟩
  exact hq.redact.load_of_read hdocument (Files.read_of_write hwrite)

/-- The plans that are kept are accepted and agree with the plan before. -/
theorem Rounds.kept_of_mem {left number : Nat} {report : Report}
    (h : Rounds host options adapter patience left number plan report w deeds ending)
    (hplan : plan.Accepted) (hkept : .kept path q before done after ∈ deeds) :
    q.Accepted ∧ plan.Agrees q ∧
      ∃ runDir number, path = planFile runDir number ∧ Kept runDir number q before done after := by
  induction h with
  | spent | passed | unread => cases hkept
  | raised | stopped => simp at hkept
  | again _ _ _ ih => exact ih hplan (by simpa using hkept)
  | crashed _ patched _ =>
      obtain ⟨hq, hagrees⟩ := patched.attempt.agrees hplan
      simp only [List.mem_cons, reduceCtorEq, false_or, Deed.kept.injEq, List.not_mem_nil,
        or_false] at hkept
      obtain ⟨rfl, rfl, rfl, rfl, rfl⟩ := hkept
      exact ⟨hq, hagrees, _, _, rfl, patched.kept⟩
  | repaired _ patched _ _ ih =>
      obtain ⟨hrepaired, hagrees⟩ := patched.attempt.agrees hplan
      simp only [List.mem_cons, reduceCtorEq, false_or, Deed.kept.injEq] at hkept
      rcases hkept with ⟨rfl, rfl, rfl, rfl, rfl⟩ | hkept
      · exact ⟨hrepaired, hagrees, _, _, rfl, patched.kept⟩
      · obtain ⟨hq, hagrees', hfile⟩ := ih hrepaired hkept
        exact ⟨hq, hagrees.trans hagrees', hfile⟩

/-- The plan that is loaded from the file of any plan that is kept in a repair is the redacted one. -/
theorem History.load_of_kept {maxAttempts : Int}
    (h : History host options adapter patience maxAttempts plan w deeds ending) (hplan : plan.Accepted)
    (hkept : .kept path q before true after ∈ deeds) :
    q.Accepted ∧ Plan.load after.files path = .ok q.redact := by
  cases h with
  | crashed | dry => simp at hkept
  | live _ run rest =>
      obtain ⟨hq, hagrees, runDir, number, rfl, hworld⟩ := rest.kept_of_mem hplan (by simpa using hkept)
      have hshort := (hagrees.isOverlong_eq hplan hq).trans (Run.isOverlong_of_run run)
      exact ⟨hq, hworld.load hq hshort⟩

end Repair
end Walkthrough
