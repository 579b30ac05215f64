import Walkthrough.Page
import Walkthrough.Proofs.Patch.Refusal
import Walkthrough.Proofs.Repair.Intent

/-! # What comes of an answer

A refused answer costs an attempt and the plan stays. Only an answer whose patch trips ends a repair
with a failure, which is then the fault of a value. -/

namespace Walkthrough.Repair

open Effect

variable {σ : Type} {host : Host σ} {options : RunOptions} {adapter : Adapter} {patience : Json}

theorem turnOf_of_tripsOver {p : Plan} {raw : Json} (hp : p.Accepted)
    (h : Patch.TripsOver p raw) : ∃ fault, turnOf p (Patch.parse raw) = .error (.value fault) := by
  obtain ⟨patch, hpatch, htrips⟩ := h
  obtain ⟨fault, hfault⟩ := Patch.apply_of_trips hp hpatch htrips
  have hsome := Patch.operations_ne_nil hp hfault
  exact ⟨fault, by simp [turnOf, turnOfFailure, hpatch, hsome, hfault]⟩

theorem exists_turnOf {p : Plan} {raw : Json} (h : Settled (Patch.amend p raw)) :
    ∃ turn, turnOf p (Patch.parse raw) = .ok turn := by
  cases hparse : Patch.parse raw with
  | error failure =>
      obtain ⟨fault, rfl⟩ := Patch.parse_eq_error hparse
      exact ⟨.again, rfl⟩
  | ok patch =>
      by_cases hempty : patch.operations.isEmpty
      · exact ⟨.stop, by simp [turnOf, hempty]⟩
      rcases h with ⟨q, hq⟩ | ⟨fault, hfault⟩
      · have happly : patch.apply p = .ok q := by simpa [Patch.amend, hparse] using hq
        exact ⟨.repaired q patch.reason.display, by simp [turnOf, hempty, happly]⟩
      · have happly : patch.apply p = .error (.patchRejected fault) := by
          simpa [Patch.amend, hparse] using hfault
        exact ⟨.again, by simp [turnOf, turnOfFailure, hempty, happly]⟩

theorem turnOf_of_refused {p : Plan} {raw : Json} (hp : p.Accepted) {fault : PatchFault}
    (h : Patch.amend p raw = .error (.patchRejected fault)) :
    turnOf p (Patch.parse raw) = .ok .again := by
  cases hparse : Patch.parse raw with
  | error failure =>
      obtain ⟨fault, rfl⟩ := Patch.parse_eq_error hparse
      rfl
  | ok patch =>
      have happly : patch.apply p = .error (.patchRejected fault) := by
        simpa [Patch.amend, hparse] using h
      have hsome := Patch.operations_ne_nil hp happly
      simp [turnOf, turnOfFailure, hsome, happly]

/-- What is left of a repair after an answer: nothing but the failure after one that trips, and all
further attempts on the same plan after one that was refused. -/
structure Answered (host : Host σ) (options : RunOptions) (adapter : Adapter) (patience : Json)
    (left number : Nat) (plan : Plan) (raw : Json) (turn : Except Failure Turn)
    (post : List (Deed σ)) (ending : Ending σ) : Prop where
  trips : Patch.TripsOver plan raw →
    post = [] ∧ ∃ fault, turn = .error (.value fault) ∧ ending.1 = .error (.value fault)
  goes : ¬ Patch.TripsOver plan raw → ∃ next, turn = .ok next
  refused : ∀ fault, Patch.amend plan raw = .error (.patchRejected fault) → turn = .ok .again ∧
    ∃ report w, Rounds host options adapter patience left (number + 1) plan report w post ending

theorem Rounds.answered {left number : Nat} {plan : Plan} {report : Report} {w : World σ}
    {request : Request} {raw : Json} {turn : Except Failure Turn} {post : List (Deed σ)}
    {ending : Ending σ} (hplan : plan.Accepted)
    (h : Rounds host options adapter patience left number plan report w
      (.attempted number request (some (.value raw)) turn :: post) ending) :
    Answered host options adapter patience (left - 1) number plan raw turn post ending := by
  obtain ⟨w', hattempt⟩ := h.attempted
  have hturn : turn = turnOf plan (Patch.parse raw) := hattempt.decided
  refine ⟨fun htrips => ?_, fun hnot => ?_, fun fault hfault => ?_⟩
  · obtain ⟨fault, hfault⟩ := turnOf_of_tripsOver hplan htrips
    obtain rfl := hturn.trans hfault
    cases h with
    | raised => exact ⟨rfl, fault, rfl, rfl⟩
  · obtain ⟨next, hnext⟩ := exists_turnOf (Patch.settled_amend hplan hnot)
    exact ⟨next, hturn.trans hnext⟩
  · obtain rfl := hturn.trans (turnOf_of_refused hplan hfault)
    cases h with
    | again _ _ rest => exact ⟨rfl, _, _, rest⟩

/-- A JSON value that is answered amends the plan or is refused, unless its patch trips; and so a
repair goes on after each answer but one that trips, with the same plan if it was refused. -/
theorem answers_settle_iff {raw₀ : Json} {p : Plan} (hp : Plan.validate raw₀ = .ok p) :
    (∀ raw, Settled (Patch.amend p raw) ↔ ¬ Patch.TripsOver p raw) ∧
      ∀ {σ : Type} (host : Host σ) (options : RunOptions) (adapter : Adapter) (patience : Json)
        (maxAttempts : Int) (w : World σ),
        (∃ deeds ending, History host options adapter patience maxAttempts p w deeds ending) ∧
        ∀ deeds ending, History host options adapter patience maxAttempts p w deeds ending →
          outcome (runWithRepair host options adapter patience maxAttempts p) w = ending ∧
          ∀ (pre post : List (Deed σ)) number request raw turn,
            deeds = pre ++ .attempted number request (some (.value raw)) turn :: post →
            Answered host options adapter patience (maxAttempts.toNat - number) number
              request.plan raw turn post ending := by
  have hstart := Plan.accepted_of_validate hp
  refine ⟨fun raw => Patch.settled_amend_iff hstart, ?_⟩
  intro σ host options adapter patience maxAttempts w
  refine ⟨exists_history host options adapter patience maxAttempts p w, fun deeds ending h =>
    ⟨h.execution, ?_⟩⟩
  intro pre post number request raw turn hdeeds
  obtain ⟨left, plan, report, w', hleft, -, htail, hlast⟩ := h.from_attempt hdeeds
  have hmem := List.mem_of_getLast? hlast
  obtain ⟨before, after, hran⟩ := mem_runsOf.mp hmem
  have hplan : plan.Accepted := (h.agrees hstart (hdeeds ▸ List.mem_append_left _ hran)).1
  have hrequest : request.plan = plan := by
    obtain ⟨_, hattempt⟩ := htail.attempted
    obtain ⟨snapshot, -, rfl⟩ := hattempt.shown
    rfl
  rw [hrequest, show maxAttempts.toNat - number = left - 1 by omega]
  exact htail.answered hplan

/-- A patch that sends the plan to an unclosed bracket trips, and is not refused. -/
theorem answers_settle_iff_bracket :
    let page : Json := .str "https://example.com"
    let p : Plan := ⟨.str "1", .null, .null, [.goto page, .click (.str "Help") .null]⟩
    let raw : Json := .obj [("reason", .str "moved"), ("operations", .arr [.obj [
      ("op", .str "replace"), ("path", .str "/steps/0/url"), ("value", .str "http://[")]])]
    Plan.validate p.toJson = .ok p ∧ Patch.TripsOver p raw ∧ ¬ Settled (Patch.amend p raw) := by
  intro page p raw
  have hp : Plan.validate p.toJson = .ok p := rfl
  have htrips : Patch.TripsOver p raw := by
    refine ⟨⟨.str "moved", [⟨.str "replace", .str "/steps/0/url", .str "http://["⟩]⟩, rfl, ?_⟩
    refine .unsplittable [] (.obj [("type", .str "goto"), ("url", .str "http://[")])
      [.obj [("type", .str "click"), ("target", .str "Help")]] rfl (by simp) ?_
    exact ⟨_, "http://[", _, rfl, rfl, rfl, rfl⟩
  exact ⟨hp, htrips, fun hsettled => ((answers_settle_iff hp).1 raw).mp hsettled htrips⟩

/-- A repair that is given that patch ends with the fault. -/
theorem runWithRepair_bracket :
    let page : Json := .str "https://example.com"
    let p : Plan := ⟨.str "1", .null, .null, [.goto page, .click (.str "Help") .null]⟩
    let raw : Json := .obj [("reason", .str "moved"), ("operations", .arr [.obj [
      ("op", .str "replace"), ("path", .str "/steps/0/url"), ("value", .str "http://[")]])]
    let w : World Page := ⟨.blank, 0, .empty [], .empty Profile.defaultDomain, 0, [], [], []⟩
    Plan.validate p.toJson = .ok p ∧
      (match (outcome (runWithRepair ⟨Page.browser, [], none⟩ .usual
          (.ofAnswer fun _ _ => .value raw) defaultPatience 3 p) w).1 with
        | .error (.value (.url _)) => true
        | _ => false) = true :=
  ⟨rfl, by decide +kernel⟩

end Walkthrough.Repair
