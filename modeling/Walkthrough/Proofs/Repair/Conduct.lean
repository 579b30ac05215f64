import Walkthrough.Proofs.Repair.Answers
import Walkthrough.Proofs.Run.Failing

/-! # What a repair keeps to

Between its runs a repair does not call the browser. What every run of a repair keeps to, the repair
keeps to, and where it fails, one of its runs does or an attempt at a repair. -/

namespace Walkthrough.Repair

open Effect

variable {σ : Type} {host : Host σ} {options : RunOptions}
  {adapter : Adapter} {patience : Json} {number : Nat} {plan : Plan} {report : Report}

/-! ## Between runs -/

/-- The browser is as it was, and was not called. -/
structure Uncalled (w w' : World σ) : Prop where
  browser : w'.browser = w.browser
  calls : Run.callsIn w'.events = Run.callsIn w.events

namespace Uncalled

variable {w w' w'' : World σ}

theorem trans (h : Uncalled w w') (h' : Uncalled w' w'') : Uncalled w w'' :=
  ⟨h'.browser.trans h.browser, h'.calls.trans h.calls⟩

theorem isFair {fair : σ → List Call → Prop} (h : Uncalled w w')
    (hfair : fair w.browser (Run.callsIn w.events)) :
    fair w'.browser (Run.callsIn w'.events) := by
  rw [h.browser, h.calls]
  exact hfair

end Uncalled

section Between

variable {w w' : World σ}

theorem Logged.uncalled (h : Logged w w') : Uncalled w w' := by
  obtain ⟨lines, rfl⟩ := h
  exact ⟨rfl, rfl⟩

theorem uncalled_afterRequest (request : Request) (w : World σ) :
    Uncalled w (afterRequest adapter patience number request w) := by
  unfold afterRequest
  split
  · exact ⟨rfl, rfl⟩
  · exact ⟨rfl, by simp [Run.callsIn]⟩

theorem Attempted.uncalled {request : Request} {answer : Option Answer} {turn : Except Failure Turn}
    (h : Attempted adapter patience number plan report w request answer turn w') : Uncalled w w' :=
  (uncalled_afterRequest request w).trans h.world.uncalled

theorem Keeps.uncalled {path : Path} {done : Bool} (h : Keeps path plan w done w') :
    Uncalled w w' := by
  cases done with
  | true =>
      obtain ⟨files, -, rfl⟩ := h
      exact ⟨rfl, by simp [Run.callsIn]⟩
  | false =>
      have hnoted : Uncalled w { w with events := w.events ++ [.write path.text false] } :=
        ⟨rfl, by simp [Run.callsIn]⟩
      exact hnoted.trans h.2.uncalled

theorem Patched.uncalled {request : Request} {answer : Option Answer} {repaired : Plan}
    {reason : String} {done : Bool} {w₁ w₂ w₃ : World σ}
    (h : Patched adapter patience number plan report w request answer repaired reason w₁ done w₂
      w₃) : Uncalled w w₃ :=
  (h.attempt.uncalled.trans h.kept.world.uncalled).trans (logged_of_announce h.announced).uncalled

end Between

/-! ## Repairs -/

section Repairs

variable {left : Nat} {maxAttempts : Int} {w : World σ} {deeds : List (Deed σ)} {ending : Ending σ}

/-- A run that is followed by other runs has another name for its directory, and else the same options. -/
theorem Rounds.ran (h : Rounds host options adapter patience left number plan report w deeds ending)
    {p : Plan} {before after : World σ} {result : Except Failure Report}
    (hran : .ran p before result after ∈ deeds) :
    outcome (run host { options with runId := none } p) before = (result, after) := by
  induction h with
  | spent | passed | unread => cases hran
  | raised | stopped => simp at hran
  | again _ _ _ ih => exact ih (by simpa using hran)
  | crashed _ _ run =>
      simp only [List.mem_cons, reduceCtorEq, false_or, Deed.ran.injEq, List.not_mem_nil,
        or_false] at hran
      obtain ⟨rfl, rfl, rfl, rfl⟩ := hran
      exact run
  | repaired _ _ run _ ih =>
      simp only [List.mem_cons, reduceCtorEq, false_or, Deed.ran.injEq] at hran
      rcases hran with ⟨rfl, rfl, rfl, rfl⟩ | hran
      · exact run
      · exact ih hran

/-- A run of a repair has the options of the repair, with some name for its directory. -/
theorem History.ran
    (h : History host options adapter patience maxAttempts plan w deeds ending) {p : Plan}
    {before after : World σ} {result : Except Failure Report}
    (hran : .ran p before result after ∈ deeds) :
    ∃ runId, outcome (run host { options with runId := runId } p) before = (result, after) := by
  cases h with
  | crashed run | dry _ run =>
      simp only [List.mem_singleton, Deed.ran.injEq] at hran
      obtain ⟨rfl, rfl, rfl, rfl⟩ := hran
      exact ⟨options.runId, run⟩
  | live _ run rest =>
      simp only [List.mem_cons, Deed.ran.injEq] at hran
      rcases hran with ⟨rfl, rfl, rfl, rfl⟩ | hran
      · exact ⟨options.runId, run⟩
      · exact ⟨none, rest.ran hran⟩

/-- A deed that finds a fair browser, if it is a run. -/
def Deed.FindsFair (fair : σ → List Call → Prop) : Deed σ → Prop
  | .ran _ before _ _ => fair before.browser (Run.callsIn before.events)
  | _ => True

/-- A deed that leaves a fair browser fair, if it is a run. -/
def Deed.LeavesFair (fair : σ → List Call → Prop) : Deed σ → Prop
  | .ran _ before _ after => fair before.browser (Run.callsIn before.events) →
    fair after.browser (Run.callsIn after.events)
  | _ => True

variable {fair : σ → List Call → Prop}

theorem Rounds.isFair
    (h : Rounds host options adapter patience left number plan report w deeds ending)
    (hruns : ∀ deed ∈ deeds, deed.LeavesFair fair) (hw : fair w.browser (Run.callsIn w.events)) :
    (∀ deed ∈ deeds, deed.FindsFair fair) ∧
      fair ending.2.browser (Run.callsIn ending.2.events) := by
  induction h with
  | spent | passed => exact ⟨List.forall_mem_nil _, hw⟩
  | @unread left number plan report w w' failure _ unread attempt =>
      obtain ⟨_, hattempt, hlogged⟩ := outcome_attempt_of_unread adapter patience number plan report
        w unread
      obtain ⟨-, rfl⟩ := Prod.mk.inj (hattempt.symm.trans attempt)
      exact ⟨List.forall_mem_nil _, hlogged.uncalled.isFair hw⟩
  | raised _ attempt | stopped _ attempt =>
      exact ⟨by simp [Deed.FindsFair], attempt.uncalled.isFair hw⟩
  | again _ attempt _ ih =>
      obtain ⟨-, hrest⟩ := List.forall_mem_cons.mp hruns
      obtain ⟨hfound, hending⟩ := ih hrest (attempt.uncalled.isFair hw)
      exact ⟨List.forall_mem_cons.mpr ⟨trivial, hfound⟩, hending⟩
  | crashed _ patched run =>
      have hbefore := patched.uncalled.isFair hw
      simp only [List.forall_mem_cons] at hruns ⊢
      obtain ⟨-, -, hran, -⟩ := hruns
      exact ⟨⟨trivial, trivial, hbefore, List.forall_mem_nil _⟩, hran hbefore⟩
  | repaired _ patched run _ ih =>
      have hbefore := patched.uncalled.isFair hw
      simp only [List.forall_mem_cons] at hruns ⊢
      obtain ⟨-, -, hran, hrest⟩ := hruns
      obtain ⟨hfound, hending⟩ := ih hrest (hran hbefore)
      exact ⟨⟨trivial, trivial, hbefore, hfound⟩, hending⟩

/-- A repair whose runs leave a fair browser fair, finds it fair before each run and leaves it fair. -/
theorem History.isFair
    (h : History host options adapter patience maxAttempts plan w deeds ending)
    (hruns : ∀ deed ∈ deeds, deed.LeavesFair fair) (hw : fair w.browser (Run.callsIn w.events)) :
    (∀ deed ∈ deeds, deed.FindsFair fair) ∧
      fair ending.2.browser (Run.callsIn ending.2.events) := by
  cases h with
  | crashed run | dry _ run =>
      simp only [List.forall_mem_cons] at hruns ⊢
      exact ⟨⟨hw, List.forall_mem_nil _⟩, hruns.1 hw⟩
  | live _ run rest =>
      obtain ⟨hran, hrest⟩ := List.forall_mem_cons.mp hruns
      obtain ⟨hfound, hending⟩ := rest.isFair hrest (hran hw)
      exact ⟨List.forall_mem_cons.mpr ⟨hw, hfound⟩, hending⟩

/-! ## Failures -/

/-- What a repair fails with, one of its runs fails with, a snapshot that is no text, or an attempt on an
accepted plan. -/
inductive Breaks (adapter : Adapter) (patience : Json) (deeds : List (Deed σ)) (failure : Failure) :
    Prop
  | ran {p : Plan} {before after : World σ} (ran : .ran p before (.error failure) after ∈ deeds)
  | unread {report : Report} {files : Files}
      (unread : snapshotText files report.artifacts = .error failure)
  | raised {number : Nat} {p : Plan} {report : Report} {before after : World σ} {request : Request}
      {answer : Option Answer} (accepted : p.Accepted)
      (attempt : Attempted adapter patience number p report before request answer (.error failure)
        after) : Breaks adapter patience deeds failure

theorem Breaks.of_tail {deed : Deed σ} {failure : Failure}
    (h : Breaks adapter patience deeds failure) :
    Breaks adapter patience (deed :: deeds) failure := by
  cases h with
  | ran ran => exact .ran (List.mem_cons_of_mem _ ran)
  | unread unread => exact .unread unread
  | raised accepted attempt => exact .raised accepted attempt

theorem Rounds.breaks
    (h : Rounds host options adapter patience left number plan report w deeds ending)
    (hplan : plan.Accepted) {failure : Failure} (hfails : ending.1 = .error failure) :
    Breaks adapter patience deeds failure := by
  induction h with
  | spent | passed | stopped => cases hfails
  | unread _ unread _ =>
      cases hfails
      exact .unread unread
  | raised _ attempt =>
      cases hfails
      exact .raised hplan attempt
  | again _ _ _ ih => exact (ih hplan hfails).of_tail
  | crashed _ patched run =>
      cases hfails
      exact .ran (List.mem_cons_of_mem _ (List.mem_cons_of_mem _ List.mem_cons_self))
  | repaired _ patched _ _ ih =>
      exact (ih (patched.attempt.agrees hplan).1 hfails).of_tail.of_tail.of_tail

theorem History.breaks
    (h : History host options adapter patience maxAttempts plan w deeds ending)
    (hplan : plan.Accepted) {failure : Failure} (hfails : ending.1 = .error failure) :
    Breaks adapter patience deeds failure := by
  cases h with
  | crashed run =>
      cases hfails
      exact .ran List.mem_cons_self
  | dry => cases hfails
  | live _ _ rest => exact (rest.breaks hplan hfails).of_tail

end Repairs

/-! ## Attempts that fail -/

/-- A snapshot is not read because it is no text, or because no file can have its name. -/
theorem failsOnly_snapshotText (files : Files) (artifacts : Artifacts) :
    FailsOnly (fun failure => failure.isValue = true) (snapshotText files artifacts) := by
  unfold snapshotText
  split
  · exact failsOnly_ok _ _
  · split
    · exact failsOnly_ok _ _
    · rename_i failure hread
      split
      · exact failsOnly_ok _ _
      · rename_i hsystem
        exact failsOnly_error ((Files.failsOnly_readText failure hread).resolve_left hsystem)

/-- An attempt fails for the sake of a value in a patch, or as the adapter does. -/
theorem Attempted.isValue_or_answer {w w' : World σ} {request : Request} {answer : Option Answer}
    {failure : Failure} (hplan : plan.Accepted)
    (h : Attempted adapter patience number plan report w request answer (.error failure) w') :
    failure.isValue = true ∨ answer = some (.failure failure) := by
  have hdecided := h.decided
  match answer, hdecided with
  | none, hdecided => cases hdecided
  | some .silence, hdecided => cases hdecided
  | some (.value raw), hdecided =>
      by_cases htrips : Patch.TripsOver plan raw
      · obtain ⟨fault, hfault⟩ := turnOf_of_tripsOver hplan htrips
        obtain rfl := Except.error.inj (hdecided.trans hfault)
        exact .inl rfl
      · obtain ⟨turn, hturn⟩ := exists_turnOf (Patch.settled_amend hplan htrips)
        exact absurd (hdecided.trans hturn) nofun
  | some (.failure found), hdecided =>
      refine .inr ?_
      cases found with
      | expired | adapterTimeout | model | patchRejected => cases hdecided
      | _ =>
          cases hdecided
          rfl

end Walkthrough.Repair
