import Walkthrough.Proofs.Repair.Attempt

/-! # Histories of repairs

A repair runs plans, asks for patches and keeps patched plans. A history lists these deeds in order,
by rules that each describe one turn of the repair, and every repair has the history of what it does. -/

namespace Walkthrough.Repair

open Effect

variable {σ : Type}

/-- Something done in the course of a repair: a plan is run, the adapter is shown a request, or a
patched plan is kept, as far as that works. -/
inductive Deed (σ : Type) where
  | ran (plan : Plan) (before : World σ) (result : Except Failure Report) (after : World σ)
  | attempted (number : Nat) (request : Request) (answer : Option Answer)
      (turn : Except Failure Turn)
  | kept (path : Path) (plan : Plan) (before : World σ) (done : Bool) (after : World σ)

/-- The plan that was run, if a deed was a run, and what it ended with. -/
def Deed.run? : Deed σ → Option (Plan × Except Failure Report)
  | .ran plan _ result _ => some (plan, result)
  | _ => none

/-- How a repair ends: with a report or a failure, and in a world. -/
abbrev Ending (σ : Type) := Except Failure Report × World σ

/-- Says that a patched plan is run now. -/
def announce (number : Nat) (reason : String) : Work σ Unit :=
  Work.note .info s!"Repair attempt {number} applied ({reason}); re-running from step 1"

theorem logged_of_announce {number : Nat} {reason : String} {w w' : World σ}
    (h : outcome (announce number reason) w = (.ok (), w')) : Logged w w' := by
  obtain ⟨_, hnote, hlogged⟩ := outcome_note .info
    s!"Repair attempt {number} applied ({reason}); re-running from step 1" w
  obtain ⟨-, rfl⟩ := Prod.mk.inj (hnote.symm.trans h)
  exact hlogged

section Rules

variable (host : Host σ) (options : RunOptions) (adapter : Adapter) (patience : Json)

/-- An attempt that patches a plan, and what is done before the patched plan is run. -/
structure Patched (number : Nat) (plan : Plan) (report : Report) (w : World σ) (request : Request)
    (answer : Option Answer) (repaired : Plan) (reason : String) (w₁ : World σ) (done : Bool)
    (w₂ w₃ : World σ) : Prop where
  attempt : Attempted adapter patience number plan report w request answer
    (.ok (.repaired repaired reason)) w₁
  kept : Kept report.artifacts.runDir number repaired w₁ done w₂
  announced : outcome (announce number reason) w₂ = (.ok (), w₃)

/-- The deeds that follow on the report of a run of a plan, with a number of attempts left and the
number of the next one. -/
inductive Rounds : Nat → Nat → Plan → Report → World σ → List (Deed σ) → Ending σ → Prop
  | spent {number plan report w} : Rounds 0 number plan report w [] (.ok report, w)
  | passed {left number plan report w} (passed : report.verdict = .passed) :
      Rounds (left + 1) number plan report w [] (.ok report, w)
  | unread {left number plan report w w' failure} (failed : report.verdict = .failed)
      (unread : snapshotText w.files report.artifacts = .error failure)
      (attempt : outcome (attempt adapter patience number plan report) w = (.error failure, w')) :
      Rounds (left + 1) number plan report w [] (.error failure, w')
  | raised {left number plan report w request answer failure w'}
      (failed : report.verdict = .failed)
      (attempt : Attempted adapter patience number plan report w request answer
        (.error failure) w') :
      Rounds (left + 1) number plan report w [.attempted number request answer (.error failure)]
        (.error failure, w')
  | stopped {left number plan report w request answer w'} (failed : report.verdict = .failed)
      (attempt : Attempted adapter patience number plan report w request answer (.ok .stop) w') :
      Rounds (left + 1) number plan report w [.attempted number request answer (.ok .stop)]
        (.ok report, w')
  | again {left number plan report w request answer w' deeds ending}
      (failed : report.verdict = .failed)
      (attempt : Attempted adapter patience number plan report w request answer (.ok .again) w')
      (rest : Rounds left (number + 1) plan report w' deeds ending) :
      Rounds (left + 1) number plan report w
        (.attempted number request answer (.ok .again) :: deeds) ending
  | crashed {left number plan report w request answer repaired reason w₁ done w₂ w₃ failure w'}
      (failed : report.verdict = .failed)
      (patched : Patched adapter patience number plan report w request answer repaired reason w₁
        done w₂ w₃)
      (run : outcome (run host { options with runId := none } repaired) w₃ =
        (.error failure, w')) :
      Rounds (left + 1) number plan report w
        [.attempted number request answer (.ok (.repaired repaired reason)),
          .kept (planFile report.artifacts.runDir number) repaired w₁ done w₂,
          .ran repaired w₃ (.error failure) w'] (.error failure, w')
  | repaired {left number plan report w request answer repaired reason w₁ done w₂ w₃ next w₄ deeds
      ending} (failed : report.verdict = .failed)
      (patched : Patched adapter patience number plan report w request answer repaired reason w₁
        done w₂ w₃)
      (run : outcome (run host { options with runId := none } repaired) w₃ = (.ok next, w₄))
      (rest : Rounds left (number + 1) repaired next w₄ deeds ending) :
      Rounds (left + 1) number plan report w
        (.attempted number request answer (.ok (.repaired repaired reason)) ::
          .kept (planFile report.artifacts.runDir number) repaired w₁ done w₂ ::
          .ran repaired w₃ (.ok next) w₄ :: deeds) ending

/-- The deeds of a whole repair: a first run, and attempts to repair the plan after it unless the run
was dry. -/
inductive History (maxAttempts : Int) (plan : Plan) (w : World σ) :
    List (Deed σ) → Ending σ → Prop
  | crashed {failure w'} (run : outcome (run host options plan) w = (.error failure, w')) :
      History maxAttempts plan w [.ran plan w (.error failure) w'] (.error failure, w')
  | dry {report w'} (dry : options.dryRun = true)
      (run : outcome (run host options plan) w = (.ok report, w')) :
      History maxAttempts plan w [.ran plan w (.ok report) w'] (.ok report, w')
  | live {report w' deeds ending} (live : options.dryRun = false)
      (run : outcome (run host options plan) w = (.ok report, w'))
      (rest : Rounds host options adapter patience maxAttempts.toNat 1 plan report w' deeds
        ending) :
      History maxAttempts plan w (.ran plan w (.ok report) w' :: deeds) ending

end Rules

/-! ## Histories and repairs -/

section Repairs

variable {host : Host σ} {options : RunOptions} {adapter : Adapter} {patience : Json}

/-- What follows on a turn of a repair. -/
def proceed (host : Host σ) (options : RunOptions) (adapter : Adapter) (patience : Json)
    (left number : Nat) (plan : Plan) (report : Report) : Turn → Work σ Report
  | .stop => pure report
  | .again => attempts host options adapter patience left (number + 1) plan report
  | .repaired repaired reason => do
    keepPlan report.artifacts.runDir number repaired
    announce number reason
    let next ← run host { options with runId := none } repaired
    attempts host options adapter patience left (number + 1) repaired next

theorem attempts_of_failed {left number : Nat} {plan : Plan} {report : Report}
    (h : report.verdict = .failed) :
    attempts host options adapter patience (left + 1) number plan report =
      attempt adapter patience number plan report >>=
        proceed host options adapter patience left number plan report := by
  rw [attempts, h]
  refine bind_congr fun turn => ?_
  cases turn <;> rfl

theorem Patched.outcome_proceed {left number : Nat} {plan repaired : Plan} {report : Report}
    {w w₁ w₂ w₃ : World σ} {request : Request} {answer : Option Answer} {reason : String}
    {done : Bool}
    (h : Patched adapter patience number plan report w request answer repaired reason w₁ done w₂
      w₃) :
    outcome (proceed host options adapter patience left number plan report
        (.repaired repaired reason)) w₁ =
      outcome (run host { options with runId := none } repaired >>=
        attempts host options adapter patience left (number + 1) repaired) w₃ := by
  rw [proceed, outcome_bind_of_ok h.kept.execution, outcome_bind_of_ok h.announced]

/-- A derivation has the ending of the repair. -/
theorem Rounds.execution {left number : Nat} {plan : Plan} {report : Report} {w : World σ}
    {deeds : List (Deed σ)} {ending : Ending σ}
    (h : Rounds host options adapter patience left number plan report w deeds ending) :
    outcome (attempts host options adapter patience left number plan report) w = ending := by
  induction h with
  | spent => rfl
  | passed passed => simp [attempts, passed]
  | unread failed _ attempt => rw [attempts_of_failed failed, outcome_bind_of_error attempt]
  | raised failed attempt =>
      rw [attempts_of_failed failed, outcome_bind_of_error attempt.execution]
  | stopped failed attempt =>
      rw [attempts_of_failed failed, outcome_bind_of_ok attempt.execution]
      rfl
  | again failed attempt _ ih =>
      rw [attempts_of_failed failed, outcome_bind_of_ok attempt.execution]
      exact ih
  | crashed failed patched run =>
      rw [attempts_of_failed failed, outcome_bind_of_ok patched.attempt.execution,
        patched.outcome_proceed, outcome_bind_of_error run]
  | repaired failed patched run _ ih =>
      rw [attempts_of_failed failed, outcome_bind_of_ok patched.attempt.execution,
        patched.outcome_proceed, outcome_bind_of_ok run]
      exact ih

theorem isPart_planFile (number : Nat) : Path.IsPart s!"plan.repaired.{number}.json" :=
  (Path.isPart_numbered (c := 'p') (by decide) rfl (by decide) (by decide) number).1

/-- The file for a repaired plan can be named if the directory of the run can. -/
theorem hasNull_planFile {runDir : String} (h : Path.hasNull runDir = false) (number : Nat) :
    Path.hasNull (planFile runDir number).text = false :=
  Path.hasNull_child (isPart_planFile number)
    (Path.hasNull_numbered (by decide) (by decide) number) (Path.hasNull_text_ofText h)

theorem exists_patched {number : Nat} {plan repaired : Plan} {report : Report} {w w₁ : World σ}
    {request : Request} {answer : Option Answer} {reason : String}
    (hnull : Path.hasNull report.artifacts.runDir = false)
    (h : Attempted adapter patience number plan report w request answer
      (.ok (.repaired repaired reason)) w₁) :
    ∃ done w₂ w₃, Patched adapter patience number plan report w request answer repaired reason w₁
      done w₂ w₃ := by
  obtain ⟨done, w₂, hkept⟩ := exists_kept repaired w₁ (hasNull_planFile hnull number)
  obtain ⟨w₃, hannounced, -⟩ := outcome_note .info
    s!"Repair attempt {number} applied ({reason}); re-running from step 1" w₂
  exact ⟨done, w₂, w₃, h, hkept, hannounced⟩

variable (host options adapter patience)

/-- Attempts at a repair have a derivation, after any report whose directory can be named. -/
theorem exists_rounds {left number : Nat} {plan : Plan} {report : Report} {w : World σ}
    (hnull : Path.hasNull report.artifacts.runDir = false) :
    ∃ deeds ending, Rounds host options adapter patience left number plan report w deeds ending := by
  induction left generalizing number plan report w with
  | zero => exact ⟨_, _, .spent⟩
  | succ left ih =>
      cases hverdict : report.verdict with
      | passed => exact ⟨_, _, .passed hverdict⟩
      | failed =>
          cases hsnapshot : snapshotText w.files report.artifacts with
          | error failure =>
              obtain ⟨w', hattempt, -⟩ := outcome_attempt_of_unread adapter patience number plan report
                w hsnapshot
              exact ⟨_, _, .unread hverdict hsnapshot hattempt⟩
          | ok snapshot =>
              obtain ⟨request, answer, turn, w₁, hattempt⟩ := exists_attempted adapter patience
                number plan report w hsnapshot
              match turn, hattempt with
              | .error failure, hattempt => exact ⟨_, _, .raised hverdict hattempt⟩
              | .ok .stop, hattempt => exact ⟨_, _, .stopped hverdict hattempt⟩
              | .ok .again, hattempt =>
                  obtain ⟨deeds, ending, hrest⟩ := ih hnull
                  exact ⟨_, _, .again hverdict hattempt hrest⟩
              | .ok (.repaired repaired reason), hattempt =>
                  obtain ⟨done, w₂, w₃, hpatched⟩ := exists_patched hnull hattempt
                  rcases hrun : outcome (run host { options with runId := none } repaired) w₃ with
                    ⟨failure | next, w₄⟩
                  · exact ⟨_, _, .crashed hverdict hpatched hrun⟩
                  · obtain ⟨deeds, ending, hrest⟩ := ih (Run.reported_of_run hrun).hasNull_runDir
                    exact ⟨_, _, .repaired hverdict hpatched hrun hrest⟩

/-- Every repair has a history, of which it has the ending. -/
theorem exists_history (maxAttempts : Int) (plan : Plan) (w : World σ) :
    ∃ deeds ending, History host options adapter patience maxAttempts plan w deeds ending := by
  rcases hrun : outcome (run host options plan) w with ⟨failure | report, w'⟩
  · exact ⟨_, _, .crashed hrun⟩
  · by_cases hdry : options.dryRun = true
    · exact ⟨_, _, .dry hdry hrun⟩
    · obtain ⟨deeds, ending, hrest⟩ := exists_rounds host options adapter patience
        (Run.reported_of_run hrun).hasNull_runDir
      exact ⟨_, _, .live (by simpa using hdry) hrun hrest⟩

variable {host options adapter patience}

theorem History.execution {maxAttempts : Int} {plan : Plan} {w : World σ} {deeds : List (Deed σ)}
    {ending : Ending σ} (h : History host options adapter patience maxAttempts plan w deeds ending) :
    outcome (runWithRepair host options adapter patience maxAttempts plan) w = ending := by
  rw [runWithRepair]
  cases h with
  | crashed run => rw [outcome_bind_of_error run]
  | dry dry run =>
      rw [outcome_bind_of_ok run, if_pos dry]
      rfl
  | live live run rest =>
      rw [outcome_bind_of_ok run, if_neg (by simp [live])]
      exact rest.execution

/-! ## What leads to an attempt -/

/-- The runs among deeds: the plans, and what they ended with. -/
def runsOf (deeds : List (Deed σ)) : List (Plan × Except Failure Report) :=
  deeds.filterMap Deed.run?

@[simp] theorem runsOf_nil : runsOf ([] : List (Deed σ)) = [] :=
  rfl

@[simp] theorem runsOf_ran (plan : Plan) (before : World σ) (result : Except Failure Report)
    (after : World σ) (deeds : List (Deed σ)) :
    runsOf (.ran plan before result after :: deeds) = (plan, result) :: runsOf deeds :=
  rfl

@[simp] theorem runsOf_attempted (number : Nat) (request : Request) (answer : Option Answer)
    (turn : Except Failure Turn) (deeds : List (Deed σ)) :
    runsOf (.attempted number request answer turn :: deeds) = runsOf deeds :=
  rfl

@[simp] theorem runsOf_kept (path : Path) (plan : Plan) (before : World σ) (done : Bool)
    (after : World σ) (deeds : List (Deed σ)) :
    runsOf (.kept path plan before done after :: deeds) = runsOf deeds :=
  rfl

theorem mem_runsOf {deeds : List (Deed σ)} {plan : Plan} {result : Except Failure Report} :
    (plan, result) ∈ runsOf deeds ↔ ∃ before after, .ran plan before result after ∈ deeds := by
  constructor
  · intro h
    obtain ⟨deed, hmem, hrun⟩ := List.mem_filterMap.mp h
    cases deed with
    | ran _ before _ after =>
        obtain ⟨rfl, rfl⟩ := Prod.mk.inj (Option.some.inj hrun)
        exact ⟨before, after, hmem⟩
    | attempted | kept => cases hrun
  · rintro ⟨before, after, hmem⟩
    exact List.mem_filterMap.mpr ⟨_, hmem, rfl⟩

theorem Rounds.attempted {left number n : Nat} {plan : Plan} {report : Report} {w : World σ}
    {request : Request} {answer : Option Answer} {turn : Except Failure Turn}
    {post : List (Deed σ)} {ending : Ending σ}
    (h : Rounds host options adapter patience left number plan report w
      (.attempted n request answer turn :: post) ending) :
    ∃ w', Attempted adapter patience n plan report w request answer turn w' := by
  cases h with
  | raised _ attempt => exact ⟨_, attempt⟩
  | stopped _ attempt => exact ⟨_, attempt⟩
  | again _ attempt => exact ⟨_, attempt⟩
  | crashed _ patched => exact ⟨_, patched.attempt⟩
  | repaired _ patched => exact ⟨_, patched.attempt⟩

theorem Rounds.failed {left number n : Nat} {plan : Plan} {report : Report} {w : World σ}
    {request : Request} {answer : Option Answer} {turn : Except Failure Turn}
    {post : List (Deed σ)} {ending : Ending σ}
    (h : Rounds host options adapter patience left number plan report w
      (.attempted n request answer turn :: post) ending) : report.verdict = .failed := by
  cases h <;> assumption

/-- An attempt is made on the last report, with what is left of the attempts. -/
theorem Rounds.from_attempt {left number : Nat} {plan : Plan} {report : Report} {w : World σ}
    {deeds : List (Deed σ)} {ending : Ending σ}
    (h : Rounds host options adapter patience left number plan report w deeds ending)
    {pre post : List (Deed σ)} {n : Nat} {request : Request} {answer : Option Answer}
    {turn : Except Failure Turn} (hdeeds : deeds = pre ++ .attempted n request answer turn :: post) :
    ∃ left' plan' report' w', left' + n = left + number ∧ number ≤ n ∧
      Rounds host options adapter patience left' n plan' report' w'
        (.attempted n request answer turn :: post) ending ∧
      ((plan, .ok report) :: runsOf pre).getLast? = some (plan', .ok report') := by
  induction h generalizing pre with
  | spent | passed | unread => simp at hdeeds
  | raised failed attempt =>
      rcases pre with _ | ⟨deed, pre⟩
      · cases hdeeds
        exact ⟨_, _, _, _, rfl, Nat.le_refl _, .raised failed attempt, rfl⟩
      · simp at hdeeds
  | stopped failed attempt =>
      rcases pre with _ | ⟨deed, pre⟩
      · cases hdeeds
        exact ⟨_, _, _, _, rfl, Nat.le_refl _, .stopped failed attempt, rfl⟩
      · simp at hdeeds
  | again failed attempt rest ih =>
      rcases pre with _ | ⟨deed, pre⟩
      · cases hdeeds
        exact ⟨_, _, _, _, rfl, Nat.le_refl _, .again failed attempt rest, rfl⟩
      · obtain ⟨rfl, hrest⟩ := List.cons.inj hdeeds
        obtain ⟨left', plan', report', w', hleft, hnumber, htail, hlast⟩ := ih hrest
        exact ⟨left', plan', report', w', by omega, by omega, htail, hlast⟩
  | crashed failed patched run =>
      rcases pre with _ | ⟨deed, _ | ⟨deed', _ | ⟨deed'', pre⟩⟩⟩
      · cases hdeeds
        exact ⟨_, _, _, _, rfl, Nat.le_refl _, .crashed failed patched run, rfl⟩
      all_goals
        simp at hdeeds
  | repaired failed patched run rest ih =>
      rcases pre with _ | ⟨deed, _ | ⟨deed', _ | ⟨deed'', pre⟩⟩⟩
      · cases hdeeds
        exact ⟨_, _, _, _, rfl, Nat.le_refl _, .repaired failed patched run rest, rfl⟩
      · simp at hdeeds
      · simp at hdeeds
      · obtain ⟨rfl, hkept⟩ := List.cons.inj hdeeds
        obtain ⟨rfl, hran⟩ := List.cons.inj hkept
        obtain ⟨rfl, hrest⟩ := List.cons.inj hran
        obtain ⟨left', plan', report', w', hleft, hnumber, htail, hlast⟩ := ih hrest
        exact ⟨left', plan', report', w', by omega, by omega, htail, hlast⟩

/-- An attempt in a history is made on the last report of a run before it. -/
theorem History.from_attempt {maxAttempts : Int} {plan : Plan} {w : World σ}
    {deeds : List (Deed σ)} {ending : Ending σ}
    (h : History host options adapter patience maxAttempts plan w deeds ending)
    {pre post : List (Deed σ)} {n : Nat} {request : Request} {answer : Option Answer}
    {turn : Except Failure Turn} (hdeeds : deeds = pre ++ .attempted n request answer turn :: post) :
    ∃ left plan' report w', left + n = maxAttempts.toNat + 1 ∧ 1 ≤ n ∧
      Rounds host options adapter patience left n plan' report w'
        (.attempted n request answer turn :: post) ending ∧
      (runsOf pre).getLast? = some (plan', .ok report) := by
  rcases pre with _ | ⟨deed, pre⟩
  · cases h <;> simp at hdeeds
  cases h with
  | crashed | dry => simp at hdeeds
  | live live run rest =>
      obtain ⟨rfl, hrest⟩ := List.cons.inj hdeeds
      exact rest.from_attempt hrest

end Repairs

end Walkthrough.Repair
