import Walkthrough.Page
import Walkthrough.Proofs.Repair.Answers

/-! # The accounts of a repair

Attempts are numbered from one and never outnumber what is allowed, each shows the adapter the plan
and the report of the last run, and beside the first run there is one for each accepted patch. -/

namespace Walkthrough.Repair

open Effect

open Run (requestsIn)

variable {σ : Type} {host : Host σ} {options : RunOptions} {adapter : Adapter} {patience : Json}
  {left number : Nat} {plan : Plan} {report : Report} {w : World σ} {deeds : List (Deed σ)}
  {ending : Ending σ}

/-! ## Attempts, accepted plans and requests -/

/-- The number, the request and the turn of an attempt, if a deed was one. -/
def Deed.attempt? : Deed σ → Option (Nat × Request × Except Failure Turn)
  | .attempted number request _ turn => some (number, request, turn)
  | _ => none

/-- The attempts among deeds. -/
def attemptsOf (deeds : List (Deed σ)) : List (Nat × Request × Except Failure Turn) :=
  deeds.filterMap Deed.attempt?

/-- The plan that a turn leads to, if it is another one. -/
def patchedPlan? : Except Failure Turn → Option Plan
  | .ok (.repaired plan _) => some plan
  | _ => none

/-- The plans that the accepted patches led to. -/
def acceptedPlans (deeds : List (Deed σ)) : List Plan :=
  (attemptsOf deeds).filterMap fun attempt => patchedPlan? attempt.2.2

@[simp] theorem attemptsOf_nil : attemptsOf ([] : List (Deed σ)) = [] :=
  rfl

@[simp] theorem attemptsOf_ran (plan : Plan) (before : World σ) (result : Except Failure Report)
    (after : World σ) (deeds : List (Deed σ)) :
    attemptsOf (.ran plan before result after :: deeds) = attemptsOf deeds :=
  rfl

@[simp] theorem attemptsOf_attempted (number : Nat) (request : Request) (answer : Option Answer)
    (turn : Except Failure Turn) (deeds : List (Deed σ)) :
    attemptsOf (.attempted number request answer turn :: deeds) =
      (number, request, turn) :: attemptsOf deeds :=
  rfl

@[simp] theorem attemptsOf_kept (path : Path) (plan : Plan) (before : World σ) (done : Bool)
    (after : World σ) (deeds : List (Deed σ)) :
    attemptsOf (.kept path plan before done after :: deeds) = attemptsOf deeds :=
  rfl

/-- Attempts are numbered one by one, and there are no more than are left. -/
theorem Rounds.numbered
    (h : Rounds host options adapter patience left number plan report w deeds ending) :
    (attemptsOf deeds).length ≤ left ∧
      (attemptsOf deeds).map Prod.fst = List.range' number (attemptsOf deeds).length := by
  induction h with
  | spent | passed | unread => simp
  | raised | stopped | crashed => simp
  | again _ _ _ ih | repaired _ _ _ _ ih =>
      obtain ⟨hlength, hnumbers⟩ := ih
      exact ⟨by simpa using hlength, by simp [hnumbers, List.range'_succ]⟩

/-- Each accepted patch leads to a run of the patched plan, and nothing else does. -/
theorem Rounds.runs
    (h : Rounds host options adapter patience left number plan report w deeds ending) :
    (runsOf deeds).map Prod.fst = acceptedPlans deeds := by
  induction h with
  | spent | passed | unread => rfl
  | raised | stopped | crashed => rfl
  | again _ _ _ ih => simpa [acceptedPlans, patchedPlan?] using ih
  | repaired _ _ _ _ ih => simpa [acceptedPlans, patchedPlan?] using ih

/-! ## What the adapter is asked -/

theorem Logged.requestsIn_eq {w w' : World σ} (h : Logged w w') : requestsIn w' = requestsIn w := by
  obtain ⟨lines, rfl⟩ := h
  rfl

theorem requestsIn_afterRequest (request : Request) (w : World σ) :
    requestsIn (afterRequest adapter patience number request w) =
      requestsIn w ++ if isOver patience then [] else [request] := by
  by_cases hover : isOver patience <;> simp [afterRequest, requestsIn, hover]

theorem Attempted.requestsIn_eq {w' : World σ} {request : Request} {answer : Option Answer}
    {turn : Except Failure Turn}
    (h : Attempted adapter patience number plan report w request answer turn w') :
    requestsIn w' = requestsIn w ++ if isOver patience then [] else [request] :=
  h.world.requestsIn_eq.trans (requestsIn_afterRequest request w)

theorem Keeps.requestsIn_eq {path : Path} {done : Bool} {w w' : World σ}
    (h : Keeps path plan w done w') : requestsIn w' = requestsIn w := by
  cases done with
  | true =>
      obtain ⟨files, -, rfl⟩ := h
      simp [requestsIn]
  | false =>
      rw [h.2.requestsIn_eq]
      simp [requestsIn]

theorem Patched.requestsIn_eq {request : Request} {answer : Option Answer} {repaired : Plan}
    {reason : String} {done : Bool} {w₁ w₂ w₃ : World σ}
    (h : Patched adapter patience number plan report w request answer repaired reason w₁ done w₂
      w₃) :
    requestsIn w₃ = requestsIn w ++ if isOver patience then [] else [request] := by
  rw [(logged_of_announce h.announced).requestsIn_eq, h.kept.world.requestsIn_eq,
    h.attempt.requestsIn_eq]

theorem requestsIn_of_run {result : Except Failure Report} {w' : World σ}
    (h : outcome (run host options plan) w = (result, w')) : requestsIn w' = requestsIn w := by
  simpa [h] using Run.requestsIn_run host options plan w

/-- What the adapter was asked is what attempts showed, unless there was no time to ask. -/
theorem Rounds.requestsIn_eq
    (h : Rounds host options adapter patience left number plan report w deeds ending) :
    requestsIn ending.2 = requestsIn w ++
      if isOver patience then [] else (attemptsOf deeds).map fun attempt => attempt.2.1 := by
  induction h with
  | spent | passed => simp
  | @unread left number plan report w w' failure _ unread attempt =>
      obtain ⟨_, hattempt, hlogged⟩ := outcome_attempt_of_unread adapter patience number plan report
        w unread
      obtain ⟨-, rfl⟩ := Prod.mk.inj (hattempt.symm.trans attempt)
      simpa using hlogged.requestsIn_eq
  | raised _ attempt | stopped _ attempt => simpa using attempt.requestsIn_eq
  | again _ attempt _ ih =>
      rw [ih, attempt.requestsIn_eq]
      by_cases hover : isOver patience <;> simp [hover]
  | crashed _ patched run =>
      simpa [requestsIn_of_run run] using patched.requestsIn_eq
  | repaired _ patched run _ ih =>
      rw [ih, requestsIn_of_run run, patched.requestsIn_eq]
      by_cases hover : isOver patience <;> simp [hover]

/-! ## What an attempt is made on -/

/-- An attempt on the plan and the report of the run before it, which failed. A patched plan is kept
in the directory of that run, if it can be, and is run in any case. -/
structure MadeOn (adapter : Adapter) (patience : Json) (pre : List (Deed σ)) (report : Report)
    (number : Nat) (request : Request) (answer : Option Answer) (turn : Except Failure Turn)
    (post : List (Deed σ)) : Prop where
  latest : (runsOf pre).getLast? = some (request.plan, .ok report)
  failed : report.verdict = .failed
  shown : ∃ snapshot, request = requestFor request.plan report snapshot
  answered : answer = answerTo adapter patience number request
  decided : turn = turnOf request.plan (patchIn patience answer)
  kept : ∀ repaired reason, turn = .ok (.repaired repaired reason) →
    ∃ before done after start result last rest,
      post = .kept (planFile report.artifacts.runDir number) repaired before done after ::
        .ran repaired start result last :: rest ∧
      Keeps (planFile report.artifacts.runDir number) repaired before done after ∧
      Logged after start

theorem Rounds.kept {request : Request} {answer : Option Answer} {repaired : Plan} {reason : String}
    {post : List (Deed σ)}
    (h : Rounds host options adapter patience left number plan report w
      (.attempted number request answer (.ok (.repaired repaired reason)) :: post) ending) :
    ∃ before done after start result last rest,
      post = .kept (planFile report.artifacts.runDir number) repaired before done after ::
        .ran repaired start result last :: rest ∧
      Keeps (planFile report.artifacts.runDir number) repaired before done after ∧
      Logged after start := by
  cases h with
  | crashed _ patched run =>
      exact ⟨_, _, _, _, _, _, _, rfl, patched.kept.world, logged_of_announce patched.announced⟩
  | repaired _ patched run rest =>
      exact ⟨_, _, _, _, _, _, _, rfl, patched.kept.world, logged_of_announce patched.announced⟩

theorem Rounds.madeOn {request : Request} {answer : Option Answer} {turn : Except Failure Turn}
    {pre post : List (Deed σ)}
    (h : Rounds host options adapter patience left number plan report w
      (.attempted number request answer turn :: post) ending)
    (hlatest : (runsOf pre).getLast? = some (plan, .ok report)) :
    MadeOn adapter patience pre report number request answer turn post := by
  obtain ⟨w', hattempt⟩ := h.attempted
  obtain ⟨snapshot, -, rfl⟩ := hattempt.shown
  refine ⟨hlatest, h.failed, ⟨snapshot, rfl⟩, hattempt.answered, hattempt.decided, ?_⟩
  rintro repaired reason rfl
  exact h.kept

/-! ## Repairs that come to their end -/

/-- What can be expected of an adapter: an answer that amends the plan or is refused, no answer in
time, or none from a language model. -/
inductive Foreseen (plan : Plan) : Option Answer → Prop
  | settled {raw : Json} (settled : Settled (Patch.amend plan raw)) : Foreseen plan (some (.value raw))
  | unasked : Foreseen plan none
  | silent : Foreseen plan (some .silence)
  | expired (message : String) : Foreseen plan (some (.failure (.expired message)))
  | late (seconds : String) : Foreseen plan (some (.failure (.adapterTimeout seconds)))
  | model (fault : ModelFault) : Foreseen plan (some (.failure (.model fault)))

theorem Foreseen.exists_turn {answer : Option Answer} (h : Foreseen plan answer) :
    ∃ turn, turnOf plan (patchIn patience answer) = .ok turn := by
  cases h with
  | settled settled => exact exists_turnOf settled
  | unasked | silent | expired | late | model => exact ⟨.again, rfl⟩

/-- Nothing unforeseen is among deeds: answers are foreseen, and runs give reports. -/
structure Smooth (deeds : List (Deed σ)) : Prop where
  answers : ∀ number request answer turn, .attempted number request answer turn ∈ deeds →
    Foreseen request.plan answer
  runs : ∀ p before failure after, .ran p before (.error failure) after ∉ deeds

theorem Smooth.tail {deed : Deed σ} (h : Smooth (deed :: deeds)) : Smooth deeds where
  answers number request answer turn hmem := h.answers number request answer turn (.tail _ hmem)
  runs p before failure after hmem := h.runs p before failure after (.tail _ hmem)

/-- An adapter that leaves the snapshot legible that a request is about. -/
def Adapter.SparesSnapshots (adapter : Adapter) : Prop :=
  ∀ number request files path, request.record.artifacts.snapshot = .str path →
    files.Legible (Path.ofText path) →
    (adapter.touch number request files).Legible (Path.ofText path)

/-- The snapshot that a report names can be read as a text, unless the file system refuses. -/
def Readable (report : Report) (files : Files) : Prop :=
  ∀ path, report.artifacts.snapshot = some path → files.Legible (Path.ofText path)

theorem readable_of_reported {files : Files} (hroot : options.artifactsRoot.Proper)
    (h : Run.Reported options plan report files) : Readable report files := by
  intro path hpath
  obtain ⟨n, hplace, hlegible⟩ := h.evidence.snapshot path hpath
  have hproper : (Run.snapshotFile (options.artifactsRoot.child report.runId) n).Proper :=
    (hroot.child _).child _
  rwa [hplace, Path.ofText_text hproper]

theorem Attempted.readable {w' : World σ} {request : Request} {answer : Option Answer}
    {turn : Except Failure Turn} (hspares : adapter.SparesSnapshots)
    (h : Attempted adapter patience number plan report w request answer turn w')
    (hreadable : Readable report w.files) : Readable report w'.files := by
  obtain ⟨lines, rfl⟩ := h.world
  obtain ⟨snapshot, -, rfl⟩ := h.shown
  intro path hpath
  unfold afterRequest
  split
  · exact hreadable path hpath
  · refine hspares number _ w.files path ?_ (hreadable path hpath)
    simp [requestFor, Report.record, Artifacts.record, hpath, Json.ofOption]

/-- The last attempt was answered with an empty patch. -/
def Stopped (deeds : List (Deed σ)) : Prop :=
  ∃ pre number request raw patch,
    deeds = pre ++ [.attempted number request (some (.value raw)) (.ok .stop)] ∧
    Patch.parse raw = .ok patch ∧ patch.operations = []

theorem Stopped.cons {deed : Deed σ} (h : Stopped deeds) : Stopped (deed :: deeds) := by
  obtain ⟨pre, number, request, raw, patch, rfl, hpatch, hempty⟩ := h
  exact ⟨deed :: pre, number, request, raw, patch, rfl, hpatch, hempty⟩

theorem Attempted.stopped {w' : World σ} {request : Request} {answer : Option Answer}
    (h : Attempted adapter patience number plan report w request answer (.ok .stop) w') :
    Stopped [(.attempted number request answer (.ok .stop) : Deed σ)] := by
  obtain ⟨patch, hpatch, hempty⟩ := turnOf_eq_stop h.decided.symm
  obtain ⟨raw, rfl, hparse⟩ := patchIn_eq_ok hpatch
  exact ⟨[], number, request, raw, patch, rfl, hparse, hempty⟩

theorem Attempted.not_raised {w' : World σ} {request : Request} {answer : Option Answer}
    {failure : Failure}
    (h : Attempted adapter patience number plan report w request answer (.error failure) w') :
    ¬ Foreseen request.plan answer := by
  intro hforeseen
  obtain ⟨turn, hturn⟩ := @Foreseen.exists_turn patience _ _ hforeseen
  obtain ⟨snapshot, -, rfl⟩ := h.shown
  cases h.decided.trans hturn

/-- With nothing unforeseen, attempts end with a report: with one that passed, after an empty patch,
or when no attempts are left. -/
theorem Rounds.completed (hroot : options.artifactsRoot.Proper) (hspares : adapter.SparesSnapshots)
    (h : Rounds host options adapter patience left number plan report w deeds ending)
    (hplan : report.plan = plan) (hreadable : Readable report w.files) (hsmooth : Smooth deeds) :
    ∃ last after, ending = (.ok last, after) ∧
      ((plan, .ok report) :: runsOf deeds).getLast? = some (last.plan, .ok last) ∧
      (last.verdict = .passed ∨ Stopped deeds ∨ (attemptsOf deeds).length = left) := by
  induction h with
  | @spent number plan report w =>
      exact ⟨report, w, rfl, by simp [hplan], .inr (.inr rfl)⟩
  | @passed left number plan report w passed =>
      exact ⟨report, w, rfl, by simp [hplan], .inl passed⟩
  | unread _ unread =>
      obtain ⟨snapshot, hsnapshot⟩ := snapshotText_eq_ok hreadable
      cases unread.symm.trans hsnapshot
  | raised _ attempt => exact absurd (hsmooth.answers _ _ _ _ (.head _)) attempt.not_raised
  | @stopped left number plan report w request answer w' _ attempt =>
      exact ⟨report, w', rfl, by simp [hplan], .inr (.inl attempt.stopped)⟩
  | again _ attempt _ ih =>
      obtain ⟨last, after, hending, hlast, hend⟩ :=
        ih hplan (attempt.readable hspares hreadable) hsmooth.tail
      refine ⟨last, after, hending, hlast, hend.imp_right fun h => ?_⟩
      exact h.imp Stopped.cons fun hlength => by simp [hlength]
  | crashed => exact absurd (.tail _ (.tail _ (.head _))) (hsmooth.runs _ _ _ _)
  | repaired _ patched run _ ih =>
      have hroot' : { options with runId := none : RunOptions }.artifactsRoot.Proper := hroot
      have hreported := Run.reported_of_run run
      obtain ⟨last, after, hending, hlast, hend⟩ :=
        ih hreported.plan (readable_of_reported hroot' hreported) hsmooth.tail.tail.tail
      refine ⟨last, after, hending, ?_, hend.imp_right fun h => ?_⟩
      · simpa using hlast
      · exact h.imp (fun hstopped => hstopped.cons.cons.cons) fun hlength => by simp [hlength]

/-! ## Accounts -/

/-- The accounts of a repair: how many attempts there are and how many runs, what the adapter is
asked, and what each attempt is made on. -/
structure Accounts (options : RunOptions) (adapter : Adapter) (patience : Json) (maxAttempts : Int)
    (plan : Plan) (w : World σ) (deeds : List (Deed σ)) (ending : Ending σ) : Prop where
  numbered : (attemptsOf deeds).map Prod.fst = List.range' 1 (attemptsOf deeds).length
  bounded : (attemptsOf deeds).length ≤ maxAttempts.toNat
  dry : options.dryRun = true → attemptsOf deeds = []
  runs : (runsOf deeds).map Prod.fst = plan :: acceptedPlans deeds
  asked : requestsIn ending.2 = requestsIn w ++
    if isOver patience then [] else (attemptsOf deeds).map fun attempt => attempt.2.1
  made : ∀ pre number request answer turn post,
    deeds = pre ++ .attempted number request answer turn :: post →
    ∃ report, MadeOn adapter patience pre report number request answer turn post

/-- The end of a repair that gives a report: it is the one of the last run, which was of the plan
that was accepted last, and there is nothing more to try. -/
structure Completed (maxAttempts : Int) (plan : Plan) (deeds : List (Deed σ)) (report : Report) :
    Prop where
  last : (runsOf deeds).getLast? = some (report.plan, .ok report)
  plan : report.plan = (acceptedPlans deeds).getLast?.getD plan
  done : report.verdict = .passed ∨ Stopped deeds ∨ (attemptsOf deeds).length = maxAttempts.toNat

theorem History.accounts {maxAttempts : Int}
    (h : History host options adapter patience maxAttempts plan w deeds ending) :
    Accounts options adapter patience maxAttempts plan w deeds ending := by
  have hmade : ∀ pre number request answer turn post,
      deeds = pre ++ .attempted number request answer turn :: post →
      ∃ report, MadeOn adapter patience pre report number request answer turn post := by
    intro pre number request answer turn post hdeeds
    obtain ⟨left, plan', report, w', -, -, htail, hlatest⟩ := h.from_attempt hdeeds
    obtain ⟨w'', hattempt⟩ := htail.attempted
    exact ⟨report, htail.madeOn hlatest⟩
  cases h with
  | crashed run => exact ⟨rfl, Nat.zero_le _, fun _ => rfl, rfl, by simp [requestsIn_of_run run], hmade⟩
  | dry _ run => exact ⟨rfl, Nat.zero_le _, fun _ => rfl, rfl, by simp [requestsIn_of_run run], hmade⟩
  | live live run rest =>
      obtain ⟨hlength, hnumbers⟩ := rest.numbered
      refine ⟨hnumbers, hlength, fun hdry => ?_, ?_, ?_, hmade⟩
      · rw [live] at hdry
        cases hdry
      · simpa [acceptedPlans] using rest.runs
      · simpa [requestsIn_of_run run] using rest.requestsIn_eq

theorem History.last_of_smooth {maxAttempts : Int} (hroot : options.artifactsRoot.Proper)
    (hspares : adapter.SparesSnapshots)
    (h : History host options adapter patience maxAttempts plan w deeds ending)
    (hsmooth : Smooth deeds) :
    ∃ report after, ending = (.ok report, after) ∧
      (runsOf deeds).getLast? = some (report.plan, .ok report) ∧
      (report.verdict = .passed ∨ Stopped deeds ∨
        (attemptsOf deeds).length = maxAttempts.toNat) := by
  cases h with
  | crashed => exact absurd (.head _) (hsmooth.runs _ _ _ _)
  | @dry report w' dry run =>
      have hreported := Run.reported_of_run run
      exact ⟨report, w', rfl, by simp [hreported.plan], .inl (hreported.dry dry)⟩
  | live live run rest =>
      have hreported := Run.reported_of_run run
      obtain ⟨last, after, hending, hlast, hend⟩ := rest.completed hroot hspares hreported.plan
        (readable_of_reported hroot hreported) hsmooth.tail
      exact ⟨last, after, hending, hlast, hend.imp_right fun h => h.imp_left Stopped.cons⟩

theorem History.completed {maxAttempts : Int} (hroot : options.artifactsRoot.Proper)
    (hspares : adapter.SparesSnapshots)
    (h : History host options adapter patience maxAttempts plan w deeds ending)
    (hsmooth : Smooth deeds) :
    ∃ report after, ending = (.ok report, after) ∧ Completed maxAttempts plan deeds report := by
  obtain ⟨report, after, hending, hlast, hdone⟩ := h.last_of_smooth hroot hspares hsmooth
  have hplan := congrArg List.getLast? h.accounts.runs
  rw [List.getLast?_map, hlast, List.getLast?_cons] at hplan
  exact ⟨report, after, hending, hlast, Option.some.inj hplan, hdone⟩

/-! ## Reports only after what was foreseen -/

theorem Rounds.not_ran_error
    (h : Rounds host options adapter patience left number plan report w deeds ending)
    {last : Report} {after : World σ} (hending : ending = (.ok last, after)) (p : Plan)
    (before : World σ) (failure : Failure) (w' : World σ) :
    .ran p before (.error failure) w' ∉ deeds := by
  induction h with
  | spent | passed | unread | raised | stopped => simp
  | crashed => cases hending
  | again _ _ _ ih | repaired _ _ _ _ ih => simpa using ih hending

theorem History.not_ran_error {maxAttempts : Int}
    (h : History host options adapter patience maxAttempts plan w deeds ending)
    {last : Report} {after : World σ} (hending : ending = (.ok last, after)) (p : Plan)
    (before : World σ) (failure : Failure) (w' : World σ) :
    .ran p before (.error failure) w' ∉ deeds := by
  cases h with
  | crashed => cases hending
  | dry => simp
  | live _ _ rest => simpa using rest.not_ran_error hending p before failure w'

/-- A JSON value that is answered in the course of a repair with a report has amended the plan or was
refused. -/
theorem History.foreseen {maxAttempts : Int} (hplan : plan.Accepted)
    (h : History host options adapter patience maxAttempts plan w deeds ending)
    {last : Report} {after : World σ} (hending : ending = (.ok last, after)) {request : Request}
    {raw : Json} {turn : Except Failure Turn}
    (hmem : .attempted number request (some (.value raw)) turn ∈ deeds) :
    Foreseen request.plan (some (.value raw)) := by
  obtain ⟨pre, post, hdeeds⟩ := List.append_of_mem hmem
  obtain ⟨left, plan', report, w', -, -, htail, hlast⟩ := h.from_attempt hdeeds
  obtain ⟨before, after', hran⟩ := mem_runsOf.mp (List.mem_of_getLast? hlast)
  have hplan' := (h.agrees hplan (hdeeds ▸ List.mem_append_left _ hran)).1
  obtain ⟨_, hattempt⟩ := htail.attempted
  obtain ⟨snapshot, -, rfl⟩ := hattempt.shown
  refine .settled (Patch.settled_amend hplan' fun htrips => ?_)
  obtain ⟨-, fault, -, hfault⟩ := (htail.answered hplan').trips htrips
  rw [hending] at hfault
  cases hfault

end Walkthrough.Repair
