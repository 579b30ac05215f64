import Walkthrough.Proofs.Run.Report
import Walkthrough.Repair

/-! # One attempt at a repair

An attempt shows a failed run to the adapter, and what the adapter answers decides what comes of it.
Beside that it only writes to the log and, after an accepted patch, tries to keep the patched plan. -/

namespace Walkthrough.Repair

open Effect

variable {σ : Type}

/-- The same world but for lines added to the log. -/
def Logged (w w' : World σ) : Prop :=
  ∃ lines, w' = { w with log := w.log ++ lines }

theorem Logged.refl (w : World σ) : Logged w w :=
  ⟨[], by simp⟩

theorem Logged.trans {w w' w'' : World σ} (h : Logged w w') (h' : Logged w' w'') :
    Logged w w'' := by
  obtain ⟨lines, rfl⟩ := h
  obtain ⟨lines', rfl⟩ := h'
  exact ⟨lines ++ lines', by simp⟩

theorem outcome_note (level : Level) (message : String) (w : World σ) :
    ∃ w', outcome (Work.note level message) w = (.ok (), w') ∧ Logged w w' :=
  ⟨_, rfl, _, rfl⟩

/-! ## Snapshots -/

/-- The text of the snapshot among artifacts: empty without one, or if the file system refuses. -/
def snapshotText (files : Files) (artifacts : Artifacts) : Except Failure String :=
  match artifacts.snapshot with
  | none => .ok ""
  | some path =>
    match files.readText (Path.ofText path) with
    | .ok s => .ok s
    | .error failure => if failure.isSystem then .ok "" else .error failure

theorem outcome_readSnapshot (artifacts : Artifacts) (w : World σ) :
    ∃ w', outcome (readSnapshot artifacts) w = (snapshotText w.files artifacts, w') ∧
      Logged w w' := by
  unfold readSnapshot snapshotText
  cases artifacts.snapshot with
  | none => exact ⟨w, rfl, .refl w⟩
  | some path =>
      dsimp only
      rw [outcome_handling]
      simp only [Work.look, outcome_bind, outcome_get, outcome_ofExcept]
      cases hread : w.files.readText (Path.ofText path) with
      | ok s => exact ⟨w, rfl, .refl w⟩
      | error failure =>
          by_cases hsystem : failure.isSystem
          · simp only [hsystem, if_true]
            exact ⟨_, rfl, _, rfl⟩
          · exact ⟨w, by simp [hsystem], .refl w⟩

/-- A legible snapshot is always read. -/
theorem snapshotText_eq_ok {files : Files} {artifacts : Artifacts}
    (h : ∀ path, artifacts.snapshot = some path → files.Legible (Path.ofText path)) :
    ∃ s, snapshotText files artifacts = .ok s := by
  unfold snapshotText
  cases hsnapshot : artifacts.snapshot with
  | none => exact ⟨"", rfl⟩
  | some path =>
      cases hread : files.readText (Path.ofText path) with
      | ok s => exact ⟨s, by simp [hread]⟩
      | error failure =>
          have hsystem := (h path hsnapshot).isSystem hread
          exact ⟨"", by simp [hread, hsystem]⟩

/-! ## Requests and answers -/

/-- The request for a repair of a plan after a run. -/
def requestFor (plan : Plan) (report : Report) (snapshot : String) : Request :=
  ⟨plan, report.record, some snapshot, report.artifacts.screenshot⟩

/-- What an adapter answers to a request; without any time to wait it is not asked. -/
def answerTo (adapter : Adapter) (patience : Json) (number : Nat) (request : Request) :
    Option Answer :=
  if isOver patience then none else some (adapter.answer number request)

/-- The world after an adapter was asked, if it was. -/
def afterRequest (adapter : Adapter) (patience : Json) (number : Nat) (request : Request)
    (w : World σ) : World σ :=
  if isOver patience then w
  else
    { w with
      files := adapter.touch number request w.files
      events := w.events ++ [.ask request] }

/-- The patch in an answer that was given, or not. -/
def patchIn (patience : Json) : Option Answer → Except Failure Patch
  | none => .error (.adapterTimeout patience.display)
  | some answer => received patience answer

/-- What a failure to get a patched plan leads to: some failures cost the attempt and no more. -/
def turnOfFailure : Failure → Except Failure Turn
  | .adapterTimeout _ | .model _ | .patchRejected _ => .ok .again
  | failure => .error failure

/-- What a patch of a plan, or the lack of one, leads to. -/
def turnOf (plan : Plan) : Except Failure Patch → Except Failure Turn
  | .error failure => turnOfFailure failure
  | .ok patch =>
    if patch.operations.isEmpty then .ok .stop
    else
      match patch.apply plan with
      | .ok repaired => .ok (.repaired repaired patch.reason.display)
      | .error failure => turnOfFailure failure

theorem patchIn_eq_ok {patience : Json} {answer : Option Answer} {patch : Patch}
    (h : patchIn patience answer = .ok patch) :
    ∃ raw, answer = some (.value raw) ∧ Patch.parse raw = .ok patch := by
  match answer, h with
  | some (.value raw), h => exact ⟨raw, rfl, h⟩
  | some (.failure failure), h => cases failure <;> simp [patchIn, received] at h

theorem eq_again_of_turnOfFailure {failure : Failure} {turn : Turn} (h : turnOfFailure failure = .ok turn) :
    turn = .again := by
  cases failure <;> simp_all [turnOfFailure]

/-- A plan is patched by a patch that is not empty and can be applied. -/
theorem turnOf_eq_repaired {plan repaired : Plan} {patch : Except Failure Patch} {reason : String}
    (h : turnOf plan patch = .ok (.repaired repaired reason)) :
    ∃ p, patch = .ok p ∧ p.operations ≠ [] ∧ p.apply plan = .ok repaired := by
  cases patch with
  | error failure => cases eq_again_of_turnOfFailure h
  | ok patch =>
      by_cases hempty : patch.operations.isEmpty
      · simp [turnOf, hempty] at h
      cases happly : patch.apply plan with
      | error failure =>
          simp only [turnOf, hempty, happly] at h
          cases eq_again_of_turnOfFailure h
      | ok found =>
          obtain ⟨rfl, -⟩ : found = repaired ∧ patch.reason.display = reason := by
            simpa [turnOf, hempty, happly] using h
          exact ⟨patch, rfl, by simpa using hempty, happly⟩

theorem turnOf_eq_stop {plan : Plan} {patch : Except Failure Patch}
    (h : turnOf plan patch = .ok .stop) : ∃ p, patch = .ok p ∧ p.operations = [] := by
  cases patch with
  | error failure => cases eq_again_of_turnOfFailure h
  | ok patch =>
      by_cases hempty : patch.operations.isEmpty
      · exact ⟨patch, rfl, by simpa using hempty⟩
      cases happly : patch.apply plan with
      | error failure =>
          simp only [turnOf, hempty, happly] at h
          cases eq_again_of_turnOfFailure h
      | ok found => simp [turnOf, hempty, happly] at h

theorem outcome_ask (adapter : Adapter) (patience : Json) (number : Nat) (request : Request)
    (w : World σ) :
    outcome (ask adapter patience number request) w =
      (patchIn patience (answerTo adapter patience number request),
        afterRequest adapter patience number request w) := by
  by_cases hover : isOver patience
  · simp [ask, hover, patchIn, answerTo, afterRequest]
  · simp [ask, hover, patchIn, answerTo, afterRequest, outcome_bind, Work.record]

theorem Logged.afterRequest {w w' : World σ} (h : Logged w w') (adapter : Adapter)
    (patience : Json) (number : Nat) (request : Request) :
    Logged (afterRequest adapter patience number request w)
      (Repair.afterRequest adapter patience number request w') := by
  obtain ⟨lines, rfl⟩ := h
  unfold Repair.afterRequest
  split
  · exact ⟨lines, rfl⟩
  · exact ⟨lines, rfl⟩

/-! ## Attempts -/

/-- The reason for the patch that an adapter proposes, and the patched plan unless the patch is
empty. -/
def proposedPlan (adapter : Adapter) (patience : Json) (number : Nat) (plan : Plan)
    (request : Request) : Work σ (String × Option Plan) := do
  let patch ← ask adapter patience number request
  if patch.operations.isEmpty then return (patch.reason.display, none)
  else return (patch.reason.display, some (← Effect.ofExcept (patch.apply plan)))

/-- What is made of a proposedPlan, with a line in the log where the plan stays as it is. -/
def conclude (number : Nat) : Except Failure (String × Option Plan) → Work σ Turn
  | .ok (reason, none) => do
    Work.note .info s!"Repair attempt {number} returned no operations ({reason}); stopping"
    return .stop
  | .ok (reason, some repaired) => return .repaired repaired reason
  | .error failure =>
    match failure with
    | .adapterTimeout _ | .model _ => do
      Work.note .warning s!"Repair attempt {number} produced no patch: {failure.message}"
      return .again
    | .patchRejected _ => do
      Work.note .warning s!"Repair attempt {number} rejected: {failure.message}"
      return .again
    | _ => throw failure

theorem attempt_eq (adapter : Adapter) (patience : Json) (number : Nat) (plan : Plan)
    (report : Report) :
    (attempt adapter patience number plan report : Work σ Turn) =
      readSnapshot report.artifacts >>= fun snapshot =>
        Effect.attempt (proposedPlan adapter patience number plan (requestFor plan report snapshot)) >>=
          conclude number :=
  rfl

/-- The turn that a proposal makes. -/
def turnOfProposal : Except Failure (String × Option Plan) → Except Failure Turn
  | .ok (_, none) => .ok .stop
  | .ok (reason, some repaired) => .ok (.repaired repaired reason)
  | .error failure => turnOfFailure failure

theorem outcome_conclude (number : Nat) (proposed : Except Failure (String × Option Plan))
    (w : World σ) :
    ∃ w', outcome (conclude number proposed) w = (turnOfProposal proposed, w') ∧ Logged w w' := by
  match proposed with
  | .ok (reason, none) => exact ⟨_, rfl, _, rfl⟩
  | .ok (reason, some repaired) => exact ⟨_, rfl, .refl w⟩
  | .error failure =>
      cases failure with
      | adapterTimeout | model | patchRejected => exact ⟨_, rfl, _, rfl⟩
      | _ => exact ⟨_, rfl, .refl w⟩

theorem outcome_proposedPlan (adapter : Adapter) (patience : Json) (number : Nat) (plan : Plan)
    (request : Request) (w : World σ) :
    ∃ proposed, outcome (proposedPlan adapter patience number plan request) w =
        (proposed, afterRequest adapter patience number request w) ∧
      turnOfProposal proposed =
        turnOf plan (patchIn patience (answerTo adapter patience number request)) := by
  simp only [proposedPlan, outcome_bind, outcome_ask]
  cases patchIn patience (answerTo adapter patience number request) with
  | error failure => exact ⟨_, rfl, rfl⟩
  | ok patch =>
      by_cases hempty : patch.operations.isEmpty
      · refine ⟨.ok (patch.reason.display, none), ?_, ?_⟩
        · simp [hempty]
        · simp [turnOf, hempty, turnOfProposal]
      cases happly : patch.apply plan with
      | error failure =>
          refine ⟨.error failure, ?_, ?_⟩
          · simp only [hempty, happly]
            rfl
          · simp [turnOf, hempty, happly, turnOfProposal]
      | ok repaired =>
          refine ⟨.ok (patch.reason.display, some repaired), ?_, ?_⟩
          · simp only [hempty, happly]
            rfl
          · simp [turnOf, hempty, happly, turnOfProposal]

/-- An attempt that shows the adapter a request: what it is answered, and what comes of it. -/
structure Attempted (adapter : Adapter) (patience : Json) (number : Nat) (plan : Plan)
    (report : Report) (w : World σ) (request : Request) (answer : Option Answer)
    (turn : Except Failure Turn) (w' : World σ) : Prop where
  execution : outcome (attempt adapter patience number plan report) w = (turn, w')
  shown : ∃ snapshot, snapshotText w.files report.artifacts = .ok snapshot ∧
    request = requestFor plan report snapshot
  answered : answer = answerTo adapter patience number request
  decided : turn = turnOf plan (patchIn patience answer)
  world : Logged (afterRequest adapter patience number request w) w'

section Attempts

variable (adapter : Adapter) (patience : Json) (number : Nat) (plan : Plan) (report : Report)
  (w : World σ)

/-- A snapshot that cannot be read as a text ends the attempt before anything is asked. -/
theorem outcome_attempt_of_unread {failure : Failure}
    (h : snapshotText w.files report.artifacts = .error failure) :
    ∃ w', outcome (attempt adapter patience number plan report) w = (.error failure, w') ∧
      Logged w w' := by
  obtain ⟨w', hread, hlogged⟩ := outcome_readSnapshot report.artifacts w
  rw [h] at hread
  exact ⟨w', outcome_bind_of_error hread, hlogged⟩

theorem exists_attempted {snapshot : String}
    (h : snapshotText w.files report.artifacts = .ok snapshot) :
    ∃ request answer turn w',
      Attempted adapter patience number plan report w request answer turn w' := by
  obtain ⟨w₁, hread, hlogged⟩ := outcome_readSnapshot report.artifacts w
  rw [h] at hread
  obtain ⟨proposed, hproposed, hturn⟩ := outcome_proposedPlan adapter patience number plan
    (requestFor plan report snapshot) w₁
  obtain ⟨w', hconclude, hworld⟩ := outcome_conclude number proposed
    (afterRequest adapter patience number (requestFor plan report snapshot) w₁)
  refine ⟨requestFor plan report snapshot, _, turnOfProposal proposed, w', ?_, ⟨snapshot, h, rfl⟩,
    rfl, hturn, (hlogged.afterRequest ..).trans hworld⟩
  rw [attempt_eq, outcome_bind_of_ok hread, outcome_bind, Effect.outcome_attempt, hproposed]
  exact hconclude

end Attempts

/-! ## Keeping a patched plan -/

/-- What trying to keep a patched plan does: the file is written, or else nothing happens but that
the failure is noted. -/
def Keeps (path : Path) (plan : Plan) (w : World σ) : Bool → World σ → Prop
  | true, w' => ∃ files, w.files.write path (.text plan.redact.text) = .ok files ∧
      w' = { w with files := files, events := w.events ++ [.write path.text true] }
  | false, w' => (∃ failure, w.files.write path (.text plan.redact.text) = .error failure) ∧
      Logged { w with events := w.events ++ [.write path.text false] } w'

/-- A patched plan that was to be kept, and whether it was. -/
structure Kept (runDir : String) (number : Nat) (plan : Plan) (w : World σ) (done : Bool)
    (w' : World σ) : Prop where
  execution : outcome (keepPlan runDir number plan) w = (.ok (), w')
  world : Keeps (planFile runDir number) plan w done w'

theorem exists_kept {runDir : String} {number : Nat} (plan : Plan) (w : World σ)
    (hnull : Path.hasNull (planFile runDir number).text = false) :
    ∃ done w', Kept runDir number plan w done w' := by
  cases hwrite : w.files.write (planFile runDir number) (.text plan.redact.text) with
  | ok files =>
      refine ⟨true, _, ?_, files, hwrite, rfl⟩
      simp only [keepPlan, outcome_handling, Work.writeFile, outcome_bind, outcome_get, hwrite,
        outcome_modify]
  | error failure =>
      have hsystem := Files.write_eq_error hnull hwrite
      obtain ⟨w', hnote, hlogged⟩ := outcome_note .error
        (Failure.noArtifact (.repairedPlan (planFile runDir number).text) failure.message).message
        { w with events := w.events ++ [.write (planFile runDir number).text false] }
      refine ⟨false, w', ?_, ⟨failure, hwrite⟩, hlogged⟩
      simp only [keepPlan, outcome_handling, Work.writeFile, outcome_bind, outcome_get, hwrite,
        Work.record, outcome_modify, outcome_throw, hsystem, if_true]
      exact hnote

/-- A plan is kept if its file can be written. -/
theorem Kept.done_eq {runDir : String} {number : Nat} {plan : Plan} {w w' : World σ} {done : Bool}
    (h : Kept runDir number plan w done w') :
    done = (w.files.write (planFile runDir number) (.text plan.redact.text)).isOk := by
  have hworld := h.world
  cases done with
  | true =>
      obtain ⟨files, hwrite, -⟩ := hworld
      simp [hwrite, Except.isOk, Except.toBool]
  | false =>
      obtain ⟨⟨failure, hwrite⟩, -⟩ := hworld
      simp [hwrite, Except.isOk, Except.toBool]

end Walkthrough.Repair
