import Walkthrough.Http
import Walkthrough.Proofs.Run.Frame

/-! # What a request does

A request either asks for a run, and then does what the run does, or does nothing at all and is answered
from the files. Only a run that gives a report is answered as created. -/

namespace Walkthrough.Http

open Effect

variable {σ : Type}

/-! ## Requests for runs -/

/-- A run that is asked for: its plan, its options, and texts that label it. -/
structure Order where
  plan : Plan
  options : RunOptions
  labels : Json

/-- The options for the run of a submission. -/
def Submission.options (config : Config) (submission : Submission) : RunOptions :=
  { RunOptions.usual with
    artifactsRoot := Path.ofText config.artifactsRoot
    envFile := submission.envFile.map Path.ofText
    dryRun := submission.dryRun }

/-- The run that the body of a request asks for, if it is well-formed and so is the plan in it. -/
def Request.body? (config : Config) (r : Request) : Option Order :=
  match r.json? config with
  | none => none
  | some v =>
    match Submission.ofJson v with
    | .error _ => none
    | .ok submission =>
      match Plan.validate submission.plan with
      | .error _ => none
      | .ok plan => some ⟨plan, submission.options config, submission.labels⟩

def Request.destination (r : Request) : Route.Destination :=
  Route.destination (Text.upper r.method) (Route.pathOf r.target)

/-- The run that a request asks for. -/
def Request.order? (config : Config) (r : Request) : Option Order :=
  if r.destination = .found .runs ∧ Text.upper r.method ≠ "OPTIONS" then r.body? config else none

/-- What tells of a run, by what it ended with. -/
def Order.response (order : Order) : Except Failure Report → Response
  | .ok report => delivery 201 (.obj [("runId", .str report.runId),
      ("status", .str report.verdict.name), ("resultPath", .str report.artifacts.resultPath),
      ("metadata", order.labels)])
  | .error failure =>
    if failure.isForeseen || failure.isBrowser then refusal 500 "RUN_FAILED" failure.message
    else bare 500

theorem Request.exists_submission {config : Config} {r : Request} {order : Order}
    (h : r.body? config = some order) :
    ∃ v submission, r.json? config = some v ∧ Submission.ofJson v = .ok submission ∧
      Plan.validate submission.plan = .ok order.plan ∧
      order.options = submission.options config ∧ order.labels = submission.labels := by
  unfold body? at h
  split at h
  · cases h
  · rename_i v hv
    split at h
    · cases h
    · rename_i submission hsubmission
      split at h
      · cases h
      · rename_i plan hplan
        obtain rfl := Option.some.inj h
        exact ⟨v, submission, hv, hsubmission, hplan, rfl, rfl⟩

theorem Request.body_of_order {config : Config} {r : Request} {order : Order}
    (h : r.order? config = some order) :
    r.destination = .found .runs ∧ Text.upper r.method ≠ "OPTIONS" ∧ r.body? config = some order := by
  unfold order? at h
  split at h
  · rename_i hposted
    exact ⟨hposted.1, hposted.2, h⟩
  · cases h

/-- A plan is only run if it is valid, under a name that is found for it, below the root of all
runs. -/
theorem Request.accepted_of_order {config : Config} {r : Request} {order : Order}
    (h : r.order? config = some order) :
    order.plan.Accepted ∧ order.options.runId = none ∧
      order.options.artifactsRoot = Path.ofText config.artifactsRoot := by
  obtain ⟨-, -, hbody⟩ := body_of_order h
  obtain ⟨_, _, -, -, hplan, hoptions, -⟩ := exists_submission hbody
  rw [hoptions]
  exact ⟨Plan.accepted_of_validate hplan, rfl, rfl⟩

/-- Of a well-formed order the plan is run as it is. -/
theorem submit_of_body {host : Host σ} {config : Config} {r : Request} {order : Order}
    (h : r.body? config = some order) :
    submit host config r =
      Effect.handling (run host order.options order.plan >>= fun report =>
          pure (order.response (.ok report)))
        (fun failure => failure.isForeseen || failure.isBrowser)
        fun failure => pure (refusal 500 "RUN_FAILED" failure.message) := by
  obtain ⟨v, submission, hv, hsubmission, hplan, hoptions, hlabels⟩ := Request.exists_submission h
  unfold submit
  simp only [hv, hsubmission, hplan, Order.response.eq_def, hoptions, hlabels]
  rfl

/-! ## Requests that are only answered -/

/-- An answer that leaves the world alone, and does not tell of a new run. -/
def Telling (x : Work σ Response) : Prop :=
  ∀ w, (outcome x w).2 = w ∧ ∀ response, (outcome x w).1 = .ok response → response.status ≠ 201

theorem telling_pure {response : Response} (h : response.status ≠ 201) :
    Telling (pure response : Work σ Response) := by
  intro w
  refine ⟨rfl, fun found hfound => ?_⟩
  obtain rfl := Except.ok.inj hfound
  exact h

theorem telling_throw (failure : Failure) : Telling (throw failure : Work σ Response) :=
  fun _ => ⟨rfl, fun _ h => nomatch h⟩

theorem Telling.bind {α : Type} {x : Work σ α} {f : α → Work σ Response}
    (hx : ∀ w, (outcome x w).2 = w) (hf : ∀ a, Telling (f a)) : Telling (x >>= f) := by
  intro w
  have hw := hx w
  rw [outcome_bind]
  rcases hcase : outcome x w with ⟨failure | a, w'⟩
  · rw [hcase] at hw
    exact ⟨hw, fun _ h => nomatch h⟩
  · rw [hcase] at hw
    obtain rfl : w' = w := hw
    exact hf a w'

theorem telling_refusal {status : Nat} (h : status ≠ 201) (code message : String) :
    Telling (pure (refusal status code message) : Work σ Response) :=
  telling_pure h

theorem telling_submit {host : Host σ} {config : Config} {r : Request}
    (h : r.body? config = none) : Telling (submit host config r) := by
  unfold submit
  split
  · exact telling_pure (by decide)
  · rename_i v hv
    split
    · exact telling_refusal (by decide) _ _
    · rename_i submission hsubmission
      split
      · exact telling_refusal (by decide) _ _
      · exact telling_throw _
      · rename_i plan hplan
        simp [Request.body?, hv, hsubmission, hplan] at h

theorem telling_sendRecord (config : Config) (runId : String) :
    Telling (sendRecord config runId : Work σ Response) := by
  refine Telling.bind (fun _ => rfl) fun root => Telling.bind (fun _ => rfl) fun place => ?_
  split
  · exact telling_refusal (by decide) _ _
  · refine Telling.bind (fun _ => rfl) fun w => ?_
    split
    · refine Telling.bind (fun _ => rfl) fun s => ?_
      split
      · exact telling_pure (show (200 : Nat) ≠ 201 by decide)
      · exact telling_throw _
    · exact telling_refusal (by decide) _ _

theorem telling_sendFile (path : Path) : Telling (sendFile path : Work σ Response) := by
  refine Telling.bind (fun _ => rfl) fun content => ?_
  split
  · exact telling_pure (show (200 : Nat) ≠ 201 by decide)
  · exact telling_throw _

theorem telling_sendArtifact (config : Config) (runId name : String) :
    Telling (sendArtifact config runId name : Work σ Response) := by
  have hplace : ∀ place, Telling (do
      match place with
      | none => return refusal 400 "INVALID_ARTIFACT_PATH" "Invalid artifact path"
      | some parts =>
        let path := Path.ofParts parts
        if (← get).files.isFile path then sendFile path
        else return refusal 404 "ARTIFACT_NOT_FOUND" "Artifact not found" : Work σ Response) := by
    intro place
    split
    · exact telling_refusal (by decide) _ _
    · refine Telling.bind (fun _ => rfl) fun w => ?_
      split
      · exact telling_sendFile _
      · exact telling_refusal (by decide) _ _
  refine Telling.bind (fun _ => rfl) fun root => Telling.bind (fun _ => rfl) fun runDir => ?_
  split
  · exact Telling.bind (fun _ => rfl) hplace
  · exact Telling.bind (fun _ => rfl) hplace

/-! ## Whole requests -/

/-- A route is found by its own path and one of its methods. -/
theorem Route.ofPath_of_found {method : String} {path : List Char} {route : Route}
    (h : Route.destination method path = .found route) :
    Route.ofPath path = some route ∧ method ∈ route.methods := by
  unfold destination at h
  simp only at h
  split at h
  · rename_i found hfound
    obtain rfl := Destination.found.inj h
    obtain ⟨hpath, hmethod⟩ := Option.filter_eq_some_iff.mp hfound
    exact ⟨hpath, by simpa using hmethod⟩
  · cases h
  · split at h <;> cases h

theorem status_head (response : Response) : response.head.status = response.status := by
  unfold Response.head
  split <;> rfl

/-- What becomes of the answer of a route. -/
def settled (method : String) : Except Failure Response → Response
  | .ok response => if method = "HEAD" then response.head else response
  | .error _ => bare 500

theorem status_settled {method : String} {answer : Except Failure Response}
    (h : ∀ response, answer = .ok response → response.status ≠ 201) :
    (settled method answer).status ≠ 201 := by
  cases answer with
  | error failure => exact (by decide : (500 : Nat) ≠ 201)
  | ok response =>
      unfold settled
      dsimp only
      split
      · rw [status_head]
        exact h response rfl
      · exact h response rfl

theorem serve_of_found {host : Host σ} {config : Config} {r : Request} {route : Route}
    (h : r.destination = .found route) (hmethod : Text.upper r.method ≠ "OPTIONS") :
    serve host config r = Effect.attempt (answer host config r route) >>= fun answer =>
      pure (settled (Text.upper r.method) answer) := by
  unfold serve
  simp only [show Route.destination (Text.upper r.method) (Route.pathOf r.target) = .found route from h,
    if_neg hmethod]
  refine bind_congr fun answer => ?_
  cases answer with
  | error failure => rfl
  | ok response => rfl

/-- A request that leads to no route, or only asks what it may do, is answered by a status. -/
theorem exists_serve_eq_bare (host : Host σ) (config : Config) {r : Request}
    (h : ∀ route, r.destination = .found route → Text.upper r.method = "OPTIONS") :
    ∃ status, serve host config r = pure (bare status) ∧ status ≠ 201 := by
  unfold Request.destination at h
  unfold serve
  cases hdestination : Route.destination (Text.upper r.method) (Route.pathOf r.target) with
  | found route => exact ⟨200, by simp only [hdestination, if_pos (h route hdestination)], by decide⟩
  | moved => exact ⟨308, by simp [hdestination], by decide⟩
  | wrongMethod => exact ⟨405, by simp [hdestination], by decide⟩
  | nowhere => exact ⟨404, by simp [hdestination], by decide⟩

/-- A request for a run does what the run does, and tells of it. -/
theorem outcome_serve_of_order (host : Host σ) {config : Config} {r : Request} {order : Order}
    (h : r.order? config = some order) (w : World σ) :
    outcome (serve host config r) w =
      (.ok (order.response (outcome (run host order.options order.plan) w).1),
        (outcome (run host order.options order.plan) w).2) := by
  obtain ⟨hdestination, hoptions, hbody⟩ := Request.body_of_order h
  have hhead : Text.upper r.method ≠ "HEAD" := by
    have hmethod := (Route.ofPath_of_found hdestination).2
    intro heq
    rw [heq] at hmethod
    exact absurd hmethod (by decide)
  rw [serve_of_found hdestination hoptions, answer, submit_of_body hbody, outcome_bind,
    outcome_attempt, outcome_handling, outcome_bind]
  rcases outcome (run host order.options order.plan) w with ⟨failure | report, w'⟩
  · by_cases hforeseen : (failure.isForeseen || failure.isBrowser) = true <;>
      simp [settled, Order.response, hforeseen, hhead]
  · simp [settled, hhead]

/-- Any other request is answered, does nothing, and does not tell of a new run. -/
theorem exists_response_of_no_order (host : Host σ) {config : Config} {r : Request}
    (h : r.order? config = none) (w : World σ) :
    ∃ response, outcome (serve host config r) w = (.ok response, w) ∧ response.status ≠ 201 := by
  by_cases hserved : ∃ route, r.destination = .found route ∧ Text.upper r.method ≠ "OPTIONS"
  · obtain ⟨route, hdestination, hmethod⟩ := hserved
    have htelling : Telling (answer host config r route) := by
      cases route with
      | runs => exact telling_submit (by simpa [Request.order?, hdestination, hmethod] using h)
      | run runId => exact telling_sendRecord config runId
      | artifact runId name => exact telling_sendArtifact config runId name
      | fixedFile => exact telling_pure (by decide)
    obtain ⟨hstay, hstatus⟩ := htelling w
    refine ⟨settled (Text.upper r.method) (outcome (answer host config r route) w).1, ?_,
      status_settled hstatus⟩
    rw [serve_of_found hdestination hmethod, outcome_bind, outcome_attempt, hstay]
    rfl
  · obtain ⟨status, hserve, hstatus⟩ := exists_serve_eq_bare host config fun route hroute =>
      not_not.mp fun hmethod => hserved ⟨route, hroute, hmethod⟩
    exact ⟨bare status, by rw [hserve, outcome_pure], hstatus⟩

/-! ## Records that are sent -/

/-- The name in the path of a run is not empty and holds no slash. -/
theorem Route.name_of_ofPath {path : List Char} {runId : String}
    (h : Route.ofPath path = some (.run runId)) : runId ≠ "" ∧ '/' ∉ runId.toList := by
  unfold ofPath at h
  have hparts : (Text.splitAt '/' (path.dropWhile (· = '/'))).map String.ofList = ["runs", runId] ∧
      runId ≠ "" := by
    unfold ofParts at h
    split at h
    · cases h
    · rename_i found hparts
      split at h
      · cases h
      · rename_i hempty
        obtain rfl : found = runId := by simpa using h
        exact ⟨hparts, hempty⟩
    · dsimp only at h
      split at h <;> cases h
    · split at h <;> cases h
    · cases h
  obtain ⟨hparts, hempty⟩ := hparts
  have hmem : runId ∈ (Text.splitAt '/' (path.dropWhile (· = '/'))).map String.ofList := by
    rw [hparts]
    simp
  obtain ⟨piece, hpiece, rfl⟩ := List.mem_map.mp hmem
  exact ⟨hempty, by simpa using Text.notMem_of_mem_splitAt hpiece⟩

/-- A name without slashes stands for a directory right below, or for none. -/
theorem within?_eq {base : List String} {name : String} (hnull : Path.hasNull name = false)
    (hpart : Path.IsPart name) (hup : name ≠ "..") :
    within? base name = .ok (some (base ++ [name])) := by
  have hplace : (Path.ofText name).resolve base = base ++ [name] := by
    simp [Path.ofText_of_isPart hpart, Path.resolve, Path.step, hup]
  simp [within?, hnull, Path.inside?, hplace, Path.isInside]

theorem within?_eq_none {base : List String} {name : String} (h : name = "." ∨ name = "..") :
    within? base name = .ok none := by
  rcases h with rfl | rfl
  · have hdot : Path.ofText "." = ⟨"", []⟩ := by decide
    simp [within?, Path.inside?, hdot, Path.resolve, Path.isInside, Path.hasNull]
  · have hdots : Path.ofText ".." = ⟨"", [".."]⟩ := by decide
    simp [within?, Path.inside?, hdots, Path.resolve, Path.isInside, Path.hasNull, Path.step]

/-- The place of the directories of runs. -/
def Config.place (config : Config) (home : List String) : List String :=
  (Path.ofText config.artifactsRoot).resolve home

/-- The file that the record of a run is sent from. -/
def Config.recordFile (config : Config) (home : List String) (runId : String) : Path :=
  .ofParts (config.place home ++ [runId, "RunResult.json"])

theorem Config.reportFile_eq (config : Config) (home : List String) (runId : String) :
    Run.reportFile (Path.ofParts (config.place home ++ [runId])) = config.recordFile home runId := by
  rw [Run.reportFile, Path.ofParts_child _ (by decide), recordFile, List.append_assoc]
  rfl

theorem Config.resolve_recordFile (config : Config) {home : List String} {runId : String}
    (hhome : ".." ∉ home) (hup : runId ≠ "..") :
    (config.recordFile home runId).resolve home = config.place home ++ [runId, "RunResult.json"] := by
  refine Path.resolve_ofParts ?_ home
  simp [Config.place, Path.notMem_resolve _ hhome, hup.symm]

theorem outcome_sendRecord_of_read {config : Config} {runId : String} {w : World σ}
    (hnull : Path.hasNull runId = false) (hpart : Path.IsPart runId) (hup : runId ≠ "..")
    {content : Text.Content} {s : String} {v : Json}
    (hread : w.files.read (config.recordFile w.files.home runId) = .ok content)
    (htext : content.read = .ok s) (hparse : Json.parse s = .ok v) :
    outcome (sendRecord config runId) w = (.ok (delivery 200 v), w) := by
  have hplace := @within?_eq (config.place w.files.home) runId hnull hpart hup
  have hfile := Files.isFile_iff.mpr ⟨content, hread⟩
  have hlook : w.files.readText (config.recordFile w.files.home runId) = .ok s := by
    simp [Files.readText, hread, htext, bind, Except.bind]
  rw [← Config.reportFile_eq] at hfile hlook
  unfold Config.place at hplace hfile hlook
  simp [sendRecord, rootPlace, outcome_bind, hplace, hfile, Work.look, hlook, hparse]

theorem outcome_sendRecord_of_free {config : Config} {runId : String} {w : World σ}
    (hhome : ".." ∉ w.files.home) (hnull : Path.hasNull runId = false) (hempty : runId ≠ "")
    (hslash : '/' ∉ runId.toList)
    (hfree : ∀ content, w.files.node? (config.place w.files.home ++ [runId, "RunResult.json"]) ≠
      some (.file content)) :
    outcome (sendRecord config runId) w =
      (.ok (refusal 404 "RUN_NOT_FOUND" "Run not found"), w) := by
  by_cases hdots : runId = "." ∨ runId = ".."
  · have hplace := @within?_eq_none (config.place w.files.home) runId hdots
    unfold Config.place at hplace
    simp [sendRecord, rootPlace, outcome_bind, hplace]
  · obtain ⟨hdot, hup⟩ := not_or.mp hdots
    have hplace := @within?_eq (config.place w.files.home) runId hnull ⟨hempty, hdot, hslash⟩ hup
    have hfile : ¬ w.files.isFile (config.recordFile w.files.home runId) = true := by
      intro hfound
      obtain ⟨content, hread⟩ := Files.isFile_iff.mp hfound
      exact hfree content (config.resolve_recordFile hhome hup ▸ Files.read_eq_ok hread)
    rw [← Config.reportFile_eq] at hfile
    unfold Config.place at hplace hfile
    simp [sendRecord, rootPlace, outcome_bind, hplace, hfile]

/-- A request for the record of a run. -/
def Request.Fetches (r : Request) (runId : String) : Prop :=
  r.destination = .found (.run runId) ∧ Text.upper r.method = "GET"

theorem Request.Fetches.outcome_serve {r : Request} {runId : String} (h : r.Fetches runId)
    (host : Host σ) {config : Config} {response : Response} {w : World σ}
    (hsend : outcome (sendRecord config runId) w = (.ok response, w)) :
    outcome (serve host config r) w = (.ok response, w) := by
  obtain ⟨hdestination, hget⟩ := h
  rw [serve_of_found hdestination (by rw [hget]; decide), hget, answer, outcome_bind, outcome_attempt,
    hsend]
  rfl

end Walkthrough.Http
