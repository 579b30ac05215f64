import Walkthrough.Page
import Walkthrough.Proofs.Http.Serving
import Walkthrough.Proofs.Plan.Compile
import Walkthrough.Proofs.Plan.Faults
import Walkthrough.Proofs.Run.Failing

/-! # What requests are answered with

Each route answers with an envelope, with a file or, where a body is too long, with a bare status. What it
does not answer are a few requests that it fails on: their URLs, names, files and records are not what it
takes them for. -/

namespace Walkthrough.Http

open Effect

variable {σ : Type}

/-! ## Answers -/

/-- The place of an artifact of a run, if it lies strictly inside the directory of the run, and that
strictly inside the root of all runs. -/
def Config.artifactPlace? (config : Config) (home : List String) (runId name : String) :
    Option (List String) :=
  (Path.inside? (config.place home) runId).bind fun runDir => Path.inside? runDir name

section Answers

variable (host : Host σ) (config : Config) (r : Request) (w : World σ)

/-- What routes respond, and when. -/
inductive Responds : Route → Response → Prop
  | tooLong (body : r.json? config = none) : Responds .runs (bare 413)
  | misshapen {v : Json} {problem : Submission.Problem} (body : r.json? config = some v)
      (submits : Submission.ofJson v = .error problem) :
      Responds .runs (refusal 400 "INVALID_REQUEST" problem.message)
  | noPlan {v : Json} {submission : Submission} {path : List Schema.PathPart} {fault : GrammarFault}
      (body : r.json? config = some v) (submits : Submission.ofJson v = .ok submission)
      (breaks : Plan.validate submission.plan = .error (.grammar path fault)) :
      Responds .runs (refusal 400 "INVALID_PLAN" (Failure.grammar path fault).message)
  | created {order : Order} {report : Report} (ordered : r.body? config = some order)
      (ends : (outcome (run host order.options order.plan) w).1 = .ok report) :
      Responds .runs (order.response (.ok report))
  | failed {order : Order} {failure : Failure} (ordered : r.body? config = some order)
      (ends : (outcome (run host order.options order.plan) w).1 = .error failure)
      (told : (failure.isForeseen || failure.isBrowser) = true) :
      Responds .runs (refusal 500 "RUN_FAILED" failure.message)
  | noRun {runId : String} (named : Path.hasNull runId = false)
      (outside : Path.inside? (config.place w.files.home) runId = none) :
      Responds (.run runId) (refusal 404 "RUN_NOT_FOUND" "Run not found")
  | noRecord {runId : String} {runDir : List String} (named : Path.hasNull runId = false)
      (inside : Path.inside? (config.place w.files.home) runId = some runDir)
      (missing : w.files.isFile (Run.reportFile (.ofParts runDir)) = false) :
      Responds (.run runId) (refusal 404 "RUN_NOT_FOUND" "Run not found")
  | record {runId : String} {runDir : List String} {s : String} {v : Json}
      (named : Path.hasNull runId = false)
      (inside : Path.inside? (config.place w.files.home) runId = some runDir)
      (reads : w.files.readText (Run.reportFile (.ofParts runDir)) = .ok s)
      (parses : Json.parse s = .ok v) :
      Responds (.run runId) (delivery 200 v)
  | noPlace {runId name : String} (run : Path.hasNull runId = false)
      (named : (Path.inside? (config.place w.files.home) runId).isSome → Path.hasNull name = false)
      (outside : config.artifactPlace? w.files.home runId name = none) :
      Responds (.artifact runId name)
        (refusal 400 "INVALID_ARTIFACT_PATH" "Invalid artifact path")
  | noArtifact {runId name : String} {parts : List String} (run : Path.hasNull runId = false)
      (named : Path.hasNull name = false)
      (inside : config.artifactPlace? w.files.home runId name = some parts)
      (missing : w.files.isFile (.ofParts parts) = false) :
      Responds (.artifact runId name) (refusal 404 "ARTIFACT_NOT_FOUND" "Artifact not found")
  | artifact {runId name : String} {parts : List String} {content : Text.Content}
      {disposition : String} (run : Path.hasNull runId = false) (named : Path.hasNull name = false)
      (inside : config.artifactPlace? w.files.home runId name = some parts)
      (found : w.files.read (.ofParts parts) = .ok content)
      (disposes : Disposition.attachment? ((Path.ofParts parts).parts.getLast?.getD "") =
        some disposition) :
      Responds (.artifact runId name) ⟨200, .file disposition content⟩

/-- What routes do not respond to, and the failures that get out of them: a URL in a plan that cannot be
split, a run that is not made ready or whose report holds a number too long to be written, a name that
no file can have, a record that is no text or no JSON, and the name of an artifact with a line end. -/
inductive Escapes : Route → Failure → Prop
  | url {v : Json} {submission : Submission} {fault : Url.Fault} (body : r.json? config = some v)
      (submits : Submission.ofJson v = .ok submission)
      (splits : Plan.Unsplittable submission.plan fault) : Escapes .runs (.value (.url fault))
  | unready {order : Order} {failure : Failure} (ordered : r.body? config = some order)
      (unready : Run.readiness host order.options order.plan (Run.dirOf order.options w) w.files =
        .error failure) : Escapes .runs failure
  | overlong {order : Order} (ordered : r.body? config = some order)
      (ends : (outcome (run host order.options order.plan) w).1 =
        .error (.value .overlongInteger)) : Escapes .runs (.value .overlongInteger)
  | nullRun {runId : String} (null : Path.hasNull runId = true) :
      Escapes (.run runId) (.value .nullInPath)
  | noText {runId : String} {runDir : List String} {failure : Failure}
      (named : Path.hasNull runId = false)
      (inside : Path.inside? (config.place w.files.home) runId = some runDir)
      (found : w.files.isFile (Run.reportFile (.ofParts runDir)) = true)
      (reads : w.files.readText (Run.reportFile (.ofParts runDir)) = .error failure) :
      Escapes (.run runId) failure
  | noJson {runId : String} {runDir : List String} {s : String} {fault : Json.Fault}
      (named : Path.hasNull runId = false)
      (inside : Path.inside? (config.place w.files.home) runId = some runDir)
      (reads : w.files.readText (Run.reportFile (.ofParts runDir)) = .ok s)
      (parses : Json.parse s = .error fault) : Escapes (.run runId) (.notJson fault)
  | nullArtifact {runId name : String} (null : Path.hasNull runId = true ∨
      (Path.inside? (config.place w.files.home) runId).isSome ∧ Path.hasNull name = true) :
      Escapes (.artifact runId name) (.value .nullInPath)
  | lineEnd {runId name : String} {parts : List String} {content : Text.Content}
      (run : Path.hasNull runId = false) (named : Path.hasNull name = false)
      (inside : config.artifactPlace? w.files.home runId name = some parts)
      (found : w.files.read (.ofParts parts) = .ok content)
      (disposes : Disposition.attachment? ((Path.ofParts parts).parts.getLast?.getD "") = none) :
      Escapes (.artifact runId name)
        (.value (.other "Header values must not contain newline characters."))

end Answers

/-! ## Runs that are asked for -/

section Runs

variable {host : Host σ} {config : Config} {r : Request} {w : World σ}

theorem submit_of_error {v : Json} {submission : Submission} {failure : Failure}
    (hbody : r.json? config = some v) (hsubmits : Submission.ofJson v = .ok submission)
    (hplan : Plan.validate submission.plan = .error failure) :
    (outcome (submit host config r) w).1 = match failure with
      | .grammar path fault =>
        .ok (refusal 400 "INVALID_PLAN" (Failure.grammar path fault).message)
      | failure => .error failure := by
  unfold submit
  simp only [hbody, hsubmits, hplan]
  cases failure <;> rfl

/-- The answer to an order, by what its run ends with. -/
theorem answer_of_order {order : Order} (h : r.body? config = some order) :
    (outcome (submit host config r) w).1 =
      match (outcome (run host order.options order.plan) w).1 with
      | .ok report => .ok (order.response (.ok report))
      | .error failure => if failure.isForeseen || failure.isBrowser
        then .ok (refusal 500 "RUN_FAILED" failure.message) else .error failure := by
  rw [submit_of_body h, outcome_handling, outcome_bind]
  rcases outcome (run host order.options order.plan) w with ⟨failure | report, w'⟩
  · by_cases htold : (failure.isForeseen || failure.isBrowser) = true <;> simp [htold]
  · rfl

/-- What a run that is asked for is told of, if it fails with it: a failure that this library foresees, or
one of the browser. -/
def IsTold (failure : Failure) : Prop :=
  (failure.isForeseen || failure.isBrowser) = true

theorem not_isTold_of_isOfFiles {failure : Failure} (h : failure.isOfFiles) : ¬ IsTold failure := by
  rintro htold
  cases failure <;> simp [IsTold, Failure.isForeseen, Failure.isBrowser] at htold <;>
    simp [Failure.isOfFiles, Failure.isSystem, Failure.isValue] at h

theorem failsStep_of_isTold {failure : Failure} (h : IsTold failure) :
    Stage.failsStep failure = true := by
  simp only [IsTold, Bool.or_eq_true] at h
  simp [Stage.failsStep, h]

variable {fair : σ → List Call → Prop}

/-- A run that is asked for fails with what is told of, unless it is not made ready or its report cannot be
written. -/
theorem failsOnly_of_order (hb : host.browser.Behaves fair (fun _ => True) IsTold) {order : Order}
    (h : r.body? config = some order) (hfair : fair w.browser (Run.callsIn w.events)) :
    FailsOnly (fun failure =>
        Run.readiness host order.options order.plan (Run.dirOf order.options w) w.files =
          .error failure ∨ IsTold failure ∨ failure = .value .overlongInteger)
      (outcome (run host order.options order.plan) w).1 := by
  obtain ⟨v, submission, -, -, hplan, hoptions, -⟩ := Request.exists_submission h
  obtain ⟨primitives, hcompile⟩ : ∃ primitives, order.plan.compile = .ok primitives :=
    Plan.Accepted.exists_ofTagged (Plan.accepted_of_validate hplan) 0 0
  have htime : Clock.seconds order.options.timeoutMs = .ok (.ofInt 10) := by
    have hlimit : Clock.seconds RunOptions.defaultTimeout = .ok (.ofInt 10) := rfl
    rw [hoptions]
    exact hlimit
  have hends : Run.Ends fair host order.options IsTold (Stage.FailsAct order.options.timeoutMs)
      fun failure => IsTold failure ∨ failure = .value .overlongInteger :=
    { action := fun hfails hbeyond => hfails.elim
        (fun hstep => absurd (hstep.symm.trans hbeyond) nofun)
        fun hlate => absurd (htime.symm.trans hlate) nofun
      page := fun htold _ => .inl htold
      refused := fun hrefused => by
        obtain ⟨s, calls, hs, hopen | hclose⟩ := hrefused
        · exact .inl ((hb.called (.openSession _) trivial hs).2 _ hopen)
        · exact .inl ((hb.called .closeSession trivial hs).2 _ hclose)
      unkept := fun hunkept => by
        cases hunkept with
        | unwritten artifact cause => exact .inl rfl
        | overlong => exact .inr rfl }
  exact (Run.fair_run (Run.conducts_failsAct hb fun _ => failsStep_of_isTold) hends hcompile
    (Run.suits_failsAct _ _) hfair (outcome (run host order.options order.plan) w).eta).2

end Runs

/-! ## Files that are sent -/

section Sending

variable {config : Config} {runId : String} {w : World σ}

theorem within?_of_hasNull {base : List String} {name : String} (h : Path.hasNull name = true) :
    within? base name = .error (.value .nullInPath) := by
  simp [within?, h]

theorem within?_of_inside? {base : List String} {name : String} {found : Option (List String)}
    (h : Path.hasNull name = false) (hinside : Path.inside? base name = found) :
    within? base name = .ok found := by
  simp [within?, h, hinside]

theorem outcome_rootPlace (config : Config) (w : World σ) :
    outcome (rootPlace config) w = (.ok (config.place w.files.home), w) :=
  rfl

theorem isFile_of_readText {files : Files} {p : Path} {s : String} (h : files.readText p = .ok s) :
    files.isFile p = true := by
  rw [Files.isFile_iff]
  cases hread : files.read p with
  | ok content => exact ⟨content, rfl⟩
  | error failure => simp [Files.readText, hread, bind, Except.bind] at h

/-- A record is looked for once its run has a place. -/
theorem answer_of_runDir {runDir : List String} (hnamed : Path.hasNull runId = false)
    (hinside : Path.inside? (config.place w.files.home) runId = some runDir) :
    (outcome (sendRecord config runId) w).1 =
      if w.files.isFile (Run.reportFile (.ofParts runDir)) then
        match w.files.readText (Run.reportFile (.ofParts runDir)) with
        | .error failure => .error failure
        | .ok s =>
          match Json.parse s with
          | .error fault => .error (.notJson fault)
          | .ok v => .ok (delivery 200 v)
      else .ok (refusal 404 "RUN_NOT_FOUND" "Run not found") := by
  have hwithin := within?_of_inside? hnamed hinside
  cases hfile : w.files.isFile (Run.reportFile (.ofParts runDir)) with
  | false => simp [sendRecord, outcome_bind, outcome_rootPlace, hwithin, hfile]
  | true =>
      cases hread : w.files.readText (Run.reportFile (.ofParts runDir)) with
      | error failure =>
          simp [sendRecord, outcome_bind, outcome_rootPlace, hwithin, hfile, Work.look, hread]
      | ok s =>
          cases hparse : Json.parse s <;>
            simp [sendRecord, outcome_bind, outcome_rootPlace, hwithin, hfile, Work.look, hread, hparse]

theorem answer_of_no_runDir (hnamed : Path.hasNull runId = false)
    (houtside : Path.inside? (config.place w.files.home) runId = none) :
    (outcome (sendRecord config runId) w).1 =
      .ok (refusal 404 "RUN_NOT_FOUND" "Run not found") := by
  simp [sendRecord, outcome_bind, outcome_rootPlace, within?_of_inside? hnamed houtside]

theorem answer_of_nullRun (hnull : Path.hasNull runId = true) :
    (outcome (sendRecord config runId) w).1 = .error (.value .nullInPath) := by
  simp [sendRecord, outcome_bind, outcome_rootPlace, within?_of_hasNull hnull]

theorem answer_of_sendFile (path : Path) (w : World σ) :
    (outcome (sendFile path) w).1 =
      match w.files.read path with
      | .error failure => .error failure
      | .ok content =>
        match Disposition.attachment? (path.parts.getLast?.getD "") with
        | some disposition => .ok ⟨200, .file disposition content⟩
        | none => .error (.value (.other "Header values must not contain newline characters.")) := by
  cases hread : w.files.read path with
  | error failure => simp [sendFile, outcome_bind, Work.look, hread]
  | ok content =>
      have hlook : outcome (Work.look fun files => files.read path) w = (.ok content, w) := by
        simp [Work.look, outcome_bind, hread]
      rw [sendFile, outcome_bind_of_ok hlook]
      cases hname : Disposition.attachment? (path.parts.getLast?.getD "") <;> simp

/-- An artifact is looked for once the names of its run and its own can be. -/
theorem answer_of_artifact {name : String} (hrun : Path.hasNull runId = false)
    (hnamed : (Path.inside? (config.place w.files.home) runId).isSome → Path.hasNull name = false) :
    (outcome (sendArtifact config runId name) w).1 =
      match config.artifactPlace? w.files.home runId name with
      | none => .ok (refusal 400 "INVALID_ARTIFACT_PATH" "Invalid artifact path")
      | some parts =>
        if w.files.isFile (.ofParts parts) then (outcome (sendFile (.ofParts parts)) w).1
        else .ok (refusal 404 "ARTIFACT_NOT_FOUND" "Artifact not found") := by
  unfold Config.artifactPlace?
  cases hinside : Path.inside? (config.place w.files.home) runId with
  | none => simp [sendArtifact, outcome_bind, outcome_rootPlace, within?_of_inside? hrun hinside]
  | some runDir =>
      have hname : Path.hasNull name = false := hnamed (by rw [hinside]; rfl)
      have hwithin := within?_of_inside? hrun hinside
      cases hpart : Path.inside? runDir name with
      | none =>
          simp [sendArtifact, outcome_bind, outcome_rootPlace, hwithin,
            within?_of_inside? hname hpart, hpart]
      | some parts =>
          cases hfile : w.files.isFile (.ofParts parts) <;>
            simp [sendArtifact, outcome_bind, outcome_rootPlace, hwithin,
              within?_of_inside? hname hpart, hpart, hfile]

theorem answer_of_nullArtifact {name : String} (h : Path.hasNull runId = true ∨
    (Path.inside? (config.place w.files.home) runId).isSome ∧ Path.hasNull name = true) :
    (outcome (sendArtifact config runId name) w).1 = .error (.value .nullInPath) := by
  cases hnull : Path.hasNull runId with
  | true => simp [sendArtifact, outcome_bind, outcome_rootPlace, within?_of_hasNull hnull]
  | false =>
      obtain ⟨hinside, hname⟩ := h.resolve_left (by simp [hnull])
      obtain ⟨runDir, hinside⟩ := Option.isSome_iff_exists.mp hinside
      simp [sendArtifact, outcome_bind, outcome_rootPlace, within?_of_inside? hnull hinside,
        within?_of_hasNull hname]

end Sending

/-! ## Every answer -/

section Every

variable {host : Host σ} {config : Config} {r : Request} {w : World σ} {route : Route}

theorem Responds.answers {response : Response} (h : Responds host config r w route response) :
    (outcome (answer host config r route) w).1 = .ok response := by
  cases h with
  | tooLong body => simp [answer, submit, body]
  | misshapen body submits => simp [answer, submit, body, submits]
  | noPlan body submits breaks => exact submit_of_error body submits breaks
  | created ordered ends => exact (answer_of_order ordered).trans (by rw [ends])
  | failed ordered ends told => exact (answer_of_order ordered).trans (by rw [ends]; simp [told])
  | noRun named outside => exact answer_of_no_runDir named outside
  | noRecord named inside missing =>
      exact (answer_of_runDir named inside).trans (by simp [missing])
  | record named inside reads parses =>
      exact (answer_of_runDir named inside).trans
        (by simp [isFile_of_readText reads, reads, parses])
  | noPlace run named outside =>
      exact (answer_of_artifact run named).trans (by rw [outside])
  | noArtifact run named inside missing =>
      exact (answer_of_artifact run fun _ => named).trans (by simp [inside, missing])
  | artifact run named inside found disposes =>
      exact (answer_of_artifact run fun _ => named).trans (by
        simp [inside, Files.isFile_iff.mpr ⟨_, found⟩, answer_of_sendFile, found, disposes])

theorem Escapes.answers {failure : Failure} (h : Escapes host config r w route failure) :
    (outcome (answer host config r route) w).1 = .error failure := by
  cases h with
  | url body submits splits =>
      exact submit_of_error body submits (Plan.validate_eq_urlFault_iff.mpr splits)
  | @unready order failure ordered unready =>
      obtain ⟨v, submission, -, -, hplan, -, -⟩ := Request.exists_submission ordered
      obtain ⟨primitives, hcompile⟩ : ∃ primitives, order.plan.compile = .ok primitives :=
        Plan.Accepted.exists_ofTagged (Plan.accepted_of_validate hplan) 0 0
      have huntold := not_isTold_of_isOfFiles (Run.failsOnly_readiness hcompile _ _ _ unready)
      exact (answer_of_order ordered).trans
        (by rw [Run.answer_of_unready unready]; exact if_neg huntold)
  | overlong ordered ends => exact (answer_of_order ordered).trans (by rw [ends]; rfl)
  | nullRun null => exact answer_of_nullRun null
  | noText named inside found reads =>
      exact (answer_of_runDir named inside).trans (by simp [found, reads])
  | noJson named inside reads parses =>
      exact (answer_of_runDir named inside).trans
        (by simp [isFile_of_readText reads, reads, parses])
  | nullArtifact null => exact answer_of_nullArtifact null
  | lineEnd run named inside found disposes =>
      exact (answer_of_artifact run fun _ => named).trans (by
        simp [inside, Files.isFile_iff.mpr ⟨_, found⟩, answer_of_sendFile, found, disposes])

theorem responds_or_escapes_runs {fair : σ → List Call → Prop}
    (hb : host.browser.Behaves fair (fun _ => True) IsTold)
    (hfair : fair w.browser (Run.callsIn w.events)) :
    (∃ response, Responds host config r w .runs response) ∨
      ∃ failure, Escapes host config r w .runs failure := by
  cases hbody : r.json? config with
  | none => exact .inl ⟨_, .tooLong hbody⟩
  | some v =>
      cases hsubmits : Submission.ofJson v with
      | error problem => exact .inl ⟨_, .misshapen hbody hsubmits⟩
      | ok submission =>
          cases hplan : Plan.validate submission.plan with
          | error failure =>
              rcases Plan.validate_eq_error hplan with ⟨path, fault, rfl⟩ | ⟨fault, rfl⟩
              · exact .inl ⟨_, .noPlan hbody hsubmits hplan⟩
              · exact .inr ⟨_, .url hbody hsubmits (Plan.validate_eq_urlFault_iff.mp hplan)⟩
          | ok plan =>
              have hordered : r.body? config =
                  some ⟨plan, submission.options config, submission.labels⟩ := by
                simp [Request.body?, hbody, hsubmits, hplan]
              have hfails := failsOnly_of_order hb hordered hfair
              cases hends : (outcome (run host (submission.options config) plan) w).1 with
              | ok report => exact .inl ⟨_, .created hordered hends⟩
              | error failure =>
                  rcases hfails failure hends with hunready | htold | rfl
                  · exact .inr ⟨_, .unready hordered hunready⟩
                  · exact .inl ⟨_, .failed hordered hends htold⟩
                  · exact .inr ⟨_, .overlong hordered hends⟩

theorem responds_or_escapes_run (runId : String) :
    (∃ response, Responds host config r w (.run runId) response) ∨
      ∃ failure, Escapes host config r w (.run runId) failure := by
  cases hnull : Path.hasNull runId with
  | true => exact .inr ⟨_, .nullRun hnull⟩
  | false =>
      cases hinside : Path.inside? (config.place w.files.home) runId with
      | none => exact .inl ⟨_, .noRun hnull hinside⟩
      | some runDir =>
          cases hfile : w.files.isFile (Run.reportFile (.ofParts runDir)) with
          | false => exact .inl ⟨_, .noRecord hnull hinside hfile⟩
          | true =>
              cases hread : w.files.readText (Run.reportFile (.ofParts runDir)) with
              | error failure => exact .inr ⟨_, .noText hnull hinside hfile hread⟩
              | ok s =>
                  cases hparse : Json.parse s with
                  | error fault => exact .inr ⟨_, .noJson hnull hinside hread hparse⟩
                  | ok v => exact .inl ⟨_, .record hnull hinside hread hparse⟩

theorem responds_or_escapes_artifact (runId name : String) :
    (∃ response, Responds host config r w (.artifact runId name) response) ∨
      ∃ failure, Escapes host config r w (.artifact runId name) failure := by
  by_cases hnull : Path.hasNull runId = true ∨
      (Path.inside? (config.place w.files.home) runId).isSome ∧ Path.hasNull name = true
  · exact .inr ⟨_, .nullArtifact hnull⟩
  · obtain ⟨hrun, hname⟩ := not_or.mp hnull
    rw [Bool.not_eq_true] at hrun
    have hnamed : (Path.inside? (config.place w.files.home) runId).isSome →
        Path.hasNull name = false :=
      fun hinside => Bool.eq_false_of_not_eq_true fun hnull => hname ⟨hinside, hnull⟩
    cases hplace : config.artifactPlace? w.files.home runId name with
    | none => exact .inl ⟨_, .noPlace hrun hnamed hplace⟩
    | some parts =>
        have hname : Path.hasNull name = false := by
          refine hnamed ?_
          obtain ⟨runDir, hinside, -⟩ := Option.bind_eq_some_iff.mp hplace
          rw [hinside]
          rfl
        cases hfile : w.files.isFile (.ofParts parts) with
        | false => exact .inl ⟨_, .noArtifact hrun hname hplace hfile⟩
        | true =>
            obtain ⟨content, hread⟩ := Files.isFile_iff.mp hfile
            cases hdisposes : Disposition.attachment? ((Path.ofParts parts).parts.getLast?.getD "") with
            | none => exact .inr ⟨_, .lineEnd hrun hname hplace hread hdisposes⟩
            | some disposition => exact .inl ⟨_, .artifact hrun hname hplace hread hdisposes⟩

end Every

/-- An envelope with its status, a file, or a bare status for a body that is too long. -/
inductive Response.IsProper (config : Config) (r : Request) : Response → Prop
  | data {status : Nat} (known : status ∈ [200, 201]) (v : Json) :
      IsProper config r (delivery status v)
  | error {status : Nat} (known : status ∈ [400, 404, 500]) (code message : String) :
      IsProper config r (refusal status code message)
  | file (disposition : String) (content : Text.Content) :
      IsProper config r ⟨200, .file disposition content⟩
  | tooLong (body : r.json? config = none) : IsProper config r (bare 413)

theorem Responds.isProper {host : Host σ} {config : Config} {r : Request} {w : World σ}
    {route : Route} {response : Response} (h : Responds host config r w route response) :
    response.IsProper config r := by
  cases h with
  | tooLong body => exact .tooLong body
  | misshapen | noPlan | noPlace => exact .error (by decide) _ _
  | created => exact .data (by decide) _
  | failed => exact .error (by decide) _ _
  | noRun | noRecord | noArtifact => exact .error (by decide) _ _
  | record => exact .data (by decide) _
  | artifact => exact .file _ _

end Walkthrough.Http
