import Walkthrough.Page
import Walkthrough.Proofs.CommandLine
import Walkthrough.Proofs.Plan.Lines
import Walkthrough.Proofs.Plan.Faults
import Walkthrough.Proofs.Repair.Conduct

/-! # How commands end

A command ends with an exit code, unless it fails with something that is not reported: the browser refuses
a session, a time limit is too long to be counted in seconds, or a record is misshapen. -/

namespace Walkthrough

open Effect

variable {σ : Type}

namespace CommandLine

/-- A failure that is reported in one line. -/
def IsReported (failure : Failure) : Prop :=
  isReported failure = true

theorem isReported_of_isValue {failure : Failure} (h : failure.isValue = true) :
    IsReported failure := by
  cases failure <;> simp [Failure.isValue] at h <;> rfl

theorem isReported_of_isOfFiles {failure : Failure} (h : failure.isOfFiles) :
    IsReported failure := by
  rcases h with hsystem | hvalue
  · cases failure <;> simp [Failure.isSystem] at hsystem <;> rfl
  · exact isReported_of_isValue hvalue

theorem not_isReported_of_isBrowser {failure : Failure} (h : failure.isBrowser = true) :
    ¬ IsReported failure := by
  cases failure <;> simp [Failure.isBrowser] at h <;>
    simp [IsReported, isReported, Failure.isForeseen, Failure.isSystem, Failure.isValue]

/-- Too many milliseconds are not reported. -/
theorem not_isReported_of_seconds {ms : Int} {failure : Failure}
    (h : Clock.seconds ms = .error failure) : ¬ IsReported failure := by
  unfold Clock.seconds at h
  split at h
  · cases h
    exact Bool.false_ne_true
  · cases h

/-! ## Plans and models -/

theorem failsOnly_validate (raw : Json) : FailsOnly IsReported (Plan.validate raw) := by
  intro failure h
  rcases Plan.validate_eq_error h with ⟨path, fault, rfl⟩ | ⟨fault, rfl⟩ <;> rfl

theorem failsOnly_load (files : Files) (path : Path) :
    FailsOnly IsReported (Plan.load files path) := by
  unfold Plan.load
  split
  · rename_i failure hread
    exact failsOnly_error (isReported_of_isOfFiles (Files.failsOnly_readText failure hread))
  · unfold Plan.parse
    split
    · exact failsOnly_validate _
    · exact failsOnly_error rfl
    · exact failsOnly_error rfl

/-- The lines of an accepted plan fail only with a number that is too long. -/
theorem failsOnly_lines {plan : Plan} (h : plan.Accepted) : FailsOnly IsReported plan.lines := by
  obtain ⟨primitives, hcompile⟩ : ∃ primitives, plan.compile = .ok primitives :=
    h.exists_ofTagged 0 0
  intro failure hfails
  rw [Plan.failsOnly_lines hcompile failure hfails]
  rfl

theorem failsOnly_integer (s : String) : FailsOnly IsReported (Text.integer s) := by
  unfold Text.integer
  dsimp only
  split
  · exact failsOnly_error rfl
  · split
    · exact failsOnly_error rfl
    · split
      · exact failsOnly_error rfl
      · exact failsOnly_ok _ _

theorem failsOnly_ofEnvironment (environment : Table String) :
    FailsOnly IsReported (Chat.Config.ofEnvironment environment) := by
  unfold Chat.Config.ofEnvironment
  split
  · exact failsOnly_error rfl
  · dsimp only
    split
    · exact (failsOnly_integer _).bind fun _ => failsOnly_ok _ _
    · exact failsOnly_ok _ _

theorem failsOnly_read (reply : Chat.Reply) : FailsOnly IsReported reply.read := by
  cases reply with
  | refused | noChoices => exact failsOnly_error rfl
  | content v =>
      unfold Chat.Reply.read
      split
      · exact failsOnly_error rfl
      · exact failsOnly_error rfl
      · split
        · exact failsOnly_error rfl
        · split
          · exact failsOnly_ok _ _
          · exact failsOnly_error rfl
          · exact failsOnly_error rfl
      · exact failsOnly_error rfl

/-- What asking a model fails with is reported, unless its time limit is too long. -/
theorem failsOnly_ask (config : Chat.Config) (service : Chat.Service)
    (messages : List Chat.Message) :
    FailsOnly (fun failure => IsReported failure ∨ Clock.seconds config.timeoutMs = .error failure)
      (Chat.ask config service messages) := by
  unfold Chat.ask Chat.request
  cases hseconds : Clock.seconds config.timeoutMs with
  | error failure => exact failsOnly_error (.inr rfl)
  | ok timeout => exact fun failure h => .inl (failsOnly_read _ failure h)

/-- A failure to ask a model, which is provided by a name, for its time limit. -/
def Endless (environment : Table String) (provider : String) (failure : Failure) : Prop :=
  Provider.ofText (some provider) = .ok .model ∧ ∃ config,
    Chat.Config.ofEnvironment environment = .ok config ∧
    Clock.seconds config.timeoutMs = .error failure

theorem failsOnly_ofText (name : Option String) : FailsOnly IsReported (Provider.ofText name) := by
  unfold Provider.ofText
  split
  · exact failsOnly_ok _ _
  · split
    · exact failsOnly_ok _ _
    · split
      · exact failsOnly_ok _ _
      · exact failsOnly_error rfl

theorem failsOnly_adapter (environment : Table String) (service : Chat.Service)
    (provider : Provider) : FailsOnly IsReported (provider.adapter environment service) := by
  cases provider with
  | builtIn => exact failsOnly_ok _ _
  | model => exact (failsOnly_ofEnvironment _).map _

theorem failsOnly_drafter (environment : Table String) (service : Chat.Service)
    (provider : Provider) : FailsOnly IsReported (provider.drafter environment service) := by
  cases provider with
  | builtIn => exact failsOnly_ok _ _
  | model => exact (failsOnly_ofEnvironment _).map _

/-! ## Adapters -/

/-- The source of a step that is named by its place is found, be there such a step or not. -/
theorem exists_sourceText (primitives : List Primitive) (n : Nat) :
    ∃ source, Repair.sourceText primitives (.int n) = .ok source := by
  unfold Repair.sourceText
  dsimp only
  split
  · rename_i hsize
    have hfound : n < primitives.length := by omega
    have hplace : ¬ ((n : Int) < 0) := by omega
    simp [hplace, List.getElem?_eq_getElem hfound]
  · exact ⟨_, rfl⟩

/-- The built-in adapter has a proposal for every report of an accepted plan. -/
theorem exists_propose {plan : Plan} (hplan : plan.Accepted) (report : Report) (snapshot : String) :
    ∃ raw, Repair.propose (Repair.requestFor plan report snapshot) = .ok raw := by
  unfold Repair.propose
  split
  · exact ⟨_, rfl⟩
  · rename_i step hfailed
    obtain ⟨reported, -, rfl⟩ := List.mem_map.mp (List.mem_of_find?_eq_some hfailed)
    split
    · obtain ⟨primitives, hcompile⟩ : ∃ primitives, plan.compile = .ok primitives :=
        hplan.exists_ofTagged 0 0
      obtain ⟨source, hsource⟩ := exists_sourceText primitives reported.index
      simp only [Repair.requestFor, StepReport.record, hcompile, hsource, bind, Except.bind]
      exact ⟨_, rfl⟩
    · exact ⟨_, rfl⟩

/-- An adapter that is provided by a name fails on a report of an accepted plan only for the time limit of
a model, or with what is reported. -/
theorem endless_of_answer {environment : Table String} {service : Chat.Service} {name : String}
    {provider : Provider} (hprovider : Provider.ofText (some name) = .ok provider)
    {adapter : Repair.Adapter} (hadapter : provider.adapter environment service = .ok adapter)
    {plan : Plan} (hplan : plan.Accepted) {number : Nat} {report : Report} {snapshot : String}
    {failure : Failure}
    (h : adapter.answer number (Repair.requestFor plan report snapshot) = .failure failure) :
    IsReported failure ∨ Endless environment name failure := by
  cases provider with
  | builtIn =>
      obtain rfl := Except.ok.inj hadapter
      obtain ⟨raw, hraw⟩ := exists_propose hplan report snapshot
      simp [Repair.builtIn, Repair.Adapter.ofAnswer, hraw] at h
  | model =>
      cases hconfig : Chat.Config.ofEnvironment environment with
      | error found => simp [Provider.adapter, hconfig, Except.map] at hadapter
      | ok config =>
          obtain rfl : _ = adapter := by simpa [Provider.adapter, hconfig, Except.map] using hadapter
          have hfails := failsOnly_ask config service
            (Chat.Prompt.repair (Repair.requestFor plan report snapshot))
          cases hask : Chat.ask config service
              (Chat.Prompt.repair (Repair.requestFor plan report snapshot)) with
          | ok raw => simp [Repair.Adapter.ofAnswer, hask] at h
          | error found =>
              obtain rfl : found = failure := by simpa [Repair.Adapter.ofAnswer, hask] using h
              exact (hfails found hask).imp id fun hseconds => ⟨hprovider, config, hconfig, hseconds⟩

/-! ## Runs -/

/-- What a run begins with: its plan, what is said of the plan beforehand, and the adapter that is to
repair it. -/
structure Start where
  plan : Plan
  before : List String
  adapter : Repair.Adapter

def start (host : Host σ) (service : Chat.Service) (settings : RunSettings) (files : Files) :
    Except Failure Start := do
  let plan ← Plan.load files (Path.ofText settings.planFile)
  let before ← preview settings plan
  let provider ← Provider.ofText (some settings.provider)
  let adapter ← provider.adapter host.environment service
  return ⟨plan, before, adapter⟩

/-- What a run ends with that began. -/
def Start.result (s : Start) (host : Host σ) (settings : RunSettings) (w : World σ) :
    Except Failure Report :=
  (outcome (runWithRepair host settings.options s.adapter (.float settings.repairTimeout)
    settings.repairAttempts s.plan) { w with said := w.said ++ s.before }).1

/-- The exit code for a verdict. -/
def exitCode : Verdict → Nat
  | .passed => 0
  | .failed => 1

theorem answer_look_bind {α β : Type} (look : Files → Except Failure α) (f : α → Work σ β)
    (w : World σ) :
    (outcome (Work.look look >>= f) w).1 = look w.files >>= fun a => (outcome (f a) w).1 := by
  have hlook : Work.look look = get >>= fun u : World σ => Effect.ofExcept (look u.files) := rfl
  rw [hlook, bind_assoc, outcome_bind_of_ok (outcome_get w), answer_ofExcept_bind]

theorem answer_of_conclude (host : Host σ) (service : Chat.Service) (settings : RunSettings)
    (plan : Plan) (w : World σ) :
    (outcome (conclude host service settings plan) w).1 = do
      let provider ← Provider.ofText (some settings.provider)
      let adapter ← provider.adapter host.environment service
      let report ← (outcome (runWithRepair host settings.options adapter
        (.float settings.repairTimeout) settings.repairAttempts plan) w).1
      return exitCode report.verdict := by
  rw [conclude, answer_ofExcept_bind]
  refine bind_congr fun provider => ?_
  rw [answer_ofExcept_bind]
  refine bind_congr fun adapter => ?_
  rw [outcome_bind]
  rcases outcome (runWithRepair host settings.options adapter (.float settings.repairTimeout)
    settings.repairAttempts plan) w with ⟨failure | report, w'⟩
  · rfl
  · obtain ⟨lines, hlines, -⟩ := report.exists_lines
    dsimp only
    rw [hlines, outcome_bind_of_ok (outcome_ofExcept _ _), outcome_bind_of_ok (outcome_sayAll _ _)]
    rfl

/-- A run from the command line fails as it starts, or its exit code is that of the last report. -/
theorem answer_of_run (host : Host σ) (service : Chat.Service) (settings : RunSettings)
    (w : World σ) :
    (outcome (run host service settings) w).1 = do
      let s ← start host service settings w.files
      let report ← s.result host settings w
      return exitCode report.verdict := by
  rw [run_eq, loadPlan, answer_look_bind, start]
  simp only [bind_assoc, pure_bind]
  refine bind_congr fun plan => ?_
  rw [answer_ofExcept_bind]
  refine bind_congr fun before => ?_
  rw [outcome_bind_of_ok (outcome_sayAll _ _), answer_of_conclude]
  rfl

/-! ## What gets out -/

section Repairs

variable {host : Host σ} {service : Chat.Service} {settings : RunSettings} {w : World σ} {s : Start}
  {fair : σ → List Call → Prop}

theorem start_eq_ok (h : start host service settings w.files = .ok s) :
    s.plan.Accepted ∧ ∃ provider, Provider.ofText (some settings.provider) = .ok provider ∧
      provider.adapter host.environment service = .ok s.adapter := by
  obtain ⟨plan, hplan, h⟩ := exists_of_bind_eq_ok h
  obtain ⟨before, -, h⟩ := exists_of_bind_eq_ok h
  obtain ⟨provider, hprovider, h⟩ := exists_of_bind_eq_ok h
  obtain ⟨adapter, hadapter, h⟩ := exists_of_bind_eq_ok h
  obtain rfl := Except.ok.inj h
  exact ⟨accepted_of_load hplan, provider, hprovider, hadapter⟩

/-- What a run fails with as it starts is reported. -/
theorem failsOnly_start (host : Host σ) (service : Chat.Service) (settings : RunSettings)
    (files : Files) : FailsOnly IsReported (start host service settings files) := by
  unfold start
  cases hplan : Plan.load files (Path.ofText settings.planFile) with
  | error failure => exact failsOnly_error (failsOnly_load _ _ failure hplan)
  | ok plan =>
      have hpreview : FailsOnly IsReported (preview settings plan) := by
        unfold preview
        split
        · exact failsOnly_lines (accepted_of_load hplan)
        · exact failsOnly_ok _ _
      exact hpreview.bind fun _ => (failsOnly_ofText _).bind fun provider =>
        (failsOnly_adapter _ _ provider).bind fun _ => failsOnly_ok _ _

/-- The failures of a run and of its repairs that are not reported: the browser refuses a session, or the
time limit of the run, or that of the model, is too long. -/
inductive Beyond (fair : σ → List Call → Prop) (host : Host σ) (settings : RunSettings)
    (failure : Failure) : Prop
  | refused (refused : Run.Refused fair host.browser (!settings.headed) failure)
  | late (late : Clock.seconds settings.timeoutMs = .error failure)
  | endless (endless : Endless host.environment settings.provider failure)

theorem ends_of_isBrowser (runId : Option String) :
    Run.Ends fair host { settings.options with runId := runId }
      (fun failure => failure.isBrowser = true) (Stage.FailsAct settings.timeoutMs)
      fun failure => IsReported failure ∨ Beyond fair host settings failure where
  action hfails hbeyond := by
    rcases hfails with hfails | hlate
    · rw [hbeyond] at hfails
      cases hfails
    · exact .inr (.late hlate)
  page hpage hforeign := by
    rw [hforeign] at hpage
    cases hpage
  refused hrefused := .inr (.refused hrefused)
  unkept hunkept := by
    cases hunkept with
    | unwritten | overlong => exact .inl rfl

/-- A run of a repair leaves a fair browser fair, and what it fails with is reported or beyond that. -/
theorem fair_of_ran
    (hb : host.browser.Behaves fair (fun _ => True) fun failure => failure.isBrowser = true)
    {adapter : Repair.Adapter} {patience : Json} {maxAttempts : Int} {plan : Plan}
    {deeds : List (Repair.Deed σ)} {ending : Repair.Ending σ}
    (h : Repair.History host settings.options adapter patience maxAttempts plan w deeds ending)
    (hplan : plan.Accepted) {p : Plan} {before after : World σ} {result : Except Failure Report}
    (hran : .ran p before result after ∈ deeds)
    (hfair : fair before.browser (Run.callsIn before.events)) :
    fair after.browser (Run.callsIn after.events) ∧
      FailsOnly (fun failure => IsReported failure ∨ Beyond fair host settings failure) result := by
  obtain ⟨runId, hrun⟩ := h.ran hran
  obtain ⟨primitives, hcompile⟩ : ∃ primitives, p.compile = .ok primitives :=
    (h.agrees hplan hran).1.exists_ofTagged 0 0
  have hbrowser : ∀ failure : Failure, failure.isBrowser = true → Stage.failsStep failure = true :=
    fun failure hbrowser => by simp [Stage.failsStep, hbrowser]
  obtain ⟨hafter, hfails⟩ := Run.fair_run (Run.conducts_failsAct hb hbrowser)
    (ends_of_isBrowser runId) hcompile (Run.suits_failsAct _ _) hfair hrun
  refine ⟨hafter, fun failure hfailure => ?_⟩
  rcases hfails failure hfailure with hunready | hended
  · exact .inl (isReported_of_isOfFiles (Run.failsOnly_readiness hcompile _ _ failure hunready))
  · exact hended

/-- What a run ends with is a report, or a failure that is reported or beyond that. -/
theorem failsOnly_result
    (hb : host.browser.Behaves fair (fun _ => True) fun failure => failure.isBrowser = true)
    (hstart : start host service settings w.files = .ok s)
    (hfair : fair w.browser (Run.callsIn w.events)) :
    FailsOnly (fun failure => IsReported failure ∨ Beyond fair host settings failure)
      (s.result host settings w) := by
  intro failure hfails
  obtain ⟨hplan, provider, hprovider, hadapter⟩ := start_eq_ok hstart
  obtain ⟨deeds, ending, hhistory⟩ := Repair.exists_history host settings.options s.adapter
    (.float settings.repairTimeout) settings.repairAttempts s.plan
    { w with said := w.said ++ s.before }
  rw [Start.result, hhistory.execution] at hfails
  have hruns : ∀ deed ∈ deeds, deed.LeavesFair fair := by
    intro deed hdeed
    cases deed with
    | ran => exact fun hbefore => (fair_of_ran hb hhistory hplan hdeed hbefore).1
    | attempted | kept => trivial
  obtain ⟨hfound, -⟩ := hhistory.isFair hruns hfair
  cases hhistory.breaks hplan hfails with
  | ran hran => exact (fair_of_ran hb hhistory hplan hran (hfound _ hran)).2 failure rfl
  | unread hunread =>
      exact .inl (isReported_of_isValue (Repair.failsOnly_snapshotText _ _ failure hunread))
  | raised haccepted attempt =>
      rcases attempt.isValue_or_answer haccepted with hvalue | hanswer
      · exact .inl (isReported_of_isValue hvalue)
      · obtain ⟨snapshot, -, rfl⟩ := attempt.shown
        have hanswered := attempt.answered.symm.trans hanswer
        unfold Repair.answerTo at hanswered
        split at hanswered
        · cases hanswered
        · exact (endless_of_answer hprovider hadapter haccepted (Option.some.inj hanswered)).imp id
            .endless

end Repairs

/-! ## Commands -/

section Commands

variable {host : Host σ} {service : Chat.Service} {w : World σ} {fair : σ → List Call → Prop}

/-- What a command fails with that is not reported: a model is to be asked with too long a time limit, a run
that has started goes beyond what is reported, or a record is found that is misshapen. -/
inductive Escapes (fair : σ → List Call → Prop) (host : Host σ) (service : Chat.Service)
    (w : World σ) : Command → Failure → Prop
  | draft {prompt : String} {url : Option String} {provider : String} {failure : Failure}
      (endless : Endless host.environment provider failure) :
      Escapes fair host service w (.draft prompt url provider) failure
  | run {settings : RunSettings} {s : Start} {failure : Failure}
      (starts : start host service settings w.files = .ok s)
      (ends : s.result host settings w = .error failure)
      (beyond : Beyond fair host settings failure) :
      Escapes fair host service w (.run settings) failure
  | record {runId artifactsRoot s : String} {v : Json} {failure : Failure}
      (reads : w.files.readText (Run.reportFile ((Path.ofText artifactsRoot).child runId)) = .ok s)
      (parses : Json.parse s = .ok v)
      (misshapen : Record.ofJson v >>= Record.fullLines = .error failure)
      (unreported : ¬ IsReported failure) :
      Escapes fair host service w (.replay runId artifactsRoot) failure

/-- The answer to a drafter's proposal, or to the lack of one. -/
theorem answer_of_draft (prompt : String) (url : Option String) (provider : String) :
    (outcome (draft host service ⟨prompt, url⟩ provider) w).1 = do
      let found ← Provider.ofText (some provider)
      let drafter ← found.drafter host.environment service
      let _ ← Draft.plan drafter ⟨prompt, url⟩
      return 0 := by
  rw [draft, answer_ofExcept_bind]
  refine bind_congr fun found => ?_
  rw [answer_ofExcept_bind]
  refine bind_congr fun drafter => ?_
  rw [answer_ofExcept_bind]
  rfl

theorem answer_of_replay (runId artifactsRoot : String) :
    (outcome (replay runId artifactsRoot) w).1 = do
      let s ← w.files.readText (Run.reportFile ((Path.ofText artifactsRoot).child runId))
      let _ ← Record.parse s >>= Record.fullLines
      return 0 := by
  rw [replay, loadRecord, bind_assoc, answer_look_bind]
  refine bind_congr fun s => ?_
  rw [answer_ofExcept_bind, bind_assoc]
  refine bind_congr fun record => ?_
  rw [answer_ofExcept_bind]
  refine bind_congr fun lines => ?_
  rw [outcome_bind_of_ok (outcome_sayAll _ _)]
  rfl

theorem answer_of_script (planFile : String) :
    (outcome (script planFile) w).1 = do
      let plan ← Plan.load w.files (Path.ofText planFile)
      let _ ← plan.scriptLines
      return 0 := by
  rw [script, loadPlan, answer_look_bind]
  refine bind_congr fun plan => ?_
  rw [answer_ofExcept_bind]
  refine bind_congr fun lines => ?_
  rw [outcome_bind_of_ok (outcome_sayAll _ _)]
  rfl

/-- What drafting fails with is reported, unless the time limit of the model is too long. -/
theorem failsOnly_draft (prompt : String) (url : Option String) (provider : String) :
    FailsOnly (fun failure => IsReported failure ∨ Endless host.environment provider failure)
      (outcome (draft host service ⟨prompt, url⟩ provider) w).1 := by
  have hpropose : ∀ found drafter, Provider.ofText (some provider) = .ok found →
      found.drafter host.environment service = .ok drafter →
      FailsOnly (fun failure => IsReported failure ∨ Endless host.environment provider failure)
        (drafter ⟨prompt, url⟩) := by
    intro found drafter hfound hdrafter
    cases found with
    | builtIn =>
        obtain rfl := Except.ok.inj hdrafter
        exact failsOnly_ok _ _
    | model =>
        cases hconfig : Chat.Config.ofEnvironment host.environment with
        | error failure => simp [Provider.drafter, hconfig, Except.map] at hdrafter
        | ok config =>
            obtain rfl : _ = drafter := by simpa [Provider.drafter, hconfig, Except.map] using hdrafter
            exact fun failure hfails => (failsOnly_ask _ _ _ failure hfails).imp id
              fun hseconds => ⟨hfound, config, hconfig, hseconds⟩
  rw [answer_of_draft]
  refine FailsOnly.bind_of_ok (fun failure h => .inl (failsOnly_ofText _ failure h))
    fun found hfound => ?_
  refine FailsOnly.bind_of_ok (fun failure h => .inl (failsOnly_drafter _ _ _ failure h))
    fun drafter hdrafter => ?_
  refine FailsOnly.bind ?_ fun _ => failsOnly_ok _ _
  exact (hpropose found drafter hfound hdrafter).bind fun raw failure h =>
    .inl (failsOnly_validate raw failure h)

/-- What exporting a script fails with is reported. -/
theorem failsOnly_script (planFile : String) :
    FailsOnly IsReported (outcome (script planFile) w).1 := by
  rw [answer_of_script]
  refine FailsOnly.bind_of_ok (failsOnly_load _ _) fun plan hplan => ?_
  refine FailsOnly.bind ?_ fun _ => failsOnly_ok _ _
  unfold Plan.scriptLines
  cases hlines : plan.lines with
  | error failure =>
      exact failsOnly_error (failsOnly_lines (accepted_of_load hplan) failure hlines)
  | ok steps => exact failsOnly_ok _ _

/-- What a command fails with is reported, or it escapes. -/
theorem failsOnly_perform
    (hb : host.browser.Behaves fair (fun _ => True) fun failure => failure.isBrowser = true)
    (hfair : fair w.browser (Run.callsIn w.events)) (command : Command) :
    FailsOnly (fun failure => IsReported failure ∨ Escapes fair host service w command failure)
      (outcome (perform host service command) w).1 := by
  cases command with
  | draft prompt url provider =>
      exact fun failure hfails => (failsOnly_draft prompt url provider failure hfails).imp id .draft
  | run settings =>
      change FailsOnly _ (outcome (run host service settings) w).1
      rw [answer_of_run]
      refine FailsOnly.bind_of_ok (fun failure h => .inl (failsOnly_start _ _ _ _ failure h))
        fun s hstart => FailsOnly.bind (fun failure hfails => ?_) fun _ => failsOnly_ok _ _
      exact (failsOnly_result hb hstart hfair failure hfails).imp id (.run hstart hfails)
  | replay runId artifactsRoot =>
      change FailsOnly _ (outcome (replay runId artifactsRoot) w).1
      rw [answer_of_replay]
      refine FailsOnly.bind_of_ok
        (fun failure h => .inl (isReported_of_isOfFiles (Files.failsOnly_readText failure h)))
        fun s hread => FailsOnly.bind (fun failure hfails => ?_) fun _ => failsOnly_ok _ _
      unfold Record.parse at hfails
      cases hparse : Json.parse s with
      | error fault =>
          rw [hparse] at hfails
          cases hfails
          exact .inl rfl
      | ok v =>
          rw [hparse] at hfails
          exact or_iff_not_imp_left.mpr (.record hread hparse hfails)
  | script planFile => exact fun failure hfails => .inl (failsOnly_script planFile failure hfails)

/-- What escapes a command is what it fails with, and is not reported. -/
theorem Escapes.answers
    (hb : host.browser.Behaves fair (fun _ => True) fun failure => failure.isBrowser = true)
    {command : Command} {failure : Failure} (h : Escapes fair host service w command failure) :
    (outcome (perform host service command) w).1 = .error failure ∧ ¬ IsReported failure := by
  cases h with
  | draft endless =>
      obtain ⟨hprovider, config, hconfig, hseconds⟩ := endless
      refine ⟨(answer_of_draft _ _ _).trans ?_, not_isReported_of_seconds hseconds⟩
      simp only [hprovider, Provider.drafter, hconfig, Draft.plan, Chat.ask, Chat.request, hseconds,
        bind, Except.bind, Except.map]
  | run starts ends beyond =>
      refine ⟨(answer_of_run _ _ _ _).trans (by simp only [starts, ends, bind, Except.bind]), ?_⟩
      cases beyond with
      | refused refused =>
          obtain ⟨state, calls, hstate, hopen | hclose⟩ := refused
          · exact not_isReported_of_isBrowser
              ((hb.called (.openSession _) trivial hstate).2 failure hopen)
          · exact not_isReported_of_isBrowser ((hb.called .closeSession trivial hstate).2 failure hclose)
      | late late => exact not_isReported_of_seconds late
      | endless endless =>
          obtain ⟨-, config, -, hseconds⟩ := endless
          exact not_isReported_of_seconds hseconds
  | @record runId artifactsRoot s v _ reads parses misshapen unreported =>
      have hparse : Record.parse s = Record.ofJson v := by rw [Record.parse, parses]
      refine ⟨(answer_of_replay _ _).trans ?_, unreported⟩
      rw [reads]
      change (Record.parse s >>= Record.fullLines) >>= (fun _ => pure 0) = .error failure
      rw [hparse, misshapen]
      rfl

/-- A command ends with the code 0 or 1. -/
theorem code_of_perform {command : Command} {code : Nat}
    (h : (outcome (perform host service command) w).1 = .ok code) : code = 0 ∨ code = 1 := by
  cases command with
  | draft prompt url provider =>
      obtain ⟨_, -, h⟩ := exists_of_bind_eq_ok ((answer_of_draft _ _ _).symm.trans h)
      obtain ⟨_, -, h⟩ := exists_of_bind_eq_ok h
      obtain ⟨_, -, h⟩ := exists_of_bind_eq_ok h
      exact .inl (Except.ok.inj h).symm
  | run settings =>
      obtain ⟨_, -, h⟩ := exists_of_bind_eq_ok ((answer_of_run _ _ _ _).symm.trans h)
      obtain ⟨report, -, h⟩ := exists_of_bind_eq_ok h
      obtain rfl := Except.ok.inj h
      cases report.verdict with
      | passed => exact .inl rfl
      | failed => exact .inr rfl
  | replay runId artifactsRoot =>
      obtain ⟨_, -, h⟩ := exists_of_bind_eq_ok ((answer_of_replay _ _).symm.trans h)
      obtain ⟨_, -, h⟩ := exists_of_bind_eq_ok h
      exact .inl (Except.ok.inj h).symm
  | script planFile =>
      obtain ⟨_, -, h⟩ := exists_of_bind_eq_ok ((answer_of_script _).symm.trans h)
      obtain ⟨_, -, h⟩ := exists_of_bind_eq_ok h
      exact .inl (Except.ok.inj h).symm

/-- The answer to a command line, by what carrying out its command ends with. -/
theorem answer_of_execute {arguments : List String} {command : Command}
    (h : Command.parse arguments = .ok command) :
    (outcome (execute host service arguments) w).1 =
      match (outcome (perform host service command) w).1 with
      | .ok code => .ok ⟨code, some ""⟩
      | .error failure =>
        if isReported failure then .ok ⟨1, some (failure.message ++ "\n")⟩ else .error failure := by
  unfold execute
  rw [h]
  dsimp only
  rw [outcome_handling, outcome_bind]
  rcases outcome (perform host service command) w with ⟨failure | code, w'⟩
  · by_cases hreported : isReported failure <;> simp [hreported]
  · rfl

section CommandLines

variable {arguments : List String} {command : Command}

theorem execute_eq_error_iff (hparse : Command.parse arguments = .ok command) {failure : Failure} :
    (outcome (execute host service arguments) w).1 = .error failure ↔
      (outcome (perform host service command) w).1 = .error failure ∧ ¬ IsReported failure := by
  rw [answer_of_execute hparse]
  cases (outcome (perform host service command) w).1 with
  | ok code => simp
  | error found =>
      by_cases hreported : isReported found = true
      · simp only [hreported, if_true, reduceCtorEq, Except.error.injEq, false_iff, not_and,
          not_not]
        rintro rfl
        exact hreported
      · simp only [hreported, Bool.false_eq_true, if_false, Except.error.injEq, iff_self_and]
        rintro rfl
        exact hreported

/-- A code other than 1 is that of a command that does not fail. -/
theorem code_of_execute (hparse : Command.parse arguments = .ok command) {out : Outcome}
    (h : (outcome (execute host service arguments) w).1 = .ok out) :
    out.code = 1 ∧ (∀ code, (outcome (perform host service command) w).1 ≠ .ok code) ∨
      (outcome (perform host service command) w).1 = .ok out.code := by
  rw [answer_of_execute hparse] at h
  cases hperform : (outcome (perform host service command) w).1 with
  | ok code =>
      rw [hperform] at h
      obtain rfl := Except.ok.inj h
      exact .inr rfl
  | error found =>
      rw [hperform] at h
      dsimp only at h
      split at h
      · obtain rfl := Except.ok.inj h
        exact .inl ⟨rfl, nofun⟩
      · cases h

/-- The code of a run is 0 just if its last report is of a passed run. -/
theorem run_eq_zero_iff (settings : RunSettings) :
    (outcome (run host service settings) w).1 = .ok 0 ↔
      ∃ s report, start host service settings w.files = .ok s ∧
        s.result host settings w = .ok report ∧ report.verdict = .passed := by
  rw [answer_of_run]
  constructor
  · intro h
    obtain ⟨s, hstart, h⟩ := exists_of_bind_eq_ok h
    obtain ⟨report, hresult, h⟩ := exists_of_bind_eq_ok h
    refine ⟨s, report, hstart, hresult, ?_⟩
    cases hverdict : report.verdict with
    | passed => rfl
    | failed =>
        rw [hverdict] at h
        cases h
  · rintro ⟨s, report, hstart, hresult, hverdict⟩
    simp only [hstart, hresult, hverdict, bind, Except.bind, exitCode]
    rfl

/-- A live run that is ready ends with the failure of a browser that does not open its session. -/
theorem result_of_refused {settings : RunSettings} {s : Start} {failure : Failure}
    (hlive : settings.dryRun = false)
    (hready : Run.readiness host settings.options s.plan (Run.dirOf settings.options w) w.files =
      .ok ())
    (hrefused : (host.browser.openSession (!settings.headed) w.browser).answer = .error failure) :
    s.result host settings w = .error failure := by
  have hdir : Run.dirOf settings.options { w with said := w.said ++ s.before } =
      Run.dirOf settings.options w := by
    simp only [Run.dirOf, Run.nameOf]
  have hrun : (outcome (Walkthrough.run host settings.options s.plan)
      { w with said := w.said ++ s.before }).1 = .error failure :=
    Run.answer_of_refused hlive (by rw [hdir]; exact hready) hrefused
  rw [Start.result, runWithRepair, outcome_bind]
  rcases hends : outcome (Walkthrough.run host settings.options s.plan)
    { w with said := w.said ++ s.before } with ⟨found | report, w'⟩
  · rw [hends] at hrun
    exact hrun
  · rw [hends] at hrun
    cases hrun

/-- With a browser that fails only with its own failures, a command line fails with what escapes its
command, and else it ends with the code 0 or 1. The code of a run is 0 just if its last report is of a
passed run. The failure of a browser that does not open the session of a live run always escapes. -/
theorem commands_exit_or_escape
    (hb : host.browser.Behaves fair (fun _ => True) fun failure => failure.isBrowser = true)
    (service : Chat.Service) (hfair : fair w.browser (Run.callsIn w.events))
    (hparse : Command.parse arguments = .ok command) :
    (∀ failure, (outcome (execute host service arguments) w).1 = .error failure ↔
      Escapes fair host service w command failure) ∧
    (∀ out, (outcome (execute host service arguments) w).1 = .ok out →
      out.code = 0 ∨ out.code = 1) ∧
    ∀ settings, command = .run settings →
      (∀ out, (outcome (execute host service arguments) w).1 = .ok out →
        (out.code = 0 ↔ ∃ s report, start host service settings w.files = .ok s ∧
          s.result host settings w = .ok report ∧ report.verdict = .passed)) ∧
      ∀ s failure, settings.dryRun = false → start host service settings w.files = .ok s →
        Run.readiness host settings.options s.plan (Run.dirOf settings.options w) w.files = .ok () →
        (host.browser.openSession (!settings.headed) w.browser).answer = .error failure →
        (outcome (execute host service arguments) w).1 = .error failure := by
  have hescapes : ∀ failure, (outcome (execute host service arguments) w).1 = .error failure ↔
      Escapes fair host service w command failure := by
    intro failure
    rw [execute_eq_error_iff hparse]
    constructor
    · rintro ⟨hfails, hunreported⟩
      exact (failsOnly_perform hb hfair command failure hfails).resolve_left hunreported
    · exact Escapes.answers hb
  refine ⟨hescapes, fun out hout => ?_, fun settings hrun => ⟨fun out hout => ?_, ?_⟩⟩
  · rcases code_of_execute hparse hout with ⟨hcode, -⟩ | hperform
    · exact .inr hcode
    · exact code_of_perform hperform
  · subst hrun
    rw [← run_eq_zero_iff]
    rcases code_of_execute hparse hout with ⟨hcode, hfails⟩ | hperform
    · rw [hcode]
      exact iff_of_false Nat.one_ne_zero (hfails 0)
    · rw [show outcome (run host service settings) w = outcome (perform host service (.run settings)) w
        from rfl, hperform, Except.ok.injEq]
  · subst hrun
    intro s failure hlive hstart hready hrefused
    refine (hescapes failure).mpr (.run hstart (result_of_refused hlive hready hrefused) (.refused ?_))
    exact ⟨w.browser, _, hfair, .inl hrefused⟩

end CommandLines

end Commands

/-- A plan that goes to a page passes, and so does the command that runs it. -/
theorem commands_exit_or_escape_passed :
    let plan : Plan := ⟨.str "1", .null, .null, [.goto (.str "https://example.com/")]⟩
    let w : World Page := ⟨.blank, 0, (Files.empty []).put ["plan.json"] (.file (.text plan.text)),
      .empty Profile.defaultDomain, 0, [], [], []⟩
    let host : Host Page := ⟨Page.browser, [], some []⟩
    let settings : RunSettings :=
      ⟨"plan.json", none, false, "runs", 0, "mock", .ofInt 30, 10000, false⟩
    let service : Chat.Service := fun _ => default
    Page.blank.FailsBy (fun failure => failure.isBrowser = true) ∧
      Command.parse ["run", "plan.json"] = .ok (.run settings) ∧
      ∃ out, (outcome (execute host service ["run", "plan.json"]) w).1 = .ok out ∧ out.code = 0 ∧
        ∃ s report, start host service settings w.files = .ok s ∧
          s.result host settings w = .ok report ∧ report.verdict = .passed := by
  intro plan w host settings service
  have hpage : Page.blank.FailsBy fun failure => failure.isBrowser = true := nofun
  have hb : host.browser.Behaves
      (fun page _ => page.FailsBy fun failure => failure.isBrowser = true) (fun _ => True)
      fun failure => failure.isBrowser = true := Page.behaves_browser (fun _ => rfl) _
  have hparse : Command.parse ["run", "plan.json"] = .ok (.run settings) := rfl
  have hended : endsIn (execute host service ["run", "plan.json"]) w (fun out _ => out.code == 0) =
      true := by decide +kernel
  obtain ⟨out, w', hexecute, hcode⟩ := endsIn_iff.mp hended
  have hout : (outcome (execute host service ["run", "plan.json"]) w).1 = .ok out := by rw [hexecute]
  have hzero : out.code = 0 := by simpa using hcode
  obtain ⟨-, -, hruns⟩ := commands_exit_or_escape (w := w) hb service hpage hparse
  exact ⟨hpage, hparse, out, hout, hzero, ((hruns settings rfl).1 out hout).mp hzero⟩

/-- A run whose browser does not start ends with no exit code, and neither does the replay of a record
without members. -/
theorem refused_launch_escapes :
    let plan : Plan := ⟨.str "1", .null, .null, [.goto (.str "https://example.com/")]⟩
    let page : Page := { Page.blank with faults := [("launch", .browser "no browser")] }
    let files := ((((Files.empty []).put ["plan.json"] (.file (.text plan.text))).put ["runs"]
      .directory).put ["runs", "r"] .directory).put ["runs", "r", "RunResult.json"] (.file (.text "{}"))
    let w : World Page := ⟨page, 0, files, .empty Profile.defaultDomain, 0, [], [], []⟩
    let host : Host Page := ⟨Page.browser, [], some []⟩
    let service : Chat.Service := fun _ => default
    (∃ failure, (outcome (execute host service ["run", "plan.json"]) w).1 = .error failure ∧
      failure.isBrowser = true) ∧
    ∃ failure, (outcome (execute host service ["replay", "r"]) w).1 = .error failure ∧
      ¬ IsReported failure := by
  intro plan page files w host service
  have hran : failsIn (execute host service ["run", "plan.json"]) w
      (fun failure _ => failure.isBrowser) = true := by decide +kernel
  have hreplayed : failsIn (execute host service ["replay", "r"]) w
      (fun failure _ => !isReported failure) = true := by decide +kernel
  obtain ⟨browser, _, hrun, hbrowser⟩ := failsIn_iff.mp hran
  obtain ⟨missing, _, hreplay, hmissing⟩ := failsIn_iff.mp hreplayed
  refine ⟨⟨browser, by rw [hrun], hbrowser⟩, missing, by rw [hreplay], fun hreported => ?_⟩
  rw [show isReported missing = true from hreported] at hmissing
  cases hmissing

end CommandLine
end Walkthrough
