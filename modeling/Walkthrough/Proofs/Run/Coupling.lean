import Walkthrough.Proofs.Effect
import Walkthrough.Proofs.Run.Parts

/-! # Runs in lockstep

Two runs that differ only in the values of secrets go through the same parts, so a relation between
their worlds that each kind of part keeps is kept by whole steps and by whole runs. With the same
secrets on both sides this follows a single run. -/

namespace Walkthrough

open Effect

variable {σ α : Type}

/-- Whether a call is made on a page, and not for the session or its trace. -/
def Call.isOnPage : Call → Bool
  | .openSession _ | .closeSession | .startTrace | .stopTrace _ => false
  | _ => true

/-- Whether a call is made for an artifact of a run. -/
def Call.isArtifact : Call → Bool
  | .startTrace | .stopTrace _ | .screenshot _ | .content => true
  | _ => false

/-- Whether a call is made on a page to carry out an action. -/
def Call.isAct (c : Call) : Bool :=
  c.isOnPage && !c.isArtifact

theorem Call.isOnPage_of_isAct {c : Call} (h : c.isAct) : c.isOnPage :=
  (Bool.and_eq_true_iff.mp h).1

/-- What a browser replies to each call. -/
inductive Browser.Replies (b : Browser σ) : {α : Type} → Call → (σ → Reply σ α) → Prop
  | openSession (headless : Bool) : b.Replies (.openSession headless) (b.openSession headless)
  | closeSession : b.Replies .closeSession b.closeSession
  | startTrace : b.Replies .startTrace b.startTrace
  | stopTrace (path : String) : b.Replies (.stopTrace path) b.stopTrace
  | goto (url : String) (timeout : Int) : b.Replies (.goto url timeout) (b.goto url timeout)
  | waitFor (key : Key) (presence : Presence) (timeout : Int) :
      b.Replies (.waitFor key presence timeout) (b.waitFor key presence timeout)
  | click (key : Key) (timeout : Int) : b.Replies (.click key timeout) (b.click key timeout)
  | fill (key : Key) (s : String) (timeout : Int) :
      b.Replies (.fill key s timeout) (b.fill key s timeout)
  | count (key : Key) : b.Replies (.count key) (b.count key)
  | waitForUrl (url : String) (matched : Bool) (timeout : Int) :
      b.Replies (.waitForUrl url matched timeout) (b.waitForUrl matched timeout)
  | pause (ms : Int) : b.Replies (.pause ms) (b.pause ms)
  | screenshot (path : String) : b.Replies (.screenshot path) b.screenshot
  | content : b.Replies .content b.content

/-- Related worlds look the same to what reads them, with a browser. -/
structure World.SeenAlike (b : Browser σ) (r : World σ → World σ → Prop) : Prop where
  url {w w' : World σ} (h : r w w') : b.url w'.browser = b.url w.browser
  now {w w' : World σ} (h : r w w') : w'.now = w.now
  profile {w w' : World σ} (h : r w w') : w'.profile = w.profile

theorem World.SeenAlike.respects_now {b : Browser σ} {r : World σ → World σ → Prop}
    (h : World.SeenAlike b r) : Respects r (Work.now : Work σ Instant) :=
  lockstep_get.bind fun _ _ hr => lockstep_pure (h.now hr).symm

/-- Work by itself is followed in equal worlds, which look the same. -/
theorem seenAlike_along (b : Browser σ) (r : World σ → World σ → Prop) (w : World σ) :
    World.SeenAlike b (Along r w) where
  url h := by rw [h.1]
  now h := by rw [h.1]
  profile h := by rw [h.1]

namespace Stage

/-- The same stage with other values of secrets. -/
def withSecrets (stage : Stage σ) (secrets : Secret.Store) : Stage σ :=
  { stage with secrets := secrets }

/-- Whatever a field is filled with, the values of secrets on a stage and other ones lead to related
worlds, or the same one is missing. -/
def FillsAlike (r : World σ → World σ → Prop) (stage : Stage σ) (other : Secret.Store) : Prop :=
  ∀ s, Answers (fun plain plain' => ∀ key limit, Lockstep r Eq
    (Work.call (.fill key plain limit) (stage.browser.fill key plain limit))
    (Work.call (.fill key plain' limit) (stage.browser.fill key plain' limit)))
    (Secret.resolve stage.secrets s) (Secret.resolve other s)

/-- A relation that is kept by what actions are made of that look for no target and fill nothing. -/
structure Acting (r : World σ → World σ → Prop) (stage : Stage σ) : Prop where
  url {w w' : World σ} (h : r w w') : stage.browser.url w'.browser = stage.browser.url w.browser
  called {α : Type} {c : Call} {reply : σ → Reply σ α} (h : stage.browser.Replies c reply)
    (hact : c.isAct) : Respects r (Work.call c reply)
  read (key : Key) (index : Nat) : Respects r (Work.receive (stage.browser.innerText key index))

/-- A relation that is kept by all actions, also with other values of secrets on the right and with a
clock there that is ahead by some time. -/
structure Moving (r : World σ → World σ → Prop) (stage : Stage σ) (other : Secret.Store) (lag : Int) :
    Prop extends Acting r stage where
  now {w w' : World σ} (h : r w w') : w'.now = w.now + lag
  profile {w w' : World σ} (h : r w w') : w'.profile = w.profile
  learned {w w' : World σ} (target selector : String) (h : r w w') :
    r { w with profile := w.profile.remember target selector }
      { w' with profile := w'.profile.remember target selector }
  filled : FillsAlike r stage other

/-- A relation that is kept by actions, and by what is kept of a page after a failure. -/
structure Keeping (r : World σ → World σ → Prop) (stage : Stage σ) : Prop extends
    Acting r stage where
  viewed {α : Type} {c : Call} {reply : σ → Reply σ α} (h : stage.browser.Replies c reply)
    (hpage : c.isOnPage) : Respects r (Work.call c reply)
  logged (level : Level) (message : String) : Respects r (stage.log level message)
  shot (n : Nat) (data : Text.Content) :
    Respects r (Work.writeFile (Run.screenshotFile stage.runDir n) data)
  snapped (n : Nat) (html : String) :
    Respects r (Work.writeFile (Run.snapshotFile stage.runDir n) (.text (excerpt html)))

/-- A relation that is kept by what the steps on a stage are made of, also with other values of
secrets on the right. -/
structure Coupling (r : World σ → World σ → Prop) (stage : Stage σ) (other : Secret.Store) : Prop
    extends World.SeenAlike stage.browser r where
  learned {w w' : World σ} (target selector : String) (h : r w w') :
    r { w with profile := w.profile.remember target selector }
      { w' with profile := w'.profile.remember target selector }
  called {α : Type} {c : Call} {reply : σ → Reply σ α} (h : stage.browser.Replies c reply)
    (hpage : c.isOnPage) : Respects r (Work.call c reply)
  read (key : Key) (index : Nat) : Respects r (Work.receive (stage.browser.innerText key index))
  filled : FillsAlike r stage other
  logged (level : Level) (message : String) : Respects r (stage.log level message)
  shot (n : Nat) (data : Text.Content) :
    Respects r (Work.writeFile (Run.screenshotFile stage.runDir n) data)
  snapped (n : Nat) (html : String) :
    Respects r (Work.writeFile (Run.snapshotFile stage.runDir n) (.text (excerpt html)))

variable {r : World σ → World σ → Prop} {stage : Stage σ} {other : Secret.Store} {lag : Int}

theorem Coupling.keeping (h : Coupling r stage other) : Keeping r stage where
  url := h.url
  called hreply hact := h.called hreply (Call.isOnPage_of_isAct hact)
  read := h.read
  viewed := h.called
  logged := h.logged
  shot := h.shot
  snapped := h.snapped

theorem Coupling.moving (h : Coupling r stage other) : Moving r stage other 0 where
  toActing := h.keeping.toActing
  now hr := by rw [h.now hr, Int.add_zero]
  profile := h.profile
  learned := h.learned
  filled := h.filled

/-- With the same values of secrets a fill is a call like others. -/
theorem fillsAlike_self
    (h : ∀ key s limit, Respects r (Work.call (.fill key s limit) (stage.browser.fill key s limit))) :
    FillsAlike r stage stage.secrets := by
  intro s
  cases Secret.resolve stage.secrets s with
  | ok plain => exact .ok fun key limit => h key plain limit
  | error failure => exact .error failure

/-! ## Actions -/

theorem Moving.learn (h : Moving r stage other lag) (target : String) (c : Candidate) :
    Respects r (Locate.learn target c : Work σ Unit) := by
  unfold Locate.learn
  cases c.selector with
  | some selector => exact lockstep_modify fun _ _ hr => h.learned target selector hr
  | none => exact lockstep_pure rfl

theorem Moving.clock (h : Moving r stage other lag) :
    Lockstep r (fun t t' : Instant => t' = t + lag) Work.now Work.now :=
  lockstep_get.bind fun _ _ hr => lockstep_pure (h.now hr)

/-- A deadline that is put off by as much as the clock is ahead leaves the same time. -/
theorem Moving.probe (h : Moving r stage other lag) (target : String) (deadline : Instant)
    (tried : List String) (candidates : List Candidate) :
    Lockstep r Eq (Locate.probe stage.browser target deadline tried candidates)
      (Locate.probe stage.browser target (deadline + lag) tried candidates) := by
  induction candidates generalizing tried with
  | nil => exact lockstep_throw _
  | cons c rest ih =>
      refine h.clock.bind fun now now' hnow => ?_
      subst hnow
      dsimp only
      rw [Int.add_sub_add_right]
      split
      · exact lockstep_throw _
      · refine (h.called (.waitFor _ _ _) rfl).attempt_eq.bind_eq fun answer => ?_
        cases answer with
        | ok _ => exact (h.learn target c).bind_eq fun _ => lockstep_pure rfl
        | error failure =>
            dsimp only
            split
            · exact ih _
            · exact lockstep_throw failure

theorem Moving.resolve (h : Moving r stage other lag) (target : String) (selector : Option String)
    (timeout : Int) : Respects r (Locate.resolve stage.browser target selector timeout) := by
  refine (respects_ofExcept _).bind_eq fun _ => lockstep_get.bind fun w w' hr => ?_
  rw [h.now hr, h.profile hr, Int.add_right_comm]
  exact h.probe _ _ _ _

theorem lockstep_waiting (wait : Wait) (timeout : String) {x y : Work σ α}
    (hx : Lockstep r Eq x y) : Lockstep r Eq (waiting wait timeout x) (waiting wait timeout y) :=
  hx.handling fun _ => lockstep_throw _

theorem Acting.goto (h : Acting r stage) (payload : Table Json) :
    Respects r (stage.goto payload) :=
  (respects_ofExcept _).bind_eq fun _ => lockstep_waiting _ _ (h.called (.goto _ _) rfl)

theorem Moving.click (h : Moving r stage other lag) (payload : Table Json) :
    Respects r (stage.click payload) :=
  (respects_ofExcept _).bind_eq fun _ => (h.resolve _ _ _).bind_eq fun _ =>
    lockstep_waiting _ _ (h.called (.click _ _) rfl)

/-- What a field is filled with may differ, and nothing else. -/
theorem Moving.fill (h : Moving r stage other lag) (payload : Table Json) :
    Lockstep r Eq (stage.fill payload) ((stage.withSecrets other).fill payload) :=
  (respects_ofExcept _).bind_eq fun _ => (respects_ofExcept _).bind_eq fun value =>
    (h.resolve _ _ _).bind_eq fun _ => (lockstep_ofExcept (h.filled value)).bind fun _ _ hplain =>
      lockstep_waiting _ _ (hplain _ _)

theorem Acting.awaitElement (h : Acting r stage) (key : Key) (presence : Presence)
    (wait : Wait) (timeout : Json) (limit : Int) :
    Respects r (stage.awaitElement key presence wait timeout limit) :=
  lockstep_waiting _ _ (h.called (.waitFor _ _ _) rfl)

theorem Acting.awaitUrl (h : Acting r stage) (fragment : String) (timeout : Json)
    (limit : Int) : Respects r (stage.awaitUrl fragment timeout limit) := by
  refine lockstep_get.bind fun w w' hr => ?_
  rw [h.url hr]
  exact lockstep_waiting _ _ (h.called (.waitForUrl _ _ _) rfl)

theorem Acting.expect (h : Acting r stage) (payload : Table Json) :
    Respects r (stage.expect payload) := by
  unfold Stage.expect
  dsimp only
  split
  · exact h.awaitElement _ _ _ _ _
  · exact h.awaitUrl _ _ _
  · exact h.awaitElement _ _ _ _ _
  · exact lockstep_throw _

theorem Acting.waitFor (h : Acting r stage) (payload : Table Json) :
    Respects r (stage.waitFor payload) := by
  unfold Stage.waitFor
  dsimp only
  split
  · exact h.awaitElement _ _ _ _ _
  · exact h.awaitElement _ _ _ _ _
  · exact h.called (.pause _) rfl
  · exact lockstep_throw _

theorem Acting.readTexts (h : Acting r stage) (other : Secret.Store) (key : Key) (index n : Nat) :
    Lockstep r Eq (stage.readTexts key index n)
      ((stage.withSecrets other).readTexts key index n) := by
  induction n generalizing index with
  | zero => exact lockstep_pure rfl
  | succ n ih =>
      exact (h.read _ _).bind_eq fun _ => (ih _).bind_eq fun _ => lockstep_pure rfl

theorem Acting.extract (h : Acting r stage) (other : Secret.Store) (payload : Table Json) :
    Lockstep r Eq (stage.extract payload) ((stage.withSecrets other).extract payload) :=
  (respects_ofExcept _).bind_eq fun _ => (respects_ofExcept _).bind_eq fun _ =>
    (h.called (.count _) rfl).bind_eq fun _ => (h.readTexts other _ _ _).bind_eq fun _ => lockstep_pure rfl

theorem Moving.act (h : Moving r stage other lag) (action : Action) :
    Lockstep r Eq (stage.act action) ((stage.withSecrets other).act action) := by
  unfold Stage.act
  split
  · exact (h.goto _).bind_eq fun _ => lockstep_pure rfl
  · exact (h.click _).bind_eq fun _ => lockstep_pure rfl
  · exact (h.fill _).bind_eq fun _ => lockstep_pure rfl
  · exact (h.expect _).bind_eq fun _ => lockstep_pure rfl
  · exact (h.waitFor _).bind_eq fun _ => lockstep_pure rfl
  · exact (h.extract other _).bind_eq fun _ => lockstep_pure rfl
  · exact lockstep_throw _

/-! ## Steps -/

theorem Keeping.tolerating (h : Keeping r stage) (artifact : Artifact) (path : String)
    {x : Work σ Unit} (hx : Respects r x) :
    Respects r (stage.tolerating artifact path x) := by
  refine hx.attempt_eq.bind_eq fun answer => ?_
  cases answer with
  | ok _ => exact lockstep_pure rfl
  | error failure =>
      dsimp only
      split
      · exact (h.logged _ _).bind_eq fun _ => lockstep_pure rfl
      · exact lockstep_throw _

theorem Keeping.keepEvidence (h : Keeping r stage) (n : Nat) :
    Respects r (stage.keepEvidence n) :=
  (h.tolerating _ _ ((h.viewed (.screenshot _) rfl).bind_eq fun data => h.shot n data)).bind_eq
    fun _ =>
  (h.tolerating _ _ ((h.viewed .content rfl).bind_eq fun html => h.snapped n html)).bind_eq
    fun _ =>
  lockstep_pure rfl

theorem Coupling.run (h : Coupling r stage other) (p : Primitive) :
    Lockstep r Eq (stage.run p) ((stage.withSecrets other).run p) := by
  refine h.respects_now.bind_eq fun started => (h.logged _ _).bind_eq fun _ =>
    (h.moving.act _).attempt_eq.bind_eq fun answer => ?_
  cases answer with
  | ok extract =>
      exact h.respects_now.bind_eq fun _ => lockstep_pure rfl
  | error failure =>
      dsimp only
      split
      · exact h.respects_now.bind_eq fun _ => (h.logged _ _).bind_eq fun _ =>
          (h.keeping.keepEvidence _).bind_eq fun _ => h.respects_now.bind_eq fun _ => lockstep_pure rfl
      · exact lockstep_throw _

theorem Coupling.steps (h : Coupling r stage other) (progress : Run.Progress)
    (primitives : List Primitive) :
    Lockstep r Eq (Run.steps stage progress primitives)
      (Run.steps (stage.withSecrets other) progress primitives) := by
  induction primitives generalizing progress with
  | nil => exact lockstep_pure rfl
  | cons p rest ih =>
      refine (h.run p).bind_eq fun outcome => ?_
      dsimp only
      cases outcome.report.verdict with
      | failed => exact lockstep_pure rfl
      | passed => exact ih _

end Stage

namespace Run

/-- A relation that is kept by a session and its trace, beside the work in them. -/
structure Tracing (r : World σ → World σ → Prop) (stage : Stage σ) : Prop where
  called {α : Type} {c : Call} {reply : σ → Reply σ α} (h : stage.browser.Replies c reply) :
    Respects r (Work.call c reply)
  logged (level : Level) (message : String) : Respects r (stage.log level message)
  kept (data : Text.Content) : Respects r (Work.writeFile (traceFile stage.runDir) data)

/-- A relation that is kept by what a run in a directory is made of, once its site profile is loaded,
beside the steps. -/
structure Onward (r : World σ → World σ → Prop) (b : Browser σ) (runDir profiles : Path) : Prop
    extends World.SeenAlike b r where
  profiled {w w' : World σ} (profile : Profile) (h : r w w') :
    r { w with profile := profile } { w' with profile := profile }
  called {α : Type} {c : Call} {reply : σ → Reply σ α} (h : b.Replies c reply) :
    Respects r (Work.call c reply)
  read (key : Key) (index : Nat) : Respects r (Work.receive (b.innerText key index))
  logged (level : Level) (message : String) : Respects r (logTo runDir level message)
  housed {root : Path} (h : root = runDir ∨ root = profiles) :
    Respects r (Work.change fun files => files.ensureDirectory root)
  written {path : Path} {content : Text.Content} (h : Output runDir profiles path content) :
    Respects r (Work.writeFile path content)

/-- A relation that is kept by what a run in a directory is made of, beside the steps. -/
structure Coupling (r : World σ → World σ → Prop) (b : Browser σ) (runDir profiles : Path) : Prop
    extends Onward r b runDir profiles where
  looked {α : Type} (f : Files → Except Failure α) : Respects r (Work.look f)
  noted (level : Level) (message : String) : Respects r (Work.note level message)
  opened : Respects r (openLog runDir)

/-- A relation that is kept by what a live run in a directory does until its site profile is loaded. -/
structure Preparing (r : World σ → World σ → Prop) (runDir : Path) : Prop where
  now {w w' : World σ} (h : r w w') : w'.now = w.now
  profiled {w w' : World σ} (profile : Profile) (h : r w w') :
    r { w with profile := profile } { w' with profile := profile }
  housed : Respects r (Work.change fun files => files.ensureDirectory runDir)
  looked {α : Type} (f : Files → Except Failure α) : Respects r (Work.look f)
  noted (level : Level) (message : String) : Respects r (Work.note level message)
  opened : Respects r (openLog runDir)

variable {r : World σ → World σ → Prop} {b : Browser σ} {runDir profiles : Path} {stage : Stage σ}
  {other : Secret.Store}

/-- What a run is made of, steps are made of, but for what fields are filled with. -/
theorem Onward.staged (h : Onward r stage.browser stage.runDir profiles)
    (hfilled : Stage.FillsAlike r stage other) : Stage.Coupling r stage other where
  toSeenAlike := h.toSeenAlike
  learned target selector hr := by
    rw [h.profile hr]
    exact h.profiled _ hr
  called hreply _ := h.called hreply
  read := h.read
  filled := hfilled
  logged := h.logged
  shot n data := h.written (.screenshot n data)
  snapped n html := h.written (.snapshot n html)

/-! ## Sessions -/

theorem Onward.tracing (h : Onward r stage.browser stage.runDir profiles) : Tracing r stage where
  called := h.called
  logged := h.logged
  kept data := h.written (.trace data)

theorem Tracing.startTrace (h : Tracing r stage) : Respects r (startTrace stage) :=
  (h.called .startTrace).handling fun _ => h.logged _ _

theorem Tracing.stopTrace (h : Tracing r stage) : Respects r (stopTrace stage) :=
  ((h.called (.stopTrace _)).bind_eq fun data => h.kept data).handling fun _ => h.logged _ _

theorem Tracing.session (h : Tracing r stage) (headless : Bool) {x y : Work σ α} (hx : Lockstep r Eq x y) :
    Lockstep r Eq (session stage headless x) (session (stage.withSecrets other) headless y) :=
  (h.called (.openSession _)).bind_eq fun _ => hx.andFinally (h.called .closeSession)

theorem Onward.saveProfile (h : Onward r stage.browser stage.runDir profiles) :
    Respects r (saveProfile stage profiles) := by
  refine Lockstep.bind_eq (lockstep_modify fun w w' hr => ?_) fun _ =>
    lockstep_get.bind fun w w' hr => ?_
  · have hsame : { w'.profile with updatedAt := w'.now.text } =
        { w.profile with updatedAt := w.now.text } := by rw [h.profile hr, h.now hr]
    simpa only [hsame] using h.profiled _ hr
  · rw [h.profile hr]
    refine Lockstep.bind_eq (Lockstep.attempt_eq ?_) fun answer => ?_
    · exact ((h.housed (.inr rfl)).bind_eq fun _ => (h.written (.profile _)).bind_eq fun _ =>
        lockstep_pure rfl).handling fun _ => lockstep_throw _
    · cases answer with
      | ok _ => exact lockstep_pure rfl
      | error failure =>
          dsimp only
          split
          · exact h.logged _ _
          · exact lockstep_throw _

theorem Onward.carryOut {options : RunOptions}
    (h : Onward r stage.browser stage.runDir options.profiles)
    (hfilled : Stage.FillsAlike r stage other) (primitives : List Primitive) :
    Lockstep r Eq (carryOut stage options primitives)
      (carryOut (stage.withSecrets other) options primitives) :=
  (h.tracing.session _ (h.tracing.startTrace.bind_eq fun _ =>
    ((h.staged hfilled).steps _ _).andFinally h.tracing.stopTrace)).andFinally h.saveProfile

/-! ## Whole runs -/

theorem Coupling.preparing (h : Coupling r b runDir profiles) : Preparing r runDir where
  now := h.now
  profiled := h.profiled
  housed := h.housed (.inl rfl)
  looked := h.looked
  noted := h.noted
  opened := h.opened

theorem Preparing.load (h : Preparing r runDir) (root : Path) (domain : String) :
    Respects r (Profile.load root domain : Work σ Profile) := by
  refine Lockstep.bind_eq (Lockstep.attempt_eq ?_) fun answer => ?_
  · exact (h.looked _).bind_eq fun _ => respects_ofExcept _
  · split
    · exact lockstep_pure rfl
    · exact (h.noted _ _).bind_eq fun _ => lockstep_pure rfl
    · exact lockstep_pure rfl
    · split
      · exact (h.noted _ _).bind_eq fun _ => lockstep_pure rfl
      · exact lockstep_throw _

section Hosts

variable {host host' : Host σ} {options : RunOptions} {q : Secret.Store → Secret.Store → Prop}

/-- Hosts with the same browser whose values of secrets are related, and fill alike if they are. -/
structure Paired (r : World σ → World σ → Prop) (host host' : Host σ) (options : RunOptions)
    (runDir : Path) (q : Secret.Store → Secret.Store → Prop) : Prop where
  browser : host'.browser = host.browser
  secrets : Lockstep r q (secretsFor host options) (secretsFor host' options)
  filled {secrets secrets' : Secret.Store} (h : q secrets secrets') :
    Stage.FillsAlike r ⟨host.browser, options.timeoutMs, secrets, runDir⟩ secrets'

theorem Coupling.live (h : Coupling r host.browser runDir options.profiles)
    (hhosts : Paired r host host' options runDir q) (runId : String) (plan : Plan)
    (primitives : List Primitive) :
    Lockstep r Eq (live host options runId runDir plan primitives)
      (live host' options runId runDir plan primitives) := by
  rw [live_eq, live_eq]
  refine h.respects_now.bind_eq fun started => hhosts.secrets.bind fun secrets secrets' hq => ?_
  let stage : Stage σ := ⟨host.browser, options.timeoutMs, secrets, runDir⟩
  have hcarried : Lockstep r Eq (Run.carryOut stage options primitives)
      (Run.carryOut (stage.withSecrets secrets') options primitives) :=
    Onward.carryOut h.toOnward (hhosts.filled hq) primitives
  unfold liveWith
  rw [hhosts.browser]
  exact (respects_ofExcept _).bind_eq fun _ => (h.preparing.load _ _).bind_eq fun profile =>
    (lockstep_modify fun _ _ hr => h.profiled profile hr).bind_eq fun _ =>
      (h.logged _ _).bind_eq fun _ => hcarried.bind_eq fun _ =>
        h.respects_now.bind_eq fun _ => lockstep_pure rfl

theorem respects_keep {report : Report}
    (h : Respects r (Work.writeFile (reportFile runDir) (.text report.toJson.pretty))) :
    Respects r (keep runDir report : Work σ Unit) := by
  cases hlong : report.toJson.isOverlong with
  | true =>
      rw [keep_of_isOverlong hlong]
      exact lockstep_throw _
  | false =>
      rw [keep_of_not_isOverlong hlong]
      exact h.handling fun _ => lockstep_throw _

theorem Coupling.runAs {runId : String}
    (h : Coupling r host.browser (options.artifactsRoot.child runId) options.profiles)
    (hhosts : Paired r host host' options (options.artifactsRoot.child runId) q) (plan : Plan) :
    Lockstep r Eq (runAs host options plan runId) (runAs host' options plan runId) := by
  refine (h.housed (.inl rfl)).bind_eq fun _ => (respects_ofExcept _).bind_eq fun primitives =>
    h.opened.bind_eq fun _ => Lockstep.bind_eq ?_ fun report =>
      (respects_keep (h.written (.report report))).bind_eq fun _ =>
        (h.logged _ _).bind_eq fun _ => lockstep_pure rfl
  unfold reportOn
  split
  · exact h.respects_now.bind_eq fun _ => lockstep_pure rfl
  · exact h.live hhosts runId plan primitives

end Hosts

end Run
end Walkthrough
