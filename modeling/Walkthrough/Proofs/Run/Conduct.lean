import Walkthrough.Proofs.Run.Saving
import Walkthrough.Proofs.Run.Shape

/-! # What a run keeps to

A run keeps to whatever its browser keeps to, as long as the browser is called in allowed ways. How a
run may fail depends on how its browser does: what an action fails with, fails its step, unless it is
beyond all that is foreseen, and only a session that is not opened or not closed ends the run. -/

namespace Walkthrough

open Effect

variable {σ α : Type}

/-- A browser that stays fair while it is called in allowed ways, and that fails there in some ways
only. What is fair may depend on the calls so far. -/
structure Browser.Behaves (b : Browser σ) (fair : σ → List Call → Prop) (allowed : Call → Prop)
    (p : Failure → Prop) : Prop where
  called {α : Type} {c : Call} {reply : σ → Reply σ α} (h : b.Replies c reply) (hc : allowed c)
    {s : σ} {calls : List Call} (hs : fair s calls) :
    fair (reply s).state (calls ++ [c]) ∧ FailsOnly p (reply s).answer
  read (key : Key) (index : Nat) {s : σ} {calls : List Call} (hs : fair s calls) :
    fair (b.innerText key index s).state calls ∧ FailsOnly p (b.innerText key index s).answer

namespace Page

/-! ## Scripted pages -/

/-- A page whose calls are scripted to fail in some ways only. -/
def FailsBy (p : Failure → Prop) (page : Page) : Prop :=
  ∀ label failure, Table.get? page.faults label = some failure → p failure

/-- A reply that leaves the script of a page as it is, and that fails in some ways only. -/
structure Scripted (p : Failure → Prop) (page : Page) (reply : Reply Page α) : Prop where
  faults : reply.state.faults = page.faults
  fails : FailsOnly p reply.answer

variable {p : Failure → Prop} {page : Page}

theorem scripted_atOnce (a : α) : Scripted p page (page.atOnce a) :=
  ⟨rfl, failsOnly_ok p a⟩

theorem FailsBy.unlessFaulty (h : page.FailsBy p) {label : String} {timeout : Int}
    {reply : Reply Page α} (hreply : Scripted p page reply) :
    Scripted p page (page.unlessFaulty label timeout reply) := by
  unfold Page.unlessFaulty
  split
  · rename_i failure hfault
    have hfailure := h label failure hfault
    unfold faulty
    split <;> exact ⟨rfl, failsOnly_error hfailure⟩
  · exact hreply

theorem scripted_awaiting (hlate : ∀ timeout, p (timedOut timeout)) (key : Key) (timeout : Int)
    {after : Page} (hafter : after.faults = page.faults) :
    Scripted p page (page.awaiting key timeout after) := by
  unfold awaiting
  split
  · split
    · exact ⟨hafter, failsOnly_ok p ()⟩
    · exact ⟨rfl, failsOnly_error (hlate timeout)⟩
  · exact ⟨rfl, failsOnly_error (hlate timeout)⟩

theorem scripted_reply (hlate : ∀ timeout, p (timedOut timeout)) (h : page.FailsBy p) {c : Call}
    {reply : Page → Reply Page α} (hreply : browser.Replies c reply) :
    Scripted p page (reply page) := by
  cases hreply with
  | openSession | startTrace | stopTrace | count | screenshot | content =>
      exact h.unlessFaulty (scripted_atOnce _)
  | closeSession => exact scripted_atOnce ()
  | goto url timeout => exact h.unlessFaulty ⟨rfl, failsOnly_ok p ()⟩
  | waitFor key presence timeout => exact h.unlessFaulty (scripted_awaiting hlate key timeout rfl)
  | click key timeout =>
      refine h.unlessFaulty (scripted_awaiting hlate key timeout ?_)
      unfold clicked
      split <;> rfl
  | fill key s timeout => exact h.unlessFaulty (scripted_awaiting hlate key timeout rfl)
  | waitForUrl url matched timeout =>
      refine h.unlessFaulty ?_
      split
      · exact scripted_atOnce ()
      · exact ⟨rfl, failsOnly_error (hlate timeout)⟩
  | pause ms => exact h.unlessFaulty ⟨rfl, failsOnly_ok p ()⟩

/-- A scripted page fails in the ways of its script, and when time runs out. -/
theorem behaves_browser (hlate : ∀ timeout, p (timedOut timeout)) (allowed : Call → Prop) :
    browser.Behaves (fun page _ => page.FailsBy p) allowed p where
  called hreply _ page _ h := by
    have hscripted := scripted_reply hlate h hreply
    exact ⟨fun label failure hfault => h label failure (hscripted.faults ▸ hfault),
      hscripted.fails⟩
  read key index page _ h := by
    have hscripted : Scripted p page (browser.innerText key index page) :=
      h.unlessFaulty (scripted_atOnce _)
    exact ⟨fun label failure hfault => h label failure (hscripted.faults ▸ hfault),
      hscripted.fails⟩

end Page

/-! ## Worlds -/

/-- A world with a fair browser and a site profile of some domain. -/
structure World.Fair (fair : σ → List Call → Prop) (domain : String) (w : World σ) : Prop where
  browser : fair w.browser (Run.callsIn w.events)
  domain : w.profile.domain = domain

variable {fair : σ → List Call → Prop} {domain : String} {allowed : Call → Prop}
  {p q r : Failure → Prop}

/-- What a run does besides calling its browser leaves a fair world fair. -/
theorem World.Fair.unchanged {w w' : World σ} (h : w.Fair fair domain)
    (hbrowser : w'.browser = w.browser) (hcalls : Run.callsIn w'.events = Run.callsIn w.events)
    (hdomain : w'.profile.domain = w.profile.domain) : w'.Fair fair domain where
  browser := by rw [hbrowser, hcalls]; exact h.browser
  domain := hdomain.trans h.domain

/-! ## Small works -/

theorem upholds_call {b : Browser σ} (hb : b.Behaves fair allowed p) {c : Call}
    {reply : σ → Reply σ α} (h : b.Replies c reply) (hc : allowed c) :
    Upholds (World.Fair fair domain) p (Work.call c reply) := by
  intro w hw
  obtain ⟨hfair, hfails⟩ := hb.called h hc hw.browser
  rw [outcome_call]
  refine ⟨⟨?_, hw.domain⟩, hfails⟩
  simpa [World.after, Run.callsIn] using hfair

theorem upholds_read {b : Browser σ} (hb : b.Behaves fair allowed p) (key : Key) (index : Nat) :
    Upholds (World.Fair fair domain) p (Work.receive (b.innerText key index)) := by
  intro w hw
  obtain ⟨hfair, hfails⟩ := hb.read key index hw.browser
  simp only [outcome_receive]
  exact ⟨⟨hfair, hw.domain⟩, hfails⟩

theorem upholds_now : Upholds (World.Fair fair domain) p (Work.now : Work σ Instant) :=
  upholds_get.bind fun _ => upholds_pure _

theorem upholds_logTo (runDir : Path) (level : Level) (message : String) :
    Upholds (World.Fair fair domain) p (logTo runDir level message : Work σ Unit) := by
  refine upholds_modify fun w hw => ?_
  split
  · exact hw.unchanged rfl rfl rfl
  · exact hw

theorem upholds_writeFile {path : Path} (hnull : Path.hasNull path.text = false)
    (content : Text.Content) :
    Upholds (World.Fair fair domain) (fun failure => failure.isSystem = true)
      (Work.writeFile path content : Work σ Unit) := by
  intro w hw
  rw [outcome_writeFile]
  split
  · exact ⟨hw.unchanged rfl (by simp [Run.callsIn]) rfl, fun _ h => nomatch h⟩
  · rename_i failure hrefused
    refine ⟨hw.unchanged rfl (by simp [Run.callsIn]) rfl, fun found hfound => ?_⟩
    cases hfound
    exact Files.write_eq_error hnull hrefused

/-! ## Guards -/

/-- Whether an action has none of some texts among its arguments. -/
def Action.lacks (action : Action) (keys : List String) : Bool :=
  keys.all fun key => (Stage.text? action.payload key).isNone

/-- Whether an action has some texts among its arguments, none of them empty. -/
def Action.ensure (action : Action) : List String → Except Failure Unit
  | [] => .ok ()
  | key :: rest =>
    match Stage.ensureText action.payload key with
    | .error failure => .error failure
    | .ok _ => ensure action rest

theorem Action.ensure_eq_ok_iff {action : Action} {keys : List String} :
    action.ensure keys = .ok () ↔
      ∀ key ∈ keys, ∃ s, Stage.ensureText action.payload key = .ok s := by
  induction keys with
  | nil => simp [ensure]
  | cons key rest ih =>
      cases hkey : Stage.ensureText action.payload key with
      | error failure => simp [ensure, hkey]
      | ok s => simp [ensure, hkey, ih]

/-- What an action checks of its own arguments before it does anything. -/
def Action.guard (action : Action) : Except Failure Unit :=
  match action.kind with
  | "goto" => action.ensure ["url"]
  | "click" => action.ensure ["target"]
  | "fill" => action.ensure ["field", "value"]
  | "expect" =>
    if action.lacks ["textVisible", "urlIncludes", "elementVisible"] then
      .error (.value (.noCondition "expect"))
    else .ok ()
  | "waitFor" =>
    if action.lacks ["textVisible", "selector"] &&
        ((Table.get? action.payload "timeoutMs").bind Json.toInt?).isNone then
      .error (.value (.noCondition "waitFor"))
    else .ok ()
  | "extractTextList" => action.ensure ["selector", "outputKey"]
  | other => .error (.value (.unknownStep other))

theorem Stage.failsOnly_ensureText (payload : Table Json) (key : String) :
    FailsOnly (fun failure => failure.isValue = true) (ensureText payload key) := by
  unfold ensureText
  split
  · split
    · exact failsOnly_error rfl
    · exact failsOnly_ok _ _
  · exact failsOnly_error rfl

theorem Action.failsOnly_ensure (action : Action) (keys : List String) :
    FailsOnly (fun failure => failure.isValue = true) (action.ensure keys) := by
  induction keys with
  | nil => exact failsOnly_ok _ _
  | cons key rest ih =>
      unfold ensure
      split
      · rename_i failure hfailure
        exact failsOnly_error (Stage.failsOnly_ensureText _ _ failure hfailure)
      · exact ih

/-- What an action checks fails for the sake of its values. -/
theorem Action.failsOnly_guard (action : Action) :
    FailsOnly (fun failure => failure.isValue = true) action.guard := by
  unfold guard
  split
  · exact action.failsOnly_ensure _
  · exact action.failsOnly_ensure _
  · exact action.failsOnly_ensure _
  · split
    · exact failsOnly_error rfl
    · exact failsOnly_ok _ _
  · split
    · exact failsOnly_error rfl
    · exact failsOnly_ok _ _
  · exact action.failsOnly_ensure _
  · exact failsOnly_error rfl

namespace Stage

variable {stage : Stage σ} {action : Action}

/-- An action that does not pass its own guard does nothing but fail. -/
theorem act_of_guard {failure : Failure} (h : action.guard = .error failure) :
    stage.act action = throw failure := by
  unfold Action.guard at h
  split at h <;> rename_i hkind <;> unfold act <;> simp only [hkind]
  · unfold goto
    cases hurl : ensureText action.payload "url" with
    | error found =>
        simp only [Action.ensure, hurl] at h
        cases h
        rfl
    | ok url => simp [Action.ensure, hurl] at h
  · unfold click
    cases htarget : ensureText action.payload "target" with
    | error found =>
        simp only [Action.ensure, htarget] at h
        cases h
        rfl
    | ok target => simp [Action.ensure, htarget] at h
  · unfold fill
    cases hfield : ensureText action.payload "field" with
    | error found =>
        simp only [Action.ensure, hfield] at h
        cases h
        rfl
    | ok field =>
        cases hvalue : ensureText action.payload "value" with
        | error found =>
            simp only [Action.ensure, hfield, hvalue] at h
            cases h
            rfl
        | ok value => simp [Action.ensure, hfield, hvalue] at h
  · split at h
    · rename_i hlacks
      cases h
      simp only [Action.lacks, List.all_cons, List.all_nil, Bool.and_true, Bool.and_eq_true,
        Option.isNone_iff_eq_none] at hlacks
      rw [expect, hlacks.1, hlacks.2.1, hlacks.2.2]
      rfl
    · cases h
  · split at h
    · rename_i hlacks
      cases h
      simp only [Action.lacks, List.all_cons, List.all_nil, Bool.and_true, Bool.and_eq_true,
        Option.isNone_iff_eq_none] at hlacks
      rw [waitFor, hlacks.1.1, hlacks.1.2, hlacks.2]
      rfl
    · cases h
  · unfold extract
    cases hselector : ensureText action.payload "selector" with
    | error found =>
        simp only [Action.ensure, hselector] at h
        cases h
        rfl
    | ok selector =>
        cases houtput : ensureText action.payload "outputKey" with
        | error found =>
            simp only [Action.ensure, hselector, houtput] at h
            cases h
            rfl
        | ok outputKey => simp [Action.ensure, hselector, houtput] at h
  · cases h
    rfl

/-! ## Actions -/

/-- A stage whose browser behaves, and on which actions fail in some ways only: as the browser does, or
because a target is not found, time runs out, a secret is missing or the time limit is too long. -/
structure Conducts (fair : σ → List Call → Prop) (allowed : Call → Prop) (p q : Failure → Prop)
    (stage : Stage σ) : Prop extends stage.browser.Behaves fair allowed p where
  free {c : Call} (h : ∀ url limit, c ≠ .goto url limit) : allowed c
  raised {failure : Failure} (h : p failure) : q failure
  unresolved (target : String) (tried : List String) : q (.unresolved target tried)
  timedOut (wait : Wait) (timeout : String) : q (.timedOut wait timeout)
  missing (name : String) : q (.missingSecret name)
  late {failure : Failure} (h : Clock.seconds stage.timeoutMs = .error failure) : q failure

/-- On a stage whose browser behaves, actions fail in whatever ways. -/
theorem conducts_of_behaves (hb : stage.browser.Behaves fair allowed p)
    (hfree : ∀ c : Call, (∀ url limit, c ≠ .goto url limit) → allowed c) :
    stage.Conducts fair allowed p fun _ => True where
  toBehaves := hb
  free := hfree _
  raised _ := trivial
  unresolved _ _ := trivial
  timedOut _ _ := trivial
  missing _ := trivial
  late _ := trivial

/-- What fails a step, or keeps a time limit from being counted in seconds. -/
def FailsAct (timeoutMs : Int) (failure : Failure) : Prop :=
  failsStep failure = true ∨ Clock.seconds timeoutMs = .error failure

/-- On a stage whose browser fails with what fails a step, actions fail with that or with their time
limit. -/
theorem conducts_of_failsStep (stage : Stage σ) (hb : stage.browser.Behaves fair (fun _ => True) p)
    (hfails : ∀ failure, p failure → failsStep failure = true) :
    stage.Conducts fair (fun _ => True) p (FailsAct stage.timeoutMs) where
  toBehaves := hb
  free _ := trivial
  raised hraised := .inl (hfails _ hraised)
  unresolved _ _ := .inl rfl
  timedOut _ _ := .inl rfl
  missing _ := .inl rfl
  late := .inr

theorem failsOnly_guard_failsAct (action : Action) (timeoutMs : Int) :
    FailsOnly (FailsAct timeoutMs) action.guard :=
  fun failure hguard => .inl (by simp [failsStep, action.failsOnly_guard failure hguard])

/-- A browser may be called in any way but to go to a page that is not allowed. -/
theorem Conducts.upholds_call (h : Conducts fair allowed p q stage) {c : Call}
    {reply : σ → Reply σ α} (hreply : stage.browser.Replies c reply)
    (hc : ∀ url limit, c ≠ .goto url limit) :
    Upholds (World.Fair fair domain) p (Work.call c reply) :=
  Walkthrough.upholds_call h.toBehaves hreply (h.free hc)

theorem upholds_learn (target : String) (c : Candidate) :
    Upholds (World.Fair fair domain) p (Locate.learn target c : Work σ Unit) := by
  unfold Locate.learn
  split
  · exact upholds_modify fun w hw => hw.unchanged rfl rfl rfl
  · exact upholds_pure _

theorem Conducts.probe (h : Conducts fair allowed p q stage) (target : String) (deadline : Instant)
    (tried : List String) (candidates : List Candidate) :
    Upholds (World.Fair fair domain) q
      (Locate.probe stage.browser target deadline tried candidates) := by
  induction candidates generalizing tried with
  | nil => exact upholds_throw (h.unresolved _ _)
  | cons c rest ih =>
      refine upholds_now.bind fun now => ?_
      dsimp only
      split
      · exact upholds_throw (h.unresolved _ _)
      · refine (h.upholds_call (.waitFor _ _ _) (by simp)).attempt_bind fun answer hanswer => ?_
        cases answer with
        | ok _ => exact (upholds_learn target c).bind fun _ => upholds_pure _
        | error failure =>
            dsimp only
            split
            · exact ih _
            · exact upholds_throw (h.raised (hanswer failure rfl))

theorem Conducts.resolve (h : Conducts fair allowed p q stage) (target : String)
    (selector : Option String) :
    Upholds (World.Fair fair domain) q
      (Locate.resolve stage.browser target selector stage.timeoutMs) :=
  (upholds_ofExcept fun _ => h.late).bind fun _ => upholds_get.bind fun _ => h.probe _ _ _ _

theorem Conducts.waiting (h : Conducts fair allowed p q stage) (wait : Wait) (timeout : String)
    {x : Work σ α} (hx : Upholds (World.Fair fair domain) p x) :
    Upholds (World.Fair fair domain) q (waiting wait timeout x) :=
  hx.handling (fun _ hfailure _ => h.raised hfailure) fun _ _ _ => upholds_throw (h.timedOut _ _)

theorem Conducts.goto (h : Conducts fair allowed p q stage) {payload : Table Json} {url : String}
    (hurl : ensureText payload "url" = .ok url) (hallowed : allowed (.goto url stage.timeoutMs)) :
    Upholds (World.Fair fair domain) q (stage.goto payload) := by
  rw [Stage.goto, hurl]
  exact h.waiting _ _ (Walkthrough.upholds_call h.toBehaves (.goto _ _) hallowed)

theorem Conducts.click (h : Conducts fair allowed p q stage) {payload : Table Json} {target : String}
    (htarget : ensureText payload "target" = .ok target) :
    Upholds (World.Fair fair domain) q (stage.click payload) := by
  rw [Stage.click, htarget]
  exact (h.resolve _ _).bind fun _ => h.waiting _ _ (h.upholds_call (.click _ _) (by simp))

theorem exists_of_resolvePieces {store : Secret.Store} {pieces : List Secret.Piece}
    {failure : Failure} (h : Secret.resolvePieces store pieces = .error failure) :
    ∃ name, failure = .missingSecret name := by
  induction pieces with
  | nil => cases h
  | cons piece rest ih =>
      cases piece with
      | char c =>
          simp only [Secret.resolvePieces] at h
          split at h
          · rename_i found hfound
            cases h
            exact ih hfound
          · cases h
      | placeholder name =>
          simp only [Secret.resolvePieces] at h
          split at h
          · cases h
            exact ⟨_, rfl⟩
          · split at h
            · rename_i found hfound
              cases h
              exact ih hfound
            · cases h

theorem Conducts.fill (h : Conducts fair allowed p q stage) {payload : Table Json}
    {field value : String} (hfield : ensureText payload "field" = .ok field)
    (hvalue : ensureText payload "value" = .ok value) :
    Upholds (World.Fair fair domain) q (stage.fill payload) := by
  rw [Stage.fill, hfield, hvalue]
  refine (h.resolve _ _).bind fun found => (upholds_ofExcept fun failure hfailure => ?_).bind
    fun plain => h.waiting _ _ (h.upholds_call (.fill _ _ _) (by simp))
  unfold Secret.resolve at hfailure
  split at hfailure
  · rename_i missing hmissing
    cases hfailure
    obtain ⟨name, rfl⟩ := exists_of_resolvePieces hmissing
    exact h.missing name
  · cases hfailure

theorem Conducts.awaitElement (h : Conducts fair allowed p q stage) (key : Key)
    (presence : Presence) (wait : Wait) (timeout : Json) (limit : Int) :
    Upholds (World.Fair fair domain) q (stage.awaitElement key presence wait timeout limit) :=
  h.waiting _ _ (h.upholds_call (.waitFor _ _ _) (by simp))

theorem Conducts.awaitUrl (h : Conducts fair allowed p q stage) (fragment : String)
    (timeout : Json) (limit : Int) :
    Upholds (World.Fair fair domain) q (stage.awaitUrl fragment timeout limit) :=
  upholds_get.bind fun _ => h.waiting _ _ (h.upholds_call (.waitForUrl _ _ _) (by simp))

theorem Conducts.expect (h : Conducts fair allowed p q stage)
    (hsome : action.lacks ["textVisible", "urlIncludes", "elementVisible"] = false) :
    Upholds (World.Fair fair domain) q (stage.expect action.payload) := by
  unfold Stage.expect
  dsimp only
  split
  · exact h.awaitElement _ _ _ _ _
  · exact h.awaitUrl _ _ _
  · exact h.awaitElement _ _ _ _ _
  · simp [Action.lacks, *] at hsome

theorem Conducts.waitFor (h : Conducts fair allowed p q stage)
    (hsome : (action.lacks ["textVisible", "selector"] &&
      ((Table.get? action.payload "timeoutMs").bind Json.toInt?).isNone) = false) :
    Upholds (World.Fair fair domain) q (stage.waitFor action.payload) := by
  unfold Stage.waitFor
  dsimp only
  split
  · exact h.awaitElement _ _ _ _ _
  · exact h.awaitElement _ _ _ _ _
  · exact (h.upholds_call (.pause _) (by simp)).mono fun _ => h.raised
  · simp [Action.lacks, *] at hsome

theorem Conducts.readTexts (h : Conducts fair allowed p q stage) (key : Key) (index n : Nat) :
    Upholds (World.Fair fair domain) q (stage.readTexts key index n) := by
  induction n generalizing index with
  | zero => exact upholds_pure _
  | succ n ih =>
      exact ((upholds_read h.toBehaves key index).mono fun _ => h.raised).bind fun _ =>
        (ih _).bind fun _ => upholds_pure _

theorem Conducts.extract (h : Conducts fair allowed p q stage) {payload : Table Json}
    {selector outputKey : String} (hselector : ensureText payload "selector" = .ok selector)
    (houtput : ensureText payload "outputKey" = .ok outputKey) :
    Upholds (World.Fair fair domain) q (stage.extract payload) := by
  rw [Stage.extract, hselector, houtput]
  exact ((h.upholds_call (.count _) (by simp)).mono fun _ => h.raised).bind fun _ =>
    (h.readTexts _ _ _).bind fun _ => upholds_pure _

/-- Where a browser may go for an action. -/
def Admits (allowed : Call → Prop) (stage : Stage σ) (action : Action) : Prop :=
  action.kind = "goto" →
    ∀ url, ensureText action.payload "url" = .ok url → allowed (.goto url stage.timeoutMs)

/-- An action fails only as its guard does, or in the ways of its stage. -/
theorem Conducts.act (h : Conducts fair allowed p q stage) (hadmits : stage.Admits allowed action)
    (hguard : FailsOnly q action.guard) :
    Upholds (World.Fair fair domain) q (stage.act action) := by
  cases hpasses : action.guard with
  | error failure =>
      rw [act_of_guard hpasses]
      exact upholds_throw (hguard failure hpasses)
  | ok _ =>
      unfold Action.guard at hpasses
      split at hpasses <;> rename_i hkind <;> unfold Stage.act <;> simp only [hkind]
      · obtain ⟨url, hurl⟩ := Action.ensure_eq_ok_iff.mp hpasses "url" (by simp)
        exact (h.goto hurl (hadmits hkind url hurl)).bind fun _ => upholds_pure _
      · obtain ⟨target, htarget⟩ := Action.ensure_eq_ok_iff.mp hpasses "target" (by simp)
        exact (h.click htarget).bind fun _ => upholds_pure _
      · obtain ⟨field, hfield⟩ := Action.ensure_eq_ok_iff.mp hpasses "field" (by simp)
        obtain ⟨value, hvalue⟩ := Action.ensure_eq_ok_iff.mp hpasses "value" (by simp)
        exact (h.fill hfield hvalue).bind fun _ => upholds_pure _
      · split at hpasses
        · cases hpasses
        · rename_i hsome
          exact (h.expect (Bool.eq_false_of_not_eq_true hsome)).bind fun _ => upholds_pure _
      · split at hpasses
        · cases hpasses
        · rename_i hsome
          exact (h.waitFor (Bool.eq_false_of_not_eq_true hsome)).bind fun _ => upholds_pure _
      · obtain ⟨selector, hselector⟩ := Action.ensure_eq_ok_iff.mp hpasses "selector" (by simp)
        obtain ⟨outputKey, houtput⟩ := Action.ensure_eq_ok_iff.mp hpasses "outputKey" (by simp)
        exact (h.extract hselector houtput).bind fun _ => upholds_pure _
      · cases hpasses

/-! ## Steps -/

/-- What gets past steps to the run: what actions fail with that fails no step, and what the browser
fails with, beside the page, that is not its own kind of failure. -/
structure GetsPast (p q r : Failure → Prop) : Prop where
  action {failure : Failure} (h : q failure) (hbeyond : failsStep failure = false) : r failure
  page {failure : Failure} (h : p failure) (hforeign : failure.isBrowser = false) : r failure

theorem upholds_tolerating (stage : Stage σ) (artifact : Artifact) (path : String) {x : Work σ Unit}
    (hx : Upholds (World.Fair fair domain) p x)
    (hpast : ∀ failure, p failure → isTolerated failure = false → r failure) :
    Upholds (World.Fair fair domain) r (stage.tolerating artifact path x) := by
  refine hx.attempt_bind fun answer hanswer => ?_
  cases answer with
  | ok _ => exact upholds_pure _
  | error failure =>
      dsimp only
      split
      · exact (upholds_logTo _ _ _).bind fun _ => upholds_pure _
      · rename_i hforeign
        exact upholds_throw (hpast failure (hanswer failure rfl) (Bool.eq_false_of_not_eq_true hforeign))

/-- Making an artifact fails as the browser does, or as the file system does. -/
theorem Conducts.artifact (h : Conducts fair allowed p q stage) {c : Call}
    {reply : σ → Reply σ α} (hreply : stage.browser.Replies c reply)
    (hc : ∀ url limit, c ≠ .goto url limit) {path : Path} (hnull : Path.hasNull path.text = false)
    (content : α → Text.Content) :
    Upholds (World.Fair fair domain) (fun failure => p failure ∨ failure.isSystem = true)
      (Work.call c reply >>= fun a => Work.writeFile path (content a)) :=
  ((h.upholds_call hreply hc).mono fun _ => .inl).bind fun _ =>
    (upholds_writeFile hnull _).mono fun _ => .inr

theorem GetsPast.artifact (h : GetsPast p q r) {failure : Failure}
    (hfailure : p failure ∨ failure.isSystem = true) (hforeign : isTolerated failure = false) :
    r failure := by
  obtain ⟨hbrowser, hsystem⟩ := Bool.or_eq_false_iff.mp hforeign
  rcases hfailure with hfailure | hfailure
  · exact h.page hfailure hbrowser
  · rw [hsystem] at hfailure
    cases hfailure

theorem Conducts.keepEvidence (h : Conducts fair allowed p q stage) (hpast : GetsPast p q r)
    (hnull : Path.hasNull stage.runDir.text = false) (n : Nat) :
    Upholds (World.Fair fair domain) r (stage.keepEvidence n) :=
  (upholds_tolerating stage _ _ (h.artifact (.screenshot _) (by simp)
    (Run.hasNull_screenshotFile hnull n) id) fun _ => hpast.artifact).bind fun _ =>
  (upholds_tolerating stage _ _ (h.artifact .content (by simp)
    (Run.hasNull_snapshotFile hnull n) fun html => .text (excerpt html)) fun _ =>
      hpast.artifact).bind fun _ =>
  upholds_pure _

theorem Conducts.run (h : Conducts fair allowed p q stage) (hpast : GetsPast p q r)
    (hnull : Path.hasNull stage.runDir.text = false) {pr : Primitive}
    (hadmits : stage.Admits allowed pr.toAction)
    (hguard : FailsOnly q pr.toAction.guard) :
    Upholds (World.Fair fair domain) r (stage.run pr) := by
  refine upholds_now.bind fun started => (upholds_logTo _ _ _).bind fun _ =>
    (h.act hadmits hguard).attempt_bind fun answer hanswer => ?_
  cases answer with
  | ok extract => exact upholds_now.bind fun _ => upholds_pure _
  | error failure =>
      dsimp only
      split
      · exact upholds_now.bind fun _ => (upholds_logTo _ _ _).bind fun _ =>
          (h.keepEvidence hpast hnull _).bind fun _ => upholds_now.bind fun _ => upholds_pure _
      · rename_i hbeyond
        exact upholds_throw
          (hpast.action (hanswer failure rfl) (Bool.eq_false_of_not_eq_true hbeyond))

theorem Conducts.steps (h : Conducts fair allowed p q stage) (hpast : GetsPast p q r)
    (hnull : Path.hasNull stage.runDir.text = false) {primitives : List Primitive}
    (hadmits : ∀ pr ∈ primitives, stage.Admits allowed pr.toAction)
    (hguard : ∀ pr ∈ primitives, FailsOnly q pr.toAction.guard)
    (progress : Run.Progress) :
    Upholds (World.Fair fair domain) r (Run.steps stage progress primitives) := by
  induction primitives generalizing progress with
  | nil => exact upholds_pure _
  | cons pr rest ih =>
      obtain ⟨hadmitted, hadmits⟩ := List.forall_mem_cons.mp hadmits
      obtain ⟨hguarded, hguard⟩ := List.forall_mem_cons.mp hguard
      refine (h.run hpast hnull hadmitted hguarded).bind fun outcome => ?_
      dsimp only
      cases outcome.report.verdict with
      | failed => exact upholds_pure _
      | passed => exact ih hadmits hguard _

end Stage

namespace Run

/-! ## Sessions -/

variable {stage : Stage σ}

theorem upholds_startTrace (h : stage.Conducts fair allowed p q) (hpast : Stage.GetsPast p q r) :
    Upholds (World.Fair fair domain) r (startTrace stage) :=
  (h.upholds_call .startTrace (by simp)).handling (fun _ => hpast.page)
    fun _ _ _ => upholds_logTo _ _ _

theorem upholds_stopTrace (h : stage.Conducts fair allowed p q) (hpast : Stage.GetsPast p q r)
    (hnull : Path.hasNull stage.runDir.text = false) :
    Upholds (World.Fair fair domain) r (stopTrace stage) :=
  (h.artifact (.stopTrace _) (by simp) (hasNull_traceFile hnull) id).handling
    (fun _ => hpast.artifact) fun _ _ _ => upholds_logTo _ _ _

/-- What a browser fails with when a session is opened or closed. -/
def Refused (fair : σ → List Call → Prop) (b : Browser σ) (headless : Bool) (failure : Failure) :
    Prop :=
  ∃ s calls, fair s calls ∧ ((b.openSession headless s).answer = .error failure ∨
    (b.closeSession s).answer = .error failure)

end Run
end Walkthrough
