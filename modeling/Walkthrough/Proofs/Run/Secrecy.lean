import Mathlib.Data.List.Forall2
import Walkthrough.Proofs.Run.Coupling
import Walkthrough.Proofs.World

/-! # What the values of secrets reach

The values of secrets only go into the fields of a page. On pages that do not show what their fields
are filled with, two runs with values for the same secrets end alike, in worlds that are the same
but for what was filled in. -/

namespace Walkthrough

open Effect

variable {σ : Type}

/-! ## Secrets -/

namespace Secret

/-- The same secrets have a value. -/
def Store.SameNames (store other : Store) : Prop :=
  ∀ name, (store.value? name).isSome = (other.value? name).isSome

variable {store other : Store}

theorem answers_resolvePieces (h : store.SameNames other) (pieces : List Piece) :
    Answers (fun _ _ => True) (resolvePieces store pieces) (resolvePieces other pieces) := by
  induction pieces with
  | nil => exact .ok trivial
  | cons piece rest ih =>
      cases piece with
      | char c =>
          obtain ⟨cs, cs', hcs, hcs', -⟩ | ⟨failure, hcs, hcs'⟩ := answers_iff.mp ih
          · simpa [resolvePieces, hcs, hcs'] using .ok trivial
          · simpa [resolvePieces, hcs, hcs'] using .error failure
      | placeholder name =>
          have hname := h (String.ofList name)
          cases hvalue : store.value? (String.ofList name) <;>
            cases hvalue' : other.value? (String.ofList name) <;> simp [hvalue, hvalue'] at hname
          · simpa [resolvePieces, hvalue, hvalue'] using .error _
          · obtain ⟨cs, cs', hcs, hcs', -⟩ | ⟨failure, hcs, hcs'⟩ := answers_iff.mp ih
            · simpa [resolvePieces, hvalue, hvalue', hcs, hcs'] using .ok trivial
            · simpa [resolvePieces, hvalue, hvalue', hcs, hcs'] using .error failure

/-- Which values secrets have decides neither whether a text can be resolved nor how it fails. -/
theorem answers_resolve (h : store.SameNames other) (s : String) :
    Answers (fun _ _ => True) (resolve store s) (resolve other s) := by
  obtain ⟨cs, cs', hcs, hcs', -⟩ | ⟨failure, hcs, hcs'⟩ :=
    answers_iff.mp (answers_resolvePieces h (pieces s))
  · simpa [resolve, hcs, hcs'] using .ok trivial
  · simpa [resolve, hcs, hcs'] using .error failure

end Secret

/-! ## Browsers -/

/-- Replies that look the same: they take the same time and have the same answer. -/
structure Reply.Alike {α : Type} (same : σ → σ → Prop) (r r' : Reply σ α) : Prop where
  state : same r.state r'.state
  elapsed : r'.elapsed = r.elapsed
  answer : r'.answer = r.answer

/-- A browser that never shows what fields are filled with: states that differ only in that look the
same, now and after any calls. -/
structure Browser.Hides (b : Browser σ) (same : σ → σ → Prop) : Prop where
  refl (state : σ) : same state state
  url {state state' : σ} (h : same state state') : b.url state' = b.url state
  reply {α : Type} {c : Call} {reply : σ → Reply σ α} (hreply : b.Replies c reply) {state state' : σ}
    (h : same state state') : Reply.Alike same (reply state) (reply state')
  innerText (key : Key) (index : Nat) {state state' : σ} (h : same state state') :
    Reply.Alike same (b.innerText key index state) (b.innerText key index state')
  fill (key : Key) (s s' : String) (timeout : Int) {state state' : σ} (h : same state state') :
    Reply.Alike same (b.fill key s timeout state) (b.fill key s' timeout state')

/-! ## Worlds -/

/-- The same events but for the text that a field is filled with. -/
inductive Event.Alike : Event → Event → Prop
  | same (event : Event) : Event.Alike event event
  | filled (key : Key) (s s' : String) (timeout : Int) :
      Event.Alike (.call (.fill key s timeout)) (.call (.fill key s' timeout))

/-- The same worlds but for the texts that fields were filled with. -/
def World.Alike (same : σ → σ → Prop) (w w' : World σ) : Prop :=
  ∃ browser events, same w.browser browser ∧ List.Forall₂ Event.Alike w.events events ∧
    w' = { w with browser := browser, events := events }

namespace World.Alike

variable {same : σ → σ → Prop} {w w' : World σ} {α : Type}

theorem refl {b : Browser σ} (hides : b.Hides same) (w : World σ) : World.Alike same w w :=
  ⟨w.browser, w.events, hides.refl _, List.forall₂_same.mpr fun _ _ => .same _, rfl⟩

/-- A change of anything but the browser and the events. -/
theorem map (g : World σ → World σ)
    (hg : ∀ v browser events, g { v with browser := browser, events := events } =
      { g v with browser := browser, events := events })
    (h : World.Alike same w w') : World.Alike same (g w) (g w') := by
  obtain ⟨browser, events, hbrowser, hevents, rfl⟩ := h
  have hself : g w = { g w with browser := w.browser, events := w.events } :=
    hg w w.browser w.events
  have hb : (g w).browser = w.browser := congrArg (fun v => v.browser) hself
  have he : (g w).events = w.events := congrArg (fun v => v.events) hself
  exact ⟨browser, events, by rwa [hb], by rwa [he], hg w browser events⟩

theorem record {e e' : Event} (he : e.Alike e') (h : World.Alike same w w') :
    World.Alike same { w with events := w.events ++ [e] }
      { w' with events := w'.events ++ [e'] } := by
  obtain ⟨browser, events, hbrowser, hevents, rfl⟩ := h
  exact ⟨browser, events ++ [e'], hbrowser, List.rel_append hevents (.cons he .nil), rfl⟩

theorem lockstep_receive {reply reply' : σ → Reply σ α}
    (h : ∀ ⦃state state'⦄, same state state' → Reply.Alike same (reply state) (reply' state')) :
    Lockstep (World.Alike same) Eq (Work.receive reply) (Work.receive reply') := by
  rintro w _ ⟨browser, events, hbrowser, hevents, rfl⟩
  have hreply := h hbrowser
  refine ⟨?_, (reply' browser).state, events, hreply.state, hevents, ?_⟩
  · simpa only [outcome_receive, hreply.answer] using .refl _
  · simp only [outcome_receive, hreply.elapsed]

theorem lockstep_call {c c' : Call} {reply reply' : σ → Reply σ α}
    (hcall : Event.Alike (.call c) (.call c'))
    (h : ∀ ⦃state state'⦄, same state state' → Reply.Alike same (reply state) (reply' state')) :
    Lockstep (World.Alike same) Eq (Work.call c reply) (Work.call c' reply') :=
  Lockstep.bind_eq (lockstep_modify fun _ _ hr => hr.record hcall) fun _ => lockstep_receive h

/-- Files can be looked at and changed in the same way on both sides. -/
theorem files_eq (h : World.Alike same w w') : w'.files = w.files := by
  obtain ⟨_, _, -, -, rfl⟩ := h
  rfl

theorem respects_change (f : Files → Except Failure Files) :
    Respects (World.Alike same) (Work.change f : Work σ Unit) := by
  refine lockstep_get.bind fun w w' h => ?_
  rw [h.files_eq]
  cases f w.files with
  | ok files =>
      exact lockstep_modify fun _ _ => map (fun v => { v with files := files }) fun _ _ _ => rfl
  | error failure => exact lockstep_throw failure

theorem respects_writeFile (path : Path) (content : Text.Content) :
    Respects (World.Alike same) (Work.writeFile path content : Work σ Unit) := by
  refine lockstep_get.bind fun w w' h => ?_
  rw [h.files_eq]
  cases w.files.write path content with
  | ok files =>
      exact lockstep_modify fun _ _ hr => (hr.record (.same (.write path.text true))).map
        (fun v => { v with files := files }) fun _ _ _ => rfl
  | error failure =>
      exact Lockstep.bind_eq (lockstep_modify fun _ _ hr => hr.record (.same _)) fun _ =>
        lockstep_throw failure

theorem respects_note (level : Level) (message : String) :
    Respects (World.Alike same) (Work.note level message : Work σ Unit) :=
  lockstep_modify fun _ _ =>
    map (fun v => { v with log := v.log ++ [⟨level, message⟩] }) fun _ _ _ => rfl

theorem respects_look (f : Files → Except Failure α) :
    Respects (World.Alike same) (Work.look f : Work σ α) :=
  lockstep_get.bind fun _ _ h => by
    rw [h.files_eq]
    exact respects_ofExcept _

theorem respects_logTo (runDir : Path) (level : Level) (message : String) :
    Respects (World.Alike same) (logTo runDir level message : Work σ Unit) := by
  refine lockstep_modify fun w w' h => ?_
  obtain ⟨browser, events, hbrowser, hevents, rfl⟩ := h
  dsimp only
  split <;> exact ⟨browser, events, hbrowser, hevents, rfl⟩

end World.Alike

/-! ## Runs -/

namespace Run

open World

variable {b : Browser σ} {same : σ → σ → Prop}

theorem coupling_alike (hides : b.Hides same) (runDir profiles : Path) :
    Coupling (World.Alike same) b runDir profiles where
  url := by
    rintro _ _ ⟨browser, _, hbrowser, -, rfl⟩
    exact hides.url hbrowser
  now := by
    rintro _ _ ⟨_, _, -, -, rfl⟩
    rfl
  profile := by
    rintro _ _ ⟨_, _, -, -, rfl⟩
    rfl
  profiled profile := Alike.map (fun v => { v with profile := profile }) fun _ _ _ => rfl
  called hreply := Alike.lockstep_call (.same _) fun _ _ => hides.reply hreply
  read key index := Alike.lockstep_receive fun _ _ => hides.innerText key index
  looked := Alike.respects_look
  noted := Alike.respects_note
  logged := Alike.respects_logTo runDir
  opened := Alike.respects_change _
  housed _ := Alike.respects_change _
  written _ := Alike.respects_writeFile _ _

theorem fillsAlike_of_sameNames {stage : Stage σ} {other : Secret.Store}
    (hides : stage.browser.Hides same) (hnames : stage.secrets.SameNames other) :
    Stage.FillsAlike (World.Alike same) stage other := by
  intro s
  obtain ⟨plain, plain', hplain, hplain', -⟩ | ⟨failure, hplain, hplain'⟩ :=
    answers_iff.mp (Secret.answers_resolve hnames s)
  · rw [hplain, hplain']
    exact .ok fun key limit => Alike.lockstep_call (.filled key plain plain' limit) fun _ _ =>
      hides.fill key plain plain' limit
  · rw [hplain, hplain']
    exact .error failure

/-- Hosts with the same browser, one that hides what fields are filled with, and with values for the
same secrets. -/
structure GivenAlike (same : σ → σ → Prop) (host host' : Host σ) : Prop where
  browser : host'.browser = host.browser
  hides : host.browser.Hides same
  given : ∃ store store', host.secrets = some store ∧ host'.secrets = some store' ∧
    store.SameNames store'

variable {host host' : Host σ}

theorem GivenAlike.paired (h : GivenAlike same host host') (options : RunOptions) (runDir : Path) :
    Paired (World.Alike same) host host' options runDir Secret.Store.SameNames where
  browser := h.browser
  secrets := by
    obtain ⟨store, store', hstore, hstore', hnames⟩ := h.given
    simp only [secretsFor, hstore, hstore']
    exact lockstep_pure hnames
  filled hnames := fillsAlike_of_sameNames h.hides hnames

/-- With values for the same secrets a run ends with the same report or failure, in a world that is
the same but for what fields were filled with. -/
theorem GivenAlike.run (h : GivenAlike same host host') (options : RunOptions) (plan : Plan) :
    Lockstep (World.Alike same) Eq (Walkthrough.run host options plan)
      (Walkthrough.run host' options plan) := by
  rw [run_eq, run_eq]
  refine Lockstep.bind_eq ?_ fun runId =>
    (coupling_alike h.hides _ _).runAs (h.paired options (options.artifactsRoot.child runId)) plan
  unfold pickName
  split
  · exact lockstep_pure rfl
  · rintro w _ ⟨browser, events, hbrowser, hevents, rfl⟩
    exact ⟨.refl _, browser, events, hbrowser, hevents, rfl⟩

end Run
end Walkthrough
