import Mathlib.Algebra.Group.Submonoid.Defs
import Mathlib.Algebra.Group.Int.Defs
import Walkthrough.Page
import Walkthrough.Proofs.Run.Frame

/-! # Trouble with artifacts

Screenshots, snapshots, traces and the site profile are kept as far as that works. Two live runs that
differ in nothing but what works of it stay beside each other, with clocks that may be apart by the time
that the trouble takes, and come to the same. -/

namespace Walkthrough

open Effect

variable {σ α : Type}

/-! ## Browsers -/

/-- Whether a failure of a call for an artifact is only noted. -/
def Call.passesOver : Call → Failure → Bool
  | .startTrace => Failure.isBrowser
  | _ => Stage.isTolerated

/-- Replies with the same answer after the same time, which leave browsers alike. -/
structure Reply.Agrees (same : σ → σ → Prop) (reply reply' : Reply σ α) : Prop where
  state : same reply.state reply'.state
  elapsed : reply'.elapsed = reply.elapsed
  answer : reply'.answer = reply.answer

/-- A reply that is no failure, or one that is passed over. -/
def Reply.Harmless (passesOver : Failure → Bool) (reply : Reply σ α) : Prop :=
  ∀ failure, reply.answer = .error failure → passesOver failure

/-- Browsers that are alike agree but for the artifacts that are made in them: these may fail in either
of them, as far as that is passed over, and the times that they take are apart by slack. -/
structure Browser.Indifferent (b : Browser σ) (same : σ → σ → Prop) (slack : AddSubmonoid Int) :
    Prop where
  url {s s' : σ} (h : same s s') : b.url s' = b.url s
  called {α : Type} {c : Call} {reply : σ → Reply σ α} (hreply : b.Replies c reply)
    (hother : c.isArtifact = false) {s s' : σ} (h : same s s') : (reply s).Agrees same (reply s')
  read (key : Key) (index : Nat) {s s' : σ} (h : same s s') :
    (b.innerText key index s).Agrees same (b.innerText key index s')
  made {α : Type} {c : Call} {reply : σ → Reply σ α} (hreply : b.Replies c reply)
    (hmade : c.isArtifact) {s s' : σ} (h : same s s') :
    same (reply s).state (reply s').state ∧ (reply s').elapsed - (reply s).elapsed ∈ slack ∧
      (reply s).Harmless c.passesOver ∧ (reply s').Harmless c.passesOver

namespace Page

/-- The labels of the calls for artifacts. -/
def artifactLabels : List String :=
  ["start_trace", "stop_trace", "screenshot", "content"]

/-- A page whose calls for artifacts only fail so that it is passed over. -/
structure Forgivable (p : Page) : Prop where
  start : ∀ failure, Table.get? p.faults "start_trace" = some failure → failure.isBrowser
  kept : ∀ label ∈ artifactLabels, ∀ failure, Table.get? p.faults label = some failure →
    Stage.isTolerated failure

/-- Pages that differ only in how the calls for artifacts are scripted to fail. -/
structure Alike (p p' : Page) : Prop where
  rest : p' = { p with faults := p'.faults }
  faults : ∀ label, label ∉ artifactLabels → Table.get? p'.faults label = Table.get? p.faults label
  forgivable : p.Forgivable
  forgivable' : p'.Forgivable

section Alike

variable {p p' : Page}

/-- What is done to both of them alike, with scripts as they were. -/
theorem Alike.also (h : Alike p p') {q q' : Page} (hrest : q' = { q with faults := q'.faults })
    (hfaults : q.faults = p.faults) (hfaults' : q'.faults = p'.faults) : Alike q q' where
  rest := hrest
  faults label hlabel := by rw [hfaults, hfaults', h.faults label hlabel]
  forgivable := ⟨hfaults ▸ h.forgivable.start, hfaults ▸ h.forgivable.kept⟩
  forgivable' := ⟨hfaults' ▸ h.forgivable'.start, hfaults' ▸ h.forgivable'.kept⟩

/-- A page without faults, and the same page whose calls for artifacts fail by some script. -/
theorem alike_of_faults (hcalm : p.faults = []) {faults : Table Failure}
    (hfaults : ∀ entry ∈ faults, entry.1 ∈ artifactLabels ∧ Stage.isTolerated entry.2 ∧
      (entry.1 = "start_trace" → entry.2.isBrowser)) :
    Alike p { p with faults := faults } where
  rest := rfl
  faults label hlabel := by
    have hmissing : ∀ failure, Table.get? faults label ≠ some failure := fun failure h =>
      hlabel (hfaults _ (Table.mem_of_get? h)).1
    rw [hcalm, Table.get?_nil]
    exact Option.eq_none_iff_forall_ne_some.mpr hmissing
  forgivable := by
    refine ⟨fun failure h => ?_, fun label _ failure h => ?_⟩
    all_goals
      rw [hcalm] at h
      cases h
  forgivable' :=
    ⟨fun _ h => (hfaults _ (Table.mem_of_get? h)).2.2 rfl,
      fun _ _ _ h => (hfaults _ (Table.mem_of_get? h)).2.1⟩

/-- Labels of calls on elements and of pages have a colon in them. -/
theorem notMem_artifactLabels (before after : String) : before ++ ":" ++ after ∉ artifactLabels := by
  intro h
  have hall : ∀ label ∈ artifactLabels, ':' ∉ label.toList := by decide
  exact hall _ h (by simp)

theorem Alike.agrees_faulty (h : Alike p p') (timeout : Int) (failure : Failure) :
    (faulty (α := α) p timeout failure).Agrees Alike (faulty p' timeout failure) := by
  unfold faulty
  split <;> exact ⟨h, rfl, rfl⟩

theorem Alike.agrees_unlessFaulty (h : Alike p p') {label : String} (hlabel : label ∉ artifactLabels)
    (timeout : Int) {reply reply' : Reply Page α} (hreply : reply.Agrees Alike reply') :
    (p.unlessFaulty label timeout reply).Agrees Alike (p'.unlessFaulty label timeout reply') := by
  unfold unlessFaulty
  rw [h.faults label hlabel]
  split
  · exact h.agrees_faulty timeout _
  · exact hreply

theorem Alike.agrees_awaiting (h : Alike p p') (key : Key) (timeout : Int) {after after' : Page}
    (hafter : Alike after after') :
    (p.awaiting key timeout after).Agrees Alike (p'.awaiting key timeout after') := by
  have hdelay : p'.delay? key = p.delay? key := by rw [h.rest]; rfl
  unfold awaiting
  rw [hdelay]
  split
  · split
    · exact ⟨hafter, rfl, rfl⟩
    · exact ⟨h, rfl, rfl⟩
  · exact ⟨h, rfl, rfl⟩

theorem Alike.clicked (h : Alike p p') (key : Key) : Alike (p.clicked key) (p'.clicked key) := by
  have hclick : Table.get? p'.onClick key.name = Table.get? p.onClick key.name := by rw [h.rest]
  unfold Page.clicked
  rw [hclick]
  split
  · exact h
  · refine h.also ?_ rfl rfl
    rw [h.rest]

/-- Making an artifact leaves a page as it is, and takes no time. -/
theorem Alike.made (h : Alike p p') {label : String} {passesOver : Failure → Bool}
    (slack : AddSubmonoid Int) (value value' : α)
    (hpasses : ∀ q : Page, q.Forgivable → ∀ failure, Table.get? q.faults label = some failure →
      passesOver failure) :
    Alike (p.unlessFaulty label 0 (p.atOnce value)).state
        (p'.unlessFaulty label 0 (p'.atOnce value')).state ∧
      (p'.unlessFaulty label 0 (p'.atOnce value')).elapsed -
        (p.unlessFaulty label 0 (p.atOnce value)).elapsed ∈ slack ∧
      (p.unlessFaulty label 0 (p.atOnce value)).Harmless passesOver ∧
      (p'.unlessFaulty label 0 (p'.atOnce value')).Harmless passesOver := by
  have hplain : ∀ (q : Page) (a : α), q.Forgivable →
      (q.unlessFaulty label 0 (q.atOnce a)).state = q ∧
      (q.unlessFaulty label 0 (q.atOnce a)).elapsed = 0 ∧
      (q.unlessFaulty label 0 (q.atOnce a)).Harmless passesOver := by
    intro q a hq
    unfold unlessFaulty
    cases hfault : Table.get? q.faults label with
    | none => exact ⟨rfl, rfl, fun _ hanswer => nomatch hanswer⟩
    | some failure =>
        have hpassed := hpasses q hq failure hfault
        dsimp only
        unfold faulty
        split
        all_goals
          refine ⟨rfl, rfl, fun found hfound => ?_⟩
          obtain rfl := Except.error.inj hfound
          exact hpassed
  obtain ⟨hstate, helapsed, hharmless⟩ := hplain p value h.forgivable
  obtain ⟨hstate', helapsed', hharmless'⟩ := hplain p' value' h.forgivable'
  rw [hstate, hstate', helapsed, helapsed']
  exact ⟨h, slack.zero_mem, hharmless, hharmless'⟩

theorem indifferent_browser (slack : AddSubmonoid Int) : browser.Indifferent Alike slack where
  url h := by rw [h.rest]; rfl
  called hreply hother p p' h := by
    cases hreply with
    | openSession => exact h.agrees_unlessFaulty (by decide) 0 ⟨h, rfl, rfl⟩
    | closeSession => exact ⟨h, rfl, rfl⟩
    | goto url timeout =>
        refine h.agrees_unlessFaulty (notMem_artifactLabels "goto" url) timeout ⟨?_, rfl, rfl⟩
        refine h.also ?_ rfl rfl
        rw [h.rest]
    | waitFor key presence timeout =>
        exact h.agrees_unlessFaulty (notMem_artifactLabels "wait" key.name) timeout
          (h.agrees_awaiting key timeout h)
    | click key timeout =>
        exact h.agrees_unlessFaulty (notMem_artifactLabels "click" key.name) timeout
          (h.agrees_awaiting key timeout (h.clicked key))
    | fill key s timeout =>
        exact h.agrees_unlessFaulty (notMem_artifactLabels "fill" key.name) timeout
          (h.agrees_awaiting key timeout h)
    | count key =>
        refine h.agrees_unlessFaulty (notMem_artifactLabels "count" key.name) 0 ⟨h, rfl, ?_⟩
        rw [h.rest]
        rfl
    | waitForUrl url matched timeout =>
        refine h.agrees_unlessFaulty (by decide) timeout ?_
        split <;> exact ⟨h, rfl, rfl⟩
    | pause ms => exact h.agrees_unlessFaulty (by decide) 0 ⟨h, rfl, rfl⟩
    | startTrace | stopTrace | screenshot | content => cases hother
  read key index p p' h := by
    refine h.agrees_unlessFaulty (notMem_artifactLabels "text" key.name) 0 ⟨h, rfl, ?_⟩
    rw [h.rest]
    rfl
  made hreply hmade p p' h := by
    cases hreply with
    | startTrace => exact h.made slack () () fun q hq => hq.start
    | stopTrace => exact h.made slack _ _ fun q hq => hq.kept _ (by decide)
    | screenshot => exact h.made slack _ _ fun q hq => hq.kept _ (by decide)
    | content => exact h.made slack _ _ fun q hq => hq.kept _ (by decide)
    | _ => cases hmade

end Alike

end Page

/-! ## Reports -/

/-- Reports of a step that tell the same, but for the artifacts; times are apart by slack. -/
structure StepReport.Alike (slack : AddSubmonoid Int) (r r' : StepReport) : Prop where
  index : r'.index = r.index
  kind : r'.kind = r.kind
  description : r'.description = r.description
  verdict : r'.verdict = r.verdict
  error : r'.error = r.error
  durationMs : r'.durationMs = r.durationMs
  startedAt : r'.startedAt - r.startedAt ∈ slack
  endedAt : r'.endedAt - r.endedAt ∈ slack

/-- The same artifacts, but for those of a failure. -/
structure Artifacts.Alike (a a' : Artifacts) : Prop where
  runDir : a'.runDir = a.runDir
  tracePath : a'.tracePath = a.tracePath
  resultPath : a'.resultPath = a.resultPath

/-- Reports that tell the same, but for the artifacts; times are apart by slack. -/
structure Report.Alike (slack : AddSubmonoid Int) (r r' : Report) : Prop where
  runId : r'.runId = r.runId
  verdict : r'.verdict = r.verdict
  startedAt : r'.startedAt = r.startedAt
  endedAt : r'.endedAt - r.endedAt ∈ slack
  durationMs : r'.durationMs - r.durationMs ∈ slack
  plan : r'.plan = r.plan
  artifacts : r.artifacts.Alike r'.artifacts
  steps : List.Forall₂ (StepReport.Alike slack) r.steps r'.steps
  outputs : r'.outputs = r.outputs

/-- Runs that end alike: they come to the same failure or to reports that are alike, and there is room
for the report of either or of none. -/
def Report.EndAlike (slack : AddSubmonoid Int) (answer answer' : Except Failure Report) : Prop :=
  ∃ found found' room, Answers (Report.Alike slack) found found' ∧
    answer = found >>= Report.given room ∧ answer' = found' >>= Report.given room

/-- What steps come to that tell the same, but for the artifacts. -/
structure Stage.Outcome.Alike (slack : AddSubmonoid Int) (out out' : Stage.Outcome) : Prop where
  report : out.report.Alike slack out'.report
  extract : out'.extract = out.extract

namespace Run

structure Progress.Alike (slack : AddSubmonoid Int) (progress progress' : Progress) : Prop where
  verdict : progress'.verdict = progress.verdict
  steps : List.Forall₂ (StepReport.Alike slack) progress.steps progress'.steps
  outputs : progress'.outputs = progress.outputs
  artifacts : progress.artifacts.Alike progress'.artifacts

theorem Progress.alike_start (slack : AddSubmonoid Int) (runDir : Path) :
    Progress.Alike slack ⟨.passed, [], [], artifactsIn runDir⟩ ⟨.passed, [], [], artifactsIn runDir⟩ :=
  ⟨rfl, .nil, rfl, ⟨rfl, rfl, rfl⟩⟩

theorem Progress.alike_artifacts_add (progress : Progress) (out : Stage.Outcome) :
    progress.artifacts.Alike (progress.add out).artifacts := by
  unfold Progress.add
  cases out.evidence <;> exact ⟨rfl, rfl, rfl⟩

theorem Progress.Alike.add {slack : AddSubmonoid Int} {progress progress' : Progress}
    {out out' : Stage.Outcome} (h : progress.Alike slack progress') (hout : out.Alike slack out') :
    (progress.add out).Alike slack (progress'.add out') where
  verdict := hout.report.verdict
  steps := List.rel_append h.steps (.cons hout.report .nil)
  outputs := by
    simp only [Progress.add, hout.extract, h.outputs]
  artifacts := by
    have hadd := progress.alike_artifacts_add out
    have hadd' := progress'.alike_artifacts_add out'
    exact ⟨by rw [hadd'.runDir, hadd.runDir, h.artifacts.runDir],
      by rw [hadd'.tracePath, hadd.tracePath, h.artifacts.tracePath],
      by rw [hadd'.resultPath, hadd.resultPath, h.artifacts.resultPath]⟩

/-! ## Worlds beside each other -/

/-- Worlds with browsers that are alike and the same site profile, the second one with a clock that is
ahead by some time. What is in their files and what was recorded does not matter. -/
structure Beside (same : σ → σ → Prop) (lag : Int) (w w' : World σ) : Prop where
  browser : same w.browser w'.browser
  now : w'.now = w.now + lag
  profile : w'.profile = w.profile

/-- Worlds beside each other with clocks that are apart by slack. -/
def Alongside (same : σ → σ → Prop) (slack : AddSubmonoid Int) (w w' : World σ) : Prop :=
  ∃ lag ∈ slack, Beside same lag w w'

section Beside

variable {same : σ → σ → Prop} {slack : AddSubmonoid Int} {lag : Int} {w w' v v' : World σ}

theorem Beside.filed (h : Beside same lag w w') {runDir runDir' : Path} (hw : Filed runDir w v)
    (hw' : Filed runDir' w' v') : Beside same lag v v' where
  browser := by rw [hw.browser, hw'.browser]; exact h.browser
  now := by rw [hw.now, hw'.now, h.now]
  profile := by rw [hw.profile, hw'.profile, h.profile]

/-- What keeps worlds beside each other keeps them so whatever their clocks are apart by. -/
theorem respects_alongside {x : Work σ α} (hx : ∀ lag, Respects (Beside same lag) x) :
    Respects (Alongside same slack) x := by
  rintro w w' ⟨lag, hlag, h⟩
  obtain ⟨hanswer, hstate⟩ := hx lag h
  exact ⟨hanswer, lag, hlag, hstate⟩

theorem respects_beside_log (stage : Stage σ) (level : Level) (message : String) :
    Respects (Beside same lag) (stage.log level message) := by
  intro w w' h
  obtain ⟨v, hlog, hfiled⟩ := exists_log stage level message w
  obtain ⟨v', hlog', hfiled'⟩ := exists_log stage level message w'
  rw [hlog, hlog']
  exact ⟨.refl _, h.filed hfiled hfiled'⟩

variable {b : Browser σ}

theorem respects_beside_call (hb : b.Indifferent same slack) {c : Call} {reply : σ → Reply σ α}
    (hreply : b.Replies c reply) (hother : c.isArtifact = false) :
    Respects (Beside same lag) (Work.call c reply) := by
  intro w w' h
  have hagree := hb.called hreply hother h.browser
  rw [outcome_call, outcome_call, hagree.answer]
  refine ⟨.refl _, hagree.state, ?_, h.profile⟩
  simp only [World.after, hagree.elapsed, h.now]
  exact Int.add_right_comm _ _ _

theorem respects_beside_read (hb : b.Indifferent same slack) (key : Key) (index : Nat) :
    Respects (Beside same lag) (Work.receive (b.innerText key index)) := by
  intro w w' h
  have hagree := hb.read key index h.browser
  simp only [outcome_receive]
  rw [hagree.answer]
  refine ⟨.refl _, hagree.state, ?_, h.profile⟩
  dsimp only
  rw [hagree.elapsed, h.now]
  exact Int.add_right_comm _ _ _

/-- Actions keep worlds beside each other, and their clocks apart by the same. -/
theorem moving_beside {stage : Stage σ} (hb : stage.browser.Indifferent same slack) (lag : Int) :
    stage.Moving (Beside same lag) stage.secrets lag where
  url h := hb.url h.browser
  called hreply hact := respects_beside_call hb hreply (by simpa using (Bool.and_eq_true_iff.mp hact).2)
  read key index := respects_beside_read hb key index
  now h := h.now
  profile h := h.profile
  learned target selector h := ⟨h.browser, h.now, by rw [h.profile]⟩
  filled := Stage.fillsAlike_self fun _ _ _ => respects_beside_call hb (.fill _ _ _) rfl

end Beside

/-! ## Making artifacts -/

/-- What a call for an artifact leaves, as far as it matters: the browser's reply was taken over. -/
structure Made (reply : σ → Reply σ α) (w w' : World σ) : Prop where
  browser : w'.browser = (reply w.browser).state
  now : w'.now = w.now + (reply w.browser).elapsed
  profile : w'.profile = w.profile

theorem made_after (c : Call) (reply : σ → Reply σ α) (w : World σ) :
    Made reply w (w.after c (reply w.browser)) :=
  ⟨rfl, rfl, rfl⟩

section Made

variable {reply : σ → Reply σ α} {w w' v v' : World σ}

theorem Made.filed (h : Made reply w w') {runDir : Path} (hfiled : Filed runDir w' v) :
    Made reply w v :=
  ⟨hfiled.browser.trans h.browser, hfiled.now.trans h.now, hfiled.profile.trans h.profile⟩

/-- Making the same artifact in worlds that are alongside leaves them so, whatever comes of it. -/
theorem Alongside.made {b : Browser σ} {same : σ → σ → Prop} {slack : AddSubmonoid Int}
    (hb : b.Indifferent same slack) {c : Call} (hreply : b.Replies c reply) (hmade : c.isArtifact)
    (h : Alongside same slack w w') (hw : Made reply w v) (hw' : Made reply w' v') :
    Alongside same slack v v' := by
  obtain ⟨lag, hlag, hbeside⟩ := h
  obtain ⟨hstate, helapsed, -, -⟩ := hb.made hreply hmade hbeside.browser
  refine ⟨lag + ((reply w'.browser).elapsed - (reply w.browser).elapsed),
    slack.add_mem hlag helapsed, ?_, ?_, ?_⟩
  · rw [hw.browser, hw'.browser]
    exact hstate
  · have hsum (t lag e e' : Int) : t + lag + e' = t + e + (lag + (e' - e)) := by omega
    rw [hw.now, hw'.now, hbeside.now]
    exact hsum _ _ _ _
  · rw [hw.profile, hw'.profile, hbeside.profile]

/-- An artifact is made and written to a file that has a name, or the failure is passed over. -/
theorem exists_made {path : Path} (hnull : Path.hasNull path.text = false) (c : Call)
    (content : α → Text.Content) (hharmless : (reply w.browser).Harmless Stage.isTolerated) :
    ∃ answer mid, outcome (Work.call c reply >>= fun a => Work.writeFile path (content a)) w =
        (answer, mid) ∧ Made reply w mid ∧
      ∀ failure, answer = .error failure → Stage.isTolerated failure := by
  have hcall := outcome_call c reply w
  cases hanswer : (reply w.browser).answer with
  | error failure =>
      rw [hanswer] at hcall
      refine ⟨_, _, outcome_bind_of_error hcall, made_after c reply w, fun found hfound => ?_⟩
      obtain rfl := Except.error.inj hfound
      exact hharmless failure hanswer
  | ok a =>
      rw [hanswer] at hcall
      rw [outcome_bind_of_ok hcall, outcome_writeFile]
      split
      · exact ⟨_, _, rfl, ⟨rfl, rfl, rfl⟩, fun _ hfound => nomatch hfound⟩
      · rename_i failure hwrite
        refine ⟨_, _, rfl, ⟨rfl, rfl, rfl⟩, fun found hfound => ?_⟩
        obtain rfl := Except.error.inj hfound
        rw [Stage.isTolerated, Files.write_eq_error hnull hwrite, Bool.or_true]

/-- Keeping evidence ends well, with or without it. -/
theorem exists_tolerated (stage : Stage σ) (artifact : Artifact) {path : Path}
    (hnull : Path.hasNull path.text = false) (c : Call) (content : α → Text.Content)
    (hharmless : (reply w.browser).Harmless Stage.isTolerated) :
    ∃ kept w', outcome (stage.tolerating artifact path.text
        (Work.call c reply >>= fun a => Work.writeFile path (content a))) w = (.ok kept, w') ∧
      Made reply w w' := by
  obtain ⟨answer, mid, hwork, hmade, htolerated⟩ := exists_made hnull c content hharmless
  rw [Stage.tolerating, outcome_bind_of_ok (outcome_attempt_of hwork)]
  cases answer with
  | ok _ => exact ⟨_, mid, rfl, hmade⟩
  | error failure =>
      obtain ⟨w', hlog, hfiled⟩ := exists_log stage .error
        (Failure.noArtifact artifact failure.message).message mid
      dsimp only
      rw [if_pos (htolerated failure rfl), outcome_bind_of_ok hlog]
      exact ⟨none, w', rfl, hmade.filed hfiled⟩

end Made

section Stages

variable {same : σ → σ → Prop} {slack : AddSubmonoid Int} {stage : Stage σ}
  (hb : stage.browser.Indifferent same slack) (hnull : Path.hasNull stage.runDir.text = false)
include hb

/-- The trace starts in both worlds or in neither, as far as a run can tell. -/
theorem respects_startTrace : Respects (Alongside same slack) (startTrace stage) := by
  intro w w' h
  obtain ⟨v, hstart, hfiled⟩ := exists_startTrace stage w
  obtain ⟨v', hstart', hfiled'⟩ := exists_startTrace stage w'
  obtain ⟨lag, hlag, hbeside⟩ := h
  obtain ⟨-, -, hharmless, hharmless'⟩ := hb.made .startTrace rfl hbeside.browser
  have hpassed : passedOver Failure.isBrowser (stage.browser.startTrace w.browser).answer = .ok () :=
    passedOver_eq_ok_iff.mpr hharmless
  have hpassed' : passedOver Failure.isBrowser (stage.browser.startTrace w'.browser).answer = .ok () :=
    passedOver_eq_ok_iff.mpr hharmless'
  rw [hstart, hstart', hpassed, hpassed']
  exact ⟨.refl _, Alongside.made hb .startTrace rfl ⟨lag, hlag, hbeside⟩
    ((made_after _ _ w).filed hfiled) ((made_after _ _ w').filed hfiled')⟩

/-- Keeping one piece of evidence ends well in both worlds, with or without it. -/
theorem exists_tolerated_alongside (artifact : Artifact) {path : Path}
    (hpath : Path.hasNull path.text = false) {c : Call} {reply : σ → Reply σ α}
    (hreply : stage.browser.Replies c reply) (hmade : c.isArtifact)
    (hpasses : c.passesOver = Stage.isTolerated) (content : α → Text.Content) {w w' : World σ}
    (h : Alongside same slack w w') :
    ∃ kept v kept' v',
      outcome (stage.tolerating artifact path.text
        (Work.call c reply >>= fun a => Work.writeFile path (content a))) w = (.ok kept, v) ∧
      outcome (stage.tolerating artifact path.text
        (Work.call c reply >>= fun a => Work.writeFile path (content a))) w' = (.ok kept', v') ∧
      Alongside same slack v v' := by
  obtain ⟨lag, hlag, hbeside⟩ := h
  obtain ⟨-, -, hharmless, hharmless'⟩ := hb.made hreply hmade hbeside.browser
  rw [hpasses] at hharmless hharmless'
  obtain ⟨kept, v, htried, hdone⟩ := exists_tolerated stage artifact hpath c content hharmless
  obtain ⟨kept', v', htried', hdone'⟩ := exists_tolerated stage artifact hpath c content hharmless'
  exact ⟨kept, v, kept', v', htried, htried',
    Alongside.made hb hreply hmade ⟨lag, hlag, hbeside⟩ hdone hdone'⟩

include hnull

theorem respects_stopTrace : Respects (Alongside same slack) (stopTrace stage) := by
  intro w w' h
  obtain ⟨lag, hlag, hbeside⟩ := h
  obtain ⟨-, -, hharmless, hharmless'⟩ :=
    hb.made (.stopTrace (traceFile stage.runDir).text) rfl hbeside.browser
  have hended : ∀ w : World σ, (stage.browser.stopTrace w.browser).Harmless Stage.isTolerated →
      ∃ v, outcome (stopTrace stage) w = (.ok (), v) ∧ Made stage.browser.stopTrace w v := by
    intro w hw
    obtain ⟨answer, mid, hwork, hmade, htolerated⟩ := exists_made (hasNull_traceFile hnull)
      (.stopTrace (traceFile stage.runDir).text) id hw
    obtain ⟨v, hnoted, hfiled⟩ := exists_noted stage.runDir hwork
    rw [passedOver_eq_ok_iff.mpr htolerated] at hnoted
    exact ⟨v, hnoted, hmade.filed hfiled⟩
  obtain ⟨v, hstop, hmade⟩ := hended w hharmless
  obtain ⟨v', hstop', hmade'⟩ := hended w' hharmless'
  rw [hstop, hstop']
  exact ⟨.refl _, Alongside.made hb (.stopTrace (traceFile stage.runDir).text) rfl
    ⟨lag, hlag, hbeside⟩ hmade hmade'⟩

/-- Keeping evidence ends well in both worlds, with or without it. -/
theorem exists_keepEvidence (n : Nat) {w w' : World σ} (h : Alongside same slack w w') :
    ∃ evidence v evidence' v', outcome (stage.keepEvidence n) w = (.ok evidence, v) ∧
      outcome (stage.keepEvidence n) w' = (.ok evidence', v') ∧ Alongside same slack v v' := by
  obtain ⟨shot, mid, shot', mid', htaken, htaken', hmid⟩ := exists_tolerated_alongside hb .screenshot
    (hasNull_screenshotFile hnull n) (.screenshot (screenshotFile stage.runDir n).text) rfl rfl id h
  obtain ⟨dom, v, dom', v', hkept, hkept', hv⟩ := exists_tolerated_alongside hb .snapshot
    (hasNull_snapshotFile hnull n) .content rfl rfl (fun html => .text (Stage.excerpt html)) hmid
  refine ⟨(shot, dom), v, (shot', dom'), v', ?_, ?_, hv⟩
  · exact (outcome_bind_of_ok htaken).trans (outcome_bind_of_ok hkept)
  · exact (outcome_bind_of_ok htaken').trans (outcome_bind_of_ok hkept')

/-! ## Steps -/

/-- A step ends alike in both worlds: it is reported alike, or the same failure ends the run. -/
theorem lockstep_run (p : Primitive) :
    Lockstep (Alongside same slack) (Stage.Outcome.Alike slack) (stage.run p) (stage.run p) := by
  rintro w w' ⟨lag, hlag, h⟩
  obtain ⟨begun, begins, hfiled⟩ := exists_log stage .info s!"Step {p.index + 1}: {p.description}" w
  obtain ⟨begun', begins', hfiled'⟩ :=
    exists_log stage .info s!"Step {p.index + 1}: {p.description}" w'
  have hbegun := h.filed hfiled hfiled'
  have hacted := (moving_beside hb lag).act p.toAction hbegun
  rcases acts : outcome (stage.act p.toAction) begun with ⟨answer, acted⟩
  obtain ⟨acted', acts', hacted⟩ := ((moving_beside hb lag).act p.toAction).outcome_eq hbegun acts
  have hstarted : w'.now - w.now ∈ slack := by rwa [h.now, add_sub_cancel_left]
  have hduration : acted'.now - w'.now = acted.now - w.now := by
    rw [hacted.now, h.now, Int.add_sub_add_right]
  cases answer with
  | ok extract =>
      have hended : acted'.now - acted.now ∈ slack := by rwa [hacted.now, add_sub_cancel_left]
      rw [(StepDerivation.passed begins acts).execution, (StepDerivation.passed begins' acts').execution]
      exact ⟨.ok ⟨⟨rfl, rfl, rfl, rfl, rfl, hduration, hstarted, hended⟩, rfl⟩, lag, hlag, hacted⟩
  | error failure =>
      by_cases foreseen : Stage.failsStep failure
      · obtain ⟨warned, warns, hwarned⟩ := exists_log stage .warning
          s!"Step {p.index + 1} failed: {failure.message}" acted
        obtain ⟨warned', warns', hwarned'⟩ := exists_log stage .warning
          s!"Step {p.index + 1} failed: {failure.message}" acted'
        obtain ⟨⟨shot, dom⟩, v, ⟨shot', dom'⟩, v', keeps, keeps', hv⟩ :=
          exists_keepEvidence hb hnull (p.index + 1) ⟨lag, hlag, hacted.filed hwarned hwarned'⟩
        obtain ⟨last, hlast, hbeside⟩ := hv
        have hended : v'.now - v.now ∈ slack := by rwa [hbeside.now, add_sub_cancel_left]
        rw [(StepDerivation.failed begins acts foreseen warns keeps).execution,
          (StepDerivation.failed begins' acts' foreseen warns' keeps').execution]
        exact ⟨.ok ⟨⟨rfl, rfl, rfl, rfl, rfl, hduration, hstarted, hended⟩, rfl⟩, last, hlast, hbeside⟩
      · have hcrash : ∀ {w begun acted : World σ},
            outcome (stage.log .info s!"Step {p.index + 1}: {p.description}") w = (.ok (), begun) →
            outcome (stage.act p.toAction) begun = (.error failure, acted) →
            outcome (stage.run p) w = (.error failure, acted) := by
          intro w begun acted begins acts
          rw [Stage.run, outcome_bind_of_ok (outcome_now w), outcome_bind_of_ok begins,
            outcome_bind_of_ok (outcome_attempt_of acts)]
          dsimp only
          rw [if_neg foreseen, outcome_throw]
        rw [hcrash begins acts, hcrash begins' acts']
        exact ⟨.error failure, lag, hlag, hacted⟩

theorem lockstep_steps {progress progress' : Progress} (h : progress.Alike slack progress')
    (primitives : List Primitive) :
    Lockstep (Alongside same slack) (Progress.Alike slack) (steps stage progress primitives)
      (steps stage progress' primitives) := by
  induction primitives generalizing progress progress' with
  | nil => exact lockstep_pure h
  | cons p rest ih =>
      refine (lockstep_run hb hnull p).bind fun out out' hout => ?_
      dsimp only
      rw [hout.report.verdict]
      cases out.report.verdict with
      | failed => exact lockstep_pure (h.add hout)
      | passed => exact ih (h.add hout)

end Stages

/-! ## The end of a run -/

section Live

variable {host : Host σ} {options : RunOptions} {plan : Plan} {known : Prepared}
  {same : σ → σ → Prop} {slack : AddSubmonoid Int}

theorem lockstep_visit (hb : host.browser.Indifferent same slack)
    (hnull : Path.hasNull (known.directory options).text = false) :
    Lockstep (Alongside same slack) (Progress.Alike slack) (visit host options known)
      (visit host options known) := by
  have hstage : (known.stage host options).browser.Indifferent same slack := hb
  have hwork := lockstep_steps hstage hnull (Progress.alike_start slack (known.directory options))
    known.primitives
  refine (respects_alongside fun _ => respects_beside_log _ _ _).bind_eq fun _ =>
    (respects_alongside fun _ =>
      respects_beside_call hb (.openSession options.headless) rfl).bind_eq fun _ => ?_
  exact ((respects_startTrace hstage).bind_eq fun _ =>
    hwork.andFinally (respects_stopTrace hstage hnull)).andFinally
      (respects_alongside fun _ => respects_beside_call hb .closeSession rfl)

/-- No directory of site profiles is made in the place of the report of a run. -/
def ProfilesApart (options : RunOptions) (runDir : Path) (home : List String) : Prop :=
  ∀ q : Path, q.OnWay options.profiles → q.resolve home ≠ (reportFile runDir).resolve home

/-- Site profiles in their usual place are apart from a run with a plain name. -/
theorem profilesApart_of_usual {options : RunOptions} {name : String}
    (hprofiles : options.profilesRoot = none) (hroot : ".." ∉ options.artifactsRoot.parts)
    (hname : Path.IsPart name) (hup : name ≠ "..") (home : List String) :
    ProfilesApart options (options.artifactsRoot.child name) home := by
  intro q hway hplace
  have husual : options.profiles =
      ⟨options.artifactsRoot.root, options.artifactsRoot.parts ++ ["site-profiles"]⟩ := by
    rw [RunOptions.profiles, hprofiles, Option.getD_none, Path.child_of_isPart _ (by decide)]
  rw [husual] at hway
  have hplain : ".." ∉ q.parts := by
    intro h
    rcases List.mem_append.mp (hway.parts.subset h) with h | h
    · exact hroot h
    · exact absurd h (by decide)
  -- The report is one part deeper than any directory on the way to the site profiles.
  rw [reportFile, Path.resolve_child _ (by decide) (by decide), Path.resolve_child _ hname hup,
    Path.resolve, Path.resolve, Path.foldl_step_of_notMem _ hplain,
    Path.foldl_step_of_notMem _ hroot, hway.root] at hplace
  have hlength := congrArg List.length hplace
  have hshort := hway.parts.length_le
  simp only [List.length_append, List.length_cons, List.length_nil] at hlength hshort
  omega

/-- Saving the site profile takes no room from the report. -/
theorem room_of_finish {w closed : World σ} (hvisited : Within (Leaf (known.directory options)) w closed)
    (happart : ProfilesApart options (known.directory options) w.files.home)
    (hroom : w.files.room (reportFile (known.directory options)) = .ok () ∨
      w.files.room (reportFile (known.directory options)) =
        .error (.file (.isDirectory (reportFile (known.directory options)).text))) :
    (outcome (saveProfile (known.stage host options) options.profiles) closed).2.files.room
        (reportFile (known.directory options)) =
      w.files.room (reportFile (known.directory options)) := by
  obtain ⟨honly, hmade⟩ := @onlyAt_saveProfile _ (known.stage host options) options.profiles
    (fun _ => True) closed trivial trivial
  refine (hvisited.files.toDirectoriesStay.trans honly.toDirectoriesStay).room (fun hnew => ?_) hroom
  rcases hmade.directory _ hnew with hold | ⟨q, hway, hplace⟩
  · exact (hvisited.directories.directory _).mp hold
  · rw [hvisited.files.home] at hplace
    exact absurd hplace (happart q hway)

/-- Whether the site profile can be saved or not, a run gives what its visit comes to, if there is room
for the report. -/
theorem answer_of_finish (plan : Plan) {w : World σ} (hdomain : Profile.IsDomain w.profile.domain)
    (hnull : Path.hasNull (Profile.file options.profiles w.profile.domain).text = false)
    (happart : ProfilesApart options (known.directory options) w.files.home)
    (hroom : w.files.room (reportFile (known.directory options)) = .ok () ∨
      w.files.room (reportFile (known.directory options)) =
        .error (.file (.isDirectory (reportFile (known.directory options)).text))) :
    (outcome (finish host options plan known) w).1 =
      ((outcome (visit host options known) w).1.map
        (known.report plan (outcome (visit host options known) w).2.now)) >>=
          Report.given (reportRoom (known.directory options) w.files) := by
  have hvisited := within_visit host options known w
  rw [outcome_finish]
  rcases hvisit : outcome (visit host options known) w with ⟨answer, closed⟩
  rw [hvisit] at hvisited
  rw [← hvisited.domain] at hdomain hnull
  obtain ⟨saved, hsave⟩ := @exists_saved _ (known.stage host options) _ closed hdomain hnull
  have hkept := @room_of_finish _ host _ _ _ _ hvisited happart hroom
  obtain ⟨_, _, _, idle, hidle, -, hfiled⟩ :=
    exists_saveProfile (known.stage host options) options.profiles closed
  rw [hsave] at hidle hkept
  obtain rfl : saved = idle := (Prod.mk.inj hidle).2
  cases answer with
  | error failure =>
      rw [depart_of_error, outcome_bind_of_ok hsave]
      rfl
  | ok progress =>
      rw [outcome_depart_of_ok hsave, answer_of_conclude, reportRoom, hkept, hfiled.now]
      rfl

end Live

/-! ## Whole runs -/

/-- Files after trouble that stayed away from the working directory, and left as much room for a file as
there was. -/
structure Spares (p : Path) (files troubled : Files) : Prop where
  home : troubled.home = files.home
  room : troubled.room p = files.room p

/-- A live run that gets into trouble with files when its site profile is loaded. -/
def runAmid (host : Host σ) (options : RunOptions) (plan : Plan) (trouble : Files → Files) :
    Work σ Report := do
  let known ← prepare host options plan
  modify fun w => { w with files := trouble w.files }
  finish host options plan known

theorem runAmid_id (host : Host σ) (options : RunOptions) (plan : Plan)
    (hlive : options.dryRun = false) : runAmid host options plan id = run host options plan := by
  have hidle : (modify fun w => { w with files := id w.files } : Work σ PUnit) = pure ⟨⟩ := rfl
  rw [run_eq_prepare host options plan hlive, runAmid]
  exact bind_congr fun known => by rw [hidle, pure_bind]

/-- The same world, but for the browser. -/
def Rebrowsed (state : σ) (w w' : World σ) : Prop :=
  w' = { w with browser := state }

theorem respects_rebrowsed_change (state : σ) (f : Files → Except Failure Files) :
    Respects (Rebrowsed state) (Work.change f : Work σ Unit) := by
  rintro w _ rfl
  simp only [Work.change, outcome_bind, outcome_get]
  cases f w.files with
  | ok files => exact ⟨.refl _, rfl⟩
  | error failure => exact ⟨.refl _, rfl⟩

theorem preparing_rebrowsed (state : σ) (runDir : Path) :
    Preparing (Rebrowsed state) runDir where
  now := by rintro w _ rfl; rfl
  profiled := by rintro w _ profile rfl; rfl
  housed := respects_rebrowsed_change state _
  looked f := by rintro w _ rfl; exact ⟨.refl _, rfl⟩
  noted level message := lockstep_modify (by rintro w _ rfl; rfl)
  opened := by
    rintro w _ rfl
    exact respects_rebrowsed_change state _ rfl

/-- A live run comes to its steps without looking at the browser. -/
theorem respects_prepare (host : Host σ) (options : RunOptions) (plan : Plan) (state : σ) :
    Respects (Rebrowsed state) (prepare host options plan) := by
  refine Lockstep.bind_eq ?_ fun runId => (preparing_rebrowsed state _).prepareAs host plan
  unfold pickName
  split
  · exact lockstep_pure rfl
  · rintro w _ rfl
    exact ⟨.refl _, rfl⟩

section Trouble

variable {host : Host σ} {options : RunOptions} {plan : Plan} {same : σ → σ → Prop}
  {slack : AddSubmonoid Int}

theorem Prepared.alike_report (known : Prepared) (plan : Plan) {progress progress' : Progress}
    (h : progress.Alike slack progress') {ended ended' : Instant} (hended : ended' - ended ∈ slack) :
    (known.report plan ended progress).Alike slack (known.report plan ended' progress') where
  runId := rfl
  verdict := h.verdict
  startedAt := rfl
  endedAt := hended
  durationMs := by
    rw [Prepared.report, Prepared.report, sub_sub_sub_cancel_right]
    exact hended
  plan := rfl
  artifacts := h.artifacts
  steps := h.steps
  outputs := h.outputs

/-- What a run gives after trouble with files depends on them by the room for its report, which is still
what it was. -/
theorem answer_of_trouble (host : Host σ) (plan : Plan) {known : Prepared} {w loaded v : World σ}
    (hplaced : Placed options known w loaded)
    (happart : ProfilesApart options (known.directory options) w.files.home)
    (hprofile : v.profile = loaded.profile)
    (hspare : Spares (reportFile (known.directory options)) loaded.files v.files) :
    (outcome (finish host options plan known) v).1 =
      ((outcome (visit host options known) v).1.map
        (known.report plan (outcome (visit host options known) v).2.now)) >>=
          Report.given (reportRoom (known.directory options) loaded.files) := by
  have hhome : v.files.home = w.files.home := by rw [hspare.home, hplaced.home]
  have hroom : loaded.files.room (reportFile (known.directory options)) = .ok () ∨
      loaded.files.room (reportFile (known.directory options)) =
        .error (.file (.isDirectory (reportFile (known.directory options)).text)) :=
    Files.room_child hplaced.directory (by decide) (by decide) (by decide)
  have hanswer := @answer_of_finish _ host options known plan v
  rw [hprofile, hhome, reportRoom, hspare.room] at hanswer
  exact hanswer hplaced.domain hplaced.profile happart hroom

/-- Once the site profile is loaded, runs alongside each other end alike, if there is the same room for
their reports. -/
theorem endAlike_finish (hb : host.browser.Indifferent same slack) {known : Prepared}
    {w loaded v v' : World σ} (hplaced : Placed options known w loaded)
    (happart : ProfilesApart options (known.directory options) w.files.home)
    (hside : Alongside same slack v v') (hprofile : v.profile = loaded.profile)
    (hspare : Spares (reportFile (known.directory options)) loaded.files v.files)
    (hspare' : Spares (reportFile (known.directory options)) loaded.files v'.files) :
    Report.EndAlike slack (outcome (finish host options plan known) v).1
      (outcome (finish host options plan known) v').1 := by
  have hprofile' : v'.profile = loaded.profile := by
    obtain ⟨_, -, hbeside⟩ := hside
    rw [hbeside.profile, hprofile]
  have hnull : Path.hasNull (known.directory options).text = false := by
    obtain ⟨_, hkey, -⟩ := Files.isDirectory_iff.mp hplaced.directory
    exact (Files.locate_eq_ok hkey).1
  have hgiven := answer_of_trouble host plan hplaced happart hprofile hspare
  have hgiven' := answer_of_trouble host plan hplaced happart hprofile' hspare'
  obtain ⟨hvisit, hclosed⟩ := @lockstep_visit _ host options known same slack hb hnull v v' hside
  refine ⟨_, _, _, ?_, hgiven, hgiven'⟩
  generalize outcome (visit host options known) v = visited at hvisit hclosed ⊢
  generalize outcome (visit host options known) v' = visited' at hvisit hclosed ⊢
  obtain ⟨answer, closed⟩ := visited
  obtain ⟨answer', closed'⟩ := visited'
  obtain ⟨last, hlast, hbeside⟩ := hclosed
  cases hvisit with
  | error failure => exact .error failure
  | ok halike =>
      refine .ok (known.alike_report plan halike ?_)
      rwa [hbeside.now, add_sub_cancel_left]

/-- Trouble with artifacts is no matter. Let two live runs of a plan begin in the same world but for
browsers that are alike, and let any trouble with files come when the site profile is loaded, as long as it
leaves the report its room, which the directory of site profiles is not to take either. Then both end alike:
with the same failure or with reports that tell the same, but for the artifacts of a failed step and for
times, which are apart by slack. Without trouble these are just runs. -/
theorem runs_amid_trouble_end_alike (host : Host σ) (options : RunOptions) (plan : Plan)
    {w : World σ} {state : σ} {trouble trouble' : Files → Files} (hlive : options.dryRun = false)
    (hb : host.browser.Indifferent same slack) (hsame : same w.browser state)
    (happart : ProfilesApart options (dirOf options w) w.files.home)
    (hspare : ∀ known loaded, outcome (prepare host options plan) w = (.ok known, loaded) →
      Spares (reportFile (dirOf options w)) loaded.files (trouble loaded.files))
    (hspare' : ∀ known loaded, outcome (prepare host options plan) w = (.ok known, loaded) →
      Spares (reportFile (dirOf options w)) loaded.files (trouble' loaded.files)) :
    runAmid host options plan id = run host options plan ∧
      Report.EndAlike slack (outcome (runAmid host options plan trouble) w).1
        (outcome (runAmid host options plan trouble') { w with browser := state }).1 := by
  refine ⟨runAmid_id host options plan hlive, ?_⟩
  rcases hprepare : outcome (prepare host options plan) w with ⟨failure | known, loaded⟩
  · obtain ⟨_, hprepare', rfl⟩ := (respects_prepare host options plan state).outcome_eq rfl hprepare
    rw [runAmid, runAmid, outcome_bind_of_error hprepare, outcome_bind_of_error hprepare']
    exact ⟨.error failure, .error failure, .ok (), .error failure, rfl, rfl⟩
  · obtain ⟨_, hprepare', rfl⟩ := (respects_prepare host options plan state).outcome_eq rfl hprepare
    have hplaced := placed_of_prepare hprepare
    have hunseen : Unseen (dirOf options w) w loaded := by
      have h : Unseen (dirOf options w) w _ := unseen_prepare host options plan w
      rwa [hprepare] at h
    have hbeside : Beside same 0 { loaded with files := trouble loaded.files }
        { loaded with browser := state, files := trouble' loaded.files } :=
      ⟨hunseen.browser ▸ hsame, (Int.add_zero _).symm, rfl⟩
    have hleft := hspare known loaded hprepare
    have hleft' := hspare' known loaded hprepare
    rw [← directory_of_prepare hprepare] at happart hleft hleft'
    rw [runAmid, runAmid, outcome_bind_of_ok hprepare, outcome_bind_of_ok hprepare',
      outcome_bind_of_ok (outcome_modify _ _), outcome_bind_of_ok (outcome_modify _ _)]
    exact endAlike_finish hb hplaced happart ⟨0, slack.zero_mem, hbeside⟩ rfl hleft hleft'

end Trouble

/-- A step that fails, with its evidence and without any: no call for an artifact works, and directories
and files are in the way of the rest. -/
theorem runs_amid_trouble_end_alike_without_evidence :
    let plan : Plan := ⟨.str "1", .null, .null,
      [.goto (.str "https://example.com/"), .click (.str "Help") .null]⟩
    let options : RunOptions := { RunOptions.usual with runId := some "x" }
    let host : Host Page := ⟨Page.browser, [], none⟩
    let w : World Page := ⟨.blank, 0, .empty [], .empty Profile.defaultDomain, 0, [], [], []⟩
    let state : Page := { Page.blank with
      faults := [("start_trace", .browser "no trace"), ("screenshot", .browser "no screenshot"),
        ("stop_trace", .file (.other "no space left"))] }
    let trouble : Files → Files := fun files =>
      (files.put ["runs", "x", "failure-step-2.dom.html"] .directory).put ["runs", "site-profiles"]
        (.file (.text ""))
    options.dryRun = false ∧ host.browser.Indifferent Page.Alike ⊥ ∧ w.browser.Alike state ∧
      ProfilesApart options (dirOf options w) w.files.home ∧
      (∀ known loaded, outcome (prepare host options plan) w = (.ok known, loaded) →
        Spares (reportFile (dirOf options w)) loaded.files loaded.files ∧
          Spares (reportFile (dirOf options w)) loaded.files (trouble loaded.files)) ∧
      Report.EndAlike ⊥ (outcome (run host options plan) w).1
        (outcome (runAmid host options plan trouble) { w with browser := state }).1 ∧
      endsIn (run host options plan) w (fun report _ =>
        report.verdict == .failed && report.artifacts.snapshot.isSome) ∧
      endsIn (runAmid host options plan trouble) { w with browser := state } fun report _ =>
        report.verdict == .failed && report.artifacts.snapshot.isNone := by
  intro plan options host w state trouble
  have halike : w.browser.Alike state := Page.alike_of_faults rfl (by decide)
  have happart : ProfilesApart options (dirOf options w) w.files.home := by
    rw [show dirOf options w = options.artifactsRoot.child "x" by decide +kernel]
    exact profilesApart_of_usual rfl (by decide) (by decide) (by decide) _
  have hspare : ∀ known loaded, outcome (prepare host options plan) w = (.ok known, loaded) →
      Spares (reportFile (dirOf options w)) loaded.files (trouble loaded.files) := by
    intro known loaded hprepare
    obtain rfl : (outcome (prepare host options plan) w).2 = loaded := congrArg Prod.snd hprepare
    have hfree : ((outcome (prepare host options plan) w).2.files.room
          (reportFile (dirOf options w))).isOk = true ∧
        ((trouble (outcome (prepare host options plan) w).2.files).room
          (reportFile (dirOf options w))).isOk = true := by
      decide +kernel
    have hok : ∀ {room : Except Failure Unit}, room.isOk = true → room = .ok () := by
      rintro (_ | ⟨⟩) h
      · cases h
      · rfl
    have hhome : ∀ files, (trouble files).home = files.home := fun _ => rfl
    exact ⟨hhome _, (hok hfree.2).trans (hok hfree.1).symm⟩
  obtain ⟨hrun, hends⟩ := @runs_amid_trouble_end_alike _ _ _ host options plan w state id trouble rfl
    (Page.indifferent_browser ⊥) halike happart (fun _ _ _ => ⟨rfl, rfl⟩) hspare
  rw [hrun] at hends
  exact ⟨rfl, Page.indifferent_browser ⊥, halike, happart,
    fun known loaded h => ⟨⟨rfl, rfl⟩, hspare known loaded h⟩, hends, by decide +kernel,
    by decide +kernel⟩

/-- If site profiles are saved in the place of the report, then a run fails for lack of room, unless
there is trouble that keeps its site profile from being saved. A run whose browser does not even start
comes to no report. -/
theorem profiles_in_place_of_report :
    let plan : Plan := ⟨.str "1", .null, .null, [.goto (.str "https://example.com/")]⟩
    let options : RunOptions := { RunOptions.usual with
      runId := some "x"
      profilesRoot := some (Path.ofText "runs/x/RunResult.json") }
    let host : Host Page := ⟨Page.browser, [], none⟩
    let w : World Page := ⟨.blank, 0, .empty [], .empty Profile.defaultDomain, 0, [], [], []⟩
    let dead : Page := { Page.blank with faults := [("launch", .browser "no browser")] }
    let trouble : Files → Files := fun files =>
      files.put ["runs", "x", "RunResult.json"] (.file (.text ""))
    let verdict : Except Failure Report → Except String Verdict := fun answer =>
      (answer.mapError Failure.message).map Report.verdict
    Plan.validate plan.toJson = .ok plan ∧
      verdict (outcome (run host options plan) w).1 =
        .error ("Failed to write run result runs/x/RunResult.json: " ++
          "[Errno 21] Is a directory: 'runs/x/RunResult.json'") ∧
      verdict (outcome (runAmid host options plan trouble) w).1 = .ok .passed ∧
      verdict (outcome (run host .usual plan) { w with browser := dead }).1 = .error "no browser" :=
  ⟨rfl, by decide +kernel, by decide +kernel, by decide +kernel⟩

end Run

end Walkthrough
