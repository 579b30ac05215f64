import Walkthrough.Proofs.Plan.Selectors
import Walkthrough.Proofs.Run.Punctual
import Walkthrough.Proofs.Run.Steps

/-! # Runs abreast of each other

A run without selectors keeps abreast of one with them, if it knows from the beginning what the other one
learns: both are on the same page after every step, and have done the same there. -/

namespace Walkthrough

open Effect

variable {σ α : Type}

/-- Two runs that are on the same page and have done the same since they began, the second of them with
certain selectors in its profile. -/
structure Abreast (fair : σ → Prop) (before before' : List Call) (selectors : Table String)
    (w v : World σ) : Prop where
  browser : v.browser = w.browser
  fair : fair w.browser
  deeds : ∃ acts, deeds w.events = before ++ acts ∧ deeds v.events = before' ++ acts
  selectors : v.profile.selectors = selectors

theorem Run.Filed.looked {runDir : Path} {w w' : World σ} (h : Run.Filed runDir w w') : Looked w w' :=
  ⟨h.browser, by rw [h.events]⟩

section Abreast

variable {fair : σ → Prop} {before before' : List Call} {selectors : Table String} {w w' v v' : World σ}

theorem Abreast.looked (h : Abreast fair before before' selectors w v) (hw : Looked w w')
    (hv : Looked v v') (hprofile : v'.profile = v.profile) :
    Abreast fair before before' selectors w' v' where
  browser := by rw [hv.browser, hw.browser, h.browser]
  fair := hw.browser ▸ h.fair
  deeds := by
    rw [hw.deeds, hv.deeds]
    exact h.deeds
  selectors := by rw [hprofile, h.selectors]

theorem Abreast.filed (h : Abreast fair before before' selectors w v) {runDir runDir' : Path}
    (hw : Run.Filed runDir w w') (hv : Run.Filed runDir' v v') :
    Abreast fair before before' selectors w' v' :=
  h.looked hw.looked hv.looked hv.profile

/-- A call that both make, or calls that are no deeds. -/
theorem Abreast.after {b : Browser σ} (hb : b.Punctual fair)
    (h : Abreast fair before before' selectors w v) {c c' : Call} {reply : σ → Reply σ α}
    (hreply : b.Replies c reply) (hsame : Walkthrough.deeds [.call c'] = Walkthrough.deeds [.call c]) :
    Abreast fair before before' selectors (w.after c (reply w.browser))
      (v.after c' (reply v.browser)) where
  browser := by rw [h.browser]; rfl
  fair := hb.called hreply h.fair
  deeds := by
    obtain ⟨acts, hw, hv⟩ := h.deeds
    refine ⟨acts ++ Walkthrough.deeds [.call c], ?_, ?_⟩
    · rw [World.after, deeds_append, hw, List.append_assoc]
    · rw [World.after, deeds_append, hv, hsame, List.append_assoc]
  selectors := h.selectors

theorem acting_abreast {stage : Stage σ} (hb : stage.browser.Punctual fair) :
    stage.Acting (Abreast fair before before' selectors) where
  url h := by rw [h.browser]
  called hreply _ := by
    intro w v h
    rw [outcome_call, outcome_call]
    refine ⟨?_, h.after hb hreply rfl⟩
    rw [h.browser]
    exact .refl _
  read key index := by
    intro w v h
    simp only [outcome_receive, h.browser]
    exact ⟨.refl _, ⟨rfl, hb.read key index h.fair, h.deeds, h.selectors⟩⟩

end Abreast

/-! ## Actions -/

namespace Stage

/-- The same stage with another directory. -/
def movedTo (stage : Stage σ) (dir : Path) : Stage σ :=
  { stage with runDir := dir }

theorem readTexts_movedTo (stage : Stage σ) (dir : Path) (key : Key) (index n : Nat) :
    (stage.movedTo dir).readTexts key index n = stage.readTexts key index n := by
  induction n generalizing index with
  | zero => rfl
  | succ n ih =>
      rw [readTexts, readTexts]
      exact bind_congr fun _ => by rw [ih]

/-- No action makes use of the directory. -/
theorem act_movedTo (stage : Stage σ) (dir : Path) (action : Action) :
    (stage.movedTo dir).act action = stage.act action := by
  have hextract : (stage.movedTo dir).extract action.payload = stage.extract action.payload := by
    simp only [extract, readTexts_movedTo]
    rfl
  simp only [act, hextract]
  rfl

theorem act_click (stage : Stage σ) {action : Action} (h : action.kind = "click") :
    stage.act action = stage.click action.payload >>= fun _ => pure none := by
  rw [act, h]
  rfl

theorem act_fill (stage : Stage σ) {action : Action} (h : action.kind = "fill") :
    stage.act action = stage.fill action.payload >>= fun _ => pure none := by
  rw [act, h]
  rfl

/-- Actions that look for no target and fill nothing. -/
theorem Acting.act {r : World σ → World σ → Prop} {stage : Stage σ} (h : Acting r stage)
    {action : Action} (hclick : action.kind ≠ "click") (hfill : action.kind ≠ "fill") :
    Respects r (stage.act action) := by
  unfold Stage.act
  split
  · exact (h.goto _).bind_eq fun _ => lockstep_pure rfl
  · exact absurd ‹_› hclick
  · exact absurd ‹_› hfill
  · exact (h.expect _).bind_eq fun _ => lockstep_pure rfl
  · exact (h.waitFor _).bind_eq fun _ => lockstep_pure rfl
  · exact (h.extract stage.secrets _).bind_eq fun _ => lockstep_pure rfl
  · exact lockstep_throw _

/-- A profile knows what another one will know of the target of a step that is carried out with it. -/
def Foreknows (stage : Stage σ) (p : Primitive) (w v : World σ) : Prop :=
  ∀ target, p.target? = some target → Table.get? v.profile.selectors target =
    Table.get? (w.profile.taught (stage.lesson? p w.browser).toList).selectors target

variable {p : Primitive}

theorem ensureText_withoutSelector (p : Primitive) {key : String} (h : key ≠ "selector") :
    ensureText p.withoutSelector.payload key = ensureText p.payload key := by
  have hsame : Table.get? p.withoutSelector.payload key = Table.get? p.payload key :=
    p.toAction.get?_withoutSelector h
  rw [ensureText, ensureText, hsame]

theorem text?_withoutSelector (hkind : p.kind = "click" ∨ p.kind = "fill") :
    text? p.withoutSelector.payload "selector" = some "" := by
  have hset : p.withoutSelector.payload = Table.set p.payload "selector" (.str "") := by
    rw [Primitive.withoutSelector, Action.withoutSelector, if_pos hkind]
  rw [text?, hset, Table.get?_set, if_pos rfl]
  rfl

section Again

variable {stage : Stage σ} {fair : σ → Prop} (hb : stage.browser.Punctual fair)
  {before before' : List Call} {selectors : Table String} {w w' v : World σ}
  (h : Abreast fair before before' selectors w v)
include hb h

theorem exists_resolve_again {target : String} (htarget : p.target? = some (Text.strip target))
    (hknown : stage.Foreknows p w v) {found : Candidate}
    (hfound : outcome (Locate.resolve stage.browser target (text? p.payload "selector")
      stage.timeoutMs) w = (.ok found, w')) :
    ∃ found' v', outcome (Locate.resolve stage.browser target (some "") stage.timeoutMs) v =
        (.ok found', v') ∧
      found'.key = found.key ∧ Abreast fair before before' selectors w' v' := by
  have htaught := hknown (Text.strip target) htarget
  rw [lesson?, htarget] at htaught
  obtain ⟨hlooked, found', v', hfound', hkey, hlooked', hprofile⟩ :=
    Locate.exists_resolve hb h.fair h.browser htaught hfound
  exact ⟨found', v', hfound', hkey, h.looked hlooked hlooked' hprofile⟩

theorem exists_click_again (hkind : p.kind = "click") (hknown : stage.Foreknows p w v)
    (hclick : outcome (stage.click p.payload) w = (.ok (), w')) :
    ∃ v', outcome (stage.click p.withoutSelector.payload) v = (.ok (), v') ∧
      Abreast fair before before' selectors w' v' := by
  obtain ⟨target, _, htext, hrest⟩ := outcome_bind_eq_ok_iff.mp hclick
  obtain ⟨hensure, rfl⟩ := Prod.mk.inj htext
  obtain ⟨found, located, hfound, hwait⟩ := outcome_bind_eq_ok_iff.mp hrest
  have htarget : p.target? = some (Text.strip target) := by
    rw [Primitive.target?, hkind]
    simp [hensure, Except.toOption]
  obtain ⟨found', located', hfound', hkey, hlocated⟩ :=
    exists_resolve_again hb h htarget hknown hfound
  have hacting : stage.Acting (Abreast fair before before' selectors) := acting_abreast hb
  have hcalled := hacting.called (.click found.key stage.timeoutMs) rfl
  obtain ⟨v', hwait', hv'⟩ := (lockstep_waiting _ _ hcalled).outcome_eq hlocated hwait
  refine ⟨v', ?_, hv'⟩
  have hensure' : outcome (Effect.ofExcept (ensureText p.withoutSelector.payload "target")) v =
      (.ok target, v) := by
    rw [ensureText_withoutSelector p (by decide), hensure, outcome_ofExcept]
  rw [click, outcome_bind_of_ok hensure', text?_withoutSelector (.inl hkind),
    outcome_bind_of_ok hfound', hkey]
  exact hwait'

theorem exists_fill_again (hkind : p.kind = "fill") (hknown : stage.Foreknows p w v)
    (hfill : outcome (stage.fill p.payload) w = (.ok (), w')) :
    ∃ v', outcome (stage.fill p.withoutSelector.payload) v = (.ok (), v') ∧
      Abreast fair before before' selectors w' v' := by
  obtain ⟨field, _, htext, hrest⟩ := outcome_bind_eq_ok_iff.mp hfill
  obtain ⟨hfield, rfl⟩ := Prod.mk.inj htext
  obtain ⟨value, _, htext, hrest⟩ := outcome_bind_eq_ok_iff.mp hrest
  obtain ⟨hvalue, rfl⟩ := Prod.mk.inj htext
  obtain ⟨found, located, hfound, hrest⟩ := outcome_bind_eq_ok_iff.mp hrest
  obtain ⟨plain, _, hsecret, hwait⟩ := outcome_bind_eq_ok_iff.mp hrest
  obtain ⟨hplain, rfl⟩ := Prod.mk.inj hsecret
  have htarget : p.target? = some (Text.strip field) := by
    rw [Primitive.target?, hkind]
    simp [hfield, Except.toOption]
  obtain ⟨found', located', hfound', hkey, hlocated⟩ :=
    exists_resolve_again hb h htarget hknown hfound
  have hacting : stage.Acting (Abreast fair before before' selectors) := acting_abreast hb
  have hcalled := hacting.called (.fill found.key plain stage.timeoutMs) rfl
  obtain ⟨v', hwait', hv'⟩ := (lockstep_waiting _ _ hcalled).outcome_eq hlocated hwait
  refine ⟨v', ?_, hv'⟩
  have hfield' : outcome (Effect.ofExcept (ensureText p.withoutSelector.payload "field")) v =
      (.ok field, v) := by
    rw [ensureText_withoutSelector p (by decide), hfield, outcome_ofExcept]
  have hvalue' : outcome (Effect.ofExcept (ensureText p.withoutSelector.payload "value")) v =
      (.ok value, v) := by
    rw [ensureText_withoutSelector p (by decide), hvalue, outcome_ofExcept]
  have hplain' : outcome (Effect.ofExcept (Secret.resolve stage.secrets value)) located' =
      (.ok plain, located') := by
    rw [hplain, outcome_ofExcept]
  rw [fill, outcome_bind_of_ok hfield', outcome_bind_of_ok hvalue',
    text?_withoutSelector (.inr hkind), outcome_bind_of_ok hfound', outcome_bind_of_ok hplain', hkey]
  exact hwait'

/-- An action that ends well with a selector, or without it, does so without it, in the same place. -/
theorem exists_act_again (hknown : stage.Foreknows p w v) {extract : Option Extract}
    (hact : outcome (stage.act p.toAction) w = (.ok extract, w')) :
    ∃ v', outcome (stage.act p.withoutSelector.toAction) v = (.ok extract, v') ∧
      Abreast fair before before' selectors w' v' := by
  have hkind : p.withoutSelector.kind = p.kind := p.toAction.kind_withoutSelector
  by_cases hclick : p.kind = "click"
  · rw [act_click stage hclick] at hact
    obtain ⟨_, clicked, hdone, hnone⟩ := outcome_bind_eq_ok_iff.mp hact
    obtain rfl := Except.ok.inj (Prod.mk.inj hnone).1
    obtain rfl := (Prod.mk.inj hnone).2
    obtain ⟨v', hagain, hv'⟩ := exists_click_again hb h hclick hknown hdone
    exact ⟨v', by rw [act_click stage (hkind.trans hclick), outcome_bind_of_ok hagain, outcome_pure],
      hv'⟩
  by_cases hfill : p.kind = "fill"
  · rw [act_fill stage hfill] at hact
    obtain ⟨_, filled, hdone, hnone⟩ := outcome_bind_eq_ok_iff.mp hact
    obtain rfl := Except.ok.inj (Prod.mk.inj hnone).1
    obtain rfl := (Prod.mk.inj hnone).2
    obtain ⟨v', hagain, hv'⟩ := exists_fill_again hb h hfill hknown hdone
    exact ⟨v', by rw [act_fill stage (hkind.trans hfill), outcome_bind_of_ok hagain, outcome_pure],
      hv'⟩
  have hsame : p.withoutSelector.toAction = p.toAction :=
    Action.withoutSelector_of_ne hclick hfill
  rw [hsame]
  exact ((acting_abreast hb).act hclick hfill).outcome_eq h hact

end Again

end Stage

/-! ## Steps -/

namespace Run

theorem filed_of_log {stage : Stage σ} {level : Level} {message : String} {w w' : World σ}
    (h : outcome (stage.log level message) w = (.ok (), w')) : Filed stage.runDir w w' := by
  obtain ⟨logged, hlog, hfiled⟩ := exists_log stage level message w
  rw [hlog] at h
  exact (Prod.mk.inj h).2 ▸ hfiled

variable {stage : Stage σ} {fair : σ → Prop} {before before' : List Call} {selectors : Table String}
  {primitives : List Primitive} {w w' v : World σ}

/-- A step that passes does so without its selector, in any directory. -/
theorem exists_run_again (hb : stage.browser.Punctual fair)
    (h : Abreast fair before before' selectors w v) {p : Primitive} {out : Stage.Outcome}
    (hknown : stage.Foreknows p w v) (hstep : StepDerivation stage p w w' out)
    (hpassed : out.report.verdict = .passed) (dir : Path) :
    ∃ out' v', StepDerivation (stage.movedTo dir) p.withoutSelector v v' out' ∧
      out'.report.verdict = .passed ∧ Abreast fair before before' selectors w' v' := by
  cases hstep with
  | failed => cases hpassed
  | @passed begun extract begins acts =>
      obtain ⟨begun', begins', hfiled'⟩ := exists_log (stage.movedTo dir) .info
        s!"Step {p.withoutSelector.index + 1}: {p.withoutSelector.description}" v
      have hfiled := filed_of_log begins
      have hbegun : stage.Foreknows p begun begun' := by
        rw [Stage.Foreknows, hfiled.profile, hfiled.browser, hfiled'.profile]
        exact hknown
      obtain ⟨v', acts', hv'⟩ := Stage.exists_act_again hb (h.filed hfiled hfiled') hbegun acts
      rw [← Stage.act_movedTo stage dir] at acts'
      exact ⟨_, v', .passed begins' acts', rfl, hv'⟩

theorem mem_of_mem_trail {entry : Primitive × World σ} (h : entry ∈ trail stage primitives w) :
    entry.1 ∈ primitives := by
  induction primitives generalizing w with
  | nil => cases h
  | cons p rest ih =>
      rw [trail] at h
      rcases List.mem_cons.mp h with rfl | htail
      · exact List.mem_cons_self
      · split at htail
        · split at htail
          · exact List.mem_cons_of_mem p (ih htail)
          · cases htail
        · cases htail

/-- What steps teach is about their own targets. -/
theorem mem_targets_of_mem_lessons {target : String}
    (h : target ∈ Table.keys (lessons stage primitives w)) :
    target ∈ primitives.filterMap Primitive.target? := by
  obtain ⟨⟨_, s⟩, hlesson, rfl⟩ := List.mem_map.mp h
  obtain ⟨⟨p, begun⟩, hentry, hlesson⟩ := List.mem_filterMap.mp hlesson
  obtain ⟨sought, hsought, hlesson⟩ := Option.bind_eq_some_iff.mp hlesson
  refine List.mem_filterMap.mpr ⟨p, mem_of_mem_trail hentry, hsought.trans (congrArg some ?_)⟩
  unfold Locate.lesson? at hlesson
  split at hlesson
  · split at hlesson
    · exact (Prod.mk.inj (Option.some.inj hlesson)).1
    · cases hlesson
  · cases hlesson

/-- Whoever knows what steps with different targets teach foreknows the first one's lesson. -/
theorem foreknows_of_selectors {p : Primitive} {rest : List Primitive} {out : Stage.Outcome}
    (hrun : outcome (stage.run p) w = (.ok out, w')) (hpassed : out.report.verdict = .passed)
    (hdistinct : ((p :: rest).filterMap Primitive.target?).Nodup)
    (hselectors : v.profile.selectors =
      Table.update w.profile.selectors (lessons stage (p :: rest) w)) :
    stage.Foreknows p w v := by
  intro target htarget
  have hlater : target ∉ Table.keys (lessons stage rest w') := by
    rw [List.filterMap_cons_some htarget] at hdistinct
    exact fun hlesson => (List.nodup_cons.mp hdistinct).1 (mem_targets_of_mem_lessons hlesson)
  rw [hselectors, lessons_cons_of_passed hrun hpassed, Table.update_append,
    Table.get?_update_of_notMem hlater, Profile.selectors_taught]

/-- Steps with different targets that all pass do so without their selectors, in any directory, if what
they teach is known from the beginning. -/
theorem exists_steps_again (hb : stage.browser.Punctual fair) {outs : List Stage.Outcome}
    (hsteps : StepsDerivation stage primitives w outs w')
    (hpassed : ∀ out ∈ outs, out.report.verdict = .passed)
    (hvalue : ∀ p ∈ primitives, p.kind = "fill" →
      ∃ value, Stage.ensureText p.payload "value" = .ok value)
    (hdistinct : (primitives.filterMap Primitive.target?).Nodup)
    (h : Abreast fair before before'
      (Table.update w.profile.selectors (lessons stage primitives w)) w v) (dir : Path) :
    ∃ outs' v', StepsDerivation (stage.movedTo dir) (primitives.map Primitive.withoutSelector) v
        outs' v' ∧
      (∀ out ∈ outs', out.report.verdict = .passed) ∧
      ∃ selectors, Abreast fair before before' selectors w' v' := by
  induction hsteps generalizing v with
  | nil => exact ⟨[], v, .nil v, by simp, _, h⟩
  | failed rest step verdict =>
      have hfailed := hpassed _ List.mem_cons_self
      rw [verdict] at hfailed
      cases hfailed
  | @passed p w mid w' out rest outs step verdict _ ih =>
      obtain ⟨hp, hrest⟩ := List.forall_mem_cons.mp hvalue
      have hrun := step.execution
      have hlesson : mid.profile = w.profile.taught (stage.lesson? p w.browser).toList := by
        have hstep := stage.profile_run hp w
        rwa [hrun] at hstep
      have hforeknown := foreknows_of_selectors hrun verdict hdistinct h.selectors
      obtain ⟨out', mid', step', verdict', hmid⟩ := exists_run_again hb h hforeknown step verdict dir
      rw [lessons_cons_of_passed hrun verdict, Table.update_append, ← Profile.selectors_taught,
        ← hlesson] at hmid
      have hdistinct' : (rest.filterMap Primitive.target?).Nodup :=
        hdistinct.sublist ((List.sublist_cons_self p rest).filterMap _)
      obtain ⟨outs', v', steps', verdicts', hlast⟩ := ih
        (fun out hout => hpassed out (List.mem_cons_of_mem _ hout)) hrest hdistinct' hmid
      exact ⟨out' :: outs', v', .passed step' verdict' steps',
        List.forall_mem_cons.mpr ⟨verdict', verdicts'⟩, hlast⟩

/-! ## Sessions -/

/-- A session is opened again, and its trace is started, in any directory. -/
theorem exists_arrive_again (hb : stage.browser.Punctual fair)
    (h : Abreast fair before before' selectors w v) {headless : Bool}
    (harrive : outcome (arrive stage headless) w = (.ok (), w')) (dir : Path) :
    ∃ v', outcome (arrive (stage.movedTo dir) headless) v = (.ok (), v') ∧
      Abreast fair before before' selectors w' v' := by
  obtain ⟨_, opened, hopen, hstart⟩ := outcome_bind_eq_ok_iff.mp harrive
  rw [outcome_call] at hopen
  obtain ⟨hanswer, rfl⟩ := Prod.mk.inj hopen
  have hopened := h.after hb (.openSession headless) rfl
  obtain ⟨started, htrace, hfiled⟩ := exists_startTrace stage
    (w.after (.openSession headless) (stage.browser.openSession headless w.browser))
  obtain ⟨v', htrace', hfiled'⟩ := exists_startTrace (stage.movedTo dir)
    (v.after (.openSession headless) (stage.browser.openSession headless v.browser))
  rw [htrace] at hstart
  obtain ⟨hpassed, rfl⟩ := Prod.mk.inj hstart
  have hopen' : outcome (Work.call (.openSession headless) (stage.browser.openSession headless)) v =
      (.ok (), v.after (.openSession headless) (stage.browser.openSession headless v.browser)) := by
    rw [outcome_call, h.browser, hanswer]
  have hpassed' : passedOver Failure.isBrowser (stage.browser.startTrace
      (v.after (.openSession headless) (stage.browser.openSession headless v.browser)).browser).answer =
      .ok () := by
    rw [hopened.browser, hpassed]
  exact ⟨v', (outcome_bind_of_ok hopen').trans (htrace'.trans (congrArg (·, v') hpassed')),
    (hopened.after hb .startTrace rfl).filed hfiled hfiled'⟩

/-- Ending a trace ends well just if the browser ends it, or cannot for a reason that is tolerated: that
the trace cannot be written is. -/
theorem stopTrace_eq_ok_iff (hnull : Path.hasNull (traceFile stage.runDir).text = false) :
    (outcome (stopTrace stage) w).1 = .ok () ↔
      ∀ failure, (stage.browser.stopTrace w.browser).answer = .error failure →
        Stage.isTolerated failure = true := by
  have hcall := outcome_call (.stopTrace (traceFile stage.runDir).text) stage.browser.stopTrace w
  have hnoted : ∀ {answer : Except Failure Unit} {mid : World σ},
      outcome (Work.call (.stopTrace (traceFile stage.runDir).text) stage.browser.stopTrace >>=
        Work.writeFile (traceFile stage.runDir)) w = (answer, mid) →
      (outcome (stopTrace stage) w).1 = passedOver Stage.isTolerated answer := by
    intro answer mid hmid
    obtain ⟨_, hstop, -⟩ := exists_noted stage.runDir hmid
    exact congrArg Prod.fst hstop
  cases hreply : (stage.browser.stopTrace w.browser).answer with
  | error failure =>
      rw [hreply] at hcall
      simp [hnoted (outcome_bind_of_error hcall), passedOver_eq_ok_iff]
  | ok data =>
      rw [hreply] at hcall
      refine iff_of_true ?_ fun _ h => nomatch h
      have hwork := outcome_bind_of_ok (f := Work.writeFile (traceFile stage.runDir)) hcall
      rw [outcome_writeFile] at hwork
      split at hwork
      · exact hnoted hwork
      · rename_i failure hwrite
        rw [hnoted hwork, passedOver_eq_ok_iff]
        intro found hfound
        obtain rfl := Except.error.inj hfound
        rw [Stage.isTolerated, Files.write_eq_error hnull hwrite, Bool.or_true]

theorem outcome_leave (stage : Stage σ) (answer : Except Failure α) (w : World σ) :
    outcome (leave stage answer) w =
      (unlessFailed (unlessFailed answer (outcome (stopTrace stage) w).1)
          (stage.browser.closeSession (outcome (stopTrace stage) w).2.browser).answer,
        (outcome (stopTrace stage) w).2.after .closeSession
          (stage.browser.closeSession (outcome (stopTrace stage) w).2.browser)) := by
  rw [leave, outcome_andFinally_eq, outcome_andFinally_eq, outcome_ofExcept, outcome_call]

theorem browser_of_stopTrace (stage : Stage σ) (w : World σ) :
    (outcome (stopTrace stage) w).2.browser = (stage.browser.stopTrace w.browser).state := by
  obtain ⟨_, _, w', hstop, hended⟩ := exists_stopTrace stage w
  rw [hstop, hended.browser]

theorem eq_ok_of_unlessFailed_last {answer : Except Failure α} {last : Except Failure Unit} {a : α}
    (h : unlessFailed answer last = .ok a) : last = .ok () := by
  cases last with
  | ok _ => rfl
  | error failure => cases h

/-- A session that is left well from the same page again is left well. -/
theorem leave_again {β : Type} (stage : Stage σ) {a : α} (b : β) (hbrowser : v.browser = w.browser)
    (hnull : Path.hasNull (traceFile stage.runDir).text = false) {dir : Path}
    (hnull' : Path.hasNull (traceFile (stage.movedTo dir).runDir).text = false)
    (hleave : outcome (leave stage (.ok a)) w = (.ok a, w')) :
    (outcome (leave (stage.movedTo dir) (.ok b)) v).1 = .ok b := by
  rw [outcome_leave, browser_of_stopTrace] at hleave
  have hclosed := eq_ok_of_unlessFailed_last (Prod.mk.inj hleave).1
  have hstop := eq_ok_of_unlessFailed_last (eq_ok_of_unlessFailed (Prod.mk.inj hleave).1)
  have hstop' : (outcome (stopTrace (stage.movedTo dir)) v).1 = .ok () := by
    rw [stopTrace_eq_ok_iff hnull', hbrowser]
    exact (stopTrace_eq_ok_iff hnull).mp hstop
  rw [outcome_leave, browser_of_stopTrace, hstop', hbrowser]
  exact congrArg (unlessFailed (.ok b)) hclosed

/-- Leaving a session is no deed. -/
theorem deeds_leave (stage : Stage σ) (answer : Except Failure α) (w : World σ) :
    deeds (outcome (leave stage answer) w).2.events = deeds w.events := by
  obtain ⟨_, kept, w', hstop, hended⟩ := exists_stopTrace stage w
  have hkept : deeds (.call (.stopTrace (traceFile stage.runDir).text) :: kept) = [] := by
    cases hended.kept <;> rfl
  rw [outcome_leave, hstop]
  refine (deeds_append_call w'.events rfl).trans ?_
  rw [hended.events, deeds_append, hkept, List.append_nil]

end Run

end Walkthrough
