import Walkthrough.Proofs.Run.Conduct
import Walkthrough.Proofs.Run.Readiness

/-! # How a run fails

A run that gets ready fails in the ways that get past its steps, because its session is not opened or
not closed, or because its report cannot be kept. Whatever it does, it leaves a fair browser fair. -/

namespace Walkthrough.Run

open Effect

variable {σ α : Type} {fair : σ → List Call → Prop} {domain : String} {allowed : Call → Prop}
  {p q r : Failure → Prop}

/-! ## Sessions -/

section Sessions

variable {stage : Stage σ}

/-- A call fails as the browser replies to it somewhere where it is fair. -/
theorem upholds_replied {b : Browser σ} (hb : b.Behaves fair allowed p) {c : Call}
    {reply : σ → Reply σ α} (h : b.Replies c reply) (hc : allowed c) :
    Upholds (World.Fair fair domain)
      (fun failure => ∃ s calls, fair s calls ∧ (reply s).answer = .error failure)
      (Work.call c reply) := by
  intro w hw
  refine ⟨(upholds_call hb h hc hw).1, fun failure hfailure => ⟨w.browser, _, hw.browser, ?_⟩⟩
  rwa [outcome_call] at hfailure

theorem upholds_session (h : stage.Conducts fair allowed p q) {headless : Bool}
    (hrefused : ∀ failure, Refused fair stage.browser headless failure → r failure) {x : Work σ α}
    (hx : Upholds (World.Fair fair domain) r x) :
    Upholds (World.Fair fair domain) r (session stage headless x) := by
  have hopen : Upholds (World.Fair fair domain) r
      (Work.call (.openSession headless) (stage.browser.openSession headless)) :=
    (upholds_replied h.toBehaves (.openSession headless) (h.free (by simp))).mono
      fun failure ⟨s, calls, hs, hfailure⟩ => hrefused failure ⟨s, calls, hs, .inl hfailure⟩
  have hclose : Upholds (World.Fair fair domain) r
      (Work.call .closeSession stage.browser.closeSession) :=
    (upholds_replied h.toBehaves .closeSession (h.free (by simp))).mono
      fun failure ⟨s, calls, hs, hfailure⟩ => hrefused failure ⟨s, calls, hs, .inr hfailure⟩
  exact hopen.bind fun _ => hx.andFinally hclose

theorem upholds_traced (h : stage.Conducts fair allowed p q) (hpast : Stage.GetsPast p q r)
    (hnull : Path.hasNull stage.runDir.text = false) {x : Work σ α}
    (hx : Upholds (World.Fair fair domain) r x) :
    Upholds (World.Fair fair domain) r (traced stage x) :=
  (upholds_startTrace h hpast).bind fun _ => hx.andFinally (upholds_stopTrace h hpast hnull)

end Sessions

/-! ## After the session -/

/-- Saving the site profile ends no run, if its file has a name. -/
theorem upholds_saveProfile (stage : Stage σ) {root : Path} (hdomain : Profile.IsDomain domain)
    (hnull : Path.hasNull (Profile.file root domain).text = false) :
    Upholds (World.Fair fair domain) r (saveProfile stage root) := by
  intro w hw
  obtain ⟨saved, hsave⟩ := @exists_saved _ stage root w (hw.domain ▸ hdomain) (hw.domain ▸ hnull)
  obtain ⟨_, events, files, idle, hidle, hsaves, hfiled⟩ := exists_saveProfile stage root w
  rw [hsave] at hidle ⊢
  obtain rfl : saved = idle := (Prod.mk.inj hidle).2
  refine ⟨hw.unchanged hfiled.browser ?_ ?_, failsOnly_ok r ()⟩
  · rw [hfiled.events, callsIn_append, hsaves.callsIn_eq_nil, List.append_nil]
  · rw [hfiled.profile]
    exact domain_stamped w

/-- What a run fails with that cannot keep its report. -/
inductive Unkept : Failure → Prop
  | unwritten (artifact : Artifact) (cause : String) : Unkept (.noArtifact artifact cause)
  | overlong : Unkept (.value .overlongInteger)

theorem upholds_conclude {runDir : Path} (hnull : Path.hasNull runDir.text = false)
    (hunkept : ∀ failure, Unkept failure → r failure) (report : Report) :
    Upholds (World.Fair fair domain) r (conclude runDir report) := by
  have hkeep : Upholds (World.Fair fair domain) r (keep runDir report : Work σ Unit) := by
    cases hlong : report.toJson.isOverlong with
    | true =>
        rw [keep_of_isOverlong hlong]
        exact upholds_throw (hunkept _ .overlong)
    | false =>
        rw [keep_of_not_isOverlong hlong]
        refine (upholds_writeFile (Path.hasNull_child (by decide) (by decide) hnull) _).handling
          (fun failure hsystem hother => ?_)
          fun failure _ _ => upholds_throw (hunkept _ (.unwritten _ _))
        rw [hsystem] at hother
        cases hother
  exact hkeep.bind fun _ => (upholds_logTo _ _ _).bind fun _ => upholds_pure _

/-! ## Runs -/

/-- What ends a run that is ready: what gets past its steps, that its session is refused, and that its
report is not kept. -/
structure Ends (fair : σ → List Call → Prop) (host : Host σ) (options : RunOptions)
    (p q r : Failure → Prop) : Prop extends Stage.GetsPast p q r where
  refused {failure : Failure} (h : Refused fair host.browser options.headless failure) : r failure
  unkept {failure : Failure} (h : Unkept failure) : r failure

section Runs

variable {host : Host σ} {options : RunOptions} {plan : Plan}

/-- The stages that a run may have. -/
def Conducts (fair : σ → List Call → Prop) (allowed : Call → Prop) (p q : Failure → Prop)
    (host : Host σ) (options : RunOptions) : Prop :=
  ∀ secrets runDir, Stage.Conducts fair allowed p q ⟨host.browser, options.timeoutMs, secrets, runDir⟩

/-- Steps that go to allowed pages only, and that trip their guards in some ways only. -/
structure Suits (allowed : Call → Prop) (q : Failure → Prop) (options : RunOptions)
    (primitives : List Primitive) : Prop where
  admits {pr : Primitive} (h : pr ∈ primitives) (hkind : pr.kind = "goto") {url : String}
    (hurl : Stage.ensureText pr.payload "url" = .ok url) : allowed (.goto url options.timeoutMs)
  guards {pr : Primitive} (h : pr ∈ primitives) : FailsOnly q pr.toAction.guard

theorem conducts_failsAct (hb : host.browser.Behaves fair (fun _ => True) p)
    (hfails : ∀ failure, p failure → Stage.failsStep failure = true) :
    Conducts fair (fun _ => True) p (Stage.FailsAct options.timeoutMs) host options :=
  fun secrets runDir =>
    Stage.conducts_of_failsStep ⟨host.browser, options.timeoutMs, secrets, runDir⟩ hb hfails

/-- Whatever steps go to, and whatever their guards, they fail as actions do. -/
theorem suits_failsAct (options : RunOptions) (primitives : List Primitive) :
    Suits (fun _ => True) (Stage.FailsAct options.timeoutMs) options primitives where
  admits _ _ _ _ := trivial
  guards _ := Stage.failsOnly_guard_failsAct _ _

theorem upholds_finish (h : Conducts fair allowed p q host options)
    (hends : Ends fair host options p q r) {known : Prepared}
    (hsuits : Suits allowed q options known.primitives)
    (hdir : Path.hasNull (known.directory options).text = false)
    (hdomain : Profile.IsDomain domain)
    (hprofile : Path.hasNull (Profile.file options.profiles domain).text = false) :
    Upholds (World.Fair fair domain) r (finish host options plan known) := by
  have hstage : (known.stage host options).Conducts fair allowed p q := h _ _
  have hwork : Upholds (World.Fair fair domain) r (known.work host options) :=
    hstage.steps hends.toGetsPast hdir (fun pr hpr hkind url hurl => hsuits.admits hpr hkind hurl)
      (fun pr hpr => hsuits.guards hpr) _
  have hvisit : Upholds (World.Fair fair domain) r
      (session (known.stage host options) options.headless
        (traced (known.stage host options) (known.work host options))) :=
    upholds_session hstage (fun _ => hends.refused)
      (upholds_traced hstage hends.toGetsPast hdir hwork)
  exact (upholds_logTo _ _ _).bind fun _ =>
    (hvisit.andFinally (upholds_saveProfile _ hdomain hprofile)).bind fun _ =>
      upholds_now.bind fun _ => upholds_conclude hdir (fun _ => hends.unkept) _

theorem hasNull_of_prepare {known : Prepared} {w loaded : World σ}
    (h : outcome (prepare host options plan) w = (.ok known, loaded)) :
    Path.hasNull (known.directory options).text = false := by
  obtain ⟨key, hkey, -⟩ := Files.isDirectory_iff.mp (placed_of_prepare h).directory
  exact (Files.locate_eq_ok hkey).1

theorem hasNull_of_turnDry {runId : String} {turned : List Primitive × Instant} {w ready : World σ}
    (h : outcome (turnDry options plan runId) w = (.ok turned, ready)) :
    Path.hasNull (options.artifactsRoot.child runId).text = false := by
  obtain ⟨_, _, hhouse, -⟩ := outcome_bind_eq_ok_iff.mp h
  exact Files.hasNull_of_ensureDirectory (eq_ok_of_change hhouse)

/-- A dry run calls nothing before it reports. -/
theorem unseen_turnDry (runDir : Path) (options : RunOptions) (plan : Plan) (runId : String)
    (w : World σ) : Unseen runDir w (outcome (turnDry options plan runId) w).2 := by
  have hturn : Follows (Unseen runDir)
      (turnDry options plan runId : Work σ (List Primitive × Instant)) :=
    (follows_unseen_change fun _ _ hmade h =>
      h.of_sameFiles (Files.sameFiles_ensureDirectory hmade)).bind fun _ =>
    (follows_ofExcept _).bind fun _ => (follows_unseen_openLog _).bind fun _ =>
    follows_now.bind fun _ => follows_pure _
  exact hturn.related w

theorem fair_of_unseen {runDir : Path} {w w' : World σ} (h : Unseen runDir w w')
    (hfair : fair w.browser (callsIn w.events)) : w'.Fair fair w'.profile.domain where
  browser := by rw [h.browser, h.events]; exact hfair
  domain := rfl

/-- Where the steps of a run begin, its browser is fair. -/
theorem fair_of_begun (h : Conducts fair allowed p q host options) {known : Prepared}
    {w start : World σ} (hfair : fair w.browser (callsIn w.events))
    (hbegun : outcome (begun host options plan) w = (.ok known, start)) :
    start.Fair fair start.profile.domain := by
  obtain ⟨loaded, hprepared, hentered⟩ := begun_eq_ok_iff.mp hbegun
  have hunseen : Unseen (dirOf options w) w (outcome (prepare host options plan) w).2 :=
    unseen_prepare host options plan w
  rw [hprepared] at hunseen
  have hstage : (known.stage host options).Conducts fair allowed p q := h _ _
  have henter : Upholds (World.Fair fair loaded.profile.domain) (fun _ => True)
      (enter host options known) :=
    (upholds_logTo _ _ _).bind fun _ =>
      ((hstage.upholds_call (.openSession _) (by simp)).mono fun _ _ => trivial).bind fun _ =>
        upholds_startTrace hstage ⟨fun _ _ => trivial, fun _ _ => trivial⟩
  have hstart := (henter (fair_of_unseen hunseen hfair)).1
  rw [hentered] at hstart
  exact ⟨hstart.browser, rfl⟩

/-- A run of a plan whose steps suit its browser leaves the browser fair, and fails only because it does
not get ready or in the ways that end a run that is ready. -/
theorem fair_run (h : Conducts fair allowed p q host options) (hends : Ends fair host options p q r)
    {primitives : List Primitive} (hcompile : plan.compile = .ok primitives)
    (hsuits : Suits allowed q options primitives) {w final : World σ}
    (hfair : fair w.browser (callsIn w.events)) {answer : Except Failure Report}
    (hrun : outcome (run host options plan) w = (answer, final)) :
    fair final.browser (callsIn final.events) ∧ FailsOnly (fun failure =>
      readiness host options plan (dirOf options w) w.files = .error failure ∨ r failure) answer := by
  cases hdry : options.dryRun with
  | false =>
      have hunseen : Unseen (dirOf options w) w (outcome (prepare host options plan) w).2 :=
        unseen_prepare host options plan w
      have hready := answer_of_prepare host plan hdry w
      rw [run_eq_prepare host options plan hdry] at hrun
      rcases hprepare : outcome (prepare host options plan) w with ⟨failure | known, loaded⟩ <;>
        rw [hprepare] at hunseen hready
      · rw [outcome_bind_of_error hprepare] at hrun
        obtain ⟨rfl, rfl⟩ := Prod.mk.inj hrun
        exact ⟨(fair_of_unseen hunseen hfair).browser, failsOnly_error (.inl hready.symm)⟩
      · obtain ⟨hsteps, hdomain⟩ := compile_of_prepare hprepare
        obtain rfl : known.primitives = primitives := Except.ok.inj (hsteps.symm.trans hcompile)
        rw [outcome_bind_of_ok hprepare] at hrun
        have hfinish : Upholds (World.Fair fair loaded.profile.domain) r
            (finish host options plan known) :=
          upholds_finish h hends hsuits (hasNull_of_prepare hprepare) hdomain
            (placed_of_prepare hprepare).profile
        obtain ⟨hfinal, hfails⟩ := hfinish (fair_of_unseen hunseen hfair)
        rw [hrun] at hfinal hfails
        exact ⟨hfinal.browser, fun failure hfailure => .inr (hfails failure hfailure)⟩
  | true =>
      obtain ⟨named, hpick⟩ := outcome_pickName options w
      have hunseen := unseen_turnDry (dirOf options w) options plan (nameOf options w)
        { w with names := named }
      have hready := answer_of_turnDry host plan hdry (nameOf options w)
        { w with names := named }
      rw [run_eq_dry hdry, outcome_bind_of_ok hpick] at hrun
      rcases hturn : outcome (turnDry options plan (nameOf options w)) { w with names := named } with
        ⟨failure | turned, ready⟩ <;> rw [hturn] at hunseen hready
      · rw [outcome_bind_of_error hturn] at hrun
        obtain ⟨rfl, rfl⟩ := Prod.mk.inj hrun
        rw [dirOf]
        exact ⟨(fair_of_unseen hunseen hfair).browser, failsOnly_error (.inl hready.symm)⟩
      · rw [outcome_bind_of_ok hturn] at hrun
        obtain ⟨hfinal, hfails⟩ := upholds_conclude (hasNull_of_turnDry hturn)
          (fun _ => hends.unkept) _ (fair_of_unseen hunseen hfair)
        rw [hrun] at hfinal hfails
        exact ⟨hfinal.browser, fun failure hfailure => .inr (hfails failure hfailure)⟩

/-- A live run that is ready and whose session the browser does not open, fails as the browser does. -/
theorem answer_of_refused (hlive : options.dryRun = false) {w : World σ}
    (hready : readiness host options plan (dirOf options w) w.files = .ok ()) {failure : Failure}
    (hrefused : (host.browser.openSession options.headless w.browser).answer = .error failure) :
    (outcome (run host options plan) w).1 = .error failure := by
  have hanswer := answer_of_prepare host plan hlive w
  have hunseen : Unseen (dirOf options w) w (outcome (prepare host options plan) w).2 :=
    unseen_prepare host options plan w
  rw [run_eq_prepare host options plan hlive]
  rcases hprepare : outcome (prepare host options plan) w with ⟨_ | known, loaded⟩ <;>
    rw [hprepare] at hanswer hunseen
  · rw [hready] at hanswer
    cases hanswer
  · obtain ⟨logged, hlog, hfiled⟩ := exists_log (known.stage host options) .info known.greeting loaded
    have hbrowser : logged.browser = w.browser := hfiled.browser.trans hunseen.browser
    have hopen := outcome_call (.openSession options.headless)
      (host.browser.openSession options.headless) logged
    rw [hbrowser, hrefused] at hopen
    obtain ⟨refused, hvisit, hdomain⟩ : ∃ refused,
        outcome (visit host options known) loaded = (.error failure, refused) ∧
          refused.profile.domain = loaded.profile.domain := by
      refine ⟨logged.after (.openSession options.headless)
        (host.browser.openSession options.headless w.browser), ?_,
        congrArg Profile.domain hfiled.profile⟩
      rw [visit, outcome_bind_of_ok hlog]
      exact outcome_bind_of_error hopen
    have hsave : Upholds (World.Fair (fun _ _ => True) loaded.profile.domain) (fun _ => False)
        (saveProfile (known.stage host options) options.profiles) :=
      upholds_saveProfile _ (compile_of_prepare hprepare).2 (placed_of_prepare hprepare).profile
    have hsaved := (hsave ⟨trivial, hdomain⟩).2
    rw [outcome_bind_of_ok hprepare, outcome_finish, hvisit, depart_of_error, outcome_bind]
    rcases hends : outcome (saveProfile (known.stage host options) options.profiles) refused with
      ⟨found | _, saved⟩
    · exact (hsaved found (by rw [hends])).elim
    · rfl

end Runs

end Walkthrough.Run
