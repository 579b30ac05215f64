import Walkthrough.Proofs.Run.Abreast
import Walkthrough.Proofs.Run.Change
import Walkthrough.Proofs.Run.Record

/-! # What was learned is enough

A plan that passed passes again without its selectors, on the same page and with the site profile that
its run saved, and does the same there. -/

namespace Walkthrough.Run

open Effect

variable {σ α : Type}

/-! ## The end of a run -/

theorem deeds_saveProfile (stage : Stage σ) (root : Path) (w : World σ) :
    deeds (outcome (saveProfile stage root) w).2.events = deeds w.events := by
  obtain ⟨_, events, _, w', hsave, hsaves, hfiled⟩ := exists_saveProfile stage root w
  have hidle : deeds events = [] := by cases hsaves <;> rfl
  rw [hsave, hfiled.events, deeds_append, hidle, List.append_nil]

theorem deeds_conclude (runDir : Path) (report : Report) (w : World σ) :
    deeds (outcome (conclude runDir report) w).2.events = deeds w.events := by
  obtain ⟨_, events, w', hconclude, hevents, -, -, -, hkept⟩ := exists_conclude runDir report w
  have hidle : deeds events = [] := by cases hkept <;> rfl
  rw [hconclude, hevents, deeds_append, hidle, List.append_nil]

/-- A report is given just if it is a document, where nothing is in its way. -/
theorem conclude_of_isDirectory {runDir : Path} {report : Report} {w : World σ}
    (hdir : w.files.isDirectory runDir = true)
    (hvacant : w.files.node? ((reportFile runDir).resolve w.files.home) ≠ some .directory) :
    (outcome (conclude runDir report) w).1 = report.toJson.document.map fun _ => report := by
  obtain ⟨files, hwrite⟩ := Files.exists_write_child hdir (by decide) (by decide) (by decide) hvacant
    (.text "")
  have hroom : reportRoom runDir w.files = .ok () := by
    rw [reportRoom, ← Files.map_write w.files (reportFile runDir) (.text ""), reportFile, hwrite]
    rfl
  rw [answer_of_conclude, hroom, Report.given]
  cases report.toJson.document <;> rfl

section Live

variable {host : Host σ} {options : RunOptions} {plan : Plan} {known : Prepared}

theorem deeds_depart (answer : Except Failure Progress) (w : World σ) :
    deeds (outcome (depart host options plan known answer) w).2.events = deeds w.events := by
  have hsave := deeds_saveProfile (known.stage host options) options.profiles w
  rw [depart, outcome_bind, outcome_andFinally_eq, outcome_ofExcept]
  cases unlessFailed answer
      (outcome (saveProfile (known.stage host options) options.profiles) w).1 with
  | error failure => exact hsave
  | ok progress =>
      dsimp only
      rw [outcome_bind_of_ok (outcome_now _), deeds_conclude, hsave]

/-- After its steps a run does nothing on a page any more. -/
theorem deeds_run_of_begun (hlive : options.dryRun = false) {w start : World σ}
    (h : outcome (begun host options plan) w = (.ok known, start)) :
    deeds (outcome (run host options plan) w).2.events =
      deeds (outcome (known.work host options) start).2.events := by
  rw [outcome_run_of_begun hlive h, deeds_depart, deeds_leave]

theorem follows_visit (host : Host σ) (options : RunOptions) (known : Prepared) :
    Follows (Change (known.directory options) options.profiles) (visit host options known) := by
  refine follows_of_respects fun w => ?_
  have hchanges : Onward (Along (Change (known.directory options) options.profiles) w)
      (known.stage host options).browser (known.stage host options).runDir options.profiles :=
    (coupling_along host.browser w).toOnward
  have hsteps := (hchanges.staged (fillsAlike_along _ w)).steps
    ⟨.passed, [], [], artifactsIn (known.directory options)⟩ known.primitives
  exact (hchanges.logged _ _).bind_eq fun _ => hchanges.tracing.session options.headless
    (hchanges.tracing.startTrace.bind_eq fun _ => hsteps.andFinally hchanges.tracing.stopTrace)

/-! ## The same run again -/

/-- What a run knows that is made again without selectors. -/
def Prepared.again (known : Prepared) (kit : Kit) : Prepared :=
  ⟨kit.runId, known.primitives.map Primitive.withoutSelector, kit.started, kit.secrets, known.domain⟩

/-- A world in which a run can be made again: the page is as it was, and so are the values of secrets,
and the files are those that the run left; the new run gets its directory and its log, and no directory
is in the way of its report. -/
structure Rerun (host : Host σ) (options : RunOptions) (known : Prepared) (w final v : World σ)
    (kit : Kit) (ready : World σ) : Prop where
  browser : v.browser = w.browser
  files : v.files = final.files
  equips : outcome (equip host options) v = (.ok kit, ready)
  secrets : kit.secrets = known.secrets
  vacant : ready.files.node? ((reportFile ((known.again kit).directory options)).resolve
    ready.files.home) ≠ some .directory

variable {w loaded final v ready : World σ} {kit : Kit}

theorem stage_again (h : kit.secrets = known.secrets) :
    (known.again kit).stage host options =
      (known.stage host options).movedTo ((known.again kit).directory options) := by
  simp [Prepared.stage, Prepared.again, Stage.movedTo, h]

theorem exists_prepare_again
    (hprepared : outcome (prepare host options plan) w = (.ok known, loaded))
    (hequip : outcome (equip host options) v = (.ok kit, ready)) {kept : Profile}
    (hkept : kept.Distinct)
    (hread : v.files.read (Profile.file options.profiles known.domain) =
      .ok (.text kept.toJson.pretty)) :
    ∃ profile, profile.selectors = kept.selectors ∧ profile.domain = known.domain ∧
      outcome (prepare host options plan.withoutSelectors) v =
        (.ok (known.again kit), { ready with profile := profile }) := by
  obtain ⟨hcompile, -⟩ := compile_of_prepare hprepared
  obtain ⟨_, _, _, hequipped⟩ := exists_equipped hprepared
  have hcompile' : plan.withoutSelectors.compile =
      .ok (known.primitives.map Primitive.withoutSelector) := by
    rw [Plan.compile_withoutSelectors, hcompile]
    rfl
  have hpicks : Profile.domainOf ((known.primitives.map Primitive.withoutSelector).map
      Primitive.toAction) = .ok known.domain :=
    (Profile.domainOf_withoutSelector known.primitives).trans hequipped.picks
  have hpart := (Profile.isDomain_of_domainOf hequipped.picks).isPart
  have hready := read_of_equip hequip hpart.1 hpart.2.1 (Profile.name_ne_log known.domain) hread
  obtain ⟨profile, hload, hdomain, hselectors⟩ := Profile.exists_load_of_read hkept hready
  refine ⟨profile, hselectors, hdomain, ?_⟩
  rw [prepare_eq_equip host options hcompile', outcome_bind_of_ok hequip, outcome_turnTo hpicks hload,
    hdomain]
  rfl

/-- The directory of a run is named so that there can be a trace in it. -/
theorem hasNull_traceFile_of_equip (h : outcome (equip host options) v = (.ok kit, ready)) :
    Path.hasNull (traceFile (options.artifactsRoot.child kit.runId)).text = false := by
  obtain ⟨_, hhouse, -⟩ := exists_files_of_equip h
  exact hasNull_traceFile (Files.hasNull_of_ensureDirectory hhouse)

section Again

variable {fair : σ → Prop} {before before' : List Call} {selectors : Table String}

theorem exists_enter_again (hb : host.browser.Punctual fair) (hsecrets : kit.secrets = known.secrets)
    (h : Abreast fair before before' selectors w v) {start : World σ}
    (henter : outcome (enter host options known) w = (.ok (), start)) :
    ∃ start', outcome (enter host options (known.again kit)) v = (.ok (), start') ∧
      Abreast fair before before' selectors start start' := by
  obtain ⟨_, ready, hlog, harrive⟩ := outcome_bind_eq_ok_iff.mp henter
  obtain ⟨ready', hlog', hfiled'⟩ := exists_log ((known.again kit).stage host options) .info
    (known.again kit).greeting v
  have hready := h.filed (filed_of_log hlog) hfiled'
  obtain ⟨start', harrive', hstart⟩ := exists_arrive_again hb hready harrive
    ((known.again kit).directory options)
  refine ⟨start', ?_, hstart⟩
  rw [enter, outcome_bind_of_ok hlog', stage_again hsecrets, harrive']

/-- The steps of a run pass again without their selectors. -/
theorem exists_work_again (hb : host.browser.Punctual fair) (hsecrets : kit.secrets = known.secrets)
    (hvalue : ∀ p ∈ known.primitives, p.kind = "fill" →
      ∃ value, Stage.ensureText p.payload "value" = .ok value)
    (hdistinct : (known.primitives.filterMap Primitive.target?).Nodup)
    (h : Abreast fair before before' (Table.update w.profile.selectors
      (lessons (known.stage host options) known.primitives w)) w v)
    {progress : Progress} {stopped : World σ}
    (hwork : outcome (known.work host options) w = (.ok progress, stopped))
    (hpassed : progress.verdict = .passed) :
    ∃ progress' stopped', outcome ((known.again kit).work host options) v = (.ok progress', stopped') ∧
      progress'.verdict = .passed ∧ ∃ selectors, Abreast fair before before' selectors stopped stopped' := by
  obtain ⟨outs, hsteps, rfl⟩ := steps_derivation hwork
  obtain ⟨outs', stopped', hsteps', hpassed', hstopped⟩ := exists_steps_again hb hsteps
    ((hsteps.passed_iff rfl).mp hpassed) hvalue hdistinct h ((known.again kit).directory options)
  rw [← stage_again hsecrets] at hsteps'
  exact ⟨_, stopped', hsteps'.execution _, (hsteps'.passed_iff rfl).mpr hpassed', hstopped⟩

/-- From its beginning to its last step, a run that is made again keeps abreast of the first one. -/
theorem exists_stopped_again (hb : host.browser.Punctual fair) (hfair : fair w.browser) {raw : Json}
    (hplan : Plan.validate raw = .ok plan)
    (hprepared : outcome (prepare host options plan) w = (.ok known, loaded))
    {start stopped : World σ} {progress : Progress}
    (henter : outcome (enter host options known) loaded = (.ok (), start))
    (hwork : outcome (known.work host options) start = (.ok progress, stopped))
    (hpassed : progress.verdict = .passed)
    (hdistinct : (known.primitives.filterMap Primitive.target?).Nodup)
    (hagain : Rerun host options known w final v kit ready) {kept : Profile} (hkept : kept.Distinct)
    (hselectors : kept.selectors =
      Table.update loaded.profile.selectors (lessonsOf host options known loaded))
    (hread : final.files.read (Profile.file options.profiles known.domain) =
      .ok (.text kept.toJson.pretty)) :
    ∃ profile progress' start' stopped', profile.domain = known.domain ∧
      outcome (prepare host options plan.withoutSelectors) v =
        (.ok (known.again kit), { ready with profile := profile }) ∧
      outcome (enter host options (known.again kit)) { ready with profile := profile } =
        (.ok (), start') ∧
      outcome ((known.again kit).work host options) start' = (.ok progress', stopped') ∧
      progress'.verdict = .passed ∧
      ∃ selectors, Abreast fair (deeds w.events) (deeds v.events) selectors stopped stopped' := by
  obtain ⟨profile, hsame, hdomain, hprepared'⟩ := exists_prepare_again hprepared hagain.equips hkept
    (hagain.files ▸ hread)
  obtain ⟨hcompile, -⟩ := compile_of_prepare hprepared
  have hunseen : Unseen (known.directory options) w loaded := by
    have h : Unseen (known.directory options) w _ := unseen_prepare host options plan w
    rwa [hprepared] at h
  have hunseen' : Unseen (known.directory options) v { ready with profile := profile } := by
    have h : Unseen (known.directory options) v _ :=
      unseen_prepare host options plan.withoutSelectors v
    rwa [hprepared'] at h
  have hloaded : Abreast fair (deeds w.events) (deeds v.events) profile.selectors loaded
      { ready with profile := profile } := by
    refine ⟨?_, hunseen.browser ▸ hfair, ⟨[], ?_, ?_⟩, rfl⟩
    · rw [hunseen'.browser, hagain.browser, hunseen.browser]
    · rw [hunseen.events, List.append_nil]
    · rw [hunseen'.events, List.append_nil]
  obtain ⟨start', henter', hstart⟩ := exists_enter_again hb hagain.secrets hloaded henter
  have hlessons : profile.selectors = Table.update start.profile.selectors
      (lessons (known.stage host options) known.primitives start) := by
    rw [hsame, hselectors, lessonsOf, henter, profile_enter henter]
  rw [hlessons] at hstart
  have hvalue : ∀ p ∈ known.primitives, p.kind = "fill" →
      ∃ value, Stage.ensureText p.payload "value" = .ok value := fun p hp =>
    (Plan.accepted_of_validate hplan).exists_value hcompile hp
  obtain ⟨progress', stopped', hwork', hpassed', hstopped⟩ :=
    exists_work_again hb hagain.secrets hvalue hdistinct hstart hwork hpassed
  exact ⟨profile, progress', start', stopped', hdomain, hprepared', henter', hwork', hpassed', hstopped⟩

end Again

/-- A run whose directories are there, and that is through with its visit, gives its report if that is a
document. -/
theorem exists_answer_of_visit (plan : Plan) (known : Prepared) {w closed : World σ}
    {progress : Progress}
    (hdir : w.files.isDirectory (known.directory options) = true)
    (hroot : w.files.isDirectory options.profiles = true)
    (hdomain : Profile.IsDomain closed.profile.domain)
    (hnull : Path.hasNull (Profile.file options.profiles closed.profile.domain).text = false)
    (hvacant : w.files.node? ((reportFile (known.directory options)).resolve w.files.home) ≠
      some .directory)
    (hvisit : outcome (visit host options known) w = (.ok progress, closed)) :
    ∃ ended, (outcome (depart host options plan known (.ok progress)) closed).1 =
      (known.report plan ended progress).toJson.document.map fun _ =>
        known.report plan ended progress := by
  have hvisited : Files.SameDirectories w.files closed.files := by
    have h := sameDirectories_of_follows (follows_visit host options known) w hdir hroot
    rwa [hvisit] at h
  have hdir' := hvisited.stay.isDirectory hdir
  have hroot' := hvisited.stay.isDirectory hroot
  obtain ⟨saved, hsave⟩ := exists_saved hdomain hnull
  have hsaved : Files.SameDirectories closed.files saved.files := by
    have h := sameDirectories_of_follows (follows_saveProfile (known.stage host options)) closed
      hdir' hroot'
    rwa [hsave] at h
  have hsame := hvisited.trans hsaved
  refine ⟨saved.now, ?_⟩
  rw [outcome_depart_of_ok hsave]
  refine conclude_of_isDirectory (hsame.stay.isDirectory hdir) ?_
  rw [hsame.home]
  exact fun h => hvacant ((hsame.directory _).mp h)

theorem domain_visit (host : Host σ) (options : RunOptions) (known : Prepared) (w : World σ) :
    (outcome (visit host options known) w).2.profile.domain = w.profile.domain := by
  obtain ⟨ready, hlog, hfiled⟩ := exists_log (known.stage host options) .info known.greeting w
  obtain ⟨_, _, _, hsession, -, -, hspared⟩ := exists_visited (known.stage host options)
    options.headless (x := known.work host options) (fun w => worked_steps _ _ _ w) ready
  rw [visit, outcome_bind_of_ok hlog, hsession, hspared.domain, hfiled.profile]

/-- The directory of site profiles is there when a run is over that saved its profile in it. -/
theorem isDirectory_of_saved {path : Path} {progress : Progress} {report : Report}
    {start stopped closed passed saved : World σ}
    (hphases : Phases host options plan known progress report w start stopped closed passed final)
    (hvisit : outcome (visit host options known) loaded = (.ok progress, closed))
    (hsaved : outcome (saveAfterVisit host options known) loaded = (.ok path, saved)) :
    final.files.isDirectory options.profiles = true := by
  rw [outcome_saveAfterVisit (congrArg Prod.snd hvisit)] at hsaved
  have hthere := Profile.isDirectory_of_save hsaved
  have hsame := (outcome_saveProfile_of_ok hsaved).symm.trans hphases.saves
  obtain rfl : saved = passed := (Prod.mk.inj hsame).2
  have hconclude : Follows (Change (known.directory options) options.profiles)
      (conclude (known.directory options) (known.report plan saved.now progress) : Work σ Report) :=
    (follows_keep _).bind fun _ => (follows_logTo _ _).bind fun _ => follows_pure _
  have hstay := directoriesStay_of_follows hconclude saved
  rw [hphases.concludes] at hstay
  exact hstay.isDirectory hthere

/-- A live run whose steps all pass, with the report that it gives if that is a document. -/
structure Passes (host : Host σ) (options : RunOptions) (plan : Plan) (w : World σ) (known : Prepared)
    (progress : Progress) (report : Report) (start stopped : World σ) : Prop where
  begins : outcome (begun host options plan) w = (.ok known, start)
  works : outcome (known.work host options) start = (.ok progress, stopped)
  reports : ∃ ended, report = known.report plan ended progress
  verdict : report.verdict = .passed
  answer : (outcome (run host options plan) w).1 = report.toJson.document.map fun _ => report

/-- Let an accepted plan pass in a live run that saves its site profile, on a page where elements are
found in time, and let its clicks and fills have different targets. Then without its selectors the plan
passes again on the same page with the profile that was saved, and the same is done there: the same
pages are gone to, the same elements clicked on, filled and counted, and the same waited for, in order. -/
theorem lessons_suffice (host : Host σ) (options : RunOptions) {fair : σ → Prop} {raw : Json}
    {path : Path} {report : Report} {saved : World σ} (hplan : Plan.validate raw = .ok plan)
    (hlive : options.dryRun = false) (hb : host.browser.Punctual fair) (hfair : fair w.browser)
    (hrun : outcome (run host options plan) w = (.ok report, final))
    (hpassed : report.verdict = .passed)
    (hprepared : outcome (prepare host options plan) w = (.ok known, loaded))
    (hsaved : outcome (saveAfterVisit host options known) loaded = (.ok path, saved))
    (hdistinct : (known.primitives.filterMap Primitive.target?).Nodup)
    (hagain : Rerun host options known w final v kit ready) :
    ∃ known' progress report' start stopped acts,
      Passes host options plan.withoutSelectors v known' progress report' start stopped ∧
      deeds final.events = deeds w.events ++ acts ∧
      deeds (outcome (run host options plan.withoutSelectors) v).2.events = deeds v.events ++ acts := by
  obtain ⟨kept, hkept, hselectors, hread⟩ :=
    exists_read_of_saved host options hplan hlive hrun hprepared hsaved
  obtain ⟨_, progress, start, stopped, closed, passed, hphases⟩ := exists_phases hlive hrun
  obtain ⟨_, hsame, henter⟩ := begun_eq_ok_iff.mp hphases.begins
  rw [hprepared] at hsame
  obtain ⟨rfl, rfl⟩ : _ ∧ _ := ⟨Except.ok.inj (Prod.mk.inj hsame).1, (Prod.mk.inj hsame).2⟩
  obtain ⟨rfl, -⟩ := eq_of_conclude hphases.concludes
  obtain ⟨profile, progress', start', stopped', hdomain, hprepared', henter', hwork', hpassed', _,
    hstopped⟩ := exists_stopped_again hb hfair hplan hprepared henter hphases.works hpassed hdistinct
      hagain hkept hselectors hread
  have hbegun' := begun_eq_ok_iff.mpr ⟨_, hprepared', henter'⟩
  -- Both runs leave alike, since a trace can be named in either directory.
  obtain ⟨_, _, _, hequipped⟩ := exists_equipped hprepared
  have hnull := hasNull_traceFile_of_equip hequipped.equips
  rw [hequipped.runId] at hnull
  have hnull' := hasNull_traceFile_of_equip hagain.equips
  obtain ⟨closed', hleave'⟩ : ∃ closed', outcome (leave ((known.again kit).stage host options)
      (.ok progress')) stopped' = (.ok progress', closed') := by
    rw [stage_again hagain.secrets]
    exact ⟨_, Prod.ext (leave_again (known.stage host options) progress' hstopped.browser hnull hnull'
      hphases.leaves) rfl⟩
  have hvisit : outcome (visit host options known) loaded = (.ok progress, closed) := by
    rw [outcome_visit_of_enter henter, hphases.works, hphases.leaves]
  have hvisit' : outcome (visit host options (known.again kit)) { ready with profile := profile } =
      (.ok progress', closed') := by
    rw [outcome_visit_of_enter henter', hwork', hleave']
  -- The directories that the second run needs are there, so that it makes no others.
  have hroot : ready.files.isDirectory options.profiles = true := by
    refine (directoriesStay_equip hagain.equips).isDirectory ?_
    rw [hagain.files]
    exact isDirectory_of_saved hphases hvisit hsaved
  have hclosed' : closed'.profile.domain = known.domain := by
    have h := domain_visit host options (known.again kit) { ready with profile := profile }
    rw [hvisit'] at h
    exact h.trans hdomain
  have hfile : Path.hasNull (Profile.file options.profiles closed'.profile.domain).text = false := by
    obtain ⟨_, hkey, -⟩ := Files.read_eq_ok_iff.mp hread
    rw [hclosed']
    exact (Files.locate_eq_ok hkey).1
  have hdir : ready.files.isDirectory ((known.again kit).directory options) = true :=
    isDirectory_of_equip hagain.equips
  obtain ⟨ended, hanswer⟩ := exists_answer_of_visit plan.withoutSelectors (known.again kit)
    (w := { ready with profile := profile }) hdir hroot
    (hclosed' ▸ Profile.isDomain_of_domainOf hequipped.picks) hfile hagain.vacant hvisit'
  obtain ⟨acts, hacts, hacts'⟩ := hstopped.deeds
  have hdone := deeds_run_of_begun hlive hphases.begins
  have hdone' := deeds_run_of_begun hlive hbegun'
  rw [hrun, hphases.works, hacts] at hdone
  rw [hwork', hacts'] at hdone'
  refine ⟨known.again kit, progress', (known.again kit).report plan.withoutSelectors ended progress',
    start', stopped', acts, ⟨hbegun', hwork', ⟨ended, rfl⟩, hpassed', ?_⟩, hdone, hdone'⟩
  rw [outcome_run_of_begun hlive hbegun', hwork', hleave']
  exact hanswer

/-- A click whose selector is learned, and a field whose selector is of no use: without them the same is
done on the same elements. -/
theorem lessons_suffice_clicks :
    let plan : Plan := ⟨.str "1", .null, .null, [.goto (.str "https://example.com/"),
      .click (.str " Go ") (.str "#go"), .fill (.str "Name") (.str "Ada") (.str "#nam")]⟩
    let page : Page := { Page.blank with
      elements := [("css:#go", []), ("label:Name", [])]
      delays := [("css:#go", 1500), ("label:Name", 700)] }
    let w : World Page := ⟨page, 0, .empty [], .empty Profile.defaultDomain, 0, [], [], []⟩
    let host : Host Page := ⟨Page.browser, [], some []⟩
    Plan.validate plan.toJson = .ok plan ∧ RunOptions.usual.dryRun = false ∧
      ∃ report final known loaded path saved kit ready report',
        outcome (run host .usual plan) w = (.ok report, final) ∧ report.verdict = .passed ∧
        outcome (prepare host .usual plan) w = (.ok known, loaded) ∧
        outcome (saveAfterVisit host .usual known) loaded = (.ok path, saved) ∧
        (known.primitives.filterMap Primitive.target?).Nodup ∧
        Rerun host .usual known w final { final with browser := page } kit ready ∧
        (outcome (run host .usual plan.withoutSelectors) { final with browser := page }).1 = .ok report' ∧
        report'.verdict = .passed ∧
        deeds (outcome (run host .usual plan.withoutSelectors) { final with browser := page }).2.events =
          deeds final.events ++ [.goto "https://example.com/" 10000, .click (.css "#go") 10000,
            .fill (.label "Name") "Ada" 10000] := by
  intro plan page w host
  have hplan : Plan.validate plan.toJson = .ok plan := rfl
  let v : World Page := { (outcome (run host .usual plan) w).2 with browser := page }
  have hpassed : endsIn (run host .usual plan) w (fun report final =>
      report.verdict == .passed && deeds final.events ==
        [.goto "https://example.com/" 10000, .click (.css "#go") 10000,
          .fill (.label "Name") "Ada" 10000]) = true := by decide +kernel
  have hlearned : endsIn (prepare host .usual plan) w (fun known loaded =>
      (outcome (saveAfterVisit host .usual known) loaded).1.isOk &&
      decide (known.primitives.filterMap Primitive.target?).Nodup &&
      endsIn (equip host .usual) v fun kit ready => kit.secrets == known.secrets &&
        ready.files.node? ((reportFile ((known.again kit).directory .usual)).resolve
          ready.files.home) != some .directory) = true := by decide +kernel
  have hgiven : (outcome (run host .usual plan.withoutSelectors) v).1.isOk = true := by decide +kernel
  obtain ⟨report, final, hrun, hpassed⟩ := endsIn_iff.mp hpassed
  have hv : v = { final with browser := page } := by simp only [v, hrun]
  simp only [Bool.and_eq_true, beq_iff_eq] at hpassed
  obtain ⟨known, loaded, hprepared, hlearned⟩ := endsIn_iff.mp hlearned
  rw [hv] at hlearned
  simp only [Bool.and_eq_true, decide_eq_true_eq] at hlearned
  obtain ⟨⟨hsaves, hdistinct⟩, hagain⟩ := hlearned
  rcases hsaved : outcome (saveAfterVisit host .usual known) loaded with ⟨failure | path, saved⟩
  · rw [hsaved] at hsaves
    cases hsaves
  obtain ⟨kit, ready, hequip, hagain⟩ := endsIn_iff.mp hagain
  simp only [Bool.and_eq_true, beq_iff_eq, bne_iff_ne] at hagain
  have hrerun : Rerun host .usual known w final { final with browser := page } kit ready :=
    ⟨rfl, rfl, hequip, hagain.1, hagain.2⟩
  obtain ⟨known', progress, report', start, stopped, acts, hpasses, hdone, hdone'⟩ :=
    lessons_suffice host .usual hplan rfl Page.punctual_browser rfl hrun hpassed.1 hprepared hsaved
      hdistinct hrerun
  have hacts : deeds final.events = acts := hdone
  have hanswer := hpasses.answer
  rw [hv, hanswer] at hgiven
  have hgiven' : (report'.toJson.document.map fun _ => report') = .ok report' := by
    cases hdocument : report'.toJson.document with
    | ok _ => rfl
    | error failure =>
        rw [hdocument] at hgiven
        cases hgiven
  refine ⟨hplan, rfl, report, final, known, loaded, path, saved, kit, ready, report', hrun, hpassed.1,
    hprepared, hsaved, hdistinct, hrerun, hanswer.trans hgiven', hpasses.verdict, ?_⟩
  rw [hdone', ← hacts, hpassed.2]

end Live

end Walkthrough.Run
