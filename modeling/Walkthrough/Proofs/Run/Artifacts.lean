import Walkthrough.Page
import Walkthrough.Proofs.Run.Frame
import Walkthrough.Proofs.Run.Stops

/-! # What is kept of a failure

A run that fails keeps a screenshot and a snapshot of the page, each if the browser gives it and there is
room for its file. The report names those that were kept, twice: as artifacts of the run, and as paths of
the step that failed. -/

namespace Walkthrough

theorem Artifacts.member?_toJson (a : Artifacts) :
    a.toJson.member? "failureScreenshotPath" = a.screenshot.map Json.str ∧
      a.toJson.member? "failureDomPath" = a.snapshot.map Json.str := by
  obtain ⟨_, _, _, screenshot, snapshot⟩ := a
  cases screenshot <;> cases snapshot <;> exact ⟨rfl, rfl⟩

theorem StepReport.member?_toJson (r : StepReport) :
    r.toJson.member? "artifactPaths" = r.artifactPaths.map textArray := by
  obtain ⟨_, _, _, _, _, _, _, error, paths⟩ := r
  cases error <;> cases paths <;> rfl

namespace Run

open Effect

variable {σ α : Type} {stage : Stage σ} {w w' : World σ}

/-! ## One artifact -/

/-- What a browser gives for a file, if it gives it and there is room for the file. -/
def yield? (answer : Except Failure α) (files : Files) (path : Path) : Option α :=
  match answer, files.room path with
  | .ok a, .ok () => some a
  | _, _ => none

theorem yield?_eq_some_iff {answer : Except Failure α} {files : Files} {path : Path} {a : α} :
    yield? answer files path = some a ↔ answer = .ok a ∧ files.room path = .ok () := by
  unfold yield?
  split <;> simp_all

theorem yield?_congr {files files' : Files} (h : Files.SameDirectories files files')
    (answer : Except Failure α) (path : Path) : yield? answer files' path = yield? answer files path :=
  Option.ext fun a => by rw [yield?_eq_some_iff, yield?_eq_some_iff, h.room_eq_ok_iff]

/-- Calls the browser for an artifact and writes what it gives to a file. -/
def obtainFile (c : Call) (reply : σ → Reply σ α) (path : Path) (content : α → Text.Content) :
    Work σ Unit := do
  let a ← Work.call c reply
  Work.writeFile path (content a)

section Artifact

variable (c : Call) {reply : σ → Reply σ α} {path : Path} (content : α → Text.Content)

theorem exists_obtained {a : α} (h : yield? (reply w.browser).answer w.files path = some a) :
    ∃ files, w.files.write path (content a) = .ok files ∧
      outcome (obtainFile c reply path content) w = (.ok (),
        { w.after c (reply w.browser) with
          files := files
          events := (w.after c (reply w.browser)).events ++ [.write path.text true] }) := by
  obtain ⟨hanswer, hroom⟩ := yield?_eq_some_iff.mp h
  obtain ⟨files, hwrite⟩ := Files.exists_write_iff.mpr hroom
  have hcall := outcome_call c reply w
  rw [hanswer] at hcall
  have hafter : (w.after c (reply w.browser)).files.write path (content a) = .ok files := hwrite
  refine ⟨files, hwrite, ?_⟩
  rw [obtainFile, outcome_bind_of_ok hcall, outcome_writeFile, hafter]

theorem exists_not_obtained (h : yield? (reply w.browser).answer w.files path = none) :
    ∃ failure events, outcome (obtainFile c reply path content) w =
      (.error failure, { w.after c (reply w.browser) with events := events }) := by
  have hcall := outcome_call c reply w
  cases hanswer : (reply w.browser).answer with
  | error failure =>
      rw [hanswer] at hcall
      exact ⟨failure, _, outcome_bind_of_error hcall⟩
  | ok a =>
      rw [hanswer] at h hcall
      rw [obtainFile, outcome_bind_of_ok hcall, outcome_writeFile]
      split
      · rename_i files hwrite
        have hroom : w.files.room path = .ok () := Files.exists_write_iff.mp ⟨files, hwrite⟩
        rw [yield?_eq_some_iff.mpr ⟨rfl, hroom⟩] at h
        cases h
      · exact ⟨_, _, rfl⟩

/-- What comes of trying for an artifact: the path is given if the file could be written, and then the file
has what the browser gave. -/
structure Tried (runDir : Path) (reply : σ → Reply σ α) (path : Path) (content : α → Text.Content)
    (w : World σ) (named : Option String) (w' : World σ) : Prop where
  named : named = (yield? (reply w.browser).answer w.files path).map fun _ => path.text
  kept : ∀ a, yield? (reply w.browser).answer w.files path = some a →
    w'.files.read path = .ok (content a)
  browser : w'.browser = (reply w.browser).state
  within : Within (fun p => p = runLog runDir ∨ p = path) w w'

theorem tried_of_tolerating {artifact : Artifact} {named : Option String}
    (h : outcome (stage.tolerating artifact path.text (obtainFile c reply path content)) w =
      (.ok named, w')) : Tried stage.runDir reply path content w named w' := by
  cases hyield : yield? (reply w.browser).answer w.files path with
  | some a =>
      obtain ⟨files, hwrite, hobtained⟩ := exists_obtained c content hyield
      rw [Stage.tolerating, outcome_bind_of_ok (outcome_attempt_of hobtained)] at h
      cases h
      refine ⟨by rw [hyield, Option.map_some], fun b hb => ?_, rfl, ?_⟩
      · obtain rfl := Option.some.inj (hyield.symm.trans hb)
        exact Files.read_of_write hwrite
      · exact ⟨rfl, Files.onlyAt_write (.inr rfl) hwrite, Files.sameDirectories_write hwrite⟩
  | none =>
      obtain ⟨failure, events, hmissed⟩ := exists_not_obtained c content hyield
      rw [Stage.tolerating, outcome_bind_of_ok (outcome_attempt_of hmissed)] at h
      dsimp only at h
      split at h
      · obtain ⟨_, logged, hlog, h⟩ := outcome_bind_eq_ok_iff.mp h
        cases h
        obtain ⟨_, hnoted, hfiled⟩ := exists_log stage .error
          (Failure.noArtifact artifact failure.message).message
          { w.after c (reply w.browser) with events := events }
        obtain rfl := (Prod.mk.inj (hnoted.symm.trans hlog)).2
        have hlogged : Follows (Within fun p => p = runLog stage.runDir ∨ p = path)
            (stage.log .error (Failure.noArtifact artifact failure.message).message) :=
          follows_within_log (.inl rfl) _ _
        have hwithin := hlogged.related { w.after c (reply w.browser) with events := events }
        rw [hnoted] at hwithin
        refine ⟨by rw [hyield, Option.map_none], fun b hb => ?_, hfiled.browser, ?_⟩
        · cases hyield.symm.trans hb
        · exact ⟨hwithin.domain, hwithin.files, hwithin.directories⟩
      · cases h

end Artifact

/-! ## Evidence -/

/-- What the browser gives for the screenshot of a failure that was just noted, if its file is written. -/
def screenshot? (stage : Stage σ) (n : Nat) (noted : World σ) : Option Text.Content :=
  yield? (stage.browser.screenshot noted.browser).answer noted.files (screenshotFile stage.runDir n)

/-- The text of the page that the browser gives after that, if the file of the snapshot is written. -/
def snapshot? (stage : Stage σ) (n : Nat) (noted : World σ) : Option String :=
  yield? (stage.browser.content (stage.browser.screenshot noted.browser).state).answer noted.files
    (snapshotFile stage.runDir n)

theorem resolve_screenshotFile_ne (runDir : Path) (n : Nat) (home : List String) :
    (screenshotFile runDir n).resolve home ≠ (snapshotFile runDir n).resolve home := by
  refine resolve_ne_snapshot (isPart_screenshot n).1 (isPart_screenshot n).2 ?_ n home
  rw [String.toList_append, List.getLast?_append,
    show (toString ".png").toList.getLast? = some 'g' from rfl, Option.some_or]
  decide

/-- What is kept of a failure: each path is given if the file could be written, and then the file has what
the browser gave. -/
structure Kept (stage : Stage σ) (n : Nat) (noted : World σ) (screenshot snapshot : Option String)
    (files : Files) : Prop where
  screenshot : screenshot =
    (screenshot? stage n noted).map fun _ => (screenshotFile stage.runDir n).text
  snapshot : snapshot = (snapshot? stage n noted).map fun _ => (snapshotFile stage.runDir n).text
  image : ∀ data, screenshot? stage n noted = some data →
    files.read (screenshotFile stage.runDir n) = .ok data
  page : ∀ html, snapshot? stage n noted = some html →
    files.read (snapshotFile stage.runDir n) = .ok (.text (String.ofList (html.toList.take 20000)))

theorem kept_of_keepEvidence {n : Nat} {noted : World σ} {screenshot snapshot : Option String}
    (h : outcome (stage.keepEvidence n) noted = (.ok (screenshot, snapshot), w')) :
    Kept stage n noted screenshot snapshot w'.files := by
  obtain ⟨first, shot, hshot, h⟩ := outcome_bind_eq_ok_iff.mp h
  obtain ⟨second, snapped, hsnapped, h⟩ := outcome_bind_eq_ok_iff.mp h
  cases h
  have himage : Tried stage.runDir stage.browser.screenshot (screenshotFile stage.runDir n) id noted
      screenshot shot := tried_of_tolerating _ id hshot
  have hpage : Tried stage.runDir stage.browser.content (snapshotFile stage.runDir n)
      (fun html => .text (Stage.excerpt html)) shot snapshot w' := tried_of_tolerating _ _ hsnapped
  -- Trying for the screenshot makes no room and takes none.
  have hyield : yield? (stage.browser.content shot.browser).answer shot.files
      (snapshotFile stage.runDir n) = snapshot? stage n noted := by
    rw [himage.browser, yield?_congr himage.within.directories, snapshot?]
  refine ⟨himage.named, hyield ▸ hpage.named, fun data hdata => ?_, fun html hhtml => ?_⟩
  · refine hpage.within.files.read (fun q hq => ?_) (himage.kept data hdata)
    rcases hq with hlog | hsnapshot
    · rw [hlog]
      exact Path.resolve_child_ne stage.runDir stage.runDir (by decide) (by decide)
        (isPart_screenshot n).1 (isPart_screenshot n).2
        (Path.numbered_ne (c := 'f') rfl (by decide) n).symm _
    · rw [hsnapshot]
      exact (resolve_screenshotFile_ne stage.runDir n _).symm
  · exact hpage.kept html (hyield.trans hhtml)

/-! ## After the steps -/

/-- The files that a run writes after its steps. -/
inductive Aftermath (options : RunOptions) (runDir : Path) (domain : String) : Path → Prop
  | log : Aftermath options runDir domain (runLog runDir)
  | trace : Aftermath options runDir domain (traceFile runDir)
  | report : Aftermath options runDir domain (reportFile runDir)
  | profile : Aftermath options runDir domain (Profile.file options.profiles domain)

/-- None of them is in the place of a file that is numbered as evidence is. -/
theorem Aftermath.resolve_ne {options : RunOptions} {runDir path : Path} {domain : String}
    (h : Aftermath options runDir domain path) (hdomain : Profile.IsDomain domain) (after : String)
    (hslash : '/' ∉ after.toList) {c : Char} (hlast : after.toList.getLast? = some c) (hc : c ≠ 'n')
    (n : Nat) (home : List String) :
    path.resolve home ≠ (runDir.child ("failure-step-" ++ toString n ++ after)).resolve home := by
  have hnumbered : Path.IsPart ("failure-step-" ++ toString n ++ after) ∧
      "failure-step-" ++ toString n ++ after ≠ ".." :=
    Path.isPart_numbered (c := 'f') (by decide) rfl (by decide) hslash n
  have hfixed : ∀ s : String, Path.IsPart s → s ≠ ".." → s.toList.head? ≠ some 'f' →
      (runDir.child s).resolve home ≠
        (runDir.child ("failure-step-" ++ toString n ++ after)).resolve home := by
    intro s hs hup hhead
    exact Path.resolve_child_ne _ _ hs hup hnumbered.1 hnumbered.2 (Path.numbered_ne rfl hhead n).symm home
  cases h with
  | log | trace | report => exact hfixed _ (by decide) (by decide) (by decide)
  | profile =>
      obtain ⟨hpart, hup, -⟩ := hdomain.isPart
      refine Path.resolve_child_ne _ _ hpart hup hnumbered.1 hnumbered.2 (fun heq => ?_) home
      have hends : (domain.toList ++ ".json".toList).getLast? =
          (("failure-step-" ++ toString n).toList ++ after.toList).getLast? := by
        rw [← String.toList_append, ← String.toList_append, heq]
      rw [List.getLast?_append, List.getLast?_append, hlast] at hends
      exact hc (Option.some.inj hends).symm

section Runs

variable {host : Host σ} {options : RunOptions} {plan : Plan} {known : Prepared}

theorem Phases.isDomain {progress : Progress} {report : Report}
    {start stopped closed saved final : World σ}
    (h : Phases host options plan known progress report w start stopped closed saved final) :
    Profile.IsDomain closed.profile.domain := by
  obtain ⟨loaded, hprepared, hentered⟩ := begun_eq_ok_iff.mp h.begins
  have hvisit := outcome_visit_of_enter hentered
  rw [h.works, h.leaves] at hvisit
  have hwithin := within_visit host options known loaded
  rw [hvisit] at hwithin
  rw [hwithin.domain]
  exact (compile_of_prepare hprepared).2

/-- After its session a run writes its log, the site profile and its report. -/
theorem Phases.onlyAt_departed {progress : Progress} {report : Report} {paths : Path → Prop}
    {start stopped closed saved final : World σ}
    (h : Phases host options plan known progress report w start stopped closed saved final)
    (hlog : paths (runLog (known.directory options)))
    (hreport : paths (reportFile (known.directory options)))
    (hprofile : paths (Profile.file options.profiles closed.profile.domain)) :
    Files.OnlyAt paths closed.files final.files := by
  have hlog' : paths (runLog (known.stage host options).runDir) := hlog
  have hsaved := (onlyAt_saveProfile hlog' hprofile).1
  have hconcluded := onlyAt_conclude (known.directory options)
    (known.report plan saved.now progress) paths saved hlog fun _ => hreport
  rw [h.saves] at hsaved
  rw [h.concludes] at hconcluded
  exact hsaved.trans hconcluded

theorem Phases.onlyAt {progress : Progress} {report : Report}
    {start stopped closed saved final : World σ}
    (h : Phases host options plan known progress report w start stopped closed saved final) :
    Files.OnlyAt (Aftermath options (known.directory options) closed.profile.domain) stopped.files
      final.files := by
  have hleave : Follows (Within (Aftermath options (known.directory options) closed.profile.domain))
      (leave (known.stage host options) (.ok progress)) :=
    follows_of_respects fun start =>
      (tracing_within (known.stage host options) Aftermath.log Aftermath.trace start).leave (.ok progress)
  have hleft := hleave.related stopped
  rw [h.leaves] at hleft
  exact hleft.files.trans (h.onlyAt_departed .log .report .profile)

/-- What is kept of a failure is still there when the run is over. -/
theorem Kept.of_phases {progress : Progress} {report : Report} {n : Nat} {noted : World σ}
    {screenshot snapshot : Option String} {start stopped closed saved final : World σ}
    (h : Kept (known.stage host options) n noted screenshot snapshot stopped.files)
    (hphases : Phases host options plan known progress report w start stopped closed saved final) :
    Kept (known.stage host options) n noted screenshot snapshot final.files where
  screenshot := h.screenshot
  snapshot := h.snapshot
  image data hdata := by
    refine hphases.onlyAt.read (fun q hq => ?_) (h.image data hdata)
    exact hq.resolve_ne hphases.isDomain ".png" (by decide) rfl (by decide) n _
  page html hhtml := by
    refine hphases.onlyAt.read (fun q hq => ?_) (h.page html hhtml)
    exact hq.resolve_ne hphases.isDomain ".dom.html" (by decide) rfl (by decide) n _

end Runs

/-! ## Steps -/

/-- A primitive step fails in a foreseen way, and this is noted in the log. -/
structure StepFails (stage : Stage σ) (p : Primitive) (w noted : World σ) : Prop where
  split : ∃ begun broken failure,
    outcome (stage.log .info s!"Step {p.index + 1}: {p.description}") w = (.ok (), begun) ∧
    outcome (stage.act p.toAction) begun = (.error failure, broken) ∧ Stage.failsStep failure ∧
    outcome (stage.log .warning s!"Step {p.index + 1} failed: {failure.message}") broken =
      (.ok (), noted)

/-- After a step that failed, its paths are those that were kept. -/
theorem StepDerivation.exists_kept {p : Primitive} {out : Stage.Outcome}
    (h : StepDerivation stage p w w' out) (hfailed : out.report.verdict = .failed) :
    ∃ noted screenshot snapshot, StepFails stage p w noted ∧
      Kept stage (p.index + 1) noted screenshot snapshot w'.files ∧
      out.evidence = some (screenshot, snapshot) ∧
      out.report.artifactPaths = some (screenshot.toList ++ snapshot.toList) := by
  cases h with
  | passed => cases hfailed
  | @failed begun broken warned failure screenshot snapshot begins acts foreseen warns keeps =>
      exact ⟨warned, screenshot, snapshot, ⟨begun, broken, failure, begins, acts, foreseen, warns⟩,
        kept_of_keepEvidence keeps, rfl, rfl⟩

/-- No evidence is kept of steps that pass. -/
theorem StepsDerivation.evidence_eq_none {primitives : List Primitive} {outs : List Stage.Outcome}
    (h : StepsDerivation stage primitives w outs w')
    (hpassed : ∀ out ∈ outs, out.report.verdict = .passed) :
    ∀ out ∈ outs, out.evidence = none ∧ out.report.artifactPaths = none := by
  have hstep : ∀ {p : Primitive} {v v' : World σ} {out : Stage.Outcome},
      StepDerivation stage p v v' out → out.report.verdict = .passed →
        out.evidence = none ∧ out.report.artifactPaths = none := by
    intro p v v' out h hverdict
    cases h with
    | passed => exact ⟨rfl, rfl⟩
    | failed => cases hverdict
  induction h with
  | nil => exact List.forall_mem_nil _
  | failed rest step verdict =>
      exact List.forall_mem_cons.mpr ⟨hstep step (hpassed _ List.mem_cons_self), List.forall_mem_nil _⟩
  | passed step verdict _ ih =>
      exact List.forall_mem_cons.mpr ⟨hstep step verdict,
        ih fun out hout => hpassed out (List.mem_cons_of_mem _ hout)⟩

theorem Progress.artifacts_add {out : Stage.Outcome} {screenshot snapshot : Option String}
    (h : out.evidence = some (screenshot, snapshot)) (progress : Progress) :
    (progress.add out).artifacts =
      { progress.artifacts with screenshot := screenshot, snapshot := snapshot } := by
  rw [Progress.add, h]

theorem artifacts_foldl_add {outs : List Stage.Outcome} (h : ∀ out ∈ outs, out.evidence = none)
    (progress : Progress) : (outs.foldl Progress.add progress).artifacts = progress.artifacts := by
  induction outs generalizing progress with
  | nil => rfl
  | cons out outs ih =>
      obtain ⟨hout, houts⟩ := List.forall_mem_cons.mp h
      rw [List.foldl_cons, ih houts]
      simp [Progress.add, hout]

/-! ## Reports -/

section Reports

variable {host : Host σ} {options : RunOptions} {plan : Plan}

/-- A live run carries out steps that pass, and then comes to one that fails. -/
structure FailsAt (host : Host σ) (options : RunOptions) (plan : Plan) (w : World σ) (known : Prepared)
    (p : Primitive) (noted : World σ) : Prop where
  split : ∃ start before after outs mid, outcome (begun host options plan) w = (.ok known, start) ∧
    known.primitives = before ++ p :: after ∧ outs.length = before.length ∧
    (∀ out ∈ outs, out.report.verdict = .passed) ∧
    StepsDerivation (known.stage host options) before start outs mid ∧
    StepFails (known.stage host options) p mid noted

/-- The evidence that a report names. If the run passed, there is none. If it failed, its last step names
what was kept of its failure, screenshot first, and so do the artifacts; no other step names anything. -/
inductive Evidenced (host : Host σ) (options : RunOptions) (plan : Plan) (w : World σ) (report : Report)
    (files : Files) : Prop
  | passed (verdict : report.verdict = .passed)
      (artifacts : report.artifacts = artifactsIn (options.artifactsRoot.child report.runId))
      (others : ∀ r ∈ report.steps, r.artifactPaths = none)
  | failed {known : Prepared} {p : Primitive} {noted : World σ} {screenshot snapshot : Option String}
      {earlier : List StepReport} {last : StepReport} (verdict : report.verdict = .failed)
      (fails : FailsAt host options plan w known p noted) (name : known.runId = report.runId)
      (steps : report.steps = earlier ++ [last]) (index : last.index = p.index)
      (kept : Kept (known.stage host options) (last.index + 1) noted screenshot snapshot files)
      (artifacts : report.artifacts =
        { artifactsIn (options.artifactsRoot.child report.runId) with
          screenshot := screenshot
          snapshot := snapshot })
      (paths : last.artifactPaths = some (screenshot.toList ++ snapshot.toList))
      (others : ∀ r ∈ earlier, r.artifactPaths = none)

theorem Ran.evidenced {known : Prepared} {outs : List Stage.Outcome} {report : Report}
    {start stopped closed saved final : World σ}
    (h : Ran host options plan known outs report w start stopped closed saved final) :
    Evidenced host options plan w report final.files := by
  have hname : report.runId = known.runId := congrArg Report.runId h.reports
  have hartifacts : report.artifacts = (known.progress options outs).artifacts :=
    congrArg Report.artifacts h.reports
  cases hverdict : report.verdict with
  | passed =>
      have hnone := h.steps.evidence_eq_none (h.verdict_eq_passed_iff.mp hverdict)
      refine .passed hverdict ?_ ?_
      · rw [hartifacts, Prepared.progress, artifacts_foldl_add fun out hout => (hnone out hout).1, hname]
        rfl
      · rw [h.steps_eq]
        exact List.forall_mem_map.mpr fun out hout => (hnone out hout).2
  | failed =>
      obtain ⟨p, out, hstops⟩ := h.exists_stopsAt hverdict
      obtain ⟨earlier, mid, before, after, rfl, hprimitives, hlength, hpassed, hearlier, hstep⟩ :=
        hstops.split
      obtain ⟨noted, screenshot, snapshot, hfails, hkept, hevidence, hpaths⟩ :=
        hstep.exists_kept hstops.failed
      have hnone := hearlier.evidence_eq_none hpassed
      have hindex : out.report.index = p.index := hstep.tells.index
      refine .failed hverdict ⟨start, before, after, earlier, mid, h.begins, hprimitives, hlength, hpassed,
        hearlier, hfails⟩ hname.symm ?_ hindex (hindex ▸ hkept.of_phases h.toPhases) ?_ hpaths
        (List.forall_mem_map.mpr fun out hout => (hnone out hout).2)
      · rw [h.steps_eq, List.map_append, List.map_singleton]
      · have hbefore := artifacts_foldl_add (fun out hout => (hnone out hout).1)
          ⟨.passed, [], [], artifactsIn (known.directory options)⟩
        rw [hartifacts, Prepared.progress, List.foldl_append, List.foldl_cons, List.foldl_nil,
          Progress.artifacts_add hevidence, hbefore, hname]
        rfl

/-- A live run names the evidence that it kept, and no other, in its report and in what is written of
it. -/
theorem evidenced_of_run {report : Report} {final : World σ} (hlive : options.dryRun = false)
    (hrun : outcome (run host options plan) w = (.ok report, final)) :
    Evidenced host options plan w report final.files ∧
      report.artifacts.toJson.member? "failureScreenshotPath" = report.artifacts.screenshot.map .str ∧
      report.artifacts.toJson.member? "failureDomPath" = report.artifacts.snapshot.map .str ∧
      ∀ r ∈ report.steps, r.toJson.member? "artifactPaths" = r.artifactPaths.map textArray := by
  obtain ⟨known, outs, start, stopped, closed, saved, hran⟩ := exists_ran hlive hrun
  exact ⟨hran.evidenced, report.artifacts.member?_toJson.1, report.artifacts.member?_toJson.2,
    fun r _ => r.member?_toJson⟩

/-- A click on a page without its target: both files are kept, and are there when the run is over. -/
theorem evidenced_of_run_click :
    let plan : Plan := ⟨.str "1", .null, .null, [.goto (.str "https://example.com/"),
      .click (.str "Help") .null]⟩
    let host : Host Page := ⟨Page.browser, [], some []⟩
    let w : World Page := ⟨.blank, 0, .empty [], .empty Profile.defaultDomain, 0, [], [], []⟩
    RunOptions.usual.dryRun = false ∧ ∃ report final,
      outcome (run host .usual plan) w = (.ok report, final) ∧ report.verdict = .failed ∧
      (report.artifacts.screenshot.isSome ∧ report.artifacts.snapshot.isSome) ∧
      Evidenced host .usual plan w report final.files := by
  intro plan host w
  have hended : endsIn (run host .usual plan) w (fun report _ =>
      decide (report.verdict = .failed ∧ report.artifacts.screenshot.isSome ∧
        report.artifacts.snapshot.isSome)) = true := by
    decide +kernel
  obtain ⟨report, final, hrun, hfailed⟩ := endsIn_iff.mp hended
  obtain ⟨hverdict, hkept⟩ := of_decide_eq_true hfailed
  exact ⟨rfl, report, final, hrun, hverdict, hkept, (evidenced_of_run rfl hrun).1⟩

end Reports

end Run
end Walkthrough
