import Walkthrough.Proofs.Run.Abreast
import Walkthrough.Proofs.Run.Artifacts

/-! # The files that a report names

When a run is over, its report is in the file that it names, and so is the evidence of a failure that it
names. A trace is named in any case, and is there only if the browser gave it and it could be written. -/

namespace Walkthrough
namespace Run

open Effect

variable {σ α : Type} {stage : Stage σ} {w : World σ}

/-! ## Ending a trace -/

/-- What the browser gives for the trace after the steps of a run, if its file is written. -/
def trace? (stage : Stage σ) (stopped : World σ) : Option Text.Content :=
  yield? (stage.browser.stopTrace stopped.browser).answer stopped.files (traceFile stage.runDir)

/-- Paths that do not lead to the trace of a run. -/
def BesideTrace (runDir path : Path) : Prop :=
  ∀ home, path.resolve home ≠ (traceFile runDir).resolve home

theorem besideTrace_child (runDir p : Path) {name : String} (hname : Path.IsPart name)
    (hup : name ≠ "..") (hne : name ≠ "trace.zip") : BesideTrace runDir (p.child name) := by
  intro home
  exact Path.resolve_child_ne p runDir hname hup (by decide) (by decide) hne home

theorem besideTrace_log (runDir : Path) : BesideTrace runDir (runLog runDir) :=
  besideTrace_child runDir runDir (by decide) (by decide) (by decide)

theorem besideTrace_report (runDir : Path) : BesideTrace runDir (reportFile runDir) :=
  besideTrace_child runDir runDir (by decide) (by decide) (by decide)

theorem besideTrace_screenshot (runDir : Path) (n : Nat) :
    BesideTrace runDir (screenshotFile runDir n) :=
  besideTrace_child runDir runDir (isPart_screenshot n).1 (isPart_screenshot n).2
    (Path.numbered_ne (c := 'f') rfl (by decide) n)

theorem besideTrace_snapshot (runDir : Path) (n : Nat) :
    BesideTrace runDir (snapshotFile runDir n) :=
  besideTrace_child runDir runDir (isPart_snapshot n).1 (isPart_snapshot n).2
    (Path.numbered_ne (c := 'f') rfl (by decide) n)

theorem besideTrace_profile (runDir root : Path) {domain : String} (h : Profile.IsDomain domain) :
    BesideTrace runDir (Profile.file root domain) := by
  obtain ⟨hname, hup, -⟩ := h.isPart
  refine besideTrace_child runDir root hname hup fun heq => ?_
  have hends := congrArg (fun s : String => s.toList.getLast?) heq
  simp at hends

theorem stopTrace_eq (stage : Stage σ) :
    stopTrace stage = handling
      (obtainFile (.stopTrace (traceFile stage.runDir).text) stage.browser.stopTrace
        (traceFile stage.runDir) id)
      Stage.isTolerated
      fun failure => stage.log .error (Failure.noArtifact .traceEnd failure.message).message :=
  rfl

/-- A trace that could be written is there after it was ended. -/
theorem read_of_stopTrace {data : Text.Content} (h : trace? stage w = some data) :
    (outcome (stopTrace stage) w).2.files.read (traceFile stage.runDir) = .ok data := by
  obtain ⟨files, hwrite, hobtained⟩ := exists_obtained (.stopTrace (traceFile stage.runDir).text) id h
  rw [stopTrace_eq, outcome_handling, hobtained]
  exact Files.read_of_write hwrite

/-- Without a trace that could be written, ending it writes to the log at most. -/
theorem onlyAt_stopTrace (h : trace? stage w = none) :
    Files.OnlyAt (BesideTrace stage.runDir) w.files (outcome (stopTrace stage) w).2.files := by
  obtain ⟨failure, events, hmissed⟩ :=
    exists_not_obtained (.stopTrace (traceFile stage.runDir).text) id h
  generalize hmid : { w.after _ (stage.browser.stopTrace w.browser) with events := events } = mid
    at hmissed
  have hfiles : w.files = mid.files := by rw [← hmid]; rfl
  have hlogged : Follows (Within (BesideTrace stage.runDir))
      (stage.log .error (Failure.noArtifact .traceEnd failure.message).message) :=
    follows_within_log (besideTrace_log _) _ _
  rw [stopTrace_eq, outcome_handling, hmissed, hfiles]
  dsimp only
  split
  · exact (hlogged.related mid).files
  · exact .refl mid.files

theorem files_leave (stage : Stage σ) (answer : Except Failure α) (w : World σ) :
    (outcome (leave stage answer) w).2.files = (outcome (stopTrace stage) w).2.files := by
  rw [outcome_leave]
  rfl

/-! ## The rest of a run -/

section Runs

variable {host : Host σ} {options : RunOptions} {plan : Plan} {known : Prepared}

/-- Before its steps a live run writes to its log. -/
theorem onlyAt_begun {start : World σ} (hhome : ".." ∉ w.files.home)
    (h : outcome (begun host options plan) w = (.ok known, start)) :
    Files.OnlyAt (BesideTrace (known.directory options)) w.files start.files := by
  obtain ⟨loaded, hprepared, hentered⟩ := begun_eq_ok_iff.mp h
  have hloaded : Files.OnlyAt (BesideTrace (known.directory options)) w.files loaded.files :=
    onlyAt_prepare (directory_of_prepare hprepared ▸ besideTrace_log _) hhome hprepared
  have hlogged : ∀ (level : Level) (message : String) (v : World σ),
      Respects (Along (Within (BesideTrace (known.directory options))) v)
        ((known.stage host options).log level message) :=
    fun level message _ => (follows_within_log (besideTrace_log _) level message).respects
  have henter : Follows (Within (BesideTrace (known.directory options)))
      (enter host options known) := by
    refine follows_of_respects fun v => (hlogged _ _ v).bind_eq fun _ =>
      (follows_within_call _ _).respects.bind_eq fun _ => ?_
    exact (follows_within_call _ _).respects.handling fun _ => hlogged _ _ v
  have hstarted := henter.related loaded
  rw [hentered] at hstarted
  exact hloaded.trans hstarted.files

/-- The steps of a live run write to its log, and the evidence of a failure. -/
theorem within_work (host : Host σ) (options : RunOptions) (known : Prepared) (start : World σ) :
    Within (BesideTrace (known.directory options)) start
      (outcome (known.work host options) start).2 := by
  have hwork : Follows (Within (BesideTrace (known.directory options))) (known.work host options) :=
    follows_of_respects fun v => (coupling_within (known.stage host options) (besideTrace_log _)
      (besideTrace_screenshot _) (besideTrace_snapshot _) v).steps _ _
  exact hwork.related start

/-- A live run comes to the end of its steps, and is about to end its trace. -/
def StepsEnd (host : Host σ) (options : RunOptions) (plan : Plan) (w : World σ) (known : Prepared)
    (stopped : World σ) : Prop :=
  ∃ start progress, outcome (begun host options plan) w = (.ok known, start) ∧
    outcome (known.work host options) start = (.ok progress, stopped)

/-- A directory that holds no file. -/
def Fresh (files : Files) (runDir : Path) : Prop :=
  ∀ key content, runDir.resolve files.home <+: key → files.node? key ≠ some (.file content)

theorem fresh_empty (home : List String) (runDir : Path) : Fresh (.empty home) runDir := by
  intro key content _
  simp [Files.node?, Files.empty]

theorem Fresh.not_isFile {files files' : Files} {runDir : Path} (h : Fresh files runDir)
    (honly : Files.OnlyAt (BesideTrace runDir) files files') :
    files'.isFile (traceFile runDir) = false := by
  rw [Bool.eq_false_iff, Ne, Files.isFile_iff]
  rintro ⟨content, hread⟩
  obtain ⟨key, hkey, hnode⟩ := Files.read_eq_ok_iff.mp hread
  obtain ⟨-, rfl⟩ := Files.locate_eq_ok hkey
  rw [honly.home] at hnode
  refine h _ content ?_ ((honly.file _ (fun q hq => hq _) content).mp hnode)
  rw [traceFile, Path.resolve_child runDir (by decide) (by decide)]
  exact List.prefix_append _ _

theorem Phases.isFile_trace {progress : Progress} {report : Report}
    {start stopped closed saved final : World σ}
    (h : Phases host options plan known progress report w start stopped closed saved final)
    (hhome : ".." ∉ w.files.home) (hfresh : Fresh w.files (known.directory options)) :
    final.files.isFile (traceFile (known.directory options)) =
      (trace? (known.stage host options) stopped).isSome := by
  have hleft : closed.files = (outcome (stopTrace (known.stage host options)) stopped).2.files := by
    have hleave := files_leave (known.stage host options) (.ok progress) stopped
    rwa [h.leaves] at hleave
  have hdeparted : Files.OnlyAt (BesideTrace (known.directory options)) closed.files final.files :=
    h.onlyAt_departed (besideTrace_log _) (besideTrace_report _)
      (besideTrace_profile _ _ h.isDomain)
  cases htrace : trace? (known.stage host options) stopped with
  | some data =>
      have hread : closed.files.read (traceFile (known.directory options)) = .ok data := by
        rw [hleft]
        exact read_of_stopTrace htrace
      exact Files.isFile_iff.mpr ⟨data, hdeparted.read (fun q hq => hq _) hread⟩
  | none =>
      have hworked := within_work host options known start
      rw [h.works] at hworked
      have hstopped := onlyAt_stopTrace htrace
      rw [← hleft] at hstopped
      have hbefore := (onlyAt_begun hhome h.begins).trans hworked.files
      exact hfresh.not_isFile ((hbefore.trans hstopped).trans hdeparted)

/-! ## Reported files -/

/-- A path of a file that is kept leads to it again when it is read back from its text. -/
theorem isFile_ofText {files : Files} {path : Path} {content : Text.Content} (hpath : path.Proper)
    (h : files.read path = .ok content) : files.isFile (Path.ofText path.text) = true := by
  rw [Path.ofText_text hpath]
  exact Files.isFile_iff.mpr ⟨content, h⟩

theorem Evidenced.isFile {report : Report} {files : Files}
    (h : Evidenced host options plan w report files) (hroot : options.artifactsRoot.Proper)
    {path : String} (hpath : report.artifacts.screenshot = some path ∨
      report.artifacts.snapshot = some path) : files.isFile (Path.ofText path) = true := by
  cases h with
  | passed _ artifacts _ =>
      rw [artifacts] at hpath
      simp [artifactsIn] at hpath
  | @failed known _ noted _ _ _ last _ _ _ _ _ kept artifacts _ _ =>
      have hproper : ∀ name, ((known.directory options).child name).Proper :=
        (hroot.child known.runId).child
      rw [artifacts] at hpath
      cases hpath with
      | inl hscreenshot =>
          rw [kept.screenshot, Option.map_eq_some_iff] at hscreenshot
          obtain ⟨data, hdata, rfl⟩ := hscreenshot
          exact isFile_ofText (hproper _) (kept.image data hdata)
      | inr hsnapshot =>
          rw [kept.snapshot, Option.map_eq_some_iff] at hsnapshot
          obtain ⟨html, hhtml, rfl⟩ := hsnapshot
          exact isFile_ofText (hproper _) (kept.page html hhtml)

theorem Evidenced.paths {report : Report} {files : Files}
    (h : Evidenced host options plan w report files) :
    report.artifacts.tracePath = (traceFile (options.artifactsRoot.child report.runId)).text ∧
      report.artifacts.resultPath = (reportFile (options.artifactsRoot.child report.runId)).text := by
  cases h with
  | passed _ artifacts _ => rw [artifacts]; exact ⟨rfl, rfl⟩
  | failed _ _ _ _ _ _ artifacts _ _ => rw [artifacts]; exact ⟨rfl, rfl⟩

/-- A live run in a fresh directory names files that are there when it is over: its report, and the
screenshot and the snapshot of a failure if it names them. The trace is named too, and is there exactly
if the browser gave it at the end of the steps and there was room for its file. -/
theorem reported_files_are_kept {report : Report} {final : World σ} (hlive : options.dryRun = false)
    (hroot : options.artifactsRoot.Proper) (hhome : ".." ∉ w.files.home)
    (hfresh : Fresh w.files (dirOf options w))
    (hrun : outcome (run host options plan) w = (.ok report, final)) :
    final.files.isFile (Path.ofText report.artifacts.resultPath) = true ∧
      (∀ path, report.artifacts.screenshot = some path ∨ report.artifacts.snapshot = some path →
        final.files.isFile (Path.ofText path) = true) ∧
      ∃ known stopped, StepsEnd host options plan w known stopped ∧
        (final.files.isFile (Path.ofText report.artifacts.tracePath) = true ↔
          (trace? (known.stage host options) stopped).isSome) := by
  obtain ⟨hname, -, hkept⟩ := exists_kept_of_run hrun
  obtain ⟨known, outs, start, stopped, closed, saved, hran⟩ := exists_ran hlive hrun
  obtain ⟨loaded, hprepared, -⟩ := begun_eq_ok_iff.mp hran.begins
  have hdirectory : options.artifactsRoot.child report.runId = dirOf options w := by
    rw [hname, dirOf]
  have hproper := proper_dirOf hroot w
  obtain ⟨htrace, hresult⟩ := hran.evidenced.paths
  rw [hdirectory] at htrace hresult
  refine ⟨?_, fun path hpath => hran.evidenced.isFile hroot hpath, known, stopped,
    ⟨start, _, hran.begins, hran.works⟩, ?_⟩
  · rw [hresult]
    exact isFile_ofText (hproper.child _) hkept
  · have htext : Path.ofText (traceFile (dirOf options w)).text = traceFile (dirOf options w) :=
      Path.ofText_text (hproper.child _)
    rw [htrace, htext, ← directory_of_prepare hprepared,
      hran.isFile_trace hhome (directory_of_prepare hprepared ▸ hfresh)]

/-- A click on a page without its target, in a fresh directory: all files that the report names are
there. -/
theorem reported_files_are_kept_click :
    let plan : Plan := ⟨.str "1", .null, .null, [.goto (.str "https://example.com/"),
      .click (.str "Help") .null]⟩
    let host : Host Page := ⟨Page.browser, [], some []⟩
    let w : World Page := ⟨.blank, 0, .empty [], .empty Profile.defaultDomain, 0, [], [], []⟩
    RunOptions.usual.dryRun = false ∧ RunOptions.usual.artifactsRoot.Proper ∧
      ".." ∉ w.files.home ∧ Fresh w.files (dirOf .usual w) ∧ ∃ report final,
      outcome (run host .usual plan) w = (.ok report, final) ∧
      (report.artifacts.screenshot.isSome ∧ report.artifacts.snapshot.isSome) ∧
      final.files.isFile (Path.ofText report.artifacts.tracePath) = true ∧
      final.files.isFile (Path.ofText report.artifacts.resultPath) = true ∧
      ∃ known stopped, StepsEnd host .usual plan w known stopped ∧
        (trace? (known.stage host .usual) stopped).isSome := by
  intro plan host w
  have hproper : RunOptions.usual.artifactsRoot.Proper := Path.proper_ofText _
  have hhome : ".." ∉ w.files.home := List.not_mem_nil
  have hfresh : Fresh w.files (dirOf .usual w) := fresh_empty [] _
  have hended : endsIn (run host .usual plan) w (fun report final =>
      decide ((report.artifacts.screenshot.isSome ∧ report.artifacts.snapshot.isSome) ∧
        final.files.isFile (Path.ofText report.artifacts.tracePath) = true)) = true := by
    decide +kernel
  obtain ⟨report, final, hrun, hkept⟩ := endsIn_iff.mp hended
  obtain ⟨hevidence, htrace⟩ := of_decide_eq_true hkept
  obtain ⟨hresult, -, known, stopped, hend, hiff⟩ :=
    reported_files_are_kept rfl hproper hhome hfresh hrun
  exact ⟨rfl, hproper, hhome, hfresh, report, final, hrun, hevidence, htrace, hresult, known, stopped,
    hend, hiff.mp htrace⟩

/-- A trace that the browser cannot give is named in the report, and is not there. -/
theorem lost_trace_is_named :
    let plan : Plan := ⟨.str "1", .null, .null, [.goto (.str "https://example.com/")]⟩
    let host : Host Page := ⟨Page.browser, [], some []⟩
    let page : Page := { Page.blank with faults := [("stop_trace", .browser "Target closed")] }
    let w : World Page := ⟨page, 0, .empty [], .empty Profile.defaultDomain, 0, [], [], []⟩
    ∃ report final, outcome (run host .usual plan) w = (.ok report, final) ∧
      final.files.isFile (Path.ofText report.artifacts.tracePath) = false := by
  intro plan host page w
  have hended : endsIn (run host .usual plan) w (fun report final =>
      !final.files.isFile (Path.ofText report.artifacts.tracePath)) = true := by
    decide +kernel
  obtain ⟨report, final, hrun, hlost⟩ := endsIn_iff.mp hended
  exact ⟨report, final, hrun, by simpa using hlost⟩

end Runs

end Run
end Walkthrough
