import Walkthrough.Proofs.Run.Events

/-! # Sessions and what comes after them

However the work in it ends, a session that was opened is closed, and a trace that was to be started
is ended before. Saving the site profile and keeping the report each come down to one file. -/

namespace Walkthrough.Run

open Effect

variable {σ α : Type} {runDir : Path}

/-! ## Traces -/

/-- An answer of work whose failures of some kind are passed over. -/
def passedOver (handles : Failure → Bool) : Except Failure Unit → Except Failure Unit
  | .ok _ => .ok ()
  | .error failure => if handles failure then .ok () else .error failure

theorem passedOver_eq_ok_iff {handles : Failure → Bool} {answer : Except Failure Unit} :
    passedOver handles answer = .ok () ↔
      ∀ failure, answer = .error failure → handles failure = true := by
  cases answer with
  | ok _ => simp [passedOver]
  | error failure => simp [passedOver]

theorem passedOver_eq_error_iff {handles : Failure → Bool} {answer : Except Failure Unit}
    {failure : Failure} :
    passedOver handles answer = .error failure ↔
      answer = .error failure ∧ handles failure = false := by
  cases answer with
  | ok _ => simp [passedOver]
  | error found =>
      simp only [passedOver, Except.error.injEq]
      split
      · rename_i h
        simp only [reduceCtorEq, false_iff, not_and, Bool.not_eq_false]
        rintro rfl
        exact h
      · rename_i h
        simp only [Except.error.injEq, iff_self_and]
        rintro rfl
        simpa using h

/-- Failures that are only noted in the log add nothing but a line there. -/
theorem exists_noted (runDir : Path) {handles : Failure → Bool} {message : Failure → String}
    {x : Work σ Unit} {w mid : World σ} {answer : Except Failure Unit}
    (h : outcome x w = (answer, mid)) :
    ∃ w', outcome (handling x handles fun failure => logTo runDir .error (message failure)) w =
      (passedOver handles answer, w') ∧ Filed runDir mid w' := by
  rw [outcome_handling, h]
  cases answer with
  | ok _ => exact ⟨mid, rfl, .refl mid⟩
  | error failure =>
      cases hhandles : handles failure with
      | false => exact ⟨mid, by simp [passedOver, hhandles], .refl mid⟩
      | true =>
          obtain ⟨w', hlog, hfiled⟩ := exists_logTo runDir .error (message failure) mid
          exact ⟨w', by simpa [passedOver, hhandles] using hlog, hfiled⟩

theorem exists_startTrace (stage : Stage σ) (w : World σ) :
    ∃ w', outcome (startTrace stage) w =
        (passedOver Failure.isBrowser (stage.browser.startTrace w.browser).answer, w') ∧
      Filed stage.runDir (w.after .startTrace (stage.browser.startTrace w.browser)) w' :=
  exists_noted stage.runDir (outcome_call _ _ w)

/-- What ending a trace records beside the call: an attempt to keep the trace, or nothing. -/
inductive TraceKept (runDir : Path) : List Event → Prop
  | nothing : TraceKept runDir []
  | tried (done : Bool) : TraceKept runDir [.write (traceFile runDir).text done]

/-- Ending a trace calls the browser once, and may keep the trace. -/
structure TraceEnded (stage : Stage σ) (w : World σ) (kept : List Event) (w' : World σ) : Prop
    extends Spared stage.runDir w w' where
  browser : w'.browser = (stage.browser.stopTrace w.browser).state
  events : w'.events = w.events ++ .call (.stopTrace (traceFile stage.runDir).text) :: kept
  kept : TraceKept stage.runDir kept

theorem TraceEnded.filed {stage : Stage σ} {w w' w'' : World σ} {kept : List Event}
    (h : TraceEnded stage w kept w') (hfiled : Filed stage.runDir w' w'') :
    TraceEnded stage w kept w'' where
  toSpared := h.toSpared.trans hfiled.spared
  browser := hfiled.browser.trans h.browser
  events := hfiled.events.trans h.events
  kept := h.kept

theorem exists_stopTrace (stage : Stage σ) (w : World σ) :
    ∃ answer kept w', outcome (stopTrace stage) w = (answer, w') ∧ TraceEnded stage w kept w' := by
  have hwork : ∃ answer kept mid,
      outcome (Work.call (.stopTrace (traceFile stage.runDir).text) stage.browser.stopTrace >>=
        Work.writeFile (traceFile stage.runDir)) w = (answer, mid) ∧
      TraceEnded stage w kept mid := by
    have hcall := outcome_call (.stopTrace (traceFile stage.runDir).text) stage.browser.stopTrace w
    cases hreply : (stage.browser.stopTrace w.browser).answer with
    | error failure =>
        rw [hreply] at hcall
        exact ⟨_, [], _, outcome_bind_of_error hcall, spared_after w _ _, rfl, rfl, .nothing⟩
    | ok data =>
        rw [hreply] at hcall
        rw [outcome_bind_of_ok hcall, outcome_writeFile]
        split
        · rename_i files hfiles
          exact ⟨_, _, _, rfl, ⟨rfl, fun h => h.write_child (by decide) (by decide) (by decide) hfiles⟩,
            rfl, by simp [World.after], .tried true⟩
        · exact ⟨_, _, _, rfl, ⟨rfl, id⟩, rfl, by simp [World.after], .tried false⟩
  obtain ⟨answer, kept, mid, hmid, hended⟩ := hwork
  obtain ⟨w', hw', hfiled⟩ := exists_noted stage.runDir hmid
  exact ⟨_, kept, w', hw', hended.filed hfiled⟩

/-- Work with a trace. -/
def traced (stage : Stage σ) (x : Work σ α) : Work σ α := do
  startTrace stage
  andFinally x (stopTrace stage)

/-- What work with a trace records after earlier events, its answer, and the state it leaves the browser
in: the trace does not start, or the work is done and the trace is ended after it. -/
inductive Traced (stage : Stage σ) (x : Work σ α) (state : σ) (before : List Event) :
    List Event → Except Failure α → σ → Prop
  | unstarted {failure : Failure}
      (reply : (stage.browser.startTrace state).answer = .error failure)
      (foreign : failure.isBrowser = false) :
      Traced stage x state before [.call .startTrace] (.error failure)
        (stage.browser.startTrace state).state
  | worked {start finish : World σ} {result answer : Except Failure α} {work kept : List Event}
      (reply : ∀ failure, (stage.browser.startTrace state).answer = .error failure →
        failure.isBrowser = true)
      (start_events : start.events = before ++ [.call .startTrace])
      (execution : outcome x start = (result, finish))
      (finish_events : finish.events = start.events ++ work)
      (pages : ∀ e ∈ work, StepEvent stage.runDir e)
      (ending : TraceKept stage.runDir kept)
      (answered : ∀ a, answer = .ok a → result = .ok a) :
      Traced stage x state before
        (.call .startTrace :: work ++ .call (.stopTrace (traceFile stage.runDir).text) :: kept) answer
        (stage.browser.stopTrace finish.browser).state

/-- An answer, unless the last work fails. -/
def unlessFailed (answer : Except Failure α) : Except Failure Unit → Except Failure α
  | .ok _ => answer
  | .error failure => .error failure

theorem outcome_andFinally_eq (x : Work σ α) (last : Work σ Unit) (w : World σ) :
    outcome (andFinally x last) w =
      (unlessFailed (outcome x w).1 (outcome last (outcome x w).2).1,
        (outcome last (outcome x w).2).2) := by
  rw [outcome_andFinally]
  rcases outcome last (outcome x w).2 with ⟨_ | _, w'⟩ <;> rfl

theorem eq_ok_of_unlessFailed {answer : Except Failure α} {last : Except Failure Unit} {a : α}
    (h : unlessFailed answer last = .ok a) : answer = .ok a := by
  cases last with
  | ok _ => exact h
  | error failure => cases h

theorem exists_traced (stage : Stage σ) {x : Work σ α}
    (hx : ∀ w, Worked stage.runDir w (outcome x w).2) (w : World σ) :
    ∃ events answer w', outcome (traced stage x) w = (answer, w') ∧
      Traced stage x w.browser w.events events answer w'.browser ∧ w'.events = w.events ++ events ∧
      Spared stage.runDir w w' := by
  obtain ⟨start, hstart, hfiled⟩ := exists_startTrace stage w
  have hspared : Spared stage.runDir w start := (spared_after w _ _).trans hfiled.spared
  cases hpassed : passedOver Failure.isBrowser (stage.browser.startTrace w.browser).answer with
  | error failure =>
      rw [hpassed] at hstart
      obtain ⟨hreply, hforeign⟩ := passedOver_eq_error_iff.mp hpassed
      exact ⟨_, _, start, outcome_bind_of_error hstart,
        by rw [hfiled.browser]; exact .unstarted hreply hforeign, hfiled.events, hspared⟩
  | ok _ =>
      rw [hpassed] at hstart
      have hworked := hx start
      obtain ⟨work, hwork, hpages⟩ := hworked.events
      -- The trace is ended from wherever the work left off, with a value or a failure.
      obtain ⟨last, kept, w', hstop, hended⟩ := exists_stopTrace stage (outcome x start).2
      refine ⟨.call .startTrace :: work ++ .call (.stopTrace (traceFile stage.runDir).text) :: kept,
        unlessFailed (outcome x start).1 last, w', ?_, ?_, ?_,
        (hspared.trans hworked.toSpared).trans hended.toSpared⟩
      · rw [traced, outcome_bind_of_ok hstart, outcome_andFinally_eq, hstop]
      · rw [hended.browser]
        exact .worked (passedOver_eq_ok_iff.mp hpassed) hfiled.events rfl hwork hpages hended.kept
          fun a => eq_ok_of_unlessFailed
      · rw [hended.events, hwork, hfiled.events]
        simp [World.after]

/-! ## Sessions -/

/-- What a session records after earlier events, its answer, and the state it leaves the browser in: it
is not opened, or it is closed at its end. -/
inductive Visited (stage : Stage σ) (headless : Bool) (x : Work σ α) (state : σ)
    (before : List Event) : List Event → Except Failure α → σ → Prop
  | refused {failure : Failure}
      (reply : (stage.browser.openSession headless state).answer = .error failure) :
      Visited stage headless x state before [.call (.openSession headless)] (.error failure)
        (stage.browser.openSession headless state).state
  | opened {events : List Event} {inner answer : Except Failure α} {last : σ}
      (reply : (stage.browser.openSession headless state).answer = .ok ())
      (inside : Traced stage x (stage.browser.openSession headless state).state
        (before ++ [.call (.openSession headless)]) events inner last)
      (answered : ∀ a, answer = .ok a → inner = .ok a) :
      Visited stage headless x state before
        (.call (.openSession headless) :: events ++ [.call .closeSession]) answer
        (stage.browser.closeSession last).state

/-- Work that ends well in a session with a trace was done in between the calls for them. -/
theorem Visited.exists_of_ok {stage : Stage σ} {headless : Bool} {x : Work σ α} {state last : σ}
    {before events : List Event} {a : α}
    (h : Visited stage headless x state before events (.ok a) last) :
    ∃ start finish kept, outcome x start = (.ok a, finish) ∧
      start.events = before ++ [.call (.openSession headless), .call .startTrace] ∧
      TraceKept stage.runDir kept ∧
      before ++ events = finish.events ++
        (.call (.stopTrace (traceFile stage.runDir).text) :: kept ++ [.call .closeSession]) ∧
      last = (stage.browser.closeSession (stage.browser.stopTrace finish.browser).state).state := by
  cases h with
  | opened reply inside answered =>
      obtain rfl := answered a rfl
      cases inside with
      | worked reply start_events execution finish_events pages ending answered =>
          obtain rfl := answered a rfl
          refine ⟨_, _, _, execution, ?_, ending, ?_, rfl⟩
          · rw [start_events, List.append_assoc]
            rfl
          · rw [finish_events, start_events]
            simp

theorem exists_visited (stage : Stage σ) (headless : Bool) {x : Work σ α}
    (hx : ∀ w, Worked stage.runDir w (outcome x w).2) (w : World σ) :
    ∃ events answer w', outcome (session stage headless (traced stage x)) w = (answer, w') ∧
      Visited stage headless x w.browser w.events events answer w'.browser ∧
      w'.events = w.events ++ events ∧ Spared stage.runDir w w' := by
  have hopen := outcome_call (.openSession headless) (stage.browser.openSession headless) w
  cases hreply : (stage.browser.openSession headless w.browser).answer with
  | error failure =>
      rw [hreply] at hopen
      exact ⟨_, _, _, outcome_bind_of_error hopen, .refused hreply, rfl, spared_after w _ _⟩
  | ok _ =>
      rw [hreply] at hopen
      obtain ⟨events, inner, closing, htraced, hinside, hevents, hspared⟩ := exists_traced stage hx
        (w.after (.openSession headless) (stage.browser.openSession headless w.browser))
      refine ⟨_, unlessFailed inner (stage.browser.closeSession closing.browser).answer, _, ?_,
        .opened hreply hinside fun a => eq_ok_of_unlessFailed, ?_,
        ((spared_after w _ _).trans hspared).trans (spared_after closing .closeSession
          (stage.browser.closeSession closing.browser))⟩
      · rw [session, outcome_bind_of_ok hopen, outcome_andFinally_eq, htraced, outcome_call]
      · simp [World.after, hevents]

/-! ## Saving the profile -/

/-- An attempt to save a profile: what it records, and what becomes of the files. -/
inductive Saves (root : Path) (profile : Profile) (files : Files) : List Event → Files → Prop
  | unhoused {failure : Failure} (housing : files.ensureDirectory root = .error failure) :
      Saves root profile files [] files
  | refused {made : Files} {failure : Failure} (housing : files.ensureDirectory root = .ok made)
      (writing : made.write (Profile.file root profile.domain) (.text profile.toJson.pretty) =
        .error failure) :
      Saves root profile files [.write (Profile.file root profile.domain).text false] made
  | saved {made written : Files} (housing : files.ensureDirectory root = .ok made)
      (writing : made.write (Profile.file root profile.domain) (.text profile.toJson.pretty) =
        .ok written) :
      Saves root profile files [.write (Profile.file root profile.domain).text true] written

/-- The file of a profile has another name than a report. -/
theorem Saves.unreported {root : Path} {profile : Profile} {files files' : Files}
    {events : List Event} (h : Saves root profile files events files')
    (hdomain : Profile.IsDomain profile.domain) (hfiles : Unreported runDir files) :
    Unreported runDir files' := by
  obtain ⟨hpart, hup, hne⟩ := hdomain.isPart
  cases h with
  | unhoused => exact hfiles
  | refused housing => exact hfiles.of_sameFiles (Files.sameFiles_ensureDirectory housing)
  | saved housing writing =>
      exact (hfiles.of_sameFiles (Files.sameFiles_ensureDirectory housing)).write_child hpart hup hne
        writing

/-- Rewording a failure changes nothing else. -/
theorem outcome_handling_throw (x : Work σ α) (handles : Failure → Bool) (reword : Failure → Failure)
    (w : World σ) :
    (outcome (handling x handles fun failure => throw (reword failure)) w).2 = (outcome x w).2 := by
  rw [outcome_handling]
  rcases outcome x w with ⟨failure | a, w'⟩
  · by_cases hhandles : handles failure <;> simp [hhandles]
  · rfl

theorem exists_save (root : Path) (profile : Profile) (w : World σ) :
    ∃ events files, (outcome (Profile.save root profile) w).2 =
        { w with files := files, events := w.events ++ events } ∧
      Saves root profile w.files events files := by
  rw [Profile.save, outcome_handling_throw]
  simp only [Work.change, outcome_bind, outcome_get]
  cases housing : w.files.ensureDirectory root with
  | error failure => exact ⟨[], w.files, by simp [outcome_throw], .unhoused housing⟩
  | ok made =>
      simp only [outcome_modify, outcome_writeFile]
      cases writing : made.write (Profile.file root profile.domain)
          (.text profile.toJson.pretty) with
      | error failure => exact ⟨_, made, rfl, .refused housing writing⟩
      | ok written => exact ⟨_, written, rfl, .saved housing writing⟩

/-- The profile of a world with its time. -/
def stamped (w : World σ) : Profile :=
  { w.profile with updatedAt := w.now.text }

/-- What is made of an attempt to save a profile: a failure to write it is noted. -/
def concludeSave (stage : Stage σ) : Except Failure Path → Work σ Unit
  | .ok _ => pure ()
  | .error failure =>
    match failure with
    | .noArtifact .. => stage.log .error failure.message
    | _ => throw failure

theorem saveProfile_eq (stage : Stage σ) (root : Path) :
    saveProfile stage root =
      modify (fun w => { w with profile := stamped w }) >>= fun _ => get >>= fun w =>
        attempt (Profile.save root w.profile) >>= concludeSave stage := by
  unfold saveProfile
  refine bind_congr fun _ => bind_congr fun w => bind_congr fun answer => ?_
  rcases answer with failure | path
  · cases failure <;> rfl
  · rfl

theorem exists_concludeSave (stage : Stage σ) (answer : Except Failure Path) (w : World σ) :
    ∃ result w', outcome (concludeSave stage answer) w = (result, w') ∧
      Filed stage.runDir w w' := by
  rcases answer with failure | path
  · cases failure with
    | noArtifact artifact cause =>
        obtain ⟨w', hlog, hfiled⟩ := exists_logTo stage.runDir .error
          (Failure.noArtifact artifact cause).message w
        exact ⟨_, w', hlog, hfiled⟩
    | _ => exact ⟨_, w, rfl, .refl w⟩
  · exact ⟨_, w, rfl, .refl w⟩

/-- Saving the profile is an attempt, and then what is made of it. -/
theorem exists_saving (stage : Stage σ) (root : Path) (w : World σ) :
    ∃ events files, Saves root (stamped w) w.files events files ∧
      outcome (saveProfile stage root) w = outcome (concludeSave stage
        (outcome (Profile.save root (stamped w)) { w with profile := stamped w }).1)
        { w with profile := stamped w, files := files, events := w.events ++ events } := by
  obtain ⟨events, files, hsave, hsaves⟩ := exists_save root (stamped w)
    { w with profile := stamped w }
  refine ⟨events, files, hsaves, ?_⟩
  simp only [saveProfile_eq, outcome_bind, outcome_modify, outcome_get, outcome_attempt, hsave]

theorem exists_saveProfile (stage : Stage σ) (root : Path) (w : World σ) :
    ∃ answer events files w', outcome (saveProfile stage root) w = (answer, w') ∧
      Saves root (stamped w) w.files events files ∧
      Filed stage.runDir
        { w with profile := stamped w, files := files, events := w.events ++ events } w' := by
  obtain ⟨events, files, hsaves, hsaving⟩ := exists_saving stage root w
  obtain ⟨answer, w', hconclude, hfiled⟩ := exists_concludeSave stage
    (outcome (Profile.save root (stamped w)) { w with profile := stamped w }).1
    { w with profile := stamped w, files := files, events := w.events ++ events }
  exact ⟨answer, events, files, w', hsaving.trans hconclude, hsaves, hfiled⟩

/-! ## Keeping the report -/

/-- What is recorded of the report, and what becomes of its place: the report is there, once, if there
is one, and nothing comes there else. -/
inductive ReportKept (runDir : Path) (before after : Files) : Except Failure Report → List Event → Prop
  | kept {report : Report}
      (found : after.node? ((reportFile runDir).resolve after.home) =
        some (.file (.text report.toJson.pretty))) :
      ReportKept runDir before after (.ok report) [.write (reportFile runDir).text true]
  | refused {failure : Failure} (vacant : Unreported runDir before → Unreported runDir after) :
      ReportKept runDir before after (.error failure) [.write (reportFile runDir).text false]
  | failed {failure : Failure} (vacant : Unreported runDir before → Unreported runDir after) :
      ReportKept runDir before after (.error failure) []

theorem ReportKept.since {runDir : Path} {earlier before after : Files}
    {answer : Except Failure Report} {events : List Event}
    (h : ReportKept runDir before after answer events)
    (hvacant : Unreported runDir earlier → Unreported runDir before) :
    ReportKept runDir earlier after answer events := by
  cases h with
  | kept found => exact .kept found
  | refused vacant => exact .refused (vacant ∘ hvacant)
  | failed vacant => exact .failed (vacant ∘ hvacant)

/-- Keeps a report and says so in the log. -/
def conclude (runDir : Path) (report : Report) : Work σ Report := do
  keep runDir report
  logTo runDir .info s!"Run {report.runId} finished with status {report.verdict.name}"
  return report

theorem outcome_keep_of_ok {runDir : Path} {report : Report} {w : World σ} {files : Files}
    (hlong : report.toJson.isOverlong = false)
    (h : w.files.write (reportFile runDir) (.text report.toJson.pretty) = .ok files) :
    outcome (keep runDir report) w = (.ok (), { w with
      files := files
      events := w.events ++ [.write (reportFile runDir).text true] }) := by
  simp only [keep_of_not_isOverlong hlong, outcome_handling, outcome_writeFile, h]

theorem outcome_keep_of_error {runDir : Path} {report : Report} {w : World σ} {failure : Failure}
    (hlong : report.toJson.isOverlong = false)
    (h : w.files.write (reportFile runDir) (.text report.toJson.pretty) = .error failure) :
    outcome (keep runDir report) w =
      (.error (if failure.isSystem then
        .noArtifact (.runRecord (reportFile runDir).text) failure.message else failure),
        { w with events := w.events ++ [.write (reportFile runDir).text false] }) := by
  simp only [keep_of_not_isOverlong hlong, outcome_handling, outcome_writeFile, h]
  by_cases hsystem : failure.isSystem <;> simp [hsystem]

theorem exists_conclude (runDir : Path) (report : Report) (w : World σ) :
    ∃ answer events w', outcome (conclude runDir report) w = (answer, w') ∧
      w'.events = w.events ++ events ∧ w'.browser = w.browser ∧ w'.now = w.now ∧
      (∀ r, answer = .ok r → r = report) ∧ ReportKept runDir w.files w'.files answer events := by
  by_cases hlong : report.toJson.isOverlong = true
  · refine ⟨.error (.value .overlongInteger), [], w, ?_, by simp, rfl, rfl, (fun _ h => nomatch h),
      .failed id⟩
    rw [conclude, keep_of_isOverlong hlong]
    rfl
  rw [Bool.not_eq_true] at hlong
  cases hwrite : w.files.write (reportFile runDir) (.text report.toJson.pretty) with
  | error failure =>
      exact ⟨_, _, _, outcome_bind_of_error (outcome_keep_of_error hlong hwrite), rfl, rfl, rfl,
        (fun _ h => nomatch h), .refused id⟩
  | ok files =>
      obtain ⟨w', hlog, hfiled⟩ := exists_logTo runDir .info
        s!"Run {report.runId} finished with status {report.verdict.name}"
        { w with
          files := files
          events := w.events ++ [.write (reportFile runDir).text true] }
      obtain ⟨hhome, hnode⟩ := Files.node?_of_write hwrite
      refine ⟨.ok report, _, w', ?_, hfiled.events, hfiled.browser, hfiled.now,
        fun r h => (Except.ok.inj h).symm, .kept ?_⟩
      · rw [conclude, outcome_bind_of_ok (outcome_keep_of_ok hlong hwrite), outcome_bind_of_ok hlog,
          outcome_pure]
      · rw [hfiled.report]
        simpa [hhome] using hnode

end Walkthrough.Run
