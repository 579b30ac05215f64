import Walkthrough.Proofs.Files.Likeness
import Walkthrough.Proofs.Files.Settling
import Walkthrough.Proofs.Run.Readiness
import Walkthrough.Proofs.Run.Stops

/-! # Dry runs

A dry run makes its directory, opens its log and keeps a report there, in which every compiled step passes.
It leaves all else as it was, and all else leaves it as it is. The steps of a live run that passes are those
that a dry run announces. -/

namespace Walkthrough.Run

open Effect

variable {σ τ : Type} {host : Host σ} {options : RunOptions} {plan : Plan} {primitives : List Primitive}
  {dir : Path} {w w' : World σ}

/-! ## What a dry run leaves alone -/

/-- The files that a dry run writes. -/
inductive Own (dir : Path) : Path → Prop
  | log : Own dir (runLog dir)
  | report : Own dir (reportFile dir)

theorem Own.strictlyInside {path : Path} (h : Own dir path) (home : List String) :
    Path.StrictlyInside (dir.resolve home) (path.resolve home) := by
  cases h with
  | log => exact Path.strictlyInside_child dir (by decide) (by decide) home
  | report => exact Path.strictlyInside_child dir (by decide) (by decide) home

/-- Nothing is done but to write a report. The browser and its time, the site profile, the log and what was
said stay as they are. -/
structure Idle (dir : Path) (w w' : World σ) : Prop where
  browser : w'.browser = w.browser
  now : w'.now = w.now
  profile : w'.profile = w.profile
  log : w'.log = w.log
  said : w'.said = w.said
  done : ∃ events, w'.events = w.events ++ events ∧
    ∀ event ∈ events, ∃ done, event = .write (reportFile dir).text done

theorem Idle.of_files (dir : Path) (w : World σ) (files : Files) :
    Idle dir w { w with files := files } :=
  ⟨rfl, rfl, rfl, rfl, rfl, [], by simp⟩

instance (dir : Path) : Std.Refl (α := World σ) (Idle dir) :=
  ⟨fun w => .of_files dir w w.files⟩

theorem Idle.trans {w'' : World σ} (h : Idle dir w w') (h' : Idle dir w' w'') : Idle dir w w'' := by
  obtain ⟨events, hevents, hall⟩ := h.done
  obtain ⟨more, hmore, hall'⟩ := h'.done
  refine ⟨h'.browser.trans h.browser, h'.now.trans h.now, h'.profile.trans h.profile,
    h'.log.trans h.log, h'.said.trans h.said, events ++ more, ?_, fun event hevent => ?_⟩
  · rw [hmore, hevents, List.append_assoc]
  · exact (List.mem_append.mp hevent).elim (hall event) (hall' event)

instance (dir : Path) : IsTrans (World σ) (Idle dir) :=
  ⟨fun _ _ _ => .trans⟩

/-- The browser is not called. -/
theorem Idle.callsIn_eq (h : Idle dir w w') : callsIn w'.events = callsIn w.events := by
  obtain ⟨events, hevents, hall⟩ := h.done
  have hnone : callsIn events = [] := by
    refine List.filterMap_eq_nil_iff.mpr fun event hevent => ?_
    obtain ⟨done, rfl⟩ := hall event hevent
    rfl
  rw [hevents, callsIn_append, hnone, List.append_nil]

theorem follows_idle_change (f : Files → Except Failure Files) :
    Follows (Idle dir) (Work.change f : Work σ Unit) := by
  intro w
  simp only [Work.change, outcome_bind, outcome_get]
  split
  · exact .single (.of_files dir w _)
  · exact .refl

theorem follows_idle_logTo (level : Level) (message : String) :
    Follows (Idle dir) (logTo dir level message : Work σ Unit) := by
  refine follows_modify fun w => ?_
  split
  · exact .single (.of_files dir w _)
  · exact .refl

theorem follows_idle_keep (report : Report) :
    Follows (Idle dir) (keep dir report : Work σ Unit) := by
  intro w
  cases hlong : report.toJson.isOverlong with
  | true =>
      rw [keep_of_isOverlong hlong]
      exact .refl
  | false =>
      cases hwrite : w.files.write (reportFile dir) (.text report.toJson.pretty) with
      | error failure =>
          rw [outcome_keep_of_error hlong hwrite]
          exact .single ⟨rfl, rfl, rfl, rfl, rfl, _, rfl, by simp⟩
      | ok files =>
          rw [outcome_keep_of_ok hlong hwrite]
          exact .single ⟨rfl, rfl, rfl, rfl, rfl, _, rfl, by simp⟩

theorem idle_run (hdry : options.dryRun = true) (host : Host σ) (plan : Plan) (w : World σ) :
    Idle (dirOf options w) w (outcome (run host options plan) w).2 := by
  obtain ⟨named, hpick⟩ := outcome_pickName options w
  rw [run_eq_dry hdry, outcome_bind_of_ok hpick, ← dirOf]
  have hwork : Follows (Idle (dirOf options w))
      (turnDry options plan (nameOf options w) >>= fun turned => conclude (dirOf options w)
        (dryReport (nameOf options w) turned.2 plan turned.1 (artifactsIn (dirOf options w))) :
          Work σ Report) := by
    refine Follows.bind ?_ fun turned => ?_
    · exact (follows_idle_change _).bind fun _ => (follows_ofExcept _).bind fun _ =>
        (follows_idle_change _).bind fun _ => follows_now.bind fun _ => follows_pure _
    · exact (follows_idle_keep _).bind fun _ => (follows_idle_logTo _ _).bind fun _ => follows_pure _
  have hnamed : Idle (dirOf options w) w { w with names := named } :=
    ⟨rfl, rfl, rfl, rfl, rfl, [], by simp⟩
  exact hnamed.trans (hwork.related _)

/-! ## What a dry run answers -/

/-- The files of a dry run that is about to report: its directory is made, and the log in it. -/
def furnish (dir : Path) (files : Files) : Except Failure Files := do
  let housed ← files.ensureDirectory dir
  housed.openForAppend (Path.ofParts ((runLog dir).resolve housed.home))

/-- What is given that comes to a report at once: the report, if its directory and the log in it are made,
it is a document, and there is room for it. -/
def dryAnswer (dir : Path) (report : Report) (files : Files) : Except Failure Report := do
  let ready ← furnish dir files
  report.given (reportRoom dir ready)

theorem outcome_turnDry (hcompile : plan.compile = .ok primitives) (runId : String) (w : World σ) :
    (∃ failure refused, furnish (options.artifactsRoot.child runId) w.files = .error failure ∧
        outcome (turnDry options plan runId) w = (.error failure, refused)) ∨
      ∃ ready, furnish (options.artifactsRoot.child runId) w.files = .ok ready ∧
        outcome (turnDry options plan runId) w =
          (.ok (primitives, w.now), { w with files := ready }) := by
  unfold turnDry openLog furnish
  simp only [Work.change, outcome_bind, outcome_get]
  cases hhouse : w.files.ensureDirectory (options.artifactsRoot.child runId) with
  | error failure => exact .inl ⟨failure, _, rfl, rfl⟩
  | ok housed =>
      simp only [outcome_modify, hcompile, outcome_ofExcept, bind, Except.bind]
      cases housed.openForAppend
          (Path.ofParts ((runLog (options.artifactsRoot.child runId)).resolve housed.home)) with
      | error failure => exact .inl ⟨failure, _, rfl, rfl⟩
      | ok ready => exact .inr ⟨ready, rfl, rfl⟩

theorem answer_of_dry (hdry : options.dryRun = true) (hcompile : plan.compile = .ok primitives)
    (host : Host σ) (w : World σ) :
    (outcome (run host options plan) w).1 = dryAnswer (dirOf options w)
      (dryReport (nameOf options w) w.now plan primitives (artifactsIn (dirOf options w))) w.files := by
  obtain ⟨named, hpick⟩ := outcome_pickName options w
  rw [run_eq_dry hdry, outcome_bind_of_ok hpick, ← dirOf, dryAnswer]
  rcases outcome_turnDry hcompile (nameOf options w) { w with names := named } with
    ⟨failure, refused, hfurnish, hturn⟩ | ⟨ready, hfurnish, hturn⟩ <;> rw [← dirOf] at hfurnish
  · rw [outcome_bind_of_error hturn, hfurnish]
    rfl
  · rw [outcome_bind_of_ok hturn, answer_of_conclude, hfurnish]
    rfl

theorem dryAnswer_eq_ok {report given : Report} {files : Files}
    (h : dryAnswer dir report files = .ok given) : given = report := by
  obtain ⟨ready, -, h⟩ := exists_of_bind_eq_ok h
  obtain ⟨_, -, h⟩ := exists_of_bind_eq_ok h
  obtain ⟨_, -, h⟩ := exists_of_bind_eq_ok h
  exact (Except.ok.inj h).symm

/-- What files refuse a report with: failures of theirs, and that the record of a run is not kept. -/
def Refuses (dir : Path) (failure : Failure) : Prop :=
  failure.isOfFiles ∨ ∃ cause, failure = .noArtifact (.runRecord (reportFile dir).text) cause

theorem failsOnly_reportRoom (dir : Path) (files : Files) :
    FailsOnly (Refuses dir) (reportRoom dir files) := by
  intro failure h
  unfold reportRoom at h
  cases hroom : files.room (reportFile dir) with
  | ok _ =>
      rw [hroom] at h
      cases h
  | error found =>
      have hfound : found.isOfFiles := Files.failsOnly_write.map _ found hroom
      rw [hroom] at h
      obtain rfl := Except.error.inj h
      dsimp only
      split
      · exact .inr ⟨_, rfl⟩
      · exact .inl hfound

/-- A report is given unless files are in its way or it has too long a number. -/
theorem failsOnly_dryAnswer (dir : Path) (report : Report) (files : Files) :
    FailsOnly (Refuses dir) (dryAnswer dir report files) := by
  have hfurnish : FailsOnly (Refuses dir) (furnish dir files) := by
    refine FailsOnly.bind (fun failure h => ?_) fun housed failure h => ?_
    · exact .inl (Files.failsOnly_makeDirectories _ failure h)
    · exact .inl (Files.failsOnly_openForAppend failure h)
  have hdocument : FailsOnly (Refuses dir) report.toJson.document := by
    unfold Json.document
    split
    · exact failsOnly_error (.inl (.inr rfl))
    · exact failsOnly_ok _ _
  exact hfurnish.bind fun ready => hdocument.bind fun _ => (failsOnly_reportRoom dir ready).bind
    fun _ => failsOnly_ok _ _

/-- What files hold makes no difference to whether a report is given. -/
theorem dryAnswer_congr {paths : List Path} {files files' : Files}
    (h : Files.SameBut paths files files') (dir : Path) (report : Report) :
    dryAnswer dir report files' = dryAnswer dir report files := by
  have hfurnish : Answers (Files.SameBut paths) (furnish dir files) (furnish dir files') := by
    unfold furnish
    rcases answers_iff.mp (h.ensureDirectory dir) with ⟨housed, housed', hhouse, hhouse', hsame⟩ |
      ⟨failure, hhouse, hhouse'⟩
    · rw [hhouse, hhouse']
      dsimp only [bind, Except.bind]
      rw [hsame.home]
      exact hsame.openForAppend _
    · rw [hhouse, hhouse']
      exact .error failure
  unfold dryAnswer
  rcases answers_iff.mp hfurnish with ⟨ready, ready', hready, hready', hsame⟩ |
    ⟨failure, hready, hready'⟩
  · have hroom : reportRoom dir ready' = reportRoom dir ready := by
      rw [reportRoom, hsame.room, reportRoom]
    rw [hready, hready']
    exact congrArg report.given hroom
  · rw [hready, hready']

/-- All that dry runs go by: where they are to be kept, under which name, the time, and which files there
are, whatever these hold. -/
structure DryAlike (options options' : RunOptions) (w : World σ) (w' : World τ) : Prop where
  root : options'.artifactsRoot = options.artifactsRoot
  name : options'.runId = options.runId
  now : w'.now = w.now
  names : w'.names = w.names
  files : ∃ paths, Files.SameBut paths w.files w'.files

theorem DryAlike.answer_eq {options' : RunOptions} {w' : World τ}
    (h : DryAlike options options' w w') (hcompile : plan.compile = .ok primitives)
    (hdry : options.dryRun = true) (hdry' : options'.dryRun = true) (host : Host σ) (host' : Host τ) :
    (outcome (run host' options' plan) w').1 = (outcome (run host options plan) w).1 := by
  obtain ⟨paths, hfiles⟩ := h.files
  have hname : nameOf options' w' = nameOf options w := by rw [nameOf, nameOf, h.name, h.now, h.names]
  have hdir : dirOf options' w' = dirOf options w := by rw [dirOf, dirOf, h.root, hname]
  rw [answer_of_dry hdry hcompile, answer_of_dry hdry' hcompile, hname, hdir, h.now,
    dryAnswer_congr hfiles]

/-! ## What is announced -/

/-- A step of a report announces a compiled step: it passes, and says that it is not carried out. -/
structure Announces (step : StepReport) (p : Primitive) : Prop where
  index : step.index = p.index
  kind : step.kind = p.kind
  description : step.description = "DRY RUN: " ++ p.description
  verdict : step.verdict = .passed

/-- A step of a dry run foretells one of a live run. -/
structure Foretells (dry live : StepReport) : Prop where
  index : dry.index = live.index
  kind : dry.kind = live.kind
  verdict : dry.verdict = live.verdict
  description : dry.description = "DRY RUN: " ++ live.description

/-- A report that tells of all compiled steps in order, and of none that is carried out. -/
structure Previews (primitives : List Primitive) (report : Report) : Prop where
  passed : report.verdict = .passed
  counted : report.steps.map StepReport.index = List.range primitives.length
  steps : List.Forall₂ Announces report.steps primitives

theorem previews_dryReport (hcompile : plan.compile = .ok primitives) (runId : String) (now : Instant)
    (artifacts : Artifacts) : Previews primitives (dryReport runId now plan primitives artifacts) where
  passed := rfl
  counted := by
    rw [← Plan.map_index_compile hcompile, dryReport, List.map_map]
    rfl
  steps := List.forall₂_map_left_iff.mpr (List.forall₂_same.mpr fun _ _ => ⟨rfl, rfl, rfl, rfl⟩)

theorem foretells_of_announces {dry live : List StepReport}
    (hdry : List.Forall₂ Announces dry primitives) (hlive : List.Forall₂ Tells live primitives)
    (hpassed : ∀ step ∈ live, step.verdict = .passed) : List.Forall₂ Foretells dry live := by
  induction hdry generalizing live with
  | nil =>
      cases hlive
      exact .nil
  | cons hannounces _ ih =>
      cases hlive with
      | cons htells hrest =>
          obtain ⟨hstep, hpassed⟩ := List.forall_mem_cons.mp hpassed
          refine .cons ⟨hannounces.index.trans htells.index.symm,
            hannounces.kind.trans htells.kind.symm, hannounces.verdict.trans hstep.symm, ?_⟩
            (ih hrest hpassed)
          rw [hannounces.description, htells.description]

/-- The steps of a live run that passes are those that are announced. -/
theorem foretells_of_passed {live : Report} {dry : List StepReport}
    (hcompile : plan.compile = .ok primitives) (hdry : List.Forall₂ Announces dry primitives)
    (hlive : options.dryRun = false) (h : outcome (run host options plan) w = (.ok live, w'))
    (hpassed : live.verdict = .passed) : List.Forall₂ Foretells dry live.steps := by
  obtain ⟨known, outs, start, stopped, closed, saved, hran⟩ := exists_ran hlive h
  obtain rfl : known.primitives = primitives := Except.ok.inj (hran.compiles.symm.trans hcompile)
  obtain ⟨hlength, hall⟩ := hran.ended.passed_iff.mp hpassed
  have htells := hran.tells
  rw [hlength, List.take_length] at htells
  exact foretells_of_announces hdry htells hall

/-! ## Dry runs -/

/-- What comes of a dry run of a plan with some compiled steps. Its report previews them, and is given
unless files are in its way. Nothing is done but to write the report, and no file outside the directory of
the run is changed. Another dry run that goes by the same gives the same. -/
structure Rehearsal (host : Host σ) (options : RunOptions) (plan : Plan) (primitives : List Primitive)
    (w : World σ) : Prop where
  answers : (outcome (run host options plan) w).1 = dryAnswer (dirOf options w)
    (dryReport (nameOf options w) w.now plan primitives (artifactsIn (dirOf options w))) w.files
  fails : FailsOnly (Refuses (dirOf options w)) (outcome (run host options plan) w).1
  previews {report : Report} (h : (outcome (run host options plan) w).1 = .ok report) :
    Previews primitives report
  idle : Idle (dirOf options w) w (outcome (run host options plan) w).2
  uncalled : callsIn (outcome (run host options plan) w).2.events = callsIn w.events
  files : ".." ∉ w.files.home → Files.OnlyAt (fun path => Own (dirOf options w) path ∧
    Path.StrictlyInside ((dirOf options w).resolve w.files.home) (path.resolve w.files.home))
    w.files (outcome (run host options plan) w).2.files
  indifferent {τ : Type} (host' : Host τ) {options' : RunOptions} {w' : World τ}
    (hdry : options'.dryRun = true) (h : DryAlike options options' w w') :
    (outcome (run host' options' plan) w').1 = (outcome (run host options plan) w).1

theorem rehearsal_of_dry (hdry : options.dryRun = true) (hcompile : plan.compile = .ok primitives)
    (host : Host σ) (w : World σ) : Rehearsal host options plan primitives w where
  answers := answer_of_dry hdry hcompile host w
  fails := by
    rw [answer_of_dry hdry hcompile]
    exact failsOnly_dryAnswer _ _ _
  previews h := by
    rw [answer_of_dry hdry hcompile] at h
    rw [dryAnswer_eq_ok h]
    exact previews_dryReport hcompile _ _ _
  idle := idle_run hdry host plan w
  uncalled := (idle_run hdry host plan w).callsIn_eq
  files hhome := onlyAt_dry hdry ⟨.log, Own.log.strictlyInside _⟩
    (fun _ _ => ⟨.report, Own.report.strictlyInside _⟩) hhome rfl
  indifferent host' _ _ hdry' h := h.answer_eq hcompile hdry hdry' host host'

end Walkthrough.Run
