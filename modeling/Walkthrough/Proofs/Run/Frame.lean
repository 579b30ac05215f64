import Walkthrough.Proofs.Files.Frame
import Walkthrough.Proofs.Run.Record
import Walkthrough.Proofs.Run.Saving

/-! # What a run leaves alone

A run writes a few files in its own directory, and the site profile of the domain that its plan goes
to. All other files stay as they are, and only a run that gives a report writes one. -/

namespace Walkthrough

open Effect

variable {σ α : Type}

/-- The domain that a plan goes to: that of its first page. -/
def Plan.GoesTo (plan : Plan) (domain : String) : Prop :=
  ∃ primitives, plan.compile = .ok primitives ∧
    Profile.domainOf (primitives.map Primitive.toAction) = .ok domain

theorem Plan.GoesTo.isDomain {plan : Plan} {domain : String} (h : plan.GoesTo domain) :
    Profile.IsDomain domain := by
  obtain ⟨_, -, hdomain⟩ := h
  exact Profile.isDomain_of_domainOf hdomain

/-! ## Names of runs -/

theorem mem_of_mem_hex {c : Char} {width n : Nat} (h : c ∈ Text.hex width n) :
    c ∈ "0123456789abcdef".toList := by
  induction width generalizing n with
  | zero => cases h
  | succ width ih =>
      have hdigit : ∀ d < 16, Text.hexDigit d ∈ "0123456789abcdef".toList := by decide
      rcases List.mem_append.mp h with h | h
      · exact ih h
      · exact List.mem_singleton.mp h ▸ hdigit _ (Nat.mod_lt n (by decide))

theorem notMem_milliseconds {c : Char} (hc : c.isDigit = false) (hminus : c ≠ '-') (t : Instant) :
    c ∉ t.milliseconds.toList := by
  unfold Instant.milliseconds
  cases t + Instant.epochOffset with
  | ofNat n => exact Path.notMem_number hc n
  | negSucc n =>
      have htext : (toString (Int.negSucc n)).toList = '-' :: (toString (n + 1)).toList := by
        rw [show toString (Int.negSucc n) = "-" ++ toString (n + 1) from rfl, String.toList_append]
        rfl
      rw [htext, List.mem_cons, not_or]
      exact ⟨hminus, Path.notMem_number hc _⟩

/-- Names of runs are made of a few characters only. -/
theorem notMem_runName {c : Char} (hc : c.isDigit = false)
    (hother : c ∉ "run_-0123456789abcdef".toList) (t : Instant) (n : Nat) :
    c ∉ (runName t n).toList := by
  have hfixed : c ∉ "run_".toList ∧ c ≠ '-' ∧ c ∉ "_".toList ∧ c ∉ "0123456789abcdef".toList := by
    simp at hother
    simp [hother]
  obtain ⟨hbefore, hminus, hmark, hdigits⟩ := hfixed
  simp only [runName, String.toList_append, String.toList_ofList, List.mem_append, not_or]
  exact ⟨⟨⟨hbefore, notMem_milliseconds hc hminus t⟩, hmark⟩, fun h => hdigits (mem_of_mem_hex h)⟩

theorem head?_runName (t : Instant) (n : Nat) : (runName t n).toList.head? = some 'r' := by
  simp [runName]

theorem isPart_runName (t : Instant) (n : Nat) :
    Path.IsPart (runName t n) ∧ runName t n ≠ ".." := by
  have hne : ∀ s : String, s.toList.head? ≠ some 'r' → runName t n ≠ s := by
    rintro s hs rfl
    exact hs (head?_runName t n)
  exact ⟨⟨hne _ (by decide), hne _ (by decide), notMem_runName (by decide) (by decide) t n⟩, hne _ (by decide)⟩

theorem hasNull_runName (t : Instant) (n : Nat) : Path.hasNull (runName t n) = false := by
  simpa [Path.hasNull] using notMem_runName (by decide) (by decide) t n

namespace Run

/-! ## The files of a run -/

/-- The files that a run writes in its directory before its report. -/
inductive Leaf (runDir : Path) : Path → Prop
  | log : Leaf runDir (runLog runDir)
  | trace : Leaf runDir (traceFile runDir)
  | screenshot (n : Nat) : Leaf runDir (screenshotFile runDir n)
  | snapshot (n : Nat) : Leaf runDir (snapshotFile runDir n)

/-- The files that a run of a plan may write in a directory, by what it ends with. -/
inductive Touched (options : RunOptions) (runDir : Path) (plan : Plan)
    (answer : Except Failure Report) : Path → Prop
  | leaf {path : Path} (inside : Leaf runDir path) : Touched options runDir plan answer path
  | report {r : Report} (given : answer = .ok r) :
      Touched options runDir plan answer (reportFile runDir)
  | profile {domain : String} (live : options.dryRun = false) (goes : plan.GoesTo domain) :
      Touched options runDir plan answer (Profile.file options.profiles domain)

/-- Such a file is in the directory under a name of its own. -/
theorem Leaf.exists_name {runDir path : Path} (h : Leaf runDir path) :
    ∃ name, path = runDir.child name ∧ Path.IsPart name ∧ name ≠ ".." ∧ name ≠ "RunResult.json" := by
  cases h with
  | log => exact ⟨_, rfl, by decide, by decide, by decide⟩
  | trace => exact ⟨_, rfl, by decide, by decide, by decide⟩
  | screenshot n =>
      exact ⟨_, rfl, (isPart_screenshot n).1, (isPart_screenshot n).2,
        Path.numbered_ne (c := 'f') rfl (by decide) n⟩
  | snapshot n =>
      exact ⟨_, rfl, (isPart_snapshot n).1, (isPart_snapshot n).2,
        Path.numbered_ne (c := 'f') rfl (by decide) n⟩

/-- Nothing but a report that is given is written under the name of a report. -/
theorem Touched.given_or_ne {options : RunOptions} {runDir : Path} {plan : Plan}
    {answer : Except Failure Report} {path : Path} (h : Touched options runDir plan answer path)
    (home : List String) :
    (∃ r, answer = .ok r ∧ path = reportFile runDir) ∨
      (path.resolve home).getLast? ≠ some "RunResult.json" := by
  cases h with
  | leaf inside =>
      obtain ⟨name, rfl, hname, hup, hne⟩ := inside.exists_name
      rw [Path.resolve_child _ hname hup, List.getLast?_concat]
      exact .inr fun heq => hne (Option.some.inj heq)
  | report given => exact .inl ⟨_, given, rfl⟩
  | profile live goes =>
      obtain ⟨hname, hup, hne⟩ := goes.isDomain.isPart
      rw [Profile.file, Path.resolve_child _ hname hup, List.getLast?_concat]
      exact .inr fun heq => hne (Option.some.inj heq)

/-! ## Work in the directory of a run -/

/-- Files changed only at some paths, in the same directories, and the site profile is still that of the
same domain. -/
structure Within (paths : Path → Prop) (w w' : World σ) : Prop where
  domain : w'.profile.domain = w.profile.domain
  files : Files.OnlyAt paths w.files w'.files
  directories : Files.SameDirectories w.files w'.files

theorem Within.refl (paths : Path → Prop) (w : World σ) : Within paths w w :=
  ⟨rfl, .refl w.files, .refl w.files⟩

instance (paths : Path → Prop) : Std.Refl (α := World σ) (Within paths) :=
  ⟨.refl paths⟩

instance (paths : Path → Prop) : IsTrans (World σ) (Within paths) :=
  ⟨fun _ _ _ h h' => ⟨h'.domain.trans h.domain, h.files.trans h'.files,
    h.directories.trans h'.directories⟩⟩

section Within

variable {paths : Path → Prop}

theorem within_write {path : Path} (h : paths path) {content : Text.Content} {w : World σ}
    {files : Files} (hwrite : w.files.write path content = .ok files) (events : List Event) :
    Within paths w { w with files := files, events := events } :=
  ⟨rfl, Files.onlyAt_write h hwrite, Files.sameDirectories_write hwrite⟩

theorem follows_within_call (c : Call) (reply : σ → Reply σ α) :
    Follows (Within paths) (Work.call c reply) := by
  intro w
  rw [outcome_call]
  exact .single ⟨rfl, .refl w.files, .refl w.files⟩

theorem follows_within_write {path : Path} (h : paths path) (content : Text.Content) :
    Follows (Within paths) (Work.writeFile path content : Work σ Unit) := by
  intro w
  rw [outcome_writeFile]
  split
  · rename_i files hfiles
    exact .single (within_write h hfiles _)
  · exact .single ⟨rfl, .refl w.files, .refl w.files⟩

theorem follows_within_log {runDir : Path} (h : paths (runLog runDir)) (level : Level)
    (message : String) : Follows (Within paths) (logTo runDir level message : Work σ Unit) := by
  refine follows_modify fun w => ?_
  split
  · rename_i files hfiles
    obtain ⟨_, -, hwrite⟩ := Files.exists_write_of_append hfiles
    exact .single (within_write h hwrite _)
  · exact .refl

theorem tracing_within (stage : Stage σ) (hlog : paths (runLog stage.runDir))
    (htrace : paths (traceFile stage.runDir)) (w : World σ) :
    Tracing (Along (Within paths) w) stage where
  called _ := (follows_within_call _ _).respects
  logged level message := (follows_within_log hlog level message).respects
  kept data := (follows_within_write htrace data).respects

theorem coupling_within (stage : Stage σ) (hlog : paths (runLog stage.runDir))
    (hscreenshot : ∀ n, paths (screenshotFile stage.runDir n))
    (hsnapshot : ∀ n, paths (snapshotFile stage.runDir n)) (w : World σ) :
    Stage.Coupling (Along (Within paths) w) stage stage.secrets where
  toSeenAlike := seenAlike_along stage.browser _ w
  learned target selector h := by
    obtain ⟨rfl, hsteps⟩ := h
    exact ⟨rfl, hsteps.tail ⟨rfl, .refl _, .refl _⟩⟩
  called _ _ := (follows_within_call _ _).respects
  read _ _ := Follows.respects fun w => by
    simp only [outcome_receive]
    exact .single ⟨rfl, .refl w.files, .refl w.files⟩
  filled := Stage.fillsAlike_self fun _ _ _ => (follows_within_call _ _).respects
  logged level message := (follows_within_log hlog level message).respects
  shot n data := (follows_within_write (hscreenshot n) data).respects
  snapped n html := (follows_within_write (hsnapshot n) _).respects

/-- A visit writes in the directory of its run. -/
theorem within_visit (host : Host σ) (options : RunOptions) (known : Prepared) (w : World σ) :
    Within (Leaf (known.directory options)) w (outcome (visit host options known) w).2 := by
  have hvisit : Follows (Within (Leaf (known.directory options))) (visit host options known) := by
    refine follows_of_respects fun start => ?_
    have htracing := tracing_within (known.stage host options) Leaf.log Leaf.trace start
    have hsteps := (coupling_within (known.stage host options) Leaf.log .screenshot .snapshot start).steps
      ⟨.passed, [], [], artifactsIn (known.directory options)⟩ known.primitives
    exact (htracing.logged _ _).bind_eq fun _ => htracing.session options.headless
      (htracing.startTrace.bind_eq fun _ => hsteps.andFinally htracing.stopTrace)
  exact hvisit.related w

end Within

/-! ## Before and after the session -/

theorem Saves.onlyAt {root : Path} {profile : Profile} {files files' : Files} {events : List Event}
    {paths : Path → Prop} (h : Saves root profile files events files')
    (hpath : paths (Profile.file root profile.domain)) : Files.OnlyAt paths files files' := by
  cases h with
  | unhoused => exact .refl files
  | refused housing => exact Files.onlyAt_ensureDirectory housing
  | saved housing writing =>
      exact (Files.onlyAt_ensureDirectory housing).trans (Files.onlyAt_write hpath writing)

theorem Saves.madeOnWay {root : Path} {profile : Profile} {files files' : Files} {events : List Event}
    (h : Saves root profile files events files') : Files.MadeOnWay root files files' := by
  cases h with
  | unhoused => exact .refl root files
  | refused housing => exact Files.madeOnWay_ensureDirectory housing
  | saved housing writing =>
      exact (Files.madeOnWay_ensureDirectory housing).trans
        (.of_sameDirectories root (Files.sameDirectories_write writing))

theorem within_concludeSave {stage : Stage σ} {paths : Path → Prop} (hlog : paths (runLog stage.runDir))
    (answer : Except Failure Path) (w : World σ) :
    Within paths w (outcome (concludeSave stage answer) w).2 := by
  have hconclude : Follows (Within paths) (concludeSave stage answer) := by
    rcases answer with failure | path
    · cases failure with
      | noArtifact artifact cause => exact follows_within_log hlog .error _
      | _ => exact follows_throw _
    · exact follows_pure _
  exact hconclude.related w

/-- Saving the site profile writes its file, and to the log, and makes no directories but those on the
way to that of the profiles. -/
theorem onlyAt_saveProfile {stage : Stage σ} {root : Path} {paths : Path → Prop} {w : World σ}
    (hlog : paths (runLog stage.runDir)) (hpath : paths (Profile.file root w.profile.domain)) :
    Files.OnlyAt paths w.files (outcome (saveProfile stage root) w).2.files ∧
      Files.MadeOnWay root w.files (outcome (saveProfile stage root) w).2.files := by
  obtain ⟨events, files, hsaves, hsaving⟩ := exists_saving stage root w
  have hconcluded := within_concludeSave hlog
    (outcome (Profile.save root (stamped w)) { w with profile := stamped w }).1
    { w with profile := stamped w, files := files, events := w.events ++ events }
  rw [hsaving]
  exact ⟨(hsaves.onlyAt (by rwa [domain_stamped])).trans hconcluded.files,
    hsaves.madeOnWay.trans (.of_sameDirectories root hconcluded.directories)⟩

/-- Keeping the report writes it, if there is one in the end, and then to the log. -/
theorem onlyAt_conclude (runDir : Path) (report : Report) (paths : Path → Prop) (w : World σ)
    (hlog : paths (runLog runDir))
    (hreport : (outcome (conclude runDir report) w).1 = .ok report → paths (reportFile runDir)) :
    Files.OnlyAt paths w.files (outcome (conclude runDir report) w).2.files := by
  cases hlong : report.toJson.isOverlong with
  | true =>
      rw [conclude, keep_of_isOverlong hlong]
      exact .refl w.files
  | false =>
      cases hwrite : w.files.write (reportFile runDir) (.text report.toJson.pretty) with
      | error failure =>
          rw [conclude, outcome_bind_of_error (outcome_keep_of_error hlong hwrite)]
          exact .refl w.files
      | ok files =>
          have hkeep := outcome_keep_of_ok hlong hwrite
          obtain ⟨w', hline, -⟩ := exists_logTo runDir .info
            s!"Run {report.runId} finished with status {report.verdict.name}"
            { w with
              files := files
              events := w.events ++ [.write (reportFile runDir).text true] }
          have hended : outcome (conclude runDir report) w = (.ok report, w') := by
            rw [conclude, outcome_bind_of_ok hkeep, outcome_bind_of_ok hline, outcome_pure]
          have hlogged := (follows_within_log (σ := σ) hlog .info
            s!"Run {report.runId} finished with status {report.verdict.name}").related { w with
              files := files
              events := w.events ++ [.write (reportFile runDir).text true] }
          rw [hline] at hlogged
          rw [hended] at hreport ⊢
          exact (Files.onlyAt_write (hreport rfl) hwrite).trans hlogged.files

/-! ## Whole runs -/

/-- The name that a run has: the one that is given, or the next one in line. -/
def nameOf (options : RunOptions) (w : World σ) : String :=
  (options.runId.filter (· != "")).getD (runName w.now (w.names + 1))

theorem nameOf_of_given {options : RunOptions} {name : String} (h : options.runId = some name)
    (hne : name ≠ "") (w : World σ) : nameOf options w = name := by
  have hkept : (some name).filter (· != "") = some name := by simp [Option.filter, hne]
  rw [nameOf, h, hkept]
  rfl

theorem nameOf_of_none {options : RunOptions} (h : options.runId = none) (w : World σ) :
    nameOf options w = runName w.now (w.names + 1) := by
  rw [nameOf, h, Option.filter_none, Option.getD_none]

/-- The directory that a run has. -/
def dirOf (options : RunOptions) (w : World σ) : Path :=
  options.artifactsRoot.child (nameOf options w)

theorem proper_dirOf {options : RunOptions} (h : options.artifactsRoot.Proper) (w : World σ) :
    (dirOf options w).Proper :=
  h.child _

theorem outcome_pickName (options : RunOptions) (w : World σ) :
    ∃ named, outcome (pickName options) w = (.ok (nameOf options w), { w with names := named }) := by
  unfold pickName nameOf
  cases options.runId.filter (· != "") with
  | some name => exact ⟨w.names, rfl⟩
  | none => exact ⟨w.names + 1, rfl⟩

/-- From a settled working directory, files changed only at some paths. -/
def Aside (paths : Path → Prop) (w w' : World σ) : Prop :=
  ".." ∉ w.files.home → Files.OnlyAt paths w.files w'.files

instance (paths : Path → Prop) : Std.Refl (α := World σ) (Aside paths) :=
  ⟨fun w _ => .refl w.files⟩

instance (paths : Path → Prop) : IsTrans (World σ) (Aside paths) :=
  ⟨fun _ _ _ h h' hhome => (h hhome).trans (h' (by rwa [(h hhome).home]))⟩

section Aside

variable {paths : Path → Prop} {runDir : Path}

theorem follows_aside_change {f : Files → Except Failure Files}
    (hf : ∀ files files', ".." ∉ files.home → f files = .ok files' → Files.OnlyAt paths files files') :
    Follows (Aside paths) (Work.change f : Work σ Unit) := by
  intro w
  simp only [Work.change, outcome_bind, outcome_get]
  split
  · rename_i files hfiles
    exact .single fun hhome => hf _ _ hhome hfiles
  · exact .refl

/-- The log is opened in its place. -/
theorem follows_aside_openLog (h : paths (runLog runDir)) :
    Follows (Aside paths) (openLog runDir : Work σ Unit) := by
  refine follows_aside_change fun files files' hhome hopen => ?_
  unfold Files.openForAppend at hopen
  split at hopen
  · exact Except.ok.inj hopen ▸ .refl files
  · refine ⟨Files.directoriesStay_write hopen, fun key hkey content => ?_⟩
    obtain ⟨-, rfl⟩ := Files.write_eq_ok hopen
    rw [Path.resolve_ofParts (Path.notMem_resolve _ hhome), Files.node?_put_of_ne (hkey _ h)]

/-- A live run opens its log before its session, and does nothing else to files. -/
theorem preparing_aside (hlog : paths (runLog runDir)) (w : World σ) :
    Preparing (Along (Aside paths) w) runDir where
  now h := by rw [h.1]
  profiled profile h := by
    obtain ⟨rfl, hsteps⟩ := h
    exact ⟨rfl, hsteps.tail fun _ => .refl _⟩
  housed := (follows_aside_change fun _ _ _ hmade => Files.onlyAt_ensureDirectory hmade).respects
  looked _ := (follows_look _).respects
  noted _ _ := (follows_modify fun w => .single fun _ => .refl w.files).respects
  opened := (follows_aside_openLog hlog).respects

end Aside

section Runs

variable {host : Host σ} {options : RunOptions} {plan : Plan}

/-- After its visit a run writes the site profile, and its report if it gives one. -/
theorem onlyAt_depart {known : Prepared} {answer : Except Failure Progress} {closed final : World σ}
    {result : Except Failure Report} (hlive : options.dryRun = false) (hdomain : plan.GoesTo closed.profile.domain)
    (h : outcome (depart host options plan known answer) closed = (result, final)) :
    Files.OnlyAt (Touched options (known.directory options) plan result) closed.files
      final.files := by
  have hsaved : ∀ saved, (outcome (saveProfile (known.stage host options) options.profiles)
      closed).2 = saved → Files.OnlyAt
        (Touched options (known.directory options) plan result) closed.files saved.files := by
    rintro _ rfl
    exact (onlyAt_saveProfile (.leaf .log) (.profile hlive hdomain)).1
  rcases hsave : outcome (saveProfile (known.stage host options) options.profiles) closed with
    ⟨failure | _, saved⟩
  · -- A profile that cannot be written for other reasons ends the run.
    have hcarried : outcome (andFinally (Effect.ofExcept answer)
        (saveProfile (known.stage host options) options.profiles)) closed =
          (.error failure, saved) := by
      rw [outcome_andFinally, outcome_ofExcept, hsave]
    rw [depart, outcome_bind_of_error hcarried] at h
    obtain ⟨rfl, rfl⟩ := Prod.mk.inj h
    exact hsaved saved (by rw [hsave])
  · cases answer with
    | error failure =>
        rw [depart_of_error, outcome_bind_of_ok hsave] at h
        obtain ⟨rfl, rfl⟩ := Prod.mk.inj h
        exact hsaved saved (by rw [hsave])
    | ok progress =>
        rw [outcome_depart_of_ok hsave] at h
        have hconcluded := onlyAt_conclude (known.directory options)
          (known.report plan saved.now progress)
          (Touched options (known.directory options) plan result) saved (.leaf .log) fun hgiven => .report (hgiven ▸ (congrArg Prod.fst h).symm)
        rw [h] at hconcluded
        exact (hsaved saved (by rw [hsave])).trans hconcluded

theorem goesTo_of_prepare {known : Prepared} {w loaded : World σ}
    (h : outcome (prepare host options plan) w = (.ok known, loaded)) :
    plan.GoesTo loaded.profile.domain := by
  obtain ⟨_, _, _, hequipped⟩ := exists_equipped h
  exact ⟨known.primitives, (compile_of_prepare h).1, by rw [hequipped.domain, hequipped.picks]⟩

theorem onlyAt_prepare {answer : Except Failure Prepared} {w loaded : World σ} {paths : Path → Prop}
    (hlog : paths (runLog (dirOf options w))) (hhome : ".." ∉ w.files.home)
    (h : outcome (prepare host options plan) w = (answer, loaded)) :
    Files.OnlyAt paths w.files loaded.files := by
  obtain ⟨named, hpick⟩ := outcome_pickName options w
  rw [prepare, outcome_bind_of_ok hpick] at h
  have hprepared := (follows_of_respects fun start =>
    (preparing_aside hlog start).prepareAs host plan).related { w with names := named }
  rw [h] at hprepared
  exact hprepared hhome

theorem directory_of_prepare {known : Prepared} {w loaded : World σ}
    (h : outcome (prepare host options plan) w = (.ok known, loaded)) :
    known.directory options = dirOf options w := by
  obtain ⟨named, hpick⟩ := outcome_pickName options w
  rw [prepare, outcome_bind_of_ok hpick] at h
  obtain ⟨_, _, -, h⟩ := outcome_bind_eq_ok_iff.mp h
  obtain ⟨_, _, -, h⟩ := outcome_bind_eq_ok_iff.mp h
  obtain ⟨_, _, -, h⟩ := outcome_bind_eq_ok_iff.mp h
  obtain ⟨_, _, -, h⟩ := outcome_bind_eq_ok_iff.mp h
  obtain ⟨_, _, -, h⟩ := outcome_bind_eq_ok_iff.mp h
  obtain ⟨_, _, -, h⟩ := outcome_bind_eq_ok_iff.mp h
  obtain ⟨_, _, -, h⟩ := outcome_bind_eq_ok_iff.mp h
  simp only [outcome_bind, outcome_modify, outcome_pure, Prod.mk.injEq, Except.ok.injEq] at h
  rw [← h.1]
  rfl

theorem onlyAt_live (hlive : options.dryRun = false) {result : Except Failure Report}
    {w final : World σ} (hhome : ".." ∉ w.files.home)
    (h : outcome (run host options plan) w = (result, final)) :
    Files.OnlyAt (Touched options (dirOf options w) plan result) w.files final.files := by
  rw [run_eq_prepare host options plan hlive] at h
  rcases hprepare : outcome (prepare host options plan) w with ⟨failure | known, loaded⟩
  · rw [outcome_bind_of_error hprepare] at h
    obtain ⟨rfl, rfl⟩ := Prod.mk.inj h
    exact onlyAt_prepare (.leaf .log) hhome hprepare
  · rw [outcome_bind_of_ok hprepare, outcome_finish] at h
    have hvisited := within_visit host options known loaded
    have hdeparted := onlyAt_depart hlive (hvisited.domain ▸ goesTo_of_prepare hprepare) h
    rw [directory_of_prepare hprepare] at hvisited hdeparted
    have hreached := (onlyAt_prepare .log hhome hprepare).trans hvisited.files
    exact (hreached.mono fun _ => .leaf).trans hdeparted

/-- What a dry run does before it reports. -/
def turnDry (options : RunOptions) (plan : Plan) (runId : String) :
    Work σ (List Primitive × Instant) := do
  Work.change fun files => files.ensureDirectory (options.artifactsRoot.child runId)
  let primitives ← Effect.ofExcept plan.compile
  openLog (options.artifactsRoot.child runId)
  let now ← Work.now
  return (primitives, now)

theorem run_eq_dry (hdry : options.dryRun = true) :
    run host options plan = pickName options >>= fun runId =>
      turnDry options plan runId >>= fun turned =>
        conclude (options.artifactsRoot.child runId) (dryReport runId turned.2 plan turned.1
          (artifactsIn (options.artifactsRoot.child runId))) := by
  rw [run_eq]
  refine bind_congr fun runId => ?_
  simp [runAs, reportOn, turnDry, conclude, hdry, dryReport]

/-- A dry run writes to its log, and its report if it gives one. -/
theorem onlyAt_dry (hdry : options.dryRun = true) {result : Except Failure Report} {w final : World σ}
    {paths : Path → Prop} (hlog : paths (runLog (dirOf options w)))
    (hreport : ∀ report, result = .ok report → paths (reportFile (dirOf options w)))
    (hhome : ".." ∉ w.files.home) (h : outcome (run host options plan) w = (result, final)) :
    Files.OnlyAt paths w.files final.files := by
  obtain ⟨named, hpick⟩ := outcome_pickName options w
  have hturn : Follows (Aside paths)
      (turnDry options plan (nameOf options w) : Work σ (List Primitive × Instant)) :=
    (follows_aside_change fun _ _ _ hmade => Files.onlyAt_ensureDirectory hmade).bind fun _ =>
      (follows_ofExcept _).bind fun _ => (follows_aside_openLog hlog).bind fun _ =>
      follows_now.bind fun _ => follows_pure _
  have hturned := hturn.related { w with names := named } hhome
  rw [run_eq_dry hdry, outcome_bind_of_ok hpick] at h
  rcases hcase : outcome (turnDry options plan (nameOf options w)) { w with names := named } with
    ⟨failure | turned, ready⟩
  · rw [hcase] at hturned
    rw [outcome_bind_of_error hcase] at h
    obtain ⟨rfl, rfl⟩ := Prod.mk.inj h
    exact hturned
  · rw [hcase] at hturned
    rw [outcome_bind_of_ok hcase] at h
    have hconcluded := onlyAt_conclude (dirOf options w)
      (dryReport (nameOf options w) turned.2 plan turned.1 (artifactsIn (dirOf options w))) paths ready
      hlog fun hgiven => hreport _ (hgiven ▸ (congrArg Prod.fst h).symm)
    rw [dirOf, h] at hconcluded
    exact hturned.trans hconcluded

/-- Whatever comes of it, a run changes only files of its own and the site profile of the domain that
its plan goes to. -/
theorem onlyAt_run {result : Except Failure Report} {w final : World σ}
    (hhome : ".." ∉ w.files.home) (h : outcome (run host options plan) w = (result, final)) :
    Files.OnlyAt (Touched options (dirOf options w) plan result) w.files final.files := by
  cases hdry : options.dryRun with
  | false => exact onlyAt_live hdry hhome h
  | true => exact onlyAt_dry hdry (.leaf .log) (fun _ => .report) hhome h

/-- A run that gives a report has the name that it was to have, and leaves the report in its directory. -/
theorem exists_kept_of_run {report : Report} {w final : World σ}
    (h : outcome (run host options plan) w = (.ok report, final)) :
    report.runId = nameOf options w ∧ report.artifacts.runDir = (dirOf options w).text ∧
      final.files.read (reportFile (dirOf options w)) = .ok (.text report.toJson.pretty) := by
  have hdelivered := delivered_of_run h
  obtain ⟨named, hpick⟩ := outcome_pickName options w
  obtain ⟨picked, hname⟩ := hdelivered.named
  obtain hname : report.runId = nameOf options w :=
    Except.ok.inj (congrArg Prod.fst (hname.symm.trans hpick))
  exact ⟨hname, by rw [hdelivered.place, hname, dirOf], by rw [dirOf, ← hname]; exact hdelivered.kept⟩

end Runs

-- Names are not looked into where directories are compared.
attribute [irreducible] dirOf

end Run
end Walkthrough
