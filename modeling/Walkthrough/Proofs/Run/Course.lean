import Walkthrough.Proofs.Run.Cleanup

/-! # The course of a live run

A live run that has loaded its site profile visits its pages and then departs, whatever the visit came
to. A visit opens the session and starts the trace, and from there on carries out its steps and leaves,
whatever these came to. -/

namespace Walkthrough.Run

open Effect

variable {σ α : Type}

/-- Last work depends on nothing but what the work before it came to. -/
theorem outcome_andFinally_congr {x y : Work σ α} {w v : World σ} (h : outcome x w = outcome y v)
    (last : Work σ Unit) : outcome (andFinally x last) w = outcome (andFinally y last) v := by
  rw [outcome_andFinally, outcome_andFinally, h]

theorem outcome_andFinally_ofExcept (x : Work σ α) (last : Work σ Unit) (w : World σ) :
    outcome (andFinally x last) w =
      outcome (andFinally (Effect.ofExcept (outcome x w).1) last) (outcome x w).2 :=
  outcome_andFinally_congr rfl last

/-! ## Preparing -/

theorem eq_ok_of_change {f : Files → Except Failure Files} {w w' : World σ}
    (h : outcome (Work.change f) w = (.ok (), w')) : f w.files = .ok w'.files := by
  simp only [Work.change, outcome_bind, outcome_get] at h
  split at h
  · rename_i files hfiles
    obtain rfl := (Prod.mk.inj h).2
    exact hfiles
  · cases congrArg Prod.fst h

theorem files_of_pickName {options : RunOptions} {runId : String} {w w' : World σ}
    (h : outcome (pickName options) w = (.ok runId, w')) : w'.files = w.files := by
  unfold pickName at h
  split at h <;> obtain rfl := (Prod.mk.inj h).2 <;> rfl

theorem files_of_secretsFor {host : Host σ} {options : RunOptions} {secrets : Secret.Store}
    {w w' : World σ} (h : outcome (secretsFor host options) w = (.ok secrets, w')) :
    w'.files = w.files := by
  unfold secretsFor at h
  split at h <;> obtain rfl := (Prod.mk.inj h).2 <;> rfl

/-- What a run has before it turns to its steps: a name, its start and the values of secrets. -/
structure Kit where
  runId : String
  started : Instant
  secrets : Secret.Store

/-- What a run does before it turns to its steps: it makes its directory and opens its log. -/
def equip (host : Host σ) (options : RunOptions) : Work σ Kit := do
  let runId ← pickName options
  Work.change fun files => files.ensureDirectory (options.artifactsRoot.child runId)
  openLog (options.artifactsRoot.child runId)
  let started ← Work.now
  let secrets ← secretsFor host options
  return ⟨runId, started, secrets⟩

/-- What a live run does with its steps before its session: it loads the site profile of their domain. -/
def turnTo (options : RunOptions) (primitives : List Primitive) (kit : Kit) : Work σ Prepared := do
  let domain ← Effect.ofExcept (Profile.domainOf (primitives.map Primitive.toAction))
  let profile ← Profile.load options.profiles domain
  modify fun w => { w with profile := profile }
  return ⟨kit.runId, primitives, kit.started, kit.secrets, profile.domain⟩

theorem prepare_eq_equip (host : Host σ) (options : RunOptions) {plan : Plan}
    {primitives : List Primitive} (hcompile : plan.compile = .ok primitives) :
    prepare host options plan = equip host options >>= turnTo options primitives := by
  have hok : (Effect.ofExcept (.ok primitives) : Work σ (List Primitive)) = pure primitives := rfl
  rw [prepare, equip, bind_assoc]
  refine bind_congr fun runId => ?_
  simp only [prepareAs, turnTo, hcompile, hok, bind_assoc, pure_bind]

theorem outcome_turnTo {options : RunOptions} {primitives : List Primitive} {kit : Kit}
    {domain : String} {profile : Profile} {w w' : World σ}
    (hdomain : Profile.domainOf (primitives.map Primitive.toAction) = .ok domain)
    (hload : outcome (Profile.load options.profiles domain) w = (.ok profile, w')) :
    outcome (turnTo options primitives kit) w =
      (.ok ⟨kit.runId, primitives, kit.started, kit.secrets, profile.domain⟩,
        { w' with profile := profile }) := by
  have hpicked : outcome (Effect.ofExcept (Profile.domainOf (primitives.map Primitive.toAction))) w =
      (.ok domain, w) := by rw [hdomain, outcome_ofExcept]
  rw [turnTo, outcome_bind_of_ok hpicked, outcome_bind_of_ok hload]
  rfl

/-- All that a run does to files to get its kit is to make its directory and open its log. -/
theorem exists_files_of_equip {host : Host σ} {options : RunOptions} {kit : Kit} {w ready : World σ}
    (h : outcome (equip host options) w = (.ok kit, ready)) :
    ∃ housed, w.files.ensureDirectory (options.artifactsRoot.child kit.runId) = .ok housed ∧
      housed.openForAppend (Path.ofParts
        ((runLog (options.artifactsRoot.child kit.runId)).resolve housed.home)) = .ok ready.files := by
  obtain ⟨runId, named, hpick, h⟩ := outcome_bind_eq_ok_iff.mp h
  obtain ⟨_, housed, hhouse, h⟩ := outcome_bind_eq_ok_iff.mp h
  obtain ⟨_, opened, hopen, h⟩ := outcome_bind_eq_ok_iff.mp h
  obtain ⟨_, looked, hlook, h⟩ := outcome_bind_eq_ok_iff.mp h
  obtain ⟨secrets, secret, hsecret, h⟩ := outcome_bind_eq_ok_iff.mp h
  simp only [outcome_pure, Prod.mk.injEq, Except.ok.injEq] at h
  obtain ⟨rfl, rfl⟩ := h
  obtain rfl : opened = looked := (Prod.mk.inj hlook).2
  have hhoused := eq_ok_of_change hhouse
  have hopened := eq_ok_of_change hopen
  rw [files_of_pickName hpick] at hhoused
  rw [← files_of_secretsFor hsecret] at hopened
  exact ⟨housed.files, hhoused, hopened⟩

/-- A run that has its kit changed nothing in what is read under another name than its log's. -/
theorem read_of_equip {host : Host σ} {options : RunOptions} {kit : Kit} {p : Path} {name : String}
    {content : Text.Content} {w ready : World σ}
    (h : outcome (equip host options) w = (.ok kit, ready)) (hname : Path.IsPart name)
    (hup : name ≠ "..") (hne : name ≠ "runner.log") (hread : w.files.read (p.child name) = .ok content) :
    ready.files.read (p.child name) = .ok content := by
  obtain ⟨housed, hhouse, hopen⟩ := exists_files_of_equip h
  refine Files.read_of_openForAppend_ne (Files.read_of_ensureDirectory hread hhouse) hopen ?_
  obtain ⟨q, hq⟩ := Path.resolve_ofParts_child (options.artifactsRoot.child kit.runId)
    (s := "runner.log") (by decide) (by decide) housed.home
  rw [runLog, hq]
  exact Path.resolve_child_ne q p (by decide) (by decide) hname hup hne.symm housed.home

/-- How a live run has loaded its site profile: it got its kit first, and then turned to its steps. -/
structure Equipped (host : Host σ) (options : RunOptions) (known : Prepared) (w loaded : World σ)
    (kit : Kit) (ready after : World σ) : Prop where
  equips : outcome (equip host options) w = (.ok kit, ready)
  runId : kit.runId = known.runId
  started : kit.started = known.started
  secrets : kit.secrets = known.secrets
  picks : Profile.domainOf (known.primitives.map Primitive.toAction) = .ok known.domain
  loads : outcome (Profile.load options.profiles known.domain) ready = (.ok loaded.profile, after)
  domain : loaded.profile.domain = known.domain
  loaded : loaded = { after with profile := loaded.profile }

theorem exists_equipped {host : Host σ} {options : RunOptions} {plan : Plan} {known : Prepared}
    {w loaded : World σ} (h : outcome (prepare host options plan) w = (.ok known, loaded)) :
    ∃ kit ready after, Equipped host options known w loaded kit ready after := by
  obtain ⟨hcompile, -⟩ := compile_of_prepare h
  generalize hsteps : known.primitives = primitives at hcompile
  rw [prepare_eq_equip host options hcompile] at h
  obtain ⟨kit, ready, hequip, h⟩ := outcome_bind_eq_ok_iff.mp h
  obtain ⟨domain, before, hdomain, h⟩ := outcome_bind_eq_ok_iff.mp h
  obtain ⟨profile, after, hload, h⟩ := outcome_bind_eq_ok_iff.mp h
  simp only [outcome_bind, outcome_modify, outcome_pure, Prod.mk.injEq, Except.ok.injEq] at h
  obtain ⟨rfl, rfl⟩ := h
  obtain rfl : profile.domain = domain := Profile.domain_of_load hload
  obtain ⟨hpicked, rfl⟩ := Prod.mk.inj hdomain
  exact ⟨kit, ready, after, hequip, rfl, rfl, rfl, hpicked, hload, rfl, rfl⟩

/-- A live run that has loaded its site profile did so in a world whose files are those that it began
with, as far as they are read under the name of the profile. -/
theorem exists_load_of_prepare {host : Host σ} {options : RunOptions} {plan : Plan}
    {known : Prepared} {w loaded : World σ}
    (h : outcome (prepare host options plan) w = (.ok known, loaded)) :
    ∃ before after : World σ, outcome (Profile.load options.profiles known.domain) before =
        (.ok loaded.profile, after) ∧
      loaded.profile.domain = known.domain ∧
      ∀ content, w.files.read (Profile.file options.profiles known.domain) = .ok content →
        before.files.read (Profile.file options.profiles known.domain) = .ok content := by
  obtain ⟨kit, ready, after, hequipped⟩ := exists_equipped h
  have hpart := (Profile.isDomain_of_domainOf hequipped.picks).isPart
  exact ⟨ready, after, hequipped.loads, hequipped.domain, fun content hread =>
    read_of_equip hequipped.equips hpart.1 hpart.2.1 (Profile.name_ne_log _) hread⟩

/-! ## Sessions -/

/-- Opens a session and starts its trace. -/
def arrive (stage : Stage σ) (headless : Bool) : Work σ Unit := do
  Work.call (.openSession headless) (stage.browser.openSession headless)
  startTrace stage

/-- Ends the trace and closes the session, whatever the work in them came to. -/
def leave (stage : Stage σ) (answer : Except Failure α) : Work σ α :=
  andFinally (andFinally (Effect.ofExcept answer) (stopTrace stage))
    (Work.call .closeSession stage.browser.closeSession)

section Tracing

variable {r : World σ → World σ → Prop} {stage : Stage σ}

theorem Tracing.arrive (h : Tracing r stage) (headless : Bool) :
    Respects r (arrive stage headless) :=
  (h.called (.openSession _)).bind_eq fun _ => h.startTrace

theorem Tracing.leave (h : Tracing r stage) (answer : Except Failure α) :
    Respects r (leave stage answer) :=
  ((respects_ofExcept answer).andFinally h.stopTrace).andFinally (h.called .closeSession)

end Tracing

/-- Whatever comes last, a failure stays one. -/
theorem exists_error_of_andFinally {x : Work σ α} {last : Work σ Unit} {failure : Failure}
    {w : World σ} (h : (outcome x w).1 = .error failure) :
    ∃ escaped, (outcome (andFinally x last) w).1 = .error escaped := by
  rw [outcome_andFinally]
  split
  · exact ⟨failure, h⟩
  · exact ⟨_, rfl⟩

theorem exists_error_of_leave (stage : Stage σ) (failure : Failure) (w : World σ) :
    ∃ escaped, (outcome (leave stage (.error failure : Except Failure α)) w).1 = .error escaped := by
  have hstopped : ∃ stopped, (outcome (andFinally (Effect.ofExcept (.error failure)) (stopTrace stage) :
      Work σ α) w).1 = .error stopped := exists_error_of_andFinally rfl
  obtain ⟨_, hstopped⟩ := hstopped
  exact exists_error_of_andFinally hstopped

theorem eq_ok_of_leave {stage : Stage σ} {answer : Except Failure α} {a : α} {w w' : World σ}
    (h : outcome (leave stage answer) w = (.ok a, w')) : answer = .ok a := by
  obtain ⟨_, hstopped, -⟩ := outcome_andFinally_eq_ok h
  obtain ⟨_, hanswer, -⟩ := outcome_andFinally_eq_ok hstopped
  exact congrArg Prod.fst hanswer

/-- A session with a trace that ends well was opened, and its trace was started. -/
theorem exists_arrive_of_session {stage : Stage σ} {headless : Bool} {x : Work σ α} {a : α}
    {w w' : World σ} (h : outcome (session stage headless (traced stage x)) w = (.ok a, w')) :
    ∃ start, outcome (arrive stage headless) w = (.ok (), start) := by
  obtain ⟨_, opened, hopen, h⟩ := outcome_bind_eq_ok_iff.mp h
  obtain ⟨_, htraced, -⟩ := outcome_andFinally_eq_ok h
  obtain ⟨_, start, hstart, -⟩ := outcome_bind_eq_ok_iff.mp htraced
  exact ⟨start, outcome_bind_eq_ok_iff.mpr ⟨(), opened, hopen, hstart⟩⟩

/-- Work in a session with a trace is done where the trace was started, and is left after it. -/
theorem outcome_session_of_arrive {stage : Stage σ} {headless : Bool} {x : Work σ α}
    {w start : World σ} (h : outcome (arrive stage headless) w = (.ok (), start)) :
    outcome (session stage headless (traced stage x)) w =
      outcome (leave stage (outcome x start).1) (outcome x start).2 := by
  obtain ⟨_, opened, hopen, hstart⟩ := outcome_bind_eq_ok_iff.mp h
  have htraced : outcome (traced stage x) opened =
      outcome (andFinally (Effect.ofExcept (outcome x start).1) (stopTrace stage)) (outcome x start).2 := by
    rw [traced, outcome_bind_of_ok hstart, outcome_andFinally_ofExcept]
  rw [session, outcome_bind_of_ok hopen]
  exact outcome_andFinally_congr htraced _

/-! ## Visits -/

/-- What the log of a run says first. -/
def Prepared.greeting (known : Prepared) : String :=
  s!"Starting run {known.runId} ({known.primitives.length} compiled steps, site profile " ++
    known.domain ++ ")"

/-- The report of a run on what its steps came to. -/
def Prepared.report (known : Prepared) (plan : Plan) (ended : Instant) (progress : Progress) :
    Report where
  runId := known.runId
  verdict := progress.verdict
  startedAt := known.started
  endedAt := ended
  durationMs := ended - known.started
  plan := plan
  artifacts := progress.artifacts
  steps := progress.steps
  outputs := progress.outputs

section Live

variable (host : Host σ) (options : RunOptions) (plan : Plan) (known : Prepared)

/-- What a live run does from its site profile to its first step. -/
def enter : Work σ Unit := do
  (known.stage host options).log .info known.greeting
  arrive (known.stage host options) options.headless

/-- What a live run does from its site profile until its session is closed. -/
def visit : Work σ Progress := do
  (known.stage host options).log .info known.greeting
  session (known.stage host options) options.headless
    (traced (known.stage host options) (known.work host options))

/-- What a live run does after its visit: it saves the site profile, and keeps the report if the visit
came to one. -/
def depart (answer : Except Failure Progress) : Work σ Report := do
  let progress ← andFinally (Effect.ofExcept answer)
    (saveProfile (known.stage host options) options.profiles)
  let ended ← Work.now
  conclude (known.directory options) (known.report plan ended progress)

theorem outcome_finish (w : World σ) :
    outcome (finish host options plan known) w =
      outcome (depart host options plan known (outcome (visit host options known) w).1)
        (outcome (visit host options known) w).2 := by
  obtain ⟨ready, hlog, -⟩ := exists_log (known.stage host options) .info known.greeting w
  have hfinish : finish host options plan known =
      (known.stage host options).log .info known.greeting >>= fun _ =>
        andFinally (session (known.stage host options) options.headless
          (traced (known.stage host options) (known.work host options)))
          (saveProfile (known.stage host options) options.profiles) >>= fun progress =>
        Work.now >>= fun ended =>
          conclude (known.directory options) (known.report plan ended progress) := rfl
  rw [hfinish, visit, outcome_bind_of_ok hlog, outcome_bind_of_ok hlog, depart, outcome_bind,
    outcome_bind, outcome_andFinally_ofExcept]

theorem Onward.depart {r : World σ → World σ → Prop}
    (h : Onward r host.browser (known.directory options) options.profiles)
    (answer : Except Failure Progress) : Respects r (depart host options plan known answer) := by
  have hstage : Onward r (known.stage host options).browser (known.stage host options).runDir
      options.profiles := h
  refine ((respects_ofExcept answer).andFinally hstage.saveProfile).bind_eq fun progress =>
    h.respects_now.bind_eq fun ended => ?_
  exact (respects_keep (h.written (.report _))).bind_eq fun _ => (h.logged _ _).bind_eq fun _ =>
    lockstep_pure rfl

/-- After a failure a run still saves its site profile, and keeps no report. -/
theorem depart_of_error (failure : Failure) :
    depart host options plan known (.error failure) =
      saveProfile (known.stage host options) options.profiles >>= fun _ => throw failure := by
  have hattempt : attempt (Effect.ofExcept (.error failure) : Work σ Progress) =
      pure (.error failure) := rfl
  rw [depart, andFinally, hattempt, pure_bind, bind_assoc]
  rfl

theorem exists_error_of_depart (failure : Failure) (w : World σ) :
    ∃ escaped, (outcome (depart host options plan known (.error failure)) w).1 = .error escaped := by
  rw [depart_of_error, outcome_bind]
  rcases outcome (saveProfile (known.stage host options) options.profiles) w with ⟨found | _, saved⟩
  · exact ⟨found, rfl⟩
  · exact ⟨failure, rfl⟩

/-- Where the steps of a live run begin, if the session is opened and the trace not refused. -/
def begun : Work σ Prepared := do
  let known ← prepare host options plan
  enter host options known
  return known

variable {host options plan known}

theorem outcome_depart_of_ok {progress : Progress} {closed saved : World σ}
    (h : outcome (saveProfile (known.stage host options) options.profiles) closed =
      (.ok (), saved)) :
    outcome (depart host options plan known (.ok progress)) closed =
      outcome (conclude (known.directory options) (known.report plan saved.now progress)) saved := by
  have hsaved : outcome (andFinally (Effect.ofExcept (.ok progress))
      (saveProfile (known.stage host options) options.profiles)) closed = (.ok progress, saved) := by
    rw [outcome_andFinally, outcome_ofExcept, h]
  rw [depart, outcome_bind_of_ok hsaved, outcome_bind_of_ok (outcome_now saved)]

/-- A run gives a report only after a visit that came to its end, and after the profile was seen to. -/
theorem outcome_depart_eq_ok {answer : Except Failure Progress} {report : Report}
    {closed final : World σ}
    (h : outcome (depart host options plan known answer) closed = (.ok report, final)) :
    ∃ progress saved, answer = .ok progress ∧
      outcome (saveProfile (known.stage host options) options.profiles) closed = (.ok (), saved) ∧
      outcome (conclude (known.directory options) (known.report plan saved.now progress)) saved =
        (.ok report, final) := by
  obtain ⟨progress, saved, hsaved, hconclude⟩ := outcome_bind_eq_ok_iff.mp h
  rw [outcome_bind_of_ok (outcome_now saved)] at hconclude
  obtain ⟨_, hanswer, hstate⟩ := outcome_andFinally_eq_ok hsaved
  obtain ⟨rfl, rfl⟩ := Prod.mk.inj hanswer
  rcases hsave : outcome (saveProfile (known.stage host options) options.profiles) closed with
    ⟨failure | _, reached⟩
  · rw [outcome_andFinally, outcome_ofExcept, hsave] at hsaved
    cases congrArg Prod.fst hsaved
  · rw [hsave] at hstate
    obtain rfl : reached = saved := hstate
    exact ⟨progress, reached, rfl, rfl, hconclude⟩

theorem begun_eq_ok_iff {w start : World σ} :
    outcome (begun host options plan) w = (.ok known, start) ↔
      ∃ loaded, outcome (prepare host options plan) w = (.ok known, loaded) ∧
        outcome (enter host options known) loaded = (.ok (), start) := by
  constructor
  · intro h
    obtain ⟨_, loaded, hprepared, h⟩ := outcome_bind_eq_ok_iff.mp h
    obtain ⟨_, _, hentered, h⟩ := outcome_bind_eq_ok_iff.mp h
    cases h
    exact ⟨loaded, hprepared, hentered⟩
  · rintro ⟨loaded, hprepared, hentered⟩
    rw [begun, outcome_bind_of_ok hprepared, outcome_bind_of_ok hentered, outcome_pure]

theorem outcome_visit_of_enter {w start : World σ}
    (h : outcome (enter host options known) w = (.ok (), start)) :
    outcome (visit host options known) w =
      outcome (leave (known.stage host options) (outcome (known.work host options) start).1)
        (outcome (known.work host options) start).2 := by
  obtain ⟨_, ready, hlog, harrive⟩ := outcome_bind_eq_ok_iff.mp h
  rw [visit, outcome_bind_of_ok hlog, outcome_session_of_arrive harrive]

/-- A live run whose steps have begun carries them out, leaves and departs. -/
theorem outcome_run_of_begun (hlive : options.dryRun = false) {w start : World σ}
    (h : outcome (begun host options plan) w = (.ok known, start)) :
    outcome (run host options plan) w =
      outcome (depart host options plan known
        (outcome (leave (known.stage host options) (outcome (known.work host options) start).1)
          (outcome (known.work host options) start).2).1)
        (outcome (leave (known.stage host options) (outcome (known.work host options) start).1)
          (outcome (known.work host options) start).2).2 := by
  obtain ⟨loaded, hprepared, hentered⟩ := begun_eq_ok_iff.mp h
  rw [run_eq_prepare host options plan hlive, outcome_bind_of_ok hprepared, outcome_finish,
    outcome_visit_of_enter hentered]

/-- A live run that gives a report, phase by phase. -/
structure Phases (host : Host σ) (options : RunOptions) (plan : Plan) (known : Prepared)
    (progress : Progress) (report : Report) (w start stopped closed saved final : World σ) : Prop where
  begins : outcome (begun host options plan) w = (.ok known, start)
  works : outcome (known.work host options) start = (.ok progress, stopped)
  leaves : outcome (leave (known.stage host options) (.ok progress)) stopped = (.ok progress, closed)
  saves : outcome (saveProfile (known.stage host options) options.profiles) closed = (.ok (), saved)
  concludes : outcome (conclude (known.directory options) (known.report plan saved.now progress))
    saved = (.ok report, final)

theorem exists_phases (hlive : options.dryRun = false) {report : Report} {w final : World σ}
    (h : outcome (run host options plan) w = (.ok report, final)) :
    ∃ known progress start stopped closed saved,
      Phases host options plan known progress report w start stopped closed saved final := by
  rw [run_eq_prepare host options plan hlive] at h
  obtain ⟨known, loaded, hprepared, h⟩ := outcome_bind_eq_ok_iff.mp h
  rw [outcome_finish] at h
  obtain ⟨progress, saved, hanswer, hsave, hconclude⟩ := outcome_depart_eq_ok h
  obtain ⟨closed, hclosed⟩ : ∃ closed, outcome (visit host options known) loaded =
      (.ok progress, closed) := ⟨_, Prod.ext hanswer rfl⟩
  rw [hclosed] at hsave
  obtain ⟨_, ready, hlog, hsession⟩ := outcome_bind_eq_ok_iff.mp hclosed
  obtain ⟨start, harrive⟩ := exists_arrive_of_session hsession
  have hentered : outcome (enter host options known) loaded = (.ok (), start) :=
    outcome_bind_eq_ok_iff.mpr ⟨(), ready, hlog, harrive⟩
  have hleave := (outcome_visit_of_enter hentered).symm.trans hclosed
  rcases hwork : outcome (known.work host options) start with ⟨answer, stopped⟩
  rw [hwork] at hleave
  obtain rfl := eq_ok_of_leave hleave
  exact ⟨known, progress, start, stopped, closed, saved,
    begun_eq_ok_iff.mpr ⟨loaded, hprepared, hentered⟩, hwork, hleave, hsave, hconclude⟩

end Live

end Walkthrough.Run
