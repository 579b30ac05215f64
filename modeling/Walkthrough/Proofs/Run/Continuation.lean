import Walkthrough.Proofs.Plan.Compile
import Walkthrough.Proofs.Run.Record
import Walkthrough.Proofs.Run.Retelling

/-! # Plans that go on

A run of a plan with more steps after its own does what a run of the plan alone does, to the end of the
last step of the plan. If one of its steps fails or breaks off, nothing comes after that; if all of them
pass, the other steps are carried out from there. -/

namespace Walkthrough

open Effect

variable {σ α : Type}

/-! ## Plans -/

namespace Plan

/-- A plan with the steps of another one after its own. -/
def followedBy (plan more : Plan) : Plan :=
  { plan with steps := plan.steps ++ more.steps }

/-- Whether a plan goes to a page. -/
def Goes (plan : Plan) : Prop :=
  ∃ step ∈ plan.steps, step.tag = "goto"

instance (plan : Plan) : Decidable plan.Goes :=
  inferInstanceAs (Decidable (∃ step ∈ plan.steps, step.tag = "goto"))

variable {plan more : Plan} {primitives rest : List Primitive}

/-- The steps of a plan are compiled as they are without those that follow. -/
theorem exists_compile_followedBy (hmore : more.Accepted) (h : plan.compile = .ok primitives) :
    ∃ rest, (plan.followedBy more).compile = .ok (primitives ++ rest) ∧
      Primitive.ofTagged plan.steps.length primitives.length
        (more.steps.map fun step => (step.tag, step)) = .ok rest := by
  obtain ⟨rest, hrest⟩ := hmore.exists_ofTagged plan.steps.length primitives.length
  refine ⟨rest, ?_, hrest⟩
  rw [compile, followedBy, List.map_append, Primitive.ofTagged_append h, List.length_map,
    Nat.zero_add, Nat.zero_add, hrest]
  rfl

/-- The steps that follow go to no page that the domain depends on. -/
theorem domainOf_followedBy (hgoes : plan.Goes ∨ ¬ more.Goes) (h : plan.compile = .ok primitives)
    {source start : Nat} (hrest : Primitive.ofTagged source start
      (more.steps.map fun step => (step.tag, step)) = .ok rest) :
    Profile.domainOf ((primitives ++ rest).map Primitive.toAction) =
      Profile.domainOf (primitives.map Primitive.toAction) := by
  rw [List.map_append]
  rcases hgoes with ⟨step, hstep, htag⟩ | hgoes
  · refine Profile.domainOf_append_of_mem ?_ _
    obtain ⟨actions, hactions, hall⟩ :=
      Primitive.exists_mem_of_ofTagged h (List.mem_map_of_mem hstep)
    obtain ⟨action, haction⟩ := List.exists_mem_of_ne_nil _ (Action.ofTagged_ne_nil hactions)
    obtain ⟨p, hp, hsame⟩ := hall action haction
    rw [Action.ofTagged, if_pos rfl] at hactions
    refine ⟨p.toAction, List.mem_map_of_mem hp, ?_⟩
    rcases Action.kind_of_ofStep hactions haction with hkind | ⟨hlogin, -⟩
    · rw [hsame, hkind, htag]
    · exact absurd (htag.symm.trans hlogin) (by decide)
  · refine Profile.domainOf_append_of_forall _ fun action haction hkind => hgoes ?_
    obtain ⟨p, hp, rfl⟩ := List.mem_map.mp haction
    obtain ⟨_, entry, -, hsource, actions, hactions, hmem⟩ :=
      Primitive.exists_source_of_mem_ofTagged hrest hp
    have hentry := List.mem_of_getElem? hsource
    obtain ⟨step, hstep, rfl⟩ := List.mem_map.mp hentry
    rw [Action.ofTagged, if_pos rfl] at hactions
    refine ⟨step, hstep, ?_⟩
    rcases Action.kind_of_ofStep hactions hmem with hsame | ⟨-, hother⟩
    · rw [← hsame, hkind]
    · exact absurd hkind hother

end Plan

namespace Run

/-! ## Steps -/

/-- What is done with more steps after some came to their end. -/
def goOn (stage : Stage σ) (more : List Primitive) (done : Progress) : Work σ Progress :=
  match done.verdict with
  | .failed => pure done
  | .passed => steps stage done more

/-- Steps are carried out before those that follow them, which are only come to if all have passed. -/
theorem steps_append (stage : Stage σ) {progress : Progress} (hpassed : progress.verdict = .passed)
    (primitives more : List Primitive) :
    steps stage progress (primitives ++ more) =
      steps stage progress primitives >>= goOn stage more := by
  induction primitives generalizing progress with
  | nil => rw [List.nil_append, steps, pure_bind, goOn, hpassed]
  | cons p primitives ih =>
      rw [List.cons_append, steps, steps, bind_assoc]
      refine bind_congr fun out => ?_
      have hverdict : (progress.add out).verdict = out.report.verdict := rfl
      dsimp only
      cases hout : out.report.verdict with
      | failed =>
          dsimp only
          rw [pure_bind, goOn, hverdict, hout]
      | passed => exact ih (hverdict.trans hout)

theorem outputs_foldl_add (outs : List Stage.Outcome) (progress : Progress) :
    (outs.foldl Progress.add progress).outputs =
      Table.update progress.outputs (outs.filterMap Stage.Outcome.extract) := by
  induction outs generalizing progress with
  | nil => rfl
  | cons out outs ih =>
      rw [List.foldl_cons, ih]
      cases hextract : out.extract <;> simp [Progress.add, hextract, Table.update]

/-! ## The beginning -/

section Live

variable {host : Host σ} {options : RunOptions} {plan more : Plan} {known : Prepared}

/-- What a run knows that has more steps to carry out. -/
def Prepared.followedBy (known : Prepared) (rest : List Primitive) : Prepared :=
  { known with primitives := known.primitives ++ rest }

theorem work_followedBy (known : Prepared) (rest : List Primitive) (host : Host σ)
    (options : RunOptions) :
    (known.followedBy rest).work host options =
      known.work host options >>= goOn (known.stage host options) rest :=
  steps_append (known.stage host options) rfl known.primitives rest

/-- Up to its session, a run depends on nothing that follows its plan. -/
theorem exists_prepare_followedBy (hmore : more.Accepted) (hgoes : plan.Goes ∨ ¬ more.Goes)
    {w loaded : World σ} (h : outcome (prepare host options plan) w = (.ok known, loaded)) :
    ∃ rest, outcome (prepare host options (plan.followedBy more)) w =
      (.ok (known.followedBy rest), loaded) := by
  obtain ⟨hown, -⟩ := compile_of_prepare h
  obtain ⟨rest, hjoined, hrest⟩ := Plan.exists_compile_followedBy hmore hown
  refine ⟨rest, ?_⟩
  obtain ⟨kit, ready, after, hequipped⟩ := exists_equipped h
  rw [prepare_eq_equip host options hjoined, outcome_bind_of_ok hequipped.equips,
    outcome_turnTo ((Plan.domainOf_followedBy hgoes hown hrest).trans hequipped.picks)
      hequipped.loads, ← hequipped.loaded, hequipped.runId, hequipped.started, hequipped.secrets,
    hequipped.domain]
  rfl

theorem lockstep_enter (known : Prepared) (rest : List Primitive) :
    Lockstep (Retold (known.directory options)) Eq (enter host options known)
      (enter host options (known.followedBy rest)) :=
  (lockstep_logTo .info _ _).bind_eq fun _ =>
    have htracing : Tracing (Retold (known.directory options)) (known.stage host options) :=
      (onward_retold host.browser (known.directory options) options.profiles).tracing
    htracing.arrive options.headless

/-- A run whose steps begin begins them in the same way if there are more. -/
theorem exists_begun_followedBy (hmore : more.Accepted) (hgoes : plan.Goes ∨ ¬ more.Goes)
    {w start : World σ} (h : outcome (begun host options plan) w = (.ok known, start)) :
    ∃ rest start', outcome (begun host options (plan.followedBy more)) w =
        (.ok (known.followedBy rest), start') ∧
      Retold (known.directory options) start start' := by
  obtain ⟨loaded, hprepared, hentered⟩ := begun_eq_ok_iff.mp h
  obtain ⟨rest, hprepared'⟩ := exists_prepare_followedBy hmore hgoes hprepared
  obtain ⟨start', hentered', hstart⟩ :=
    (lockstep_enter known rest).outcome_eq (.refl loaded) hentered
  exact ⟨rest, start', begun_eq_ok_iff.mpr ⟨loaded, hprepared', hentered'⟩, hstart⟩

/-! ## The end -/

theorem onward_retold_known (host : Host σ) (options : RunOptions) (known : Prepared) :
    Onward (Retold (known.directory options)) (known.stage host options).browser
      (known.stage host options).runDir options.profiles :=
  onward_retold _ _ _

theorem respects_retold_work (host : Host σ) (options : RunOptions) (known : Prepared) :
    Respects (Retold (known.directory options)) (known.work host options) :=
  ((onward_retold_known host options known).staged (Stage.fillsAlike_self fun _ _ _ =>
    (onward_retold_known host options known).called (.fill _ _ _))).steps _ _

theorem respects_retold_leave (host : Host σ) (options : RunOptions) (known : Prepared)
    (answer : Except Failure α) :
    Respects (Retold (known.directory options)) (leave (known.stage host options) answer) :=
  (onward_retold_known host options known).tracing.leave answer

theorem respects_retold_saveProfile (host : Host σ) (options : RunOptions) (known : Prepared) :
    Respects (Retold (known.directory options))
      (saveProfile (known.stage host options) options.profiles) :=
  (onward_retold_known host options known).saveProfile

/-- Steps that come to their end with a failure, or not at all, are not followed by others. -/
theorem exists_work_followedBy {answer : Except Failure Progress} {start start' stopped : World σ}
    (rest : List Primitive) (hstart : Retold (known.directory options) start start')
    (hwork : outcome (known.work host options) start = (answer, stopped))
    (hended : ∀ done, answer = .ok done → done.verdict = .failed) :
    ∃ stopped', outcome ((known.followedBy rest).work host options) start' = (answer, stopped') ∧
      Retold (known.directory options) stopped stopped' := by
  obtain ⟨stopped', hwork', hstopped⟩ :=
    (respects_retold_work host options known).outcome_eq hstart hwork
  refine ⟨stopped', ?_, hstopped⟩
  rw [work_followedBy]
  cases answer with
  | error failure => exact outcome_bind_of_error hwork'
  | ok done => rw [outcome_bind_of_ok hwork', goOn, hended done rfl, outcome_pure]

/-- A run with more steps leaves and departs as one does without them. -/
theorem outcome_run_followedBy (hlive : options.dryRun = false) {rest : List Primitive}
    {answer left : Except Failure Progress} {w start stopped closed : World σ}
    (hbegun : outcome (begun host options (plan.followedBy more)) w =
      (.ok (known.followedBy rest), start))
    (hwork : outcome ((known.followedBy rest).work host options) start = (answer, stopped))
    (hleave : outcome (leave (known.stage host options) answer) stopped = (left, closed)) :
    outcome (run host options (plan.followedBy more)) w =
      outcome (depart host options (plan.followedBy more) known left) closed := by
  have hleave' : outcome (leave ((known.followedBy rest).stage host options) answer) stopped =
      (left, closed) := hleave
  rw [outcome_run_of_begun hlive hbegun, hwork, hleave']
  rfl

/-- What breaks off a step breaks off the run, after the same calls if there are more steps. -/
theorem exists_run_followedBy_of_error (hmore : more.Accepted) (hgoes : plan.Goes ∨ ¬ more.Goes)
    (hlive : options.dryRun = false) {w start stopped : World σ} {failure : Failure}
    (hbegun : outcome (begun host options plan) w = (.ok known, start))
    (hwork : outcome (known.work host options) start = (.error failure, stopped)) :
    ∃ escaped final final', outcome (run host options plan) w = (.error escaped, final) ∧
      outcome (run host options (plan.followedBy more)) w = (.error escaped, final') ∧
      Retold (known.directory options) final final' := by
  obtain ⟨rest, start', hbegun', hstart⟩ := exists_begun_followedBy hmore hgoes hbegun
  obtain ⟨stopped', hwork', hstopped⟩ := exists_work_followedBy rest hstart hwork fun _ h => nomatch h
  obtain ⟨broken, hbroken⟩ :=
    exists_error_of_leave (α := Progress) (known.stage host options) failure stopped
  obtain ⟨closed, hleave⟩ : ∃ closed, outcome (leave (known.stage host options)
      (.error failure : Except Failure Progress)) stopped = (.error broken, closed) :=
    ⟨_, Prod.ext hbroken rfl⟩
  obtain ⟨closed', hleave', hclosed⟩ :=
    (respects_retold_leave host options known _).outcome_eq hstopped hleave
  have hdepart : Lockstep (Retold (known.directory options)) Eq
      (depart host options plan known (.error broken))
      (depart host options (plan.followedBy more) known (.error broken)) := by
    rw [depart_of_error, depart_of_error]
    exact (respects_retold_saveProfile host options known).bind_eq fun _ => lockstep_throw broken
  obtain ⟨escaped, hescaped⟩ := exists_error_of_depart host options plan known broken closed
  obtain ⟨final, hfinal⟩ : ∃ final, outcome (depart host options plan known (.error broken)) closed =
      (.error escaped, final) := ⟨_, Prod.ext hescaped rfl⟩
  obtain ⟨final', hfinal', hretold⟩ := hdepart.outcome_eq hclosed hfinal
  refine ⟨escaped, final, final', ?_, ?_, hretold⟩
  · rw [outcome_run_of_begun hlive hbegun, hwork, hleave, hfinal]
  · rw [outcome_run_followedBy hlive hbegun' hwork' hleave', hfinal']

/-! ## Reports -/

/-- With another plan a report is a document just if the plan is. -/
theorem isOverlong_withPlan {report : Report} (h : report.toJson.isOverlong = false) (plan : Plan) :
    ({ report with plan := plan } : Report).toJson.isOverlong = plan.toJson.isOverlong := by
  rw [Report.toJson, Json.isOverlong_obj] at h ⊢
  simp only [List.any_cons, List.any_nil, Bool.or_eq_false_iff] at h ⊢
  simp [h]

/-- A failed step ends the report, whatever steps come after it in the plan. -/
theorem exists_run_followedBy_of_failed (hmore : more.Accepted) (hgoes : plan.Goes ∨ ¬ more.Goes)
    (hlive : options.dryRun = false) {report : Report} {w final : World σ}
    (hrun : outcome (run host options plan) w = (.ok report, final))
    (hfailed : report.verdict = .failed) :
    ∃ saved saved', Retold (options.artifactsRoot.child report.runId) saved saved' ∧
      outcome (conclude (options.artifactsRoot.child report.runId) report) saved =
        (.ok report, final) ∧
      outcome (run host options (plan.followedBy more)) w =
        outcome (conclude (options.artifactsRoot.child report.runId)
          { report with plan := plan.followedBy more }) saved' := by
  obtain ⟨known, progress, start, stopped, closed, saved, hphases⟩ := exists_phases hlive hrun
  obtain ⟨rfl, -⟩ := eq_of_conclude hphases.concludes
  obtain ⟨rest, start', hbegun', hstart⟩ := exists_begun_followedBy hmore hgoes hphases.begins
  obtain ⟨stopped', hwork', hstopped⟩ := exists_work_followedBy rest hstart hphases.works
    fun done h => (Except.ok.inj h) ▸ hfailed
  obtain ⟨closed', hleave', hclosed⟩ :=
    (respects_retold_leave host options known _).outcome_eq hstopped hphases.leaves
  obtain ⟨saved', hsave', hsaved⟩ :=
    (respects_retold_saveProfile host options known).outcome_eq hclosed hphases.saves
  refine ⟨saved, saved', hsaved, hphases.concludes, ?_⟩
  rw [outcome_run_followedBy hlive hbegun' hwork' hleave', outcome_depart_of_ok hsave', hsaved.now]
  rfl

/-- What a run does after its plan has passed with more steps to come: it carries them out where the last
step of the plan left off, and reports on them after the steps of the plan. -/
structure GoesOn (host : Host σ) (options : RunOptions) (plan more : Plan) (known : Prepared)
    (rest : List Primitive) (report : Report) (w start start' stopped stopped' : World σ) : Prop where
  begins : outcome (begun host options plan) w = (.ok known, start)
  begins' : outcome (begun host options (plan.followedBy more)) w =
    (.ok (known.followedBy rest), start')
  started : Retold (known.directory options) start start'
  works : ∃ progress, outcome (known.work host options) start = (.ok progress, stopped) ∧
    outcome ((known.followedBy rest).work host options) start' =
      outcome (steps (known.stage host options) progress rest) stopped'
  stopped : Retold (known.directory options) stopped stopped'
  events : stopped'.events <+: (outcome (run host options (plan.followedBy more)) w).2.events
  reports : ∀ report' final', outcome (run host options (plan.followedBy more)) w =
    (.ok report', final') →
    ∃ outs last, StepsDerivation (known.stage host options) rest stopped' outs last ∧
      report'.steps = report.steps ++ outs.map Stage.Outcome.report ∧
      ∀ key, key ∉ Table.keys (outs.filterMap Stage.Outcome.extract) →
        Table.get? report'.outputs key = Table.get? report.outputs key

theorem events_prefix_run (hlive : options.dryRun = false) {w start : World σ}
    (h : outcome (begun host options plan) w = (.ok known, start)) :
    (outcome (known.work host options) start).2.events <+:
      (outcome (run host options plan) w).2.events := by
  have hchanges : ∀ v : World σ, Onward (Along (Change (known.directory options) options.profiles) v)
      host.browser (known.directory options) options.profiles :=
    fun v => (coupling_along host.browser v).toOnward
  have htracing : ∀ v : World σ, Tracing (Along (Change (known.directory options) options.profiles) v)
      (known.stage host options) := fun v => (hchanges v).tracing
  have hleave : ∀ answer : Except Failure Progress,
      Follows (Change (known.directory options) options.profiles)
        (leave (known.stage host options) answer) := fun answer =>
    follows_of_respects fun v => (htracing v).leave answer
  have hdepart : ∀ answer, Follows (Change (known.directory options) options.profiles)
      (depart host options plan known answer) := fun answer =>
    follows_of_respects fun v => Onward.depart host options plan known (hchanges v) answer
  rw [outcome_run_of_begun hlive h]
  exact (events_prefix_of_follows (hleave _) _).trans (events_prefix_of_follows (hdepart _) _)

theorem exists_goesOn (hmore : more.Accepted) (hgoes : plan.Goes ∨ ¬ more.Goes)
    (hlive : options.dryRun = false) {report : Report} {w final : World σ}
    (hrun : outcome (run host options plan) w = (.ok report, final))
    (hpassed : report.verdict = .passed) :
    ∃ known rest start start' stopped stopped',
      GoesOn host options plan more known rest report w start start' stopped stopped' := by
  obtain ⟨known, progress, start, stopped, closed, saved, hphases⟩ := exists_phases hlive hrun
  obtain ⟨rfl, -⟩ := eq_of_conclude hphases.concludes
  obtain ⟨rest, start', hbegun', hstart⟩ := exists_begun_followedBy hmore hgoes hphases.begins
  obtain ⟨stopped', hown, hstopped⟩ :=
    (respects_retold_work host options known).outcome_eq hstart hphases.works
  have hwork' : outcome ((known.followedBy rest).work host options) start' =
      outcome (steps (known.stage host options) progress rest) stopped' := by
    have hverdict : progress.verdict = .passed := hpassed
    rw [work_followedBy, outcome_bind_of_ok hown, goOn, hverdict]
  refine ⟨known, rest, start, start', stopped, stopped', hphases.begins, hbegun', hstart,
    ⟨progress, hphases.works, hwork'⟩, hstopped, ?_, fun report' final' hrun' => ?_⟩
  · have hsteps : Follows (Change (known.directory options) options.profiles)
        (steps (known.stage host options) progress rest) :=
      follows_steps (known.stage host options) progress rest
    refine (events_prefix_of_follows hsteps stopped').trans ?_
    rw [← hwork']
    exact events_prefix_run hlive hbegun'
  · rcases hdone : outcome (steps (known.stage host options) progress rest) stopped' with ⟨answer, last⟩
    rw [outcome_run_followedBy hlive hbegun' (hwork'.trans hdone) rfl] at hrun'
    obtain ⟨done, saved', hleave, -, hconclude⟩ := outcome_depart_eq_ok hrun'
    obtain rfl := eq_ok_of_leave (Prod.ext hleave rfl)
    obtain ⟨rfl, -⟩ := eq_of_conclude hconclude
    obtain ⟨outs, houts, rfl⟩ := steps_derivation hdone
    refine ⟨outs, last, houts, steps_foldl_add outs progress, fun key hkey => ?_⟩
    change Table.get? (outs.foldl Progress.add progress).outputs key = Table.get? progress.outputs key
    rw [outputs_foldl_add, Table.get?_update_of_notMem hkey]

end Live

end Run
end Walkthrough
