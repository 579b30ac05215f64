import Walkthrough.Proofs.Plan.Compile
import Walkthrough.Proofs.Run.Failing

/-! # Guards

Actions check their own arguments before they do anything. The grammar lets all arguments through that
pass, and with them targets and fields of blanks only, of which nothing is left once they are compiled. -/

namespace Walkthrough

open Effect

variable {σ : Type}

/-! ## Steps that trip a guard -/

/-- The failures that guards fail with. -/
def ValueFault.isGuard : ValueFault → Bool
  | .unknownStep _ | .missingEntry _ | .noCondition _ => true
  | _ => false

def Failure.isGuard : Failure → Bool
  | .value fault => fault.isGuard
  | _ => false

namespace Step

/-- A step with a text of blanks only in place of its target or its field. -/
inductive Blank : Step → String → Prop
  | click {s : String} {selector : Json} (strips : Text.strip s = "") :
      Blank (.click (.str s) selector) "target"
  | fill {s : String} {value selector : Json} (strips : Text.strip s = "") :
      Blank (.fill (.str s) value selector) "field"

end Step

namespace Action

variable {action : Action}

theorem lacks_eq_false {keys : List String} {key s : String} (hkey : key ∈ keys)
    (h : Table.get? action.payload key = some (.str s)) : action.lacks keys = false := by
  rw [lacks, List.all_eq_false]
  exact ⟨key, hkey, by simp [Stage.text?, h, Json.str?]⟩

end Action

namespace Step

variable {raw : Json} {s : Step}

/-- A step with conditions that was read sets one of them, to a value of its kind. -/
theorem Reads.exists_condition (h : Reads raw s) (hkeys : Plan.conditionKeys s.tag ≠ []) :
    ∃ key ∈ Plan.conditionKeys s.tag, ∃ v kind, (key, kind) ∈ (shape s.tag).fields ∧
      Table.get? (s.fields.filter fun field => field.2.isSet) key = some v ∧ kind.Admits v ∧
      v.settle = v := by
  obtain ⟨ms, hms, hc, -⟩ := h.toJson
  obtain rfl : s.members = ms := Json.obj.inj hms
  obtain ⟨key, hone⟩ := hc.condition.resolve_left hkeys
  obtain ⟨hkey, hhas⟩ := List.mem_filter.mp (hone ▸ List.mem_singleton_self key :
    key ∈ (Plan.conditionKeys s.tag).filter (Table.has s.members))
  obtain ⟨v, hv⟩ := Option.isSome_iff_exists.mp ((Table.has_eq_isSome _ _).symm.trans hhas)
  obtain ⟨field, hfield, rfl⟩ := List.mem_map.mp (conditionKeys_subset hkey)
  refine ⟨field.1, hkey, v, field.2, hfield, ?_, hc.admitted field hfield v hv, h.get?_settled hv⟩
  have htype : field.1 ≠ "type" := by
    intro htype
    rw [htype] at hkey
    unfold Plan.conditionKeys at hkey
    split at hkey <;> revert hkey <;> decide
  rwa [members, Table.get?_cons_of_ne htype.symm] at hv

/-- The conditions of a step that was read let its action through. -/
theorem Reads.guard_expect {textVisible urlIncludes elementVisible timeoutMs : Json}
    (h : Reads raw (.expect textVisible urlIncludes elementVisible timeoutMs)) {action : Action}
    (hmem : Action.ofStep (.expect textVisible urlIncludes elementVisible timeoutMs) = .ok [action]) :
    action.guard = .ok () := by
  obtain ⟨key, hkey, v, kind, hkind, hv, hadmits, -⟩ :=
    h.exists_condition (by simp [tag, Plan.conditionKeys])
  obtain rfl := List.singleton_inj.mp (Except.ok.inj hmem)
  have htext : kind = .text := by
    revert hkind hkey
    simp only [tag, shape, Plan.conditionKeys, List.mem_cons, List.not_mem_nil, or_false, Prod.mk.injEq]
    rintro (rfl | rfl | rfl) <;> simp
  obtain ⟨s, rfl, -⟩ : FieldKind.text.Admits v := htext ▸ hadmits
  have hlacks : Action.lacks ⟨"expect", "expect condition", Action.setArguments
      [("textVisible", textVisible), ("urlIncludes", urlIncludes),
        ("elementVisible", elementVisible), ("timeoutMs", timeoutMs)]⟩
      ["textVisible", "urlIncludes", "elementVisible"] = false :=
    Action.lacks_eq_false hkey hv
  simp [Action.guard, hlacks]

theorem Reads.guard_waitFor {textVisible selector timeoutMs : Json}
    (h : Reads raw (.waitFor textVisible selector timeoutMs)) {action : Action}
    (hmem : Action.ofStep (.waitFor textVisible selector timeoutMs) = .ok [action]) :
    action.guard = .ok () := by
  obtain ⟨key, hkey, v, kind, hkind, hv, hadmits, hsettled⟩ :=
    h.exists_condition (by simp [tag, Plan.conditionKeys])
  obtain rfl := List.singleton_inj.mp (Except.ok.inj hmem)
  have htext : ∀ key ∈ ["textVisible", "selector"], ∀ s, Table.get? (Action.setArguments
      [("textVisible", textVisible), ("selector", selector), ("timeoutMs", timeoutMs)]) key =
        some (.str s) → Action.guard ⟨"waitFor", "wait for condition", Action.setArguments
          [("textVisible", textVisible), ("selector", selector), ("timeoutMs", timeoutMs)]⟩ = .ok () := by
    intro key hkey s hs
    have hlacks : Action.lacks ⟨"waitFor", "wait for condition", Action.setArguments
        [("textVisible", textVisible), ("selector", selector), ("timeoutMs", timeoutMs)]⟩
        ["textVisible", "selector"] = false := Action.lacks_eq_false hkey hs
    simp [Action.guard, hlacks]
  simp only [tag, shape, List.mem_cons, List.not_mem_nil, or_false, Prod.mk.injEq] at hkind
  rcases hkind with ⟨rfl, rfl⟩ | ⟨rfl, rfl⟩ | ⟨rfl, rfl⟩
  · obtain ⟨s, rfl, -⟩ := hadmits
    exact htext _ (by simp) s hv
  · obtain ⟨s, rfl, -⟩ := hadmits
    exact htext _ (by simp) s hv
  · obtain ⟨n, hn, -⟩ := hadmits
    obtain rfl : v = .int n := hsettled.symm.trans hn
    have hcount : Table.get? (Action.setArguments [("textVisible", textVisible),
        ("selector", selector), ("timeoutMs", timeoutMs)]) "timeoutMs" = some (.int n) := hv
    simp [Action.guard, hcount, Json.toInt?]

theorem Reads.exists_text (h : Reads raw s) (key : String) {v : Json} (hv : (key, v) ∈ s.fields)
    (hkind : (key, FieldKind.text) ∈ (shape s.tag).fields) (hrequired : key ∈ (shape s.tag).required) :
    ∃ t, v = .str t ∧ t ≠ "" :=
  h.admits key hv hkind hrequired

/-- The action of a step that was read trips its guard if and only if the step has a blank target or a
blank field. -/
theorem Reads.guard_eq_error_iff (h : Reads raw s) {actions : List Action}
    (hactions : Action.ofStep s = .ok actions) {action : Action} (hmem : action ∈ actions)
    {failure : Failure} :
    action.guard = .error failure ↔ ∃ key, s.Blank key ∧ failure = .value (.missingEntry key) := by
  have hpasses : action.guard = .ok () → (∀ key, ¬ s.Blank key) →
      (action.guard = .error failure ↔ ∃ key, s.Blank key ∧ failure = .value (.missingEntry key)) := by
    intro hok hblank
    rw [hok]
    constructor
    · intro hfailure
      cases hfailure
    · rintro ⟨key, hkey, -⟩
      exact absurd hkey (hblank key)
  have htrips : ∀ key, action.guard = .error (.value (.missingEntry key)) → s.Blank key →
      (∀ other, s.Blank other → other = key) →
      (action.guard = .error failure ↔ ∃ key, s.Blank key ∧ failure = .value (.missingEntry key)) := by
    intro key hguard hblank honly
    rw [hguard]
    constructor
    · intro hfailure
      exact ⟨key, hblank, (Except.error.inj hfailure).symm⟩
    · rintro ⟨other, hother, rfl⟩
      rw [honly other hother]
  cases s with
  | goto url =>
      obtain rfl := Except.ok.inj hactions
      obtain rfl := List.mem_singleton.mp hmem
      obtain ⟨t, rfl, ht, -⟩ : FieldKind.url.Admits url :=
        h.admits "url" (by simp [fields]) (by simp [shape, tag]) (by simp [shape, tag])
      exact hpasses (by simp [Action.guard, Action.ensure, Stage.ensureText, ht]) fun key hblank => by cases hblank
  | click target selector =>
      obtain ⟨t, rfl, -⟩ := h.exists_text "target" (v := target) (by simp [fields])
        (by simp [shape, tag]) (by simp [shape, tag])
      obtain rfl := Except.ok.inj hactions
      obtain rfl := List.mem_singleton.mp hmem
      by_cases hstrip : Text.strip t = ""
      · refine htrips "target" ?_ (.click hstrip) fun other hother => by cases hother; rfl
        simp [Action.guard, Action.ensure, Stage.ensureText, hstrip]
      · refine hpasses ?_ fun key hblank => by cases hblank; contradiction
        simp [Action.guard, Action.ensure, Stage.ensureText, hstrip]
  | fill field value selector =>
      obtain ⟨t, rfl, -⟩ := h.exists_text "field" (v := field) (by simp [fields])
        (by simp [shape, tag]) (by simp [shape, tag])
      obtain ⟨u, rfl, hu⟩ := h.exists_text "value" (v := value) (by simp [fields])
        (by simp [shape, tag]) (by simp [shape, tag])
      obtain rfl := Except.ok.inj hactions
      obtain rfl := List.mem_singleton.mp hmem
      by_cases hstrip : Text.strip t = ""
      · refine htrips "field" ?_ (.fill hstrip) fun other hother => by cases hother; rfl
        simp [Action.guard, Action.ensure, Stage.ensureText, hstrip]
      · refine hpasses ?_ fun key hblank => by cases hblank; contradiction
        simp [Action.guard, Action.ensure, Stage.ensureText, Table.get?_cons, hstrip, hu]
  | expect textVisible urlIncludes elementVisible timeoutMs =>
      obtain rfl := Except.ok.inj hactions
      obtain rfl := List.mem_singleton.mp hmem
      exact hpasses (h.guard_expect rfl) fun key hblank => by cases hblank
  | login username password =>
      obtain ⟨t, rfl, ht⟩ := h.exists_text "username" (v := username) (by simp [fields])
        (by simp [shape, tag]) (by simp [shape, tag])
      obtain ⟨u, rfl, hu⟩ := h.exists_text "password" (v := password) (by simp [fields])
        (by simp [shape, tag]) (by simp [shape, tag])
      obtain rfl := Except.ok.inj hactions
      refine hpasses ?_ fun key hblank => by cases hblank
      simp only [Action.login, List.mem_cons, List.not_mem_nil, or_false] at hmem
      rcases hmem with rfl | rfl | rfl | rfl
      · simp [Action.guard, Action.ensure, Stage.ensureText, Table.get?_cons, ht]
      · simp [Action.guard, Action.ensure, Stage.ensureText, Table.get?_cons, hu]
      · rfl
      · rfl
  | waitFor textVisible selector timeoutMs =>
      obtain rfl := Except.ok.inj hactions
      obtain rfl := List.mem_singleton.mp hmem
      exact hpasses (h.guard_waitFor rfl) fun key hblank => by cases hblank
  | extractTextList selector outputKey limit =>
      obtain ⟨t, rfl, ht⟩ := h.exists_text "selector" (v := selector) (by simp [fields])
        (by simp [shape, tag]) (by simp [shape, tag])
      obtain ⟨u, rfl, hu⟩ := h.exists_text "outputKey" (v := outputKey) (by simp [fields])
        (by simp [shape, tag]) (by simp [shape, tag])
      obtain rfl := Except.ok.inj hactions
      obtain rfl := List.mem_singleton.mp hmem
      refine hpasses ?_ fun key hblank => by cases hblank
      simp [Action.guard, Action.ensure, Stage.ensureText, Table.get?_cons, ht, hu]

end Step

/-! ## Stages -/

namespace Stage

variable {stage : Stage σ} {fair : σ → List Call → Prop} {p : Failure → Prop}

/-- A browser that fails with nothing that a guard fails with makes a stage where only guards do. -/
theorem conducts_of_unguarded
    (hb : stage.browser.Behaves fair (fun _ => True) fun failure => failure.isGuard = false) :
    stage.Conducts fair (fun _ => True) (fun failure => failure.isGuard = false)
      fun failure => failure.isGuard = false where
  toBehaves := hb
  free _ := trivial
  raised := id
  unresolved _ _ := rfl
  timedOut _ _ := rfl
  missing _ := rfl
  late h := by
    unfold Clock.seconds at h
    split at h
    · cases h
      rfl
    · cases h

end Stage

namespace Run

/-! ## Actions -/

/-- How the action of a step ends: with the failure of a guard if the step has a blank target or field,
and else with no failure of a guard. -/
structure Trips (step : Step) (x : Work σ (Option Extract)) (w : World σ) : Prop where
  blank {key : String} (h : step.Blank key) : outcome x w = (.error (.value (.missingEntry key)), w)
  plain (h : ∀ key, ¬ step.Blank key) :
    FailsOnly (fun failure => failure.isGuard = false) (outcome x w).1

/-- The report of a step that blames a guard if and only if the step has a blank target or field. -/
inductive Blames (step : Step) (r : StepReport) : Prop
  | blank {key : String} (blank : step.Blank key) (verdict : r.verdict = .failed)
      (error : r.error = some (Failure.value (.missingEntry key)).message) : Blames step r
  | failed {failure : Failure} (plain : ∀ key, ¬ step.Blank key) (verdict : r.verdict = .failed)
      (error : r.error = some failure.message) (other : failure.isGuard = false) : Blames step r
  | passed (plain : ∀ key, ¬ step.Blank key) (verdict : r.verdict = .passed) : Blames step r

section Guards

variable {stage : Stage σ} {fair : σ → List Call → Prop} {domain : String}
  (hb : stage.browser.Behaves fair (fun _ => True) fun failure => failure.isGuard = false)
include hb

theorem trips_act {raw : Json} {step : Step} (h : Step.Reads raw step) {actions : List Action}
    (hactions : Action.ofStep step = .ok actions) {action : Action} (hmem : action ∈ actions)
    {w : World σ} (hw : w.Fair fair domain) : Trips step (stage.act action) w where
  blank hkey := by
    rw [Stage.act_of_guard ((h.guard_eq_error_iff hactions hmem).mpr ⟨_, hkey, rfl⟩)]
    rfl
  plain hplain := by
    refine ((Stage.conducts_of_unguarded hb).act (fun _ _ _ => trivial) (fun failure hguard => ?_) hw).2
    obtain ⟨key, hkey, -⟩ := (h.guard_eq_error_iff hactions hmem).mp hguard
    exact absurd hkey (hplain key)

theorem blames_of_derivation {raw : Json} {step : Step} (h : Step.Reads raw step)
    {actions : List Action} (hactions : Action.ofStep step = .ok actions) {p : Primitive}
    (hmem : p.toAction ∈ actions) {w w' : World σ} (hw : w.Fair fair domain) {out : Stage.Outcome}
    (hout : StepDerivation stage p w w' out) : Blames step out.report := by
  have htrips : ∀ begun : World σ,
      outcome (stage.log .info s!"Step {p.index + 1}: {p.description}") w = (.ok (), begun) →
      Trips step (stage.act p.toAction) begun := by
    intro begun hbegins
    have hlogged := (upholds_logTo (p := fun _ => True) stage.runDir .info
      s!"Step {p.index + 1}: {p.description}" hw).1
    rw [show outcome (logTo stage.runDir .info s!"Step {p.index + 1}: {p.description}") w = _ from
      hbegins] at hlogged
    exact trips_act hb h hactions hmem hlogged
  cases hout with
  | passed begins acts =>
      refine .passed (fun key hkey => ?_) rfl
      have hblank := (htrips _ begins).blank hkey
      rw [acts] at hblank
      cases hblank
  | failed begins acts foreseen warns keeps =>
      by_cases hblank : ∃ key, step.Blank key
      · obtain ⟨key, hkey⟩ := hblank
        have hfails := (htrips _ begins).blank hkey
        rw [acts] at hfails
        cases hfails
        exact .blank hkey rfl rfl
      · rw [not_exists] at hblank
        exact .failed hblank rfl rfl ((htrips _ begins).plain hblank _ (by rw [acts]))

end Guards

/-! ## Runs -/

/-- A compiled step of an accepted plan trips its guard if and only if the step that it comes from has a
target or field of blanks only; it then fails with that as the missing text, and does nothing. A live
run that gives a report blames a guard for these steps and for no others. -/
theorem guards_trip_on_blanks (host : Host σ) (options : RunOptions) {fair : σ → List Call → Prop}
    (hb : host.browser.Behaves fair (fun _ => True) fun failure => failure.isGuard = false)
    {raw : Json} {plan : Plan} (hplan : Plan.validate raw = .ok plan) :
    ∃ primitives, plan.compile = .ok primitives ∧
      (∀ p ∈ primitives, ∃ step, plan.steps[p.source]? = some step ∧
        ∀ secrets runDir (w : World σ), fair w.browser (callsIn w.events) →
          Trips step (Stage.act ⟨host.browser, options.timeoutMs, secrets, runDir⟩ p.toAction) w) ∧
      ∀ report (w final : World σ), options.dryRun = false → fair w.browser (callsIn w.events) →
        outcome (run host options plan) w = (.ok report, final) →
        List.Forall₂ (fun r p => ∃ step, plan.steps[p.source]? = some step ∧ Blames step r)
          report.steps (primitives.take report.steps.length) := by
  have haccepted := Plan.accepted_of_validate hplan
  obtain ⟨primitives, hcompile⟩ : ∃ primitives, plan.compile = .ok primitives :=
    haccepted.exists_ofTagged 0 0
  have hsource : ∀ p ∈ primitives, ∃ step, plan.steps[p.source]? = some step ∧
      Step.Reads step.toJson step ∧
      ∃ actions, Action.ofStep step = .ok actions ∧ p.toAction ∈ actions := by
    intro p hp
    obtain ⟨step, hstep, hactions⟩ := Plan.exists_source_of_mem_compile hcompile hp
    exact ⟨step, hstep, haccepted.reads step (List.mem_of_getElem? hstep), hactions⟩
  refine ⟨primitives, hcompile, fun p hp => ?_, fun report w final hlive hfair hrun => ?_⟩
  · obtain ⟨step, hstep, hreads, actions, hactions, hmem⟩ := hsource p hp
    exact ⟨step, hstep, fun secrets runDir w hw =>
      trips_act hb hreads hactions hmem (show w.Fair fair w.profile.domain from ⟨hw, rfl⟩)⟩
  · obtain ⟨known, progress, start, stopped, closed, saved, hphases⟩ := exists_phases hlive hrun
    obtain ⟨rfl, -⟩ := eq_of_conclude hphases.concludes
    obtain ⟨loaded, hprepared, -⟩ := begun_eq_ok_iff.mp hphases.begins
    obtain rfl : known.primitives = primitives :=
      Except.ok.inj ((compile_of_prepare hprepared).1.symm.trans hcompile)
    have hstage : Conducts fair (fun _ => True) (fun failure => failure.isGuard = false)
        (fun _ => True) host options := fun _ _ => Stage.conducts_of_behaves hb fun _ _ => trivial
    have hstart := fair_of_begun hstage hfair hphases.begins
    obtain ⟨outs, houts, rfl⟩ := stepsDerivation_iff.mpr hphases.works
    have hstep : ∀ p ∈ known.primitives, ∀ (v v' : World σ) (out : Stage.Outcome),
        v.Fair fair start.profile.domain → StepDerivation (known.stage host options) p v v' out →
        v'.Fair fair start.profile.domain ∧
          ∃ step, plan.steps[p.source]? = some step ∧ Blames step out.report := by
      intro p hp v v' out hv hout
      obtain ⟨step, hstep, hreads, actions, hactions, hmem⟩ := hsource p hp
      have hran : Upholds (World.Fair fair start.profile.domain) (fun _ => True)
          ((known.stage host options).run p) :=
        (hstage known.secrets (known.directory options)).run
          ⟨fun _ _ => trivial, fun _ _ => trivial⟩ (hasNull_of_prepare hprepared)
          (fun _ _ _ => trivial) (fun _ _ => trivial)
      have hafter := (hran hv).1
      rw [hout.execution] at hafter
      exact ⟨hafter, step, hstep, blames_of_derivation hb hreads hactions hmem hv hout⟩
    simpa [Prepared.report, steps_foldl_add] using houts.forall₂ _
      (fun r p => ∃ step, plan.steps[p.source]? = some step ∧ Blames step r) hstep hstart

/-- A field of blanks is compiled to an empty one, and is missed when the run comes to it. -/
theorem guards_trip_on_blanks_field :
    let plan : Plan := ⟨.str "1", .null, .null, [.goto (.str "https://example.com/"),
      .fill (.str "\t ") (.str "x") .null]⟩
    let host : Host Page := ⟨Page.browser, [], some []⟩
    let w : World Page := ⟨.blank, 0, .empty [], .empty Profile.defaultDomain, 0, [], [], []⟩
    Plan.validate plan.toJson = .ok plan ∧
      ∃ primitives report final, plan.compile = .ok primitives ∧
        outcome (run host .usual plan) w = (.ok report, final) ∧
        report.steps.map StepReport.error = [none, some "Missing field"] ∧
        List.Forall₂ (fun r p => ∃ step, plan.steps[p.source]? = some step ∧ Blames step r)
          report.steps (primitives.take report.steps.length) := by
  intro plan host w
  have hplan : Plan.validate plan.toJson = .ok plan := rfl
  have hpage : Page.FailsBy (fun failure => failure.isGuard = false) w.browser := nofun
  have hended : endsIn (run host .usual plan) w (fun report _ =>
      report.steps.map StepReport.error == [none, some "Missing field"]) = true := by
    decide +kernel
  obtain ⟨report, final, hrun, herrors⟩ := endsIn_iff.mp hended
  obtain ⟨primitives, hcompile, -, hreports⟩ := guards_trip_on_blanks host .usual
    (Page.behaves_browser (fun _ => rfl) _) hplan
  exact ⟨hplan, primitives, report, final, hcompile, hrun, eq_of_beq herrors,
    hreports report w final rfl hpage hrun⟩

/-- A plan with a target of blanks is accepted, and its only step fails with the failure of a guard. -/
theorem blank_target_trips_guard :
    let plan : Plan := ⟨.str "1", .null, .null, [.click (.str " ") .null]⟩
    let host : Host Page := ⟨Page.browser, [], some []⟩
    let stage : Stage Page := ⟨Page.browser, RunOptions.defaultTimeout, [], ⟨"", ["runs"]⟩⟩
    let w : World Page := ⟨.blank, 0, .empty [], .empty Profile.defaultDomain, 0, [], [], []⟩
    Plan.validate plan.toJson = .ok plan ∧
      (∃ p, plan.compile = .ok [p] ∧
        (outcome (stage.act p.toAction) w).1 = .error (.value (.missingEntry "target"))) ∧
      endsIn (run host .usual plan) w (fun report _ =>
        report.steps.map StepReport.error == [some "Missing target"]) = true := by
  intro plan host stage w
  exact ⟨rfl, ⟨_, rfl, rfl⟩, by decide +kernel⟩

end Run
end Walkthrough
