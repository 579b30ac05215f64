import Walkthrough.Proofs.Json.Token
import Walkthrough.Proofs.Patch.Paths
import Walkthrough.Proofs.Plan.Compile
import Walkthrough.Proofs.Repair.Attempt
import Walkthrough.Proofs.Run.Stops

/-! # What the built-in adapter proposes

Another target for the step of the plan that a failed click comes from. If that step is a click, the
proposal can be applied; but it may also be a login, and then the patch is refused. -/

namespace Walkthrough

open Schema (PathPart)

/-! ## Steps with another target -/

namespace Step

/-- A click that was read may be given another target. -/
theorem Reads.retarget {ms : Table Json} {target selector : Json} {s : String}
    (h : Reads (.obj ms) (.click target selector)) (hs : s ≠ "") :
    Reads (.obj (Table.set ms "target" (.str s))) (.click (.str s) selector) := by
  obtain ⟨_, hms, hc, hread⟩ := h
  obtain rfl := Json.obj.inj hms
  have hother : ∀ key, key ≠ "target" →
      Table.get? (Table.set ms "target" (.str s)) key = Table.get? ms key := by
    intro key hkey
    simp [Table.get?_set, Ne.symm hkey]
  have htarget : Table.get? (Table.set ms "target" (.str s)) "target" = some (.str s) := by
    simp [Table.get?_set]
  refine ⟨_, rfl, ⟨hc.known, (hother _ (by decide)).trans hc.tagged, ?_, ?_, ?_, .inl rfl⟩, ?_⟩
  · intro field hfield v hv
    by_cases hkey : field.1 = "target"
    · obtain rfl : field = ("target", .text) := by
        simp only [tag, shape, List.mem_cons, List.not_mem_nil, or_false] at hfield
        rcases hfield with rfl | rfl
        · rfl
        · exact absurd hkey (by decide)
      rw [htarget] at hv
      exact ⟨s, (Option.some.inj hv).symm, hs⟩
    · exact hc.admitted field hfield v ((hother _ hkey).symm.trans hv)
  · intro key hkey
    obtain rfl := List.mem_singleton.mp hkey
    exact ⟨_, htarget⟩
  · intro key v hv
    by_cases hkey : key = "target"
    · subst hkey
      simp [tag, fieldNames, shape]
    · exact hc.exclusive key v ((hother _ hkey).symm.trans hv)
  · obtain ⟨-, rfl⟩ := Step.click.inj (Option.some.inj hread)
    simp [tag, ofMembers?, text, optional, htarget, hother]

end Step

namespace Plan

/-- A login with a target is refused for it. -/
theorem checkStep_login_target {index : Nat} {username password : String} (hu : username ≠ "")
    (hp : password ≠ "") (target : Json) :
    checkStep index (.obj [("type", .str "login"), ("username", .str username),
        ("password", .str password), ("target", target)]) =
      .error (.grammar [.key "steps", .index index] (.breach (.unexpected ["target"]))) := by
  have htext : ∀ path (s : String), s ≠ "" → Schema.check path (.str s) textSchema = .ok [] :=
    fun path s hs => (FieldKind.check_schema_eq_nil_iff .text).mpr ⟨s, rfl, hs⟩
  have hviolations : (stepSchema "login").violations (.obj [("type", .str "login"),
      ("username", .str username), ("password", .str password), ("target", target)]) =
      .ok [.mk [] (.unexpected ["target"]) true []] := by
    simp [Schema.violations, stepSchema, stepSchemaOf, Schema.check_ofRules, Schema.checkRules_cons,
      Schema.checkRule, Schema.checkFields_cons, Table.get?_cons, htext _ _ hu, htext _ _ hp,
      Schema.Check.join, Schema.kind?, Kind.admits, Table.has, Table.keys, Json.str?]
  rw [checkStep, stepTag_obj rfl, conform, Schema.firstViolation?, hviolations]
  rfl

end Plan

/-! ## Patches of one operation -/

namespace Patch

theorem decimalValue_toDigits (n : Nat) : Text.decimalValue (Nat.toDigits 10 n) = n := by
  refine Eq.trans (List.foldl_ext _ _ _ fun m c hc => ?_) (Json.digitsValue_toDigits n)
  rw [digitValue?_of_isDigit (Json.isDigit_of_mem hc), Option.getD_some]

/-- The path of the target of a step. -/
def targetPath (index : Nat) : String :=
  "/steps/" ++ toString index ++ "/target"

theorem isPath_targetPath (index : Nat) :
    IsPath (targetPath index) (Nat.toDigits 10 index) "target" where
  some_digits := Nat.toDigits_ne_nil
  decimal c hc := isDecimal_of_isDigit (Json.isDigit_of_mem hc)
  listed := by decide
  spelled := ⟨"", by simp, by simp [targetPath]⟩

/-- The operation that gives a step the target that is proposed. -/
def retarget (index : Nat) : Operation :=
  ⟨.str "replace", .str (targetPath index), .str Repair.fallbackTarget⟩

theorem reads_retarget (index : Nat) :
    Operation.Reads (.obj [("op", .str "replace"), ("path", .str (targetPath index)),
      ("value", .str Repair.fallbackTarget)]) (retarget index) :=
  ⟨_, "replace", targetPath index, _, rfl, ⟨rfl, by decide⟩,
    ⟨rfl, isSome_address?_iff.mpr ⟨_, _, isPath_targetPath index⟩⟩, ⟨rfl, .inl ⟨_, rfl⟩⟩, rfl⟩

theorem parse_proposal {reason : String} (hreason : reason ≠ "") {items : List Json}
    {operations : List Operation} (hlength : items.length ≤ operationLimit)
    (h : List.Forall₂ Operation.Reads items operations) :
    parse (Repair.proposal reason items) = .ok ⟨.str reason, operations⟩ :=
  parse_eq_ok_iff.mpr ⟨_, reason, items, rfl, ⟨rfl, hreason⟩, ⟨rfl, hlength⟩, h, rfl⟩

theorem address?_targetPath (index : Nat) :
    address? (targetPath index) = some (Nat.toDigits 10 index, "target") :=
  address?_eq_some_iff.mpr (isPath_targetPath index)

section Retarget

variable {before after : List Json} {v : Json}

theorem overwriteAll_retarget
    (hshort : (Nat.toDigits 10 before.length).length ≤ Json.digitLimit) :
    overwriteAll (before ++ v :: after) [retarget before.length] =
      .ok (before ++ overwriteMember "target" (.str Repair.fallbackTarget) v :: after) := by
  have hwrite : overwrite (before ++ v :: after) (retarget before.length) =
      .ok (before ++ overwriteMember "target" (.str Repair.fallbackTarget) v :: after) := by
    refine overwrite_eq_ok_iff.mpr ⟨before.length, "target", ⟨⟨"replace", by decide, rfl⟩, _, _, rfl,
      address?_targetPath _, hshort, decimalValue_toDigits _⟩, by simp, ?_⟩
    simp [List.modify_eq_take_drop, retarget]
  simp [overwriteAll, hwrite]

theorem overwriteAll_retarget_overlong {index : Nat}
    (hlong : Json.digitLimit < (Nat.toDigits 10 index).length) (steps : List Json) :
    overwriteAll steps [retarget index] =
      .error (.value (.hugeInteger (Nat.toDigits 10 index).length)) := by
  have hknown : (Json.str "replace").str?.any ops.contains = true := by decide
  simp [overwriteAll, overwrite, retarget, hknown, address?_targetPath, indexOf, hlong]

end Retarget

section Applied

variable {p : Plan} {before after : List Step} {reason : Json}

theorem apply_retarget_click {target selector : Json} (hp : p.Accepted)
    (hsteps : p.steps = before ++ .click target selector :: after)
    (hshort : (Nat.toDigits 10 before.length).length ≤ Json.digitLimit) :
    apply p ⟨reason, [retarget before.length]⟩ =
      .ok { p with steps := before ++ .click (.str Repair.fallbackTarget) selector :: after } := by
  have hreads := hp.reads
  rw [hsteps] at hreads
  have hall := @overwriteAll_retarget (before.map Step.toJson) (after.map Step.toJson)
    (Step.click target selector).toJson (by simpa using hshort)
  rw [List.length_map, ← List.map_cons, ← List.map_append, ← hsteps] at hall
  have hnonempty : Repair.fallbackTarget ≠ "" := by decide
  have hthere := (hreads (.click target selector) (by simp)).retarget hnonempty
  have hkept : ∀ kept : List Step, (∀ s ∈ kept, s ∈ before ++ .click target selector :: after) →
      List.Forall₂ Step.Reads (kept.map Step.toJson) kept := by
    intro kept hsub
    rw [List.forall₂_map_left_iff, List.forall₂_same]
    exact fun s hs => hreads s (hsub s hs)
  have hread := List.rel_append (hkept before fun s hs => by simp [hs])
    (.cons hthere (hkept after fun s hs => by simp [hs]))
  exact (apply_eq_ok_iff hp).mpr ⟨by simp [operationLimit], _, hall, hread, rfl, rfl, rfl⟩

theorem apply_retarget_login {username password : Json} (hp : p.Accepted)
    (hsteps : p.steps = before ++ .login username password :: after)
    (hshort : (Nat.toDigits 10 before.length).length ≤ Json.digitLimit) :
    apply p ⟨reason, [retarget before.length]⟩ =
      .error (.patchRejected (.spoilsPlan [.key "steps", .index before.length]
        (.breach (.unexpected ["target"])))) := by
  have hreads := hp.reads
  rw [hsteps] at hreads
  have hlogin := hreads (.login username password) (by simp)
  obtain ⟨u, rfl, hu⟩ : FieldKind.text.Admits username :=
    hlogin.admits "username" (by simp [Step.fields]) (by simp [Step.shape, Step.tag])
      (by simp [Step.shape, Step.tag])
  obtain ⟨w, rfl, hw⟩ : FieldKind.text.Admits password :=
    hlogin.admits "password" (by simp [Step.fields]) (by simp [Step.shape, Step.tag])
      (by simp [Step.shape, Step.tag])
  have hall := @overwriteAll_retarget (before.map Step.toJson) (after.map Step.toJson)
    (Step.login (.str u) (.str w)).toJson (by simpa using hshort)
  have hwritten : overwriteMember "target" (.str Repair.fallbackTarget)
      (Step.login (.str u) (.str w)).toJson = .obj [("type", .str "login"), ("username", .str u),
        ("password", .str w), ("target", .str Repair.fallbackTarget)] := rfl
  rw [List.length_map, ← List.map_cons, ← List.map_append, ← hsteps, hwritten] at hall
  have htagged := tagged_overwriteAll hall
  have hbefore : Plan.checkSteps 0 (before.map Step.toJson) = .ok () := by
    refine (Plan.checkSteps_eq_ok_iff fun v hv => htagged v (by simp [hv])).mpr fun v hv => ?_
    obtain ⟨s, hs, rfl⟩ := List.mem_map.mp hv
    exact ⟨s, hreads s (by simp [hs])⟩
  have hstep := @Plan.checkStep_login_target (0 + (before.map Step.toJson).length) u w hu hw
    (.str Repair.fallbackTarget)
  have hchecked := Plan.checkSteps_eq_error_iff.mpr ⟨_, _, after.map Step.toJson, rfl, hbefore, hstep⟩
  have hvalidate := Plan.validate_of_conforms (conforms_set_steps hp (by simp)) htagged
  rw [hchecked] at hvalidate
  simp [apply, operationLimit, hall, withSteps_eq, hvalidate]

theorem apply_retarget_overlong {index : Nat}
    (hlong : Json.digitLimit < (Nat.toDigits 10 index).length) :
    apply p ⟨reason, [retarget index]⟩ =
      .error (.value (.hugeInteger (Nat.toDigits 10 index).length)) := by
  simp [apply, operationLimit, overwriteAll_retarget_overlong hlong]

end Applied

end Patch

/-! ## Proposals -/

theorem StepReport.isFailed_record (r : StepReport) :
    r.record.isFailed = decide (r.verdict = .failed) := by
  cases h : r.verdict <;> simp [StepRecord.isFailed, record, h, Verdict.name, Json.str?]

theorem Report.failedStep?_record (report : Report) :
    report.record.failedStep? = report.failedStep?.map StepReport.record := by
  have hsame : StepRecord.isFailed ∘ StepReport.record = fun r => decide (r.verdict = .failed) :=
    funext StepReport.isFailed_record
  rw [Record.failedStep?, record, List.find?_map, hsame, failedStep?]

namespace Repair

theorem sourceText_eq {primitives : List Primitive} {p : Primitive}
    (h : primitives[p.index]? = some p) :
    sourceText primitives (.int p.index) = .ok (toString p.source) := by
  obtain ⟨hlt, hget⟩ := List.getElem?_eq_some_iff.mp h
  have hnegative : ¬ ((p.index : Int) < 0) := by omega
  simp [sourceText, hlt, hnegative, hget]

/-- Why another target is proposed. -/
def reasonForTarget : String :=
  "Fallback selector refinement from failed click target"

/-- What is proposed where a step failed: one operation if it is a click, and else none. -/
theorem builtIn_answer {plan : Plan} {primitives : List Primitive} {report : Report} {r : StepReport}
    {p : Primitive} (hcompile : plan.compile = .ok primitives) (hfailed : report.failedStep? = some r)
    (htells : Run.Tells r p) (hp : primitives[p.index]? = some p) (number : Nat) (snapshot : String) :
    ∃ answer, builtIn.answer number (requestFor plan report snapshot) = .value answer ∧
      Patch.parse answer = .ok ⟨.str reasonForTarget,
        if p.kind = "click" then [Patch.retarget p.source] else []⟩ := by
  have hrecord : (requestFor plan report snapshot).record.failedStep? = some r.record := by
    rw [requestFor, report.failedStep?_record, hfailed, Option.map_some]
  have hkind : r.record.kind.str? = some p.kind := congrArg some htells.kind
  by_cases hclick : p.kind = "click"
  · have hsource : sourceText primitives r.record.index = .ok (toString p.source) := by
      rw [StepReport.record, htells.index]
      exact sourceText_eq hp
    refine ⟨proposal reasonForTarget [.obj [("op", .str "replace"),
      ("path", .str (Patch.targetPath p.source)), ("value", .str fallbackTarget)]], ?_, ?_⟩
    · have hplan : (requestFor plan report snapshot).plan = plan := rfl
      simp [builtIn, Adapter.ofAnswer, propose, hrecord, hkind, hclick, hplan, hcompile, hsource, bind,
        Except.bind, pure, Except.pure, reasonForTarget, Patch.targetPath]
    · rw [if_pos hclick]
      exact Patch.parse_proposal (by decide) (Nat.le_of_ble_eq_true rfl)
        (.cons (Patch.reads_retarget p.source) .nil)
  · refine ⟨proposal reasonForTarget [], ?_, ?_⟩
    · simp [builtIn, Adapter.ofAnswer, propose, hrecord, hkind, hclick, bind, Except.bind, pure,
        Except.pure, reasonForTarget]
    · rw [if_neg hclick]
      exact Patch.parse_proposal (by decide) (by decide) .nil

/-- What comes of the patch that is proposed where a primitive step of a plan failed. -/
inductive Proposed (plan : Plan) (p : Primitive) (patch : Patch) : Prop
  | nothing (kind : p.kind ≠ "click") (empty : patch.operations = [])
      (applies : patch.apply plan = .ok plan)
  | target {target selector : Json} (kind : p.kind = "click")
      (source : plan.steps[p.source]? = some (.click target selector))
      (applies : patch.apply plan =
        .ok { plan with steps := plan.steps.set p.source (.click (.str fallbackTarget) selector) })
  | login {username password : Json} (kind : p.kind = "click")
      (source : plan.steps[p.source]? = some (.login username password))
      (refused : patch.apply plan = .error (.patchRejected
        (.spoilsPlan [.key "steps", .index p.source] (.breach (.unexpected ["target"])))))
  | overlong (kind : p.kind = "click")
      (long : Json.digitLimit < (Nat.toDigits 10 p.source).length)
      (fails : patch.apply plan =
        .error (.value (.hugeInteger (Nat.toDigits 10 p.source).length)))

theorem proposed_of_accepted {plan : Plan} (hplan : plan.Accepted) {primitives : List Primitive}
    (hcompile : plan.compile = .ok primitives) {p : Primitive} (hp : p ∈ primitives) (reason : Json) :
    Proposed plan p ⟨reason, if p.kind = "click" then [Patch.retarget p.source] else []⟩ := by
  by_cases hclick : p.kind = "click"
  swap
  · rw [if_neg hclick]
    exact .nothing hclick rfl (Patch.apply_empty hplan reason)
  rw [if_pos hclick]
  by_cases hlong : Json.digitLimit < (Nat.toDigits 10 p.source).length
  · exact .overlong hclick hlong (Patch.apply_retarget_overlong hlong)
  obtain ⟨step, hstep, actions, hactions, hmem⟩ := Plan.exists_source_of_mem_compile hcompile hp
  obtain ⟨hlt, hget⟩ := List.getElem?_eq_some_iff.mp hstep
  have hsteps : plan.steps =
      plan.steps.take p.source ++ step :: plan.steps.drop (p.source + 1) := by
    rw [← hget, ← List.drop_eq_getElem_cons hlt, List.take_append_drop]
  have hlength : (plan.steps.take p.source).length = p.source := List.length_take_of_le hlt.le
  have hset : ∀ new, plan.steps.set p.source new =
      plan.steps.take p.source ++ new :: plan.steps.drop (p.source + 1) :=
    fun new => List.set_eq_take_append_cons_drop.trans (if_pos hlt)
  have hshort : (Nat.toDigits 10 (plan.steps.take p.source).length).length ≤ Json.digitLimit := by
    rw [hlength]
    omega
  -- A click comes of a click, or of a login.
  have htag : step.tag = "click" ∨ step.tag = "login" := by
    rcases Action.kind_of_ofStep hactions hmem with htag | ⟨htag, -⟩
    · exact .inl (htag.symm.trans hclick)
    · exact .inr htag
  cases step with
  | click target selector =>
      have happly := @Patch.apply_retarget_click plan _ _ reason target selector hplan hsteps hshort
      rw [hlength, ← hset] at happly
      exact .target hclick hstep happly
  | login username password =>
      have happly := @Patch.apply_retarget_login plan _ _ reason username password hplan hsteps hshort
      rw [hlength] at happly
      exact .login hclick hstep happly
  | goto | fill | expect | waitFor | extractTextList => simp [Step.tag] at htag

variable {σ : Type}

open Run Effect

/-- After a failed run the built-in adapter answers with a patch for the step that failed. It is empty
unless this is a click, and gives the step that the click comes from the fallback target. The patch is
refused if that step is a login, and fails if its number has too many digits; else it is applied. -/
theorem proposal_applies_unless_login {host : Host σ} {options : RunOptions} {raw : Json} {plan : Plan}
    {report : Report} {w final : World σ} (hplan : Plan.validate raw = .ok plan)
    (hlive : options.dryRun = false) (hrun : outcome (run host options plan) w = (.ok report, final))
    (hfailed : report.verdict = .failed) (number : Nat) (snapshot : String) :
    ∃ primitives p r answer patch, plan.compile = .ok primitives ∧
      report.failedStep? = some r ∧ primitives[r.index]? = some p ∧ r.kind = p.kind ∧
      builtIn.answer number (requestFor plan report snapshot) = .value answer ∧
      Patch.parse answer = .ok patch ∧ Proposed plan p patch := by
  obtain ⟨known, outs, start, stopped, closed, saved, hran⟩ := exists_ran hlive hrun
  obtain ⟨p, out, hstops⟩ := hran.exists_stopsAt hfailed
  obtain ⟨hstep, htells, hp⟩ := hran.failedStep?_eq hstops
  obtain ⟨answer, hanswer, hparse⟩ := builtIn_answer hran.compiles hstep htells hp number snapshot
  exact ⟨known.primitives, p, out.report, answer, _, hran.compiles, hstep, htells.index ▸ hp,
    htells.kind, hanswer, hparse, proposed_of_accepted (Plan.accepted_of_validate hplan) hran.compiles
      (List.mem_of_getElem? hp) _⟩

/-- A click on a page without its target: the plan gets another target. -/
theorem proposal_applies_unless_login_click :
    let page : Json := .str "https://example.com/"
    let plan : Plan := ⟨.str "1", .null, .null, [.goto page, .click (.str "Help") .null]⟩
    let host : Host Page := ⟨Page.browser, [], some []⟩
    let w : World Page := ⟨.blank, 0, .empty [], .empty Profile.defaultDomain, 0, [], [], []⟩
    Plan.validate plan.toJson = .ok plan ∧ RunOptions.usual.dryRun = false ∧
      ∃ report final p patch, outcome (run host .usual plan) w = (.ok report, final) ∧
        report.verdict = .failed ∧ Proposed plan p patch := by
  intro page plan host w
  have hplan : Plan.validate plan.toJson = .ok plan := rfl
  have hended : endsIn (run host .usual plan) w (fun report _ =>
      decide (report.verdict = .failed)) = true := by
    decide +kernel
  obtain ⟨report, final, hrun, hfailed⟩ := endsIn_iff.mp hended
  have hverdict := of_decide_eq_true hfailed
  obtain ⟨_, p, _, _, patch, -, -, -, -, -, -, hproposed⟩ :=
    proposal_applies_unless_login hplan rfl hrun hverdict 1 ""
  exact ⟨hplan, rfl, report, final, p, patch, hrun, hverdict, hproposed⟩

/-- A login on a page without a button to sign in: the patch that is proposed is refused. -/
theorem proposal_for_login_is_refused :
    let plan : Plan := ⟨.str "1", .null, .null, [.login (.str "ada") (.str "pw")]⟩
    let host : Host Page := ⟨Page.browser, [], some []⟩
    let page : Page := { Page.blank with
      elements := [("label:username", []), ("label:password", [])] }
    let w : World Page := ⟨page, 0, .empty [], .empty Profile.defaultDomain, 0, [], [], []⟩
    Plan.validate plan.toJson = .ok plan ∧
      endsIn (run host .usual plan) w (fun report _ =>
        report.verdict == .failed && (match builtIn.answer 1 (requestFor plan report "") with
          | .value answer => (match Patch.amend plan answer with
            | .error (.patchRejected (.spoilsPlan ..)) => true
            | _ => false)
          | _ => false)) = true :=
  ⟨rfl, by decide +kernel⟩

end Repair
end Walkthrough
