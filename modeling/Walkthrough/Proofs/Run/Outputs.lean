import Mathlib.Data.List.Forall2
import Walkthrough.Proofs.Run.Continuation
import Walkthrough.Proofs.Run.Learning
import Walkthrough.Proofs.Run.Stops
import Walkthrough.Proofs.Text.Words

/-! # Outputs

A step that extracts a list of texts passes if its rows can be counted and as many of them read as it
asks for. What it lists of them is what a run puts under its output key, and a report has under each key
the list that was put there last. -/

namespace Walkthrough

open Effect

variable {σ : Type}

/-! ## Extractions -/

namespace Browser

variable {b : Browser σ} {key : Key} {index n : Nat} {state : σ}

/-- The texts of a number of rows from an index on, in order, if each of them can be read. -/
def rows? (b : Browser σ) (key : Key) : Nat → Nat → σ → Option (List String)
  | _, 0, _ => some []
  | index, n + 1, state =>
    match (b.innerText key index state).answer with
    | .ok row => (b.rows? key (index + 1) n (b.innerText key index state).state).map (row :: ·)
    | .error _ => none

theorem length_of_rows? {rows : List String} (h : b.rows? key index n state = some rows) :
    rows.length = n := by
  induction n generalizing index state rows with
  | zero =>
      obtain rfl := Option.some.inj h
      rfl
  | succ n ih =>
      unfold rows? at h
      split at h
      · obtain ⟨rest, hrest, rfl⟩ := Option.map_eq_some_iff.mp h
        rw [List.length_cons, ih hrest]
      · cases h

end Browser

namespace Text

/-- What is listed of some rows: the words of each, one space apart, but for rows without words. -/
def listed (rows : List String) : List String :=
  (rows.map fun row => spaced (words row)).filter (· ≠ "")

theorem listed_cons (row : String) (rows : List String) :
    listed (row :: rows) = if collapse row = "" then listed rows else collapse row :: listed rows := by
  rw [listed, listed, List.map_cons, List.filter_cons, collapse_eq_spaced]
  simp only [decide_eq_true_eq, ne_eq, ite_not]

theorem tidy_of_mem_listed {rows : List String} {s : String} (h : s ∈ listed rows) : Tidy s := by
  obtain ⟨hmem, hne⟩ := List.mem_filter.mp h
  obtain ⟨row, -, rfl⟩ := List.mem_map.mp hmem
  rw [← collapse_eq_spaced] at hne ⊢
  exact tidy_collapse (of_decide_eq_true hne)

theorem length_listed_le (rows : List String) : (listed rows).length ≤ rows.length :=
  (List.length_filter_le _ _).trans_eq (List.length_map _)

end Text

namespace Action

/-- How many rows a step asks for at most: its limit, or five if it sets none. -/
def rowLimit (limit : Json) : Int :=
  limit.toInt?.getD defaultLimit

/-- An action extracts texts if its step does. -/
theorem extracts_iff {step : Step} {actions : List Action} (h : ofStep step = .ok actions)
    {action : Action} (hmem : action ∈ actions) :
    action.kind = "extractTextList" ↔ step.tag = "extractTextList" := by
  rcases kind_of_ofStep h hmem with hkind | ⟨htag, -⟩
  · rw [hkind]
  · cases step with
    | login username password =>
        obtain rfl := Except.ok.inj h
        simp only [login, List.mem_cons, List.not_mem_nil, or_false] at hmem
        rcases hmem with rfl | rfl | rfl | rfl <;> simp [Step.tag]
    | goto | click | fill | expect | waitFor | extractTextList => simp [Step.tag] at htag

end Action

namespace Step

variable {b : Browser σ} {state : σ} {step : Step} {raw : Json}

/-- What a step extracts that begins in a state of the browser: under its output key, what is listed of
the rows that it asks for, or of all if there are fewer. A step that is no extraction extracts nothing,
nor does one whose rows cannot be counted or read. -/
def extraction? (b : Browser σ) (state : σ) : Step → Option Extract
  | .extractTextList (.str selector) (.str outputKey) limit =>
    match (b.count (.css selector) state).answer with
    | .ok count =>
      (b.rows? (.css selector) 0 (min (Action.rowLimit limit) count).toNat
        (b.count (.css selector) state).state).map fun rows => (outputKey, Text.listed rows)
    | .error _ => none
  | _ => none

/-- An extraction is of a step with a limit, and has at most as many texts, all tidy. -/
theorem exists_of_extraction? {key : String} {texts : List String}
    (h : step.extraction? b state = some (key, texts)) :
    ∃ selector limit, step = .extractTextList (.str selector) (.str key) limit ∧
      texts.length ≤ (Action.rowLimit limit).toNat ∧ ∀ s ∈ texts, Text.Tidy s := by
  unfold extraction? at h
  split at h
  · rename_i selector outputKey limit
    split at h
    · rename_i count hcount
      obtain ⟨rows, hrows, hextract⟩ := Option.map_eq_some_iff.mp h
      obtain ⟨rfl, rfl⟩ := Prod.mk.inj hextract
      refine ⟨selector, limit, rfl, ?_, fun s hs => Text.tidy_of_mem_listed hs⟩
      have hlength := (Text.length_listed_le rows).trans_eq (Browser.length_of_rows? hrows)
      omega
    · cases h
  · cases h

/-- Only extractions extract anything. -/
theorem extraction?_of_ne (h : step.tag ≠ "extractTextList") : step.extraction? b state = none := by
  cases hextract : step.extraction? b state with
  | none => rfl
  | some extract =>
      obtain ⟨selector, limit, rfl, -⟩ := exists_of_extraction? hextract
      exact absurd rfl h

/-- A step that was read asks for one row at least. -/
theorem Reads.one_le_rowLimit {selector outputKey limit : Json}
    (h : Reads raw (.extractTextList selector outputKey limit)) : 1 ≤ Action.rowLimit limit := by
  cases hset : limit.isSet with
  | false =>
      obtain rfl : limit = .null := by
        cases limit <;> first | rfl | cases hset
      decide
  | true =>
      have hmem : ("limit", limit) ∈ (Step.extractTextList selector outputKey limit).members :=
        List.mem_cons_of_mem _ (List.mem_filter.mpr ⟨by simp [fields], hset⟩)
      obtain ⟨htype, -⟩ | ⟨kind, hkind, hadmits, hsettled⟩ := h.admits_of_mem hmem
      · exact absurd htype (by decide)
      simp only [tag, shape, List.mem_cons, List.not_mem_nil, or_false, Prod.mk.injEq] at hkind
      obtain ⟨hkey, -⟩ | ⟨hkey, -⟩ | ⟨-, rfl⟩ := hkind
      · exact absurd hkey (by decide)
      · exact absurd hkey (by decide)
      obtain ⟨n, hn, hleast, -⟩ := hadmits
      obtain rfl : limit = .int n := hsettled.symm.trans hn
      exact hleast

end Step

/-! ## Steps -/

namespace Stage

variable (stage : Stage σ)

theorem toOption_readTexts (key : Key) (index n : Nat) (w : World σ) :
    (outcome (stage.readTexts key index n) w).1.toOption =
      (stage.browser.rows? key index n w.browser).map Text.listed := by
  induction n generalizing index w with
  | zero => rfl
  | succ n ih =>
      have hreceive := outcome_receive (stage.browser.innerText key index) w
      rw [readTexts, Browser.rows?]
      cases hrow : (stage.browser.innerText key index w.browser).answer with
      | error failure =>
          rw [hrow] at hreceive
          rw [outcome_bind_of_error hreceive]
          rfl
      | ok row =>
          have hcons : Text.listed ∘ (row :: ·) = (fun texts => if Text.collapse row = "" then texts
              else Text.collapse row :: texts) ∘ Text.listed :=
            funext (Text.listed_cons row)
          rw [hrow] at hreceive
          rw [outcome_bind_of_ok hreceive, toOption_bind_pure, ih, Option.map_map, Option.map_map, hcons]

theorem toOption_extract {payload : Table Json} {selector outputKey : String} {limit : Json}
    (hselector : ensureText payload "selector" = .ok selector)
    (houtputKey : ensureText payload "outputKey" = .ok outputKey)
    (hlimit : ((Table.get? payload "limit").bind Json.toInt?).getD Action.defaultLimit =
      Action.rowLimit limit) (w : World σ) :
    (outcome (stage.extract payload) w).1.toOption = Step.extraction? stage.browser w.browser
      (.extractTextList (.str selector) (.str outputKey) limit) := by
  have hcall := outcome_call (.count (.css selector)) (stage.browser.count (.css selector)) w
  rw [extract, hselector, houtputKey, outcome_bind_of_ok (outcome_ofExcept w (.ok selector)),
    outcome_bind_of_ok (outcome_ofExcept w (.ok outputKey)), Step.extraction?]
  dsimp only
  cases hcount : (stage.browser.count (.css selector) w.browser).answer with
  | error failure =>
      rw [hcount] at hcall
      rw [outcome_bind_of_error hcall]
      rfl
  | ok count =>
      rw [hcount] at hcall
      rw [outcome_bind_of_ok hcall, hlimit, toOption_bind_pure, toOption_readTexts, Option.map_map]
      rfl

/-- Only an extraction comes to a list of texts, and it always does. -/
theorem isSome_iff_of_act {action : Action} {extract : Option Extract} {w w' : World σ}
    (h : outcome (stage.act action) w = (.ok extract, w')) :
    extract.isSome ↔ action.kind = "extractTextList" := by
  unfold act at h
  split at h
  all_goals
    rename_i hkind
    first
    | obtain ⟨_, acted, -, hend⟩ := outcome_bind_eq_ok_iff.mp h
      obtain rfl := Except.ok.inj (congrArg Prod.fst hend)
      simp [hkind]
    | cases h

/-- Carrying out an extraction that was read comes to what it extracts. -/
theorem toOption_act_extract {raw selector outputKey limit : Json}
    (h : Step.Reads raw (.extractTextList selector outputKey limit)) {action : Action}
    (haction : Action.ofStep (.extractTextList selector outputKey limit) = .ok [action]) (w : World σ) :
    (outcome (stage.act action) w).1.toOption =
      (Step.extraction? stage.browser w.browser (.extractTextList selector outputKey limit)).map some := by
  obtain ⟨s, rfl, hs⟩ : FieldKind.text.Admits selector := h.admits "selector"
    (by simp [Step.fields]) (by simp [Step.shape, Step.tag]) (by simp [Step.shape, Step.tag])
  obtain ⟨key, rfl, hkey⟩ : FieldKind.text.Admits outputKey := h.admits "outputKey"
    (by simp [Step.fields]) (by simp [Step.shape, Step.tag]) (by simp [Step.shape, Step.tag])
  have hmade := (List.singleton_inj.mp (Except.ok.inj haction)).symm
  have hselector : ensureText action.payload "selector" = .ok s := by
    simp [hmade, ensureText, hs]
  have houtputKey : ensureText action.payload "outputKey" = .ok key := by
    simp [hmade, ensureText, Table.get?_cons, hkey]
  have hlimit : ((Table.get? action.payload "limit").bind Json.toInt?).getD Action.defaultLimit =
      Action.rowLimit limit := by
    rw [hmade]
    cases limit <;> rfl
  have hact : stage.act action =
      stage.extract action.payload >>= fun extract => pure (some extract) := by
    rw [hmade]
    rfl
  rw [← stage.toOption_extract hselector houtputKey hlimit, hact, toOption_bind_pure]

/-- Carrying out an action of a step that was read comes to what the step extracts, if anything. -/
theorem join_toOption_act {raw : Json} {step : Step} (h : Step.Reads raw step) {actions : List Action}
    (hactions : Action.ofStep step = .ok actions) {action : Action} (hmem : action ∈ actions)
    (w : World σ) :
    (outcome (stage.act action) w).1.toOption.join = step.extraction? stage.browser w.browser := by
  have hother : step.tag ≠ "extractTextList" →
      (outcome (stage.act action) w).1.toOption.join = step.extraction? stage.browser w.browser := by
    intro htag
    rw [Step.extraction?_of_ne htag]
    rcases hact : outcome (stage.act action) w with ⟨failure | extract, w'⟩
    · rfl
    · have hkind : action.kind ≠ "extractTextList" := mt (Action.extracts_iff hactions hmem).mp htag
      exact Option.not_isSome_iff_eq_none.mp (mt (stage.isSome_iff_of_act hact).mp hkind)
  cases step with
  | extractTextList selector outputKey limit =>
      have haction : Action.ofStep (.extractTextList selector outputKey limit) = .ok [action] := by
        obtain rfl := Except.ok.inj hactions
        rw [List.mem_singleton.mp hmem]
        rfl
      rw [stage.toOption_act_extract h haction]
      cases Step.extraction? stage.browser w.browser (.extractTextList selector outputKey limit) <;> rfl
  | goto | click | fill | expect | waitFor | login => exact hother (by simp [Step.tag])

end Stage

namespace Run

variable {stage : Stage σ} {p : Primitive} {raw : Json} {step : Step} {actions : List Action}
  {w w' : World σ} {out : Stage.Outcome}

section Extraction

variable (hread : Step.Reads raw step) (hactions : Action.ofStep step = .ok actions)
  (hmem : p.toAction ∈ actions)
include hread hactions hmem

/-- What comes of a step that is reported is what it extracts where it begins. -/
theorem StepDerivation.extract_eq (h : StepDerivation stage p w w' out) :
    out.extract = step.extraction? stage.browser w.browser := by
  obtain ⟨logged, hlog, hfiled⟩ := exists_log stage .info s!"Step {p.index + 1}: {p.description}" w
  have hact := stage.join_toOption_act hread hactions hmem logged
  rw [hfiled.browser] at hact
  cases h with
  | passed begins acts =>
      obtain rfl := (Prod.mk.inj (hlog.symm.trans begins)).2
      rwa [acts] at hact
  | failed begins acts =>
      obtain rfl := (Prod.mk.inj (hlog.symm.trans begins)).2
      rwa [acts] at hact

/-- An extraction passes if there is something that it extracts. -/
theorem StepDerivation.passed_iff_extraction (h : StepDerivation stage p w w' out)
    (htag : step.tag = "extractTextList") :
    out.report.verdict = .passed ↔ (step.extraction? stage.browser w.browser).isSome := by
  rw [← h.extract_eq hread hactions hmem]
  cases h with
  | passed begins acts =>
      have hkind := (Action.extracts_iff hactions hmem).mpr htag
      simpa using (stage.isSome_iff_of_act acts).mpr hkind
  | failed => simp

end Extraction

/-- Steps that are reported are those that are carried out, in order, each where it begins. -/
theorem StepsDerivation.forall₂_trail {q : Stage.Outcome → Primitive × World σ → Prop}
    {primitives : List Primitive} {outs : List Stage.Outcome}
    (h : StepsDerivation stage primitives w outs w')
    (hstep : ∀ p ∈ primitives, ∀ (v v' : World σ) (out : Stage.Outcome),
      StepDerivation stage p v v' out → q out (p, v)) :
    List.Forall₂ q outs (trail stage primitives w) := by
  induction h with
  | nil => exact .nil
  | failed rest step verdict =>
      rw [trail, step.execution]
      dsimp only
      rw [verdict]
      exact .cons (hstep _ List.mem_cons_self _ _ _ step) .nil
  | passed step verdict _ ih =>
      rw [trail, step.execution]
      dsimp only
      rw [verdict]
      exact .cons (hstep _ List.mem_cons_self _ _ _ step)
        (ih fun p hp => hstep p (List.mem_cons_of_mem _ hp))

/-! ## Runs -/

/-- What steps extract that are carried out, each of the step of the plan that it comes from. -/
def extractions (b : Browser σ) (plan : Plan) (carried : List (Primitive × World σ)) : List Extract :=
  carried.filterMap fun entry =>
    plan.steps[entry.1.source]?.bind (Step.extraction? b entry.2.browser)

/-- A report tells of a step that was carried out, and of an extraction that it passed just if there is
something that it extracts. -/
structure Told (b : Browser σ) (plan : Plan) (r : StepReport) (entry : Primitive × World σ) : Prop where
  tells : Tells r entry.1
  passed : ∃ step, plan.steps[entry.1.source]? = some step ∧ (step.tag = "extractTextList" →
    (r.verdict = .passed ↔ (step.extraction? b entry.2.browser).isSome))

/-- What a report lists of the steps that were carried out. -/
structure Lists (b : Browser σ) (plan : Plan) (carried : List (Primitive × World σ))
    (report : Report) : Prop where
  told : List.Forall₂ (Told b plan) report.steps carried
  outputs : report.outputs = Table.update [] (extractions b plan carried)
  latest : ∀ key, Table.get? report.outputs key = Table.get? (extractions b plan carried).reverse key
  kept : report.verdict = .failed →
    report.outputs = Table.update [] (extractions b plan carried.dropLast)
  listed : ∀ key texts, Table.get? report.outputs key = some texts →
    ∃ entry ∈ carried, ∃ selector limit,
      plan.steps[entry.1.source]? = some (.extractTextList (.str selector) (.str key) limit) ∧
      Step.extraction? b entry.2.browser (.extractTextList (.str selector) (.str key) limit) =
        some (key, texts) ∧
      texts.length ≤ Action.rowLimit limit ∧ ∀ s ∈ texts, Text.Tidy s

theorem filterMap_extract {b : Browser σ} {plan : Plan} {outs : List Stage.Outcome}
    {carried : List (Primitive × World σ)}
    (h : List.Forall₂ (fun out entry => out.extract =
      plan.steps[entry.1.source]?.bind (Step.extraction? b entry.2.browser)) outs carried) :
    outs.filterMap Stage.Outcome.extract = extractions b plan carried := by
  induction h with
  | nil => rfl
  | cons hstep _ ih => rw [List.filterMap_cons, hstep, ih, extractions, extractions, List.filterMap_cons]

/-- A list that steps extract is that of one of them, within its limit and tidy. -/
theorem exists_of_mem_extractions {b : Browser σ} {plan : Plan} (hplan : plan.Accepted)
    {carried : List (Primitive × World σ)} {key : String} {texts : List String}
    (h : (key, texts) ∈ extractions b plan carried) :
    ∃ entry ∈ carried, ∃ selector limit,
      plan.steps[entry.1.source]? = some (.extractTextList (.str selector) (.str key) limit) ∧
      Step.extraction? b entry.2.browser (.extractTextList (.str selector) (.str key) limit) =
        some (key, texts) ∧
      texts.length ≤ Action.rowLimit limit ∧ ∀ s ∈ texts, Text.Tidy s := by
  obtain ⟨entry, hentry, hbound⟩ := List.mem_filterMap.mp h
  obtain ⟨step, hstep, hextract⟩ := Option.bind_eq_some_iff.mp hbound
  obtain ⟨selector, limit, rfl, hlength, htidy⟩ := Step.exists_of_extraction? hextract
  have hlimit := (hplan.reads _ (List.mem_of_getElem? hstep)).one_le_rowLimit
  exact ⟨entry, hentry, selector, limit, hstep, hextract, by omega, htidy⟩

namespace Ran

variable {host : Host σ} {options : RunOptions} {plan : Plan} {known : Prepared}
  {outs : List Stage.Outcome} {report : Report} {start stopped closed saved final : World σ}

theorem outputs_eq (h : Ran host options plan known outs report w start stopped closed saved final) :
    report.outputs = Table.update [] (outs.filterMap Stage.Outcome.extract) := by
  rw [h.reports]
  exact outputs_foldl_add outs _

/-- The step that a run stopped at put nothing under an output key. -/
theorem filterMap_dropLast
    (h : Ran host options plan known outs report w start stopped closed saved final)
    (hfailed : report.verdict = .failed) :
    outs.filterMap Stage.Outcome.extract = outs.dropLast.filterMap Stage.Outcome.extract := by
  obtain ⟨p, out, hstops⟩ := h.exists_stopsAt hfailed
  obtain ⟨earlier, mid, -, -, rfl, -, -, -, -, hstep⟩ := hstops.split
  have hnone : out.extract = none := by
    cases hstep with
    | passed => cases hstops.failed
    | failed => rfl
  simp [hnone]

/-- Each report of an accepted plan tells of a step that was carried out, and what came of the step is
what it extracts. -/
theorem forall₂_trail (h : Ran host options plan known outs report w start stopped closed saved final)
    (hplan : plan.Accepted) :
    List.Forall₂ (fun out entry => Told host.browser plan out.report entry ∧ out.extract =
        plan.steps[entry.1.source]?.bind (Step.extraction? host.browser entry.2.browser))
      outs (trail (known.stage host options) known.primitives start) := by
  refine h.steps.forall₂_trail fun p hp v v' out hout => ?_
  obtain ⟨step, hstep, actions, hactions, hmem⟩ := Plan.exists_source_of_mem_compile h.compiles hp
  have hread := hplan.reads step (List.mem_of_getElem? hstep)
  refine ⟨⟨hout.tells, step, hstep, hout.passed_iff_extraction hread hactions hmem⟩, ?_⟩
  rw [hstep, Option.bind_some, hout.extract_eq hread hactions hmem]
  rfl

theorem lists (h : Ran host options plan known outs report w start stopped closed saved final)
    (hplan : plan.Accepted) :
    Lists host.browser plan (trail (known.stage host options) known.primitives start) report := by
  have hall := h.forall₂_trail hplan
  generalize trail (known.stage host options) known.primitives start = carried at hall
  have hextracts := filterMap_extract (hall.imp fun _ _ hstep => hstep.2)
  have houtputs : report.outputs = Table.update [] (extractions host.browser plan carried) := by
    rw [h.outputs_eq, hextracts]
  have hlatest : ∀ key, Table.get? report.outputs key =
      Table.get? (extractions host.browser plan carried).reverse key := by
    intro key
    rw [houtputs, Table.get?_update, Table.get?_nil, Option.or_none]
  refine ⟨?_, houtputs, hlatest, fun hfailed => ?_, fun key texts hkey => ?_⟩
  · rw [h.steps_eq, List.forall₂_map_left_iff]
    exact hall.imp fun _ _ hstep => hstep.1
  · have hearlier := List.forall₂_take (outs.length - 1) (hall.imp fun _ _ hstep => hstep.2)
    rw [← List.dropLast_eq_take, hall.length_eq, ← List.dropLast_eq_take] at hearlier
    rw [h.outputs_eq, h.filterMap_dropLast hfailed, filterMap_extract hearlier]
  · rw [hlatest] at hkey
    exact exists_of_mem_extractions hplan (List.mem_reverse.mp (Table.mem_of_get? hkey))

end Ran

/-- A live run of an accepted plan reports under each output key what the last step with that key
extracted that was carried out: its rows up to its limit, in order, each with its words one space apart,
and none without words. A step that fails takes nothing away from what the steps before it extracted. -/
theorem outputs_are_extracted (host : Host σ) (options : RunOptions) {raw : Json} {plan : Plan}
    (hplan : Plan.validate raw = .ok plan) (hlive : options.dryRun = false) {report : Report}
    {w final : World σ} (hrun : outcome (run host options plan) w = (.ok report, final)) :
    ∃ known start, outcome (begun host options plan) w = (.ok known, start) ∧
      plan.compile = .ok known.primitives ∧
      Lists host.browser plan (trail (known.stage host options) known.primitives start) report := by
  obtain ⟨known, outs, start, stopped, closed, saved, hran⟩ := exists_ran hlive hrun
  exact ⟨known, start, hran.begins, hran.compiles, hran.lists (Plan.accepted_of_validate hplan)⟩

/-- Two lists under one key, one under another, and a click that fails after them. -/
theorem outputs_are_extracted_click :
    let list : String → String → Json → Step := fun selector key limit =>
      .extractTextList (.str selector) (.str key) limit
    let plan : Plan := ⟨.str "1", .null, .null, [list "li" "items" .null, list "h1" "title" .null,
      list "td" "items" (.int 2), .click (.str "Lost") (.str "#lost")]⟩
    let page : Page := { Page.blank with
      elements := [("css:li", ["one"]), ("css:h1", ["\u2003The\n\t title ", "\x1c", "sub"]),
        ("css:td", ["  ", "two  words", "three"])] }
    let w : World Page := ⟨page, 0, .empty [], .empty Profile.defaultDomain, 0, [], [], []⟩
    let host : Host Page := ⟨Page.browser, [], some []⟩
    Plan.validate plan.toJson = .ok plan ∧ RunOptions.usual.dryRun = false ∧
      ∃ report final known start, outcome (run host .usual plan) w = (.ok report, final) ∧
        report.verdict = .failed ∧
        report.outputs = [("items", ["two words"]), ("title", ["The title", "sub"])] ∧
        outcome (begun host .usual plan) w = (.ok known, start) ∧
        Lists host.browser plan (trail (known.stage host .usual) known.primitives start) report := by
  intro list plan page w host
  have hplan : Plan.validate plan.toJson = .ok plan := rfl
  have hended : endsIn (run host .usual plan) w (fun report _ => report.verdict == .failed &&
      report.outputs == [("items", ["two words"]), ("title", ["The title", "sub"])]) = true := by
    decide +kernel
  obtain ⟨report, final, hrun, hreport⟩ := endsIn_iff.mp hended
  obtain ⟨hfailed, houtputs⟩ := (Bool.and_eq_true _ _).mp hreport
  obtain ⟨known, start, hbegun, -, hlists⟩ := outputs_are_extracted host .usual hplan rfl hrun
  exact ⟨hplan, rfl, report, final, known, start, hrun, eq_of_beq hfailed, eq_of_beq houtputs, hbegun,
    hlists⟩

end Run
end Walkthrough
