import Walkthrough.Proofs.Run.Punctual

/-! # How many candidates are tried

A candidate that is not there takes all the time there is for one, so the time limit of a step decides
how many candidates for its target are tried. With the usual limit they are the first five, of at least
eight. -/

namespace Walkthrough.Locate

open Effect

variable {σ : Type}

/-- Whether an element is there in the longest time for one candidate, by the delays of elements. -/
def inTime (delay? : Key → Option Int) (c : Candidate) : Bool :=
  (delay? c.key).any (· ≤ probeLimit)

/-- What looking through candidates comes to: the first of them that is there in time, or the labels of
all that were tried. -/
def firstInTime (delay? : Key → Option Int) (target : String) (tried : List String)
    (candidates : List Candidate) : Except Failure Candidate :=
  match candidates.find? (inTime delay?) with
  | some found => .ok found
  | none => .error (.unresolved target (tried ++ candidates.map Candidate.label))

section FirstInTime

variable (delay? : Key → Option Int) (target : String) (tried : List String) (c : Candidate)
  (rest : List Candidate)

theorem firstInTime_nil : firstInTime delay? target tried [] = .error (.unresolved target tried) := by
  simp [firstInTime]

theorem firstInTime_cons :
    firstInTime delay? target tried (c :: rest) =
      if inTime delay? c then .ok c else firstInTime delay? target (tried ++ [c.label]) rest := by
  by_cases h : inTime delay? c <;> simp [firstInTime, h]

theorem firstInTime_eq_ok_iff {candidates : List Candidate} {found : Candidate} :
    firstInTime delay? target tried candidates = .ok found ↔
      candidates.find? (inTime delay?) = some found := by
  unfold firstInTime
  cases candidates.find? (inTime delay?) <;> simp

theorem firstInTime_eq_error_iff {candidates : List Candidate} {failure : Failure} :
    firstInTime delay? target tried candidates = .error failure ↔
      (∀ c ∈ candidates, inTime delay? c = false) ∧
        failure = .unresolved target (tried ++ candidates.map Candidate.label) := by
  unfold firstInTime
  cases hfind : candidates.find? (inTime delay?) with
  | none =>
      have hall : ∀ c ∈ candidates, inTime delay? c = false := by simpa using hfind
      exact ⟨fun h => ⟨hall, (Except.error.inj h).symm⟩, fun h => h.2 ▸ rfl⟩
  | some found =>
      have hfound : inTime delay? found = true := List.find?_some hfind
      have hmem : found ∈ candidates := List.mem_of_find?_eq_some hfind
      constructor
      · intro h
        cases h
      · rintro ⟨hall, -⟩
        rw [hall found hmem] at hfound
        cases hfound

end FirstInTime

variable {b : Browser σ} {delay? : Key → Option Int} {target : String} {deadline : Instant}

/-- As many candidates are tried as have their longest time before the deadline. -/
theorem outcome_probe_take (tries : Nat) (tried : List String) {candidates : List Candidate}
    {w : World σ}
    (hwaits : ∀ c ∈ candidates, ∀ limit,
      Waits w.browser (delay? c.key) limit (b.waitFor c.key .attached limit w.browser))
    (hdeadline : deadline - w.now = tries * probeLimit) :
    (outcome (probe b target deadline tried candidates) w).1 =
      firstInTime delay? target tried (candidates.take tries) := by
  induction candidates generalizing tries tried w with
  | nil => rw [List.take_nil, firstInTime_nil, probe, outcome_throw]
  | cons c rest ih =>
      cases tries with
      | zero =>
          rw [List.take_zero, firstInTime_nil,
            outcome_probe_late _ _ _ _ (by simp [hdeadline])]
      | succ tries =>
          have hleft : deadline - w.now = tries * probeLimit + probeLimit := by
            rw [hdeadline, Nat.cast_succ, Int.add_mul, Int.one_mul]
          have henough : probeLimit ≤ tries * probeLimit + probeLimit := by
            unfold probeLimit
            omega
          have hlimit : min (deadline - w.now) probeLimit = probeLimit :=
            min_eq_right (henough.trans_eq hleft.symm)
          have hpos : 0 < deadline - w.now :=
            Int.lt_of_lt_of_le (by decide) (henough.trans_eq hleft.symm)
          rw [List.take_succ_cons, firstInTime_cons]
          rcases (hwaits c List.mem_cons_self (min (deadline - w.now) probeLimit)).cases with
            ⟨delay, there, soon, hreply⟩ | ⟨message, absent, hreply⟩
          · have hfound : inTime delay? c = true := by
              simpa [inTime, there] using hlimit ▸ soon
            obtain ⟨w', hprobe, -⟩ := exists_probe_of_found target tried hpos hreply
            rw [hprobe, if_pos hfound]
          · have hmissed : ¬inTime delay? c = true := by
              intro hfound
              obtain ⟨delay, there, soon⟩ := (Option.any_eq_true _ _).mp hfound
              exact absurd (hlimit ▸ absent delay there) (Int.not_lt.mpr (by simpa using soon))
            obtain ⟨w', hprobe, hlooked, -, hnow⟩ := exists_probe_of_late target tried hpos hreply
            rw [hprobe, if_neg hmissed]
            refine ih tries (tried ++ [c.label]) (fun d hd => ?_) ?_
            · rw [hlooked.browser]
              exact hwaits d (List.mem_cons_of_mem c hd)
            · rw [hnow, hlimit, ← Int.sub_sub, hleft, Int.add_sub_cancel]

theorem outcome_resolve_usual (b : Browser σ) (target : String) (selector : Option String)
    (w : World σ) (delay? : Key → Option Int)
    (hwaits : ∀ c ∈ Candidate.all target selector w.profile, ∀ limit,
      Waits w.browser (delay? c.key) limit (b.waitFor c.key .attached limit w.browser)) :
    (outcome (resolve b target selector RunOptions.defaultTimeout) w).1 =
      firstInTime delay? (Text.strip target) []
        ((Candidate.all target selector w.profile).take 5) := by
  have hdeadline : w.now + RunOptions.defaultTimeout - w.now = (5 : Nat) * probeLimit := by
    rw [Int.add_comm, Int.add_sub_cancel]
    rfl
  rw [← all_strip] at hwaits
  have hlimit : Clock.seconds RunOptions.defaultTimeout = .ok (.ofInt 10) := rfl
  rw [outcome_resolve target selector hlimit, outcome_probe_take 5 [] hwaits hdeadline,
    all_strip]

/-- With the usual time limit, what is found for a target is the first of its first five candidates that
is there within two seconds. If none of those is, nothing is found, whatever else is there. -/
theorem resolve_reaches_five (b : Browser σ) (target : String) (selector : Option String)
    (w : World σ) (delay? : Key → Option Int)
    (hwaits : ∀ c ∈ Candidate.all target selector w.profile, ∀ limit,
      Waits w.browser (delay? c.key) limit (b.waitFor c.key .attached limit w.browser)) :
    let within := (Candidate.all target selector w.profile).take 5
    let answer := (outcome (resolve b target selector RunOptions.defaultTimeout) w).1
    (∀ found, answer = .ok found ↔ within.find? (inTime delay?) = some found) ∧
      (∀ failure, answer = .error failure ↔ (∀ c ∈ within, inTime delay? c = false) ∧
        failure = .unresolved (Text.strip target) (within.map Candidate.label)) := by
  intro within answer
  have hanswer : answer = firstInTime delay? (Text.strip target) [] within :=
    outcome_resolve_usual b target selector w delay? hwaits
  rw [hanswer]
  exact ⟨fun found => firstInTime_eq_ok_iff _ _ _, fun failure => firstInTime_eq_error_iff _ _ _⟩

/-- A button, a link and a label are missed before a placeholder is found; the attribute, which is there
at once, would have been tried later. -/
theorem resolve_reaches_five_placeholder :
    let page : Page := { Page.blank with
      elements := [("placeholder:Email", []), ("css:[name=\"Email\"]", [])]
      delays := [("placeholder:Email", 1500)] }
    let w : World Page := ⟨page, 0, .empty [], .empty Profile.defaultDomain, 0, [], [], []⟩
    (∀ c ∈ Candidate.all " Email " none w.profile, ∀ limit, Waits w.browser (page.delay? c.key) limit
      (Page.browser.waitFor c.key .attached limit w.browser)) ∧
      (outcome (resolve Page.browser " Email " none RunOptions.defaultTimeout) w).1 =
        .ok ⟨"placeholder", "Email", .placeholder "Email", none⟩ := by
  intro page w
  have hwaits : ∀ c ∈ Candidate.all " Email " none w.profile, ∀ limit, Waits w.browser
      (page.delay? c.key) limit (Page.browser.waitFor c.key .attached limit w.browser) :=
    fun c _ => Page.waits_browser rfl c.key
  refine ⟨hwaits, ((resolve_reaches_five Page.browser " Email " none w page.delay? hwaits).1 _).mpr ?_⟩
  decide +kernel

/-- A page with nothing but the names of its fields: they are among the candidates and are there at
once, but they are not found, and a login fails. -/
theorem login_fields_are_out_of_reach :
    let page : Page := { Page.blank with
      elements := [("css:[name=\"username\"]", [""]), ("css:[name=\"password\"]", [""])] }
    let w : World Page := ⟨page, 0, .empty [], .empty Profile.defaultDomain, 0, [], [], []⟩
    let plan : Plan := ⟨.str "1", .null, .null,
      [.goto (.str "https://example.com/"), .login (.str "ada") (.str "pw")]⟩
    (∀ key limit, Waits page (page.delay? key) limit
        (Page.browser.waitFor key .attached limit page)) ∧
      (∃ c ∈ Candidate.all "username" none w.profile, page.delay? c.key = some 0) ∧
      (outcome (resolve Page.browser "username" none RunOptions.defaultTimeout) w).1 =
        .error (.unresolved "username" ["role(button):username", "role(link):username",
          "label:username", "placeholder:username", "text:username"]) ∧
      Plan.validate plan.toJson = .ok plan ∧
      ∃ report final, outcome (run ⟨Page.browser, [], some []⟩ .usual plan) w = (.ok report, final) ∧
        report.verdict = .failed ∧ (report.steps.map StepReport.error) = [none,
          some "Could not resolve target \"username\" using deterministic locator heuristics"] := by
  intro page w plan
  have hfails : endsIn (run ⟨Page.browser, [], some []⟩ .usual plan) w (fun report _ =>
      report.verdict == .failed && report.steps.map StepReport.error == [none,
        some "Could not resolve target \"username\" using deterministic locator heuristics"]) = true := by
    decide +kernel
  obtain ⟨report, final, hrun, htest⟩ := endsIn_iff.mp hfails
  simp only [Bool.and_eq_true, beq_iff_eq] at htest
  have hthere : (Candidate.all "username" none w.profile).any
      (fun c => page.delay? c.key == some 0) = true := by decide +kernel
  have hnamed : ∃ c ∈ Candidate.all "username" none w.profile, page.delay? c.key = some 0 := by
    simpa only [List.any_eq_true, beq_iff_eq] using hthere
  have hwaits : ∀ key limit, Waits page (page.delay? key) limit
      (Page.browser.waitFor key .attached limit page) := Page.waits_browser rfl
  have hmissed : (outcome (resolve Page.browser "username" none RunOptions.defaultTimeout) w).1 =
      .error (.unresolved "username" ["role(button):username", "role(link):username",
        "label:username", "placeholder:username", "text:username"]) := by
    rw [outcome_resolve_usual _ _ _ _ page.delay? fun c _ => hwaits c.key, firstInTime_eq_error_iff]
    exact ⟨by decide +kernel, congrArg₂ Failure.unresolved (by decide +kernel) (by decide +kernel)⟩
  exact ⟨hwaits, hnamed, hmissed, rfl, report, final, hrun, htest.1, htest.2⟩

end Walkthrough.Locate
