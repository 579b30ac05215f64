import Mathlib.Algebra.Order.Ring.Cast
import Mathlib.Algebra.Order.Ring.Rat
import Mathlib.Tactic.Linarith
import Mathlib.Tactic.NormNum
import Walkthrough.Proofs.Run.Punctual

/-! # When a target is found, and how long it takes

Candidates that are missed take all the time there is for one, so how long a search takes depends only on
when elements are there. Nothing in this depends on time being whole: it is shown for clocks of any kind,
and the search of a run is the one whose clock counts whole milliseconds. -/

namespace Walkthrough.Locate

open Effect

/-! ## Searches by any clock -/

/-- What looking for an element needs: a clock, waiting for an element, and remembering what was found. -/
structure Means (S τ : Type) where
  now : Effect S τ
  wait : Key → τ → Effect S Unit
  remember : String → Candidate → Effect S Unit

section Means

variable {S τ : Type} [CommRing τ] [LinearOrder τ]

/-- Tries candidates in order until a deadline. -/
def Means.probe (m : Means S τ) (target : String) (deadline : τ) :
    List String → List Candidate → Effect S Candidate
  | tried, [] => throw (.unresolved target tried)
  | tried, c :: rest => do
    let remaining := deadline - (← m.now)
    if remaining ≤ 0 then throw (.unresolved target tried)
    else
      match ← Effect.attempt (m.wait c.key (min remaining probeLimit)) with
      | .ok () =>
        m.remember target c
        pure c
      | .error failure =>
        if failure.isBrowser then m.probe target deadline (tried ++ [c.label]) rest
        else throw failure

/-- The first candidate for a target that is there in time. -/
def Means.resolve (m : Means S τ) (target : String) (selector : Option String) (profile : Profile)
    (timeout : Int) : Effect S Candidate := do
  let start ← m.now
  m.probe (Text.strip target) (start + timeout) []
    (Candidate.all (Text.strip target) selector profile)

end Means

/-- The means of a run: its own clock, and the waits of its browser. -/
def Means.ofBrowser {σ : Type} (b : Browser σ) : Means (World σ) Instant where
  now := Work.now
  wait key limit := Work.call (.waitFor key .attached limit) (b.waitFor key .attached limit)
  remember := learn

theorem probe_eq {σ : Type} (b : Browser σ) (target : String) (deadline : Instant)
    (tried : List String) (candidates : List Candidate) :
    probe b target deadline tried candidates =
      (Means.ofBrowser b).probe target deadline tried candidates := by
  induction candidates generalizing tried with
  | nil => rfl
  | cons c rest ih =>
      rw [probe, Means.probe, ih (tried ++ [c.label])]
      rfl

/-- The search of a run is a search by its own clock, if the time limit is not too long for a deadline. -/
theorem outcome_resolve_eq {σ : Type} (b : Browser σ) (target : String) (selector : Option String)
    (timeout : Int) (w : World σ) :
    outcome (resolve b target selector timeout) w = match Clock.seconds timeout with
      | .error failure => (.error failure, w)
      | .ok _ => outcome ((Means.ofBrowser b).resolve target selector w.profile timeout) w := by
  cases hlimit : Clock.seconds timeout with
  | error failure => exact outcome_resolve_of_error target selector hlimit w
  | ok limit =>
      rw [outcome_resolve target selector hlimit, probe_eq, Means.resolve]
      rfl

/-! ## Clocks that are kept -/

section Timely

variable {S τ : Type} [CommRing τ] [LinearOrder τ]

/-- Means that keep time in some states: an element that is there after a delay is found then, if that is
within the limit, and else waiting takes all the time that it is given. Nothing else takes time. -/
structure Means.Timely (m : Means S τ) (delay? : Key → Option τ) (clock : S → τ) (fair : S → Prop) :
    Prop where
  now (s : S) : outcome m.now s = (.ok (clock s), s)
  found {key : Key} {limit delay : τ} {s : S} (hs : fair s) (there : delay? key = some delay)
    (inTime : delay ≤ limit) :
    ∃ s', outcome (m.wait key limit) s = (.ok (), s') ∧ clock s' = clock s + delay ∧ fair s'
  late {key : Key} {limit : τ} {s : S} (hs : fair s)
    (absent : ∀ delay, delay? key = some delay → limit < delay) :
    ∃ failure s', outcome (m.wait key limit) s = (.error failure, s') ∧ failure.isBrowser ∧
      clock s' = clock s + limit ∧ fair s'
  remember (target : String) (c : Candidate) (s : S) :
    ∃ s', outcome (m.remember target c) s = (.ok (), s') ∧ clock s' = clock s

/-- A candidate that is there in time: when it is tried there is time left, and it is there within that
time and the longest time for one candidate. -/
def InTime (delay? : Key → Option τ) (timeout : τ) (k : Nat) (c : Candidate) (delay : τ) : Prop :=
  2000 * k < timeout ∧ delay? c.key = some delay ∧ delay ≤ min 2000 (timeout - 2000 * k)

/-- The labels of the candidates that are tried if all are missed. -/
def labelsBefore (timeout : τ) (candidates : List Candidate) : List String :=
  (candidates.zipIdx.filter fun entry => 2000 * (entry.2 : τ) < timeout).map (·.1.label)

/-- How long a search takes that misses all of some candidates. -/
def missedAfter (timeout : τ) (n : Nat) : τ :=
  min (max timeout 0) (2000 * n)

/-- What a search comes to, and how long it takes: the first candidate that is there in time is found
when it is there, with the longest time for each one before it. -/
inductive Verdict (delay? : Key → Option τ) (timeout : τ) (target : String) (tried : List String)
    (candidates : List Candidate) : Except Failure Candidate → τ → Prop
  | found {k : Nat} {c : Candidate} {delay : τ} (tries : candidates[k]? = some c)
      (inTime : InTime delay? timeout k c delay)
      (first : ∀ j d other, j < k → candidates[j]? = some d → ¬InTime delay? timeout j d other) :
      Verdict delay? timeout target tried candidates (.ok c) (2000 * k + delay)
  | missed
      (absent : ∀ k c delay, candidates[k]? = some c → ¬InTime delay? timeout k c delay) :
      Verdict delay? timeout target tried candidates
        (.error (.unresolved target (tried ++ labelsBefore timeout candidates)))
        (missedAfter timeout candidates.length)

variable {delay? : Key → Option τ} {timeout : τ} {target : String} {tried : List String} {c : Candidate}
  {rest candidates : List Candidate} {answer : Except Failure Candidate} {spent : τ}

theorem inTime_zero_iff (hpos : 0 < timeout) {delay : τ} :
    InTime delay? timeout 0 c delay ↔ delay? c.key = some delay ∧ delay ≤ min timeout 2000 := by
  rw [InTime, Nat.cast_zero, mul_zero, sub_zero, min_comm]
  exact and_iff_right hpos

theorem missedAfter_zero : missedAfter timeout 0 = 0 := by
  rw [missedAfter, Nat.cast_zero, mul_zero, min_eq_right (le_max_right _ _)]

namespace Verdict

theorem nil : Verdict delay? timeout target tried [] (.error (.unresolved target tried)) 0 := by
  have hmissed := @missed _ _ _ delay? timeout target tried [] (by simp)
  rwa [labelsBefore, List.zipIdx_nil, List.filter_nil, List.map_nil, List.append_nil, List.length_nil,
    missedAfter_zero] at hmissed

/-- A candidate is found that is there within the time for it. -/
theorem head {delay : τ} (hpos : 0 < timeout) (there : delay? c.key = some delay)
    (hle : delay ≤ min timeout 2000) :
    Verdict delay? timeout target tried (c :: rest) (.ok c) delay := by
  have hfound := @found _ _ _ delay? timeout target tried (c :: rest) 0 c delay rfl
    ((inTime_zero_iff hpos).mpr ⟨there, hle⟩) fun j _ _ hj => absurd hj (Nat.not_lt_zero j)
  rwa [Nat.cast_zero, mul_zero, zero_add] at hfound

/-- There is one answer that a search can come to, and one time that it can take. -/
theorem unique {answer' : Except Failure Candidate} {spent' : τ}
    (h : Verdict delay? timeout target tried candidates answer spent)
    (h' : Verdict delay? timeout target tried candidates answer' spent') :
    answer' = answer ∧ spent' = spent := by
  cases h with
  | @found k c delay tries inTime first =>
      cases h' with
      | @found k' c' delay' tries' inTime' first' =>
          obtain rfl : k' = k := by
            rcases Nat.lt_trichotomy k' k with hlt | heq | hgt
            · exact absurd inTime' (first k' c' delay' hlt tries')
            · exact heq
            · exact absurd inTime (first' k c delay hgt tries)
          obtain rfl : c' = c := Option.some.inj (tries'.symm.trans tries)
          obtain rfl : delay' = delay := Option.some.inj (inTime'.2.1.symm.trans inTime.2.1)
          exact ⟨rfl, rfl⟩
      | missed none => exact absurd inTime (none k c delay tries)
  | missed none =>
      cases h' with
      | @found k c delay tries inTime first => exact absurd inTime (none k c delay tries)
      | missed none' => exact ⟨rfl, rfl⟩

end Verdict

end Timely

section Verdict

variable {τ : Type} [CommRing τ] [LinearOrder τ] [IsStrictOrderedRing τ]
  {delay? : Key → Option τ} {timeout : τ} {target : String} {tried : List String} {c : Candidate}
  {rest candidates : List Candidate} {answer : Except Failure Candidate} {spent : τ}

theorem two_thousand_mul_nonneg (k : Nat) : 0 ≤ 2000 * (k : τ) :=
  mul_nonneg (by norm_num) (Nat.cast_nonneg k)

/-- Of the time for candidates, one that is missed leaves what is left for the others. -/
theorem lt_sub_iff (k : Nat) :
    2000 * (k : τ) < timeout - min timeout 2000 ↔ 2000 * ((k + 1 : Nat) : τ) < timeout := by
  have hk : 0 ≤ 2000 * (k : τ) := two_thousand_mul_nonneg k
  rw [Nat.cast_succ]
  rcases le_total timeout 2000 with hle | hle
  · rw [min_eq_left hle]
    constructor <;> intro h <;> linarith
  · rw [min_eq_right hle]
    constructor <;> intro h <;> linarith

theorem labelsBefore_of_late (hlate : timeout ≤ 0) : labelsBefore timeout candidates = [] := by
  have hk : ∀ k : Nat, timeout ≤ 2000 * (k : τ) :=
    fun k => hlate.trans (two_thousand_mul_nonneg k)
  simp [labelsBefore, hk]

theorem labelsBefore_cons (hpos : 0 < timeout) :
    labelsBefore timeout (c :: rest) =
      c.label :: labelsBefore (timeout - min timeout 2000) rest := by
  have hrest : (rest.zipIdx 1).filter (fun entry => 2000 * (entry.2 : τ) < timeout) =
      (rest.zipIdx.filter fun entry => 2000 * (entry.2 : τ) < timeout - min timeout 2000).map
        fun entry => (entry.1, entry.2 + 1) := by
    rw [← Nat.zero_add 1, List.zipIdx_succ, List.filter_map]
    simp only [Function.comp_def, lt_sub_iff]
  rw [labelsBefore, List.zipIdx_cons, List.filter_cons_of_pos (by simpa using hpos), Nat.zero_add,
    hrest, List.map_cons, List.map_map]
  rfl

theorem inTime_succ_iff {k : Nat} {delay : τ} :
    InTime delay? timeout (k + 1) c delay ↔
      InTime delay? (timeout - min timeout 2000) k c delay := by
  have hleft : 2000 * (k : τ) < timeout - min timeout 2000 →
      timeout - min timeout 2000 - 2000 * k = timeout - 2000 * ((k + 1 : Nat) : τ) := by
    intro h
    have hk : 0 ≤ 2000 * (k : τ) := two_thousand_mul_nonneg k
    rcases le_total timeout 2000 with hle | hle
    · rw [min_eq_left hle] at h
      linarith
    · rw [min_eq_right hle, Nat.cast_succ]
      linarith
  unfold InTime
  rw [← lt_sub_iff]
  exact and_congr_right fun h => by rw [hleft h]

/-- Without time left nothing is there in time. -/
theorem not_inTime_of_late (hlate : timeout ≤ 0) {k : Nat} {delay : τ} :
    ¬InTime delay? timeout k c delay := by
  rintro ⟨htime, -⟩
  exact absurd htime (not_lt.mpr (hlate.trans (two_thousand_mul_nonneg k)))

theorem missedAfter_of_late (hlate : timeout ≤ 0) (n : Nat) : missedAfter timeout n = 0 := by
  rw [missedAfter, max_eq_right hlate, min_eq_left (two_thousand_mul_nonneg n)]

theorem missedAfter_succ (hpos : 0 < timeout) (n : Nat) :
    missedAfter timeout (n + 1) =
      min timeout 2000 + missedAfter (timeout - min timeout 2000) n := by
  have hn : 0 ≤ 2000 * (n : τ) := two_thousand_mul_nonneg n
  rw [missedAfter, max_eq_left hpos.le, Nat.cast_succ]
  rcases le_total timeout 2000 with hle | hle
  · rw [min_eq_left hle, sub_self, missedAfter_of_late le_rfl, add_zero, min_eq_left]
    linarith
  · have hleft : 0 ≤ timeout - 2000 := sub_nonneg.mpr hle
    rw [min_eq_right hle, missedAfter, max_eq_left hleft, ← min_add_add_left]
    congr 1 <;> linarith

namespace Verdict

theorem of_late (hlate : timeout ≤ 0) :
    Verdict delay? timeout target tried candidates (.error (.unresolved target tried)) 0 := by
  have hmissed := @missed _ _ _ delay? timeout target tried candidates
    fun k c delay _ => not_inTime_of_late hlate
  rwa [labelsBefore_of_late hlate, List.append_nil, missedAfter_of_late hlate] at hmissed

/-- A candidate is missed that is not there within the time for it; the others have what is left. -/
theorem cons (hpos : 0 < timeout)
    (absent : ∀ delay, delay? c.key = some delay → min timeout 2000 < delay)
    (h : Verdict delay? (timeout - min timeout 2000) target (tried ++ [c.label]) rest answer spent) :
    Verdict delay? timeout target tried (c :: rest) answer (min timeout 2000 + spent) := by
  have hmissed : ∀ delay, ¬InTime delay? timeout 0 c delay := by
    intro delay htime
    obtain ⟨there, hle⟩ := (inTime_zero_iff hpos).mp htime
    exact absurd hle (not_le.mpr (absent delay there))
  cases h with
  | @found k d delay tries inTime first =>
      -- Some time is left for the one that is found, so the one before it had the longest time.
      have hfull : min timeout 2000 = 2000 := by
        refine min_eq_right (not_lt.mp fun hshort => ?_)
        refine not_inTime_of_late ?_ inTime
        rw [min_eq_left hshort.le, sub_self]
      have hspent : min timeout 2000 + (2000 * (k : τ) + delay) = 2000 * ((k + 1 : Nat) : τ) + delay := by
        rw [hfull, Nat.cast_succ]
        linarith
      rw [hspent]
      refine found tries (inTime_succ_iff.mpr inTime) fun j e other hj he => ?_
      cases j with
      | zero =>
          obtain rfl : c = e := Option.some.inj he
          exact hmissed other
      | succ j => exact fun h => first j e other (Nat.lt_of_succ_lt_succ hj) he (inTime_succ_iff.mp h)
  | missed none =>
      rw [List.append_assoc, List.singleton_append, ← labelsBefore_cons hpos, ← missedAfter_succ hpos]
      refine missed fun k d delay hd => ?_
      cases k with
      | zero =>
          obtain rfl : c = d := Option.some.inj hd
          exact hmissed delay
      | succ k => exact fun h => none k d delay hd (inTime_succ_iff.mp h)

/-- No search takes longer than its time limit. -/
theorem spent_le (h : Verdict delay? timeout target tried candidates answer spent) :
    spent ≤ max timeout 0 := by
  cases h with
  | found tries inTime first =>
      have hle := inTime.2.2.trans (min_le_right _ _)
      exact le_max_of_le_left (by linarith)
  | missed none => exact min_le_left _ _

/-- What is found stays found with more time: whatever comes before it has had the longest time there
is for one candidate already. -/
theorem lengthen {longer : τ} (hle : timeout ≤ longer)
    (h : Verdict delay? timeout target tried candidates (.ok c) spent) :
    Verdict delay? longer target tried candidates (.ok c) spent := by
  cases h with
  | @found k c delay tries inTime first =>
      obtain ⟨htime, hthere, hsoon⟩ := inTime
      have hmore : min 2000 (timeout - 2000 * k) ≤ min 2000 (longer - 2000 * (k : τ)) :=
        min_le_min_left _ (sub_le_sub_right hle _)
      refine found tries ⟨htime.trans_le hle, hthere, hsoon.trans hmore⟩ fun j d other hj hd hother => ?_
      obtain ⟨-, hdthere, hdsoon⟩ := hother
      have hbefore : 2000 * (j : τ) + 2000 ≤ 2000 * k := by
        have hcast : (j : τ) + 1 ≤ k := by exact_mod_cast hj
        linarith
      refine first j d other hj hd ⟨by linarith, hdthere, ?_⟩
      rw [min_eq_left (by linarith)]
      exact hdsoon.trans (min_le_left _ _)

end Verdict

end Verdict

/-! ## Searches in time -/

section Search

variable {S τ : Type} [CommRing τ] [LinearOrder τ] [IsStrictOrderedRing τ] {m : Means S τ}
  {delay? : Key → Option τ} {clock : S → τ} {fair : S → Prop} {s : S}

/-- What is left until a deadline decides what a search comes to. -/
theorem verdict_probe (hm : m.Timely delay? clock fair) (hs : fair s) (target : String) (deadline : τ)
    (tried : List String) (candidates : List Candidate) :
    Verdict delay? (deadline - clock s) target tried candidates
      (outcome (m.probe target deadline tried candidates) s).1
      (clock (outcome (m.probe target deadline tried candidates) s).2 - clock s) := by
  induction candidates generalizing tried s with
  | nil =>
      rw [Means.probe, outcome_throw, sub_self]
      exact .nil
  | cons c rest ih =>
      rw [Means.probe, outcome_bind_of_ok (hm.now s)]
      dsimp only
      by_cases hlate : deadline - clock s ≤ 0
      · rw [if_pos hlate, outcome_throw, sub_self]
        exact .of_late hlate
      have hpos : 0 < deadline - clock s := not_le.mp hlate
      have hlimit : ((probeLimit : Int) : τ) = 2000 := by norm_num [probeLimit]
      rw [if_neg hlate, hlimit]
      by_cases hthere : ∃ delay, delay? c.key = some delay ∧ delay ≤ min (deadline - clock s) 2000
      · obtain ⟨delay, there, hle⟩ := hthere
        obtain ⟨s', hwait, hclock, -⟩ := hm.found hs there hle
        obtain ⟨last, hremember, hlast⟩ := hm.remember target c s'
        rw [outcome_bind_of_ok (outcome_attempt_of hwait)]
        dsimp only
        rw [outcome_bind_of_ok hremember, outcome_pure, hlast, hclock, add_sub_cancel_left]
        exact .head hpos there hle
      · have habsent : ∀ delay, delay? c.key = some delay → min (deadline - clock s) 2000 < delay :=
          fun delay there => not_le.mp fun hle => hthere ⟨delay, there, hle⟩
        obtain ⟨failure, s', hwait, hbrowser, hclock, hfair⟩ := hm.late hs habsent
        rw [outcome_bind_of_ok (outcome_attempt_of hwait)]
        dsimp only
        rw [if_pos hbrowser]
        have hleft : deadline - clock s' = deadline - clock s - min (deadline - clock s) 2000 := by
          rw [hclock, sub_add_eq_sub_sub]
        have hspent : ∀ t, t - clock s = min (deadline - clock s) 2000 + (t - clock s') := by
          intro t
          linarith
        have hrest := ih hfair (tried ++ [c.label])
        rw [hleft] at hrest
        rw [hspent (clock _)]
        exact hrest.cons hpos habsent

theorem verdict_resolve (hm : m.Timely delay? clock fair) (hs : fair s) (target : String)
    (selector : Option String) (profile : Profile) (timeout : Int) :
    Verdict delay? timeout (Text.strip target) [] (Candidate.all target selector profile)
      (outcome (m.resolve target selector profile timeout) s).1
      (clock (outcome (m.resolve target selector profile timeout) s).2 - clock s) := by
  have hprobe := verdict_probe hm hs (Text.strip target) (clock s + timeout) []
    (Candidate.all target selector profile)
  rw [add_sub_cancel_left] at hprobe
  rw [Means.resolve, outcome_bind_of_ok (hm.now s), all_strip]
  exact hprobe

end Search

/-! ## Clocks of runs and of pages that stay -/

/-- With a browser that waits for elements as they are there, a run keeps time. -/
theorem timely_ofBrowser {σ : Type} {b : Browser σ} {state : σ} {delay? : Key → Option Int}
    (hwaits : ∀ key limit, Waits state (delay? key) limit (b.waitFor key .attached limit state)) :
    (Means.ofBrowser b).Timely delay? World.now fun w => w.browser = state where
  now w := outcome_now w
  found {key limit delay w} hw there inTime := by
    obtain ⟨other, hother, -, hreply⟩ | ⟨-, absent, -⟩ := (hwaits key limit).cases
    · obtain rfl : other = delay := Option.some.inj (hother.symm.trans there)
      have hcall := outcome_call (.waitFor key .attached limit) (b.waitFor key .attached limit) w
      rw [hw, hreply] at hcall
      exact ⟨_, hcall, rfl, rfl⟩
    · exact absurd (absent delay there) (not_lt.mpr inTime)
  late {key limit w} hw absent := by
    obtain ⟨delay, there, hle, -⟩ | ⟨message, -, hreply⟩ := (hwaits key limit).cases
    · exact absurd hle (not_le.mpr (absent delay there))
    · have hcall := outcome_call (.waitFor key .attached limit) (b.waitFor key .attached limit) w
      rw [hw, hreply] at hcall
      exact ⟨_, _, hcall, rfl, rfl, rfl⟩
  remember target c w := ⟨_, outcome_learn target c w, rfl⟩

section Ideal

variable {τ : Type} [CommRing τ] [LinearOrder τ]

/-- The means of a page that stays as it is, of which all there is to see is the time. -/
def Means.ideal (delay? : Key → Option τ) : Means τ τ where
  now := get
  wait key limit :=
    match (delay? key).filter (· ≤ limit) with
    | some delay => modify (· + delay)
    | none => do
      modify (· + limit)
      throw (.browserTimeout "")
  remember _ _ := pure ()

theorem timely_ideal (delay? : Key → Option τ) :
    (Means.ideal delay?).Timely delay? id fun _ => True where
  now s := rfl
  found {key limit delay s} _ there inTime := by
    have hfilter : (delay? key).filter (· ≤ limit) = some delay :=
      Option.filter_eq_some_iff.mpr ⟨there, by simpa using inTime⟩
    refine ⟨s + delay, ?_, rfl, trivial⟩
    simp only [Means.ideal, hfilter]
    rfl
  late {key limit s} _ absent := by
    have hfilter : (delay? key).filter (· ≤ limit) = none :=
      Option.filter_eq_none_iff.mpr fun delay there => by simpa using absent delay there
    refine ⟨.browserTimeout "", s + limit, ?_, rfl, rfl, trivial⟩
    simp only [Means.ideal, hfilter]
    rfl
  remember _ _ s := ⟨s, rfl, rfl⟩

end Ideal

/-! ## The closed form -/

/-- What work comes to from a state, and how long it takes by a clock. -/
def timed {S τ α : Type} [Sub τ] (clock : S → τ) (x : Effect S α) (s : S) : Except Failure α × τ :=
  ((outcome x s).1, clock (outcome x s).2 - clock s)

/-- The closed form of a search by its time limit, for the limits that there are: what it comes to and
how long it takes, that it takes no longer than its limit (a negative one is none), and that what is found
stays found with more time. -/
structure ClosedForm {τ : Type} [CommRing τ] [LinearOrder τ] (delay? : Key → Option τ) (target : String)
    (candidates : List Candidate) (limits : Int → Prop)
    (search : Int → Except Failure Candidate × τ) : Prop where
  verdict (timeout : Int) (h : limits timeout) :
    Verdict delay? timeout target [] candidates (search timeout).1 (search timeout).2
  spent_le (timeout : Int) (h : limits timeout) : (search timeout).2 ≤ max (timeout : τ) 0
  kept (timeout longer : Int) (found : Candidate) (h : limits timeout) (h' : limits longer)
    (hle : timeout ≤ longer) (hfound : (search timeout).1 = .ok found) :
    search longer = search timeout

theorem ClosedForm.of_verdict {τ : Type} [CommRing τ] [LinearOrder τ] [IsStrictOrderedRing τ]
    {delay? : Key → Option τ} {target : String} {candidates : List Candidate} {limits : Int → Prop}
    {search : Int → Except Failure Candidate × τ}
    (h : ∀ timeout, limits timeout →
      Verdict delay? timeout target [] candidates (search timeout).1 (search timeout).2) :
    ClosedForm delay? target candidates limits search where
  verdict := h
  spent_le timeout ht := (h timeout ht).spent_le
  kept timeout longer found ht hlonger hle hfound := by
    have hbefore := h timeout ht
    rw [hfound] at hbefore
    have hafter := hbefore.lengthen (Int.cast_le.mpr hle)
    obtain ⟨hanswer, hspent⟩ := hafter.unique (h longer hlonger)
    exact Prod.ext (hanswer.trans hfound.symm) hspent

/-- By a clock that is kept, a search finds the first candidate that is there within the longest time for
one and before the time limit, after the longest time for each one before it. If there is none, it fails
when the time limit or the longest time for each candidate is over, with the labels of those for which
time was left. So it does by the clock of a run, which counts whole milliseconds and refuses a time limit
that is too long for a number of seconds. -/
theorem resolve_in_time :
    (∀ {S τ : Type} [CommRing τ] [LinearOrder τ] [IsStrictOrderedRing τ] (m : Means S τ)
        (delay? : Key → Option τ) (clock : S → τ) (fair : S → Prop), m.Timely delay? clock fair →
      ∀ (target : String) (selector : Option String) (profile : Profile) (s : S), fair s →
        ClosedForm delay? (Text.strip target) (Candidate.all target selector profile) (fun _ => True)
          fun timeout => timed clock (m.resolve target selector profile timeout) s) ∧
    ∀ {σ : Type} (b : Browser σ) (delay? : Key → Option Int) (w : World σ),
      (∀ key limit, Waits w.browser (delay? key) limit (b.waitFor key .attached limit w.browser)) →
      ∀ (target : String) (selector : Option String),
        ClosedForm delay? (Text.strip target) (Candidate.all target selector w.profile)
            (fun timeout => (Clock.seconds timeout).isOk)
            (fun timeout => timed World.now (resolve b target selector timeout) w) ∧
          ∀ timeout failure, Clock.seconds timeout = .error failure →
            outcome (resolve b target selector timeout) w = (.error failure, w) := by
  refine ⟨?_, ?_⟩
  · intro S τ _ _ _ m delay? clock fair hm target selector profile s hs
    exact .of_verdict fun timeout _ => verdict_resolve hm hs target selector profile timeout
  · intro σ b delay? w hwaits target selector
    refine ⟨.of_verdict fun timeout hlimit => ?_, fun timeout failure hfails =>
      outcome_resolve_of_error target selector hfails w⟩
    have hverdict := verdict_resolve (timely_ofBrowser hwaits) rfl target selector w.profile timeout
    have hsearch : outcome (resolve b target selector timeout) w =
        outcome ((Means.ofBrowser b).resolve target selector w.profile timeout) w := by
      rw [outcome_resolve_eq]
      cases hseconds : Clock.seconds timeout with
      | error failure =>
          rw [hseconds] at hlimit
          cases hlimit
      | ok seconds => rfl
    rw [timed, hsearch]
    exact hverdict

/-- A label that is there after half a millisecond is found when two candidates have been missed, with
half a millisecond to spare; on a page with whole milliseconds it is found in the last one. -/
theorem resolve_in_time_label :
    let page : Page := { Page.blank with
      elements := [("label:Email", [])]
      delays := [("label:Email", 125)] }
    let w : World Page := ⟨page, 0, .empty [], .empty Profile.defaultDomain, 0, [], [], []⟩
    let delay? : Key → Option ℚ := fun key => if key = .label "Email" then some (1 / 2) else none
    let label : Candidate := ⟨"label", "Email", .label "Email", none⟩
    timed id ((Means.ideal delay?).resolve " Email " none w.profile 4001) 0 = (.ok label, 8001 / 2) ∧
      timed World.now (resolve Page.browser " Email " none 4125) w = (.ok label, 4125) := by
  intro page w delay? label
  have hlabel : (Candidate.all " Email " none w.profile)[2]? = some label := rfl
  -- The two candidates before the label are a button and a link.
  have hbefore : ∀ j d, j < 2 → (Candidate.all " Email " none w.profile)[j]? = some d →
      d.key = .role "button" "Email" ∨ d.key = .role "link" "Email" := by
    intro j d hj hd
    match j with
    | 0 => exact .inl (Option.some.inj hd ▸ rfl)
    | 1 => exact .inr (Option.some.inj hd ▸ rfl)
  constructor
  · have hhalf : Verdict delay? ((4001 : Int) : ℚ) (Text.strip " Email ") []
        (Candidate.all " Email " none w.profile) (.ok label) (2000 * (2 : Nat) + 1 / 2) := by
      refine .found hlabel ⟨by norm_num, if_pos rfl, by norm_num⟩ fun j d other hj hd htime => ?_
      obtain ⟨-, hthere, -⟩ := htime
      rcases hbefore j d hj hd with hkey | hkey <;> simp [delay?, hkey] at hthere
    have hverdict := (resolve_in_time.1 (Means.ideal delay?) delay? id _ (timely_ideal delay?)
      " Email " none w.profile 0 trivial).verdict 4001 trivial
    obtain ⟨hanswer, hspent⟩ := hhalf.unique hverdict
    exact Prod.ext hanswer (hspent.trans (by norm_num))
  · have hlast : Verdict page.delay? ((4125 : Int) : Int) (Text.strip " Email ") []
        (Candidate.all " Email " none w.profile) (.ok label) (2000 * (2 : Nat) + 125) := by
      refine .found hlabel ⟨by norm_num, rfl, by norm_num⟩ fun j d other hj hd htime => ?_
      obtain ⟨-, hthere, -⟩ := htime
      rcases hbefore j d hj hd with hkey | hkey <;> rw [hkey] at hthere <;> cases hthere
    have hverdict := (resolve_in_time.2 Page.browser page.delay? w (Page.waits_browser rfl) " Email "
      none).1.verdict 4125 rfl
    obtain ⟨hanswer, hspent⟩ := hlast.unique hverdict
    exact Prod.ext hanswer (hspent.trans (by norm_num))

end Walkthrough.Locate
