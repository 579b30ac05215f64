import Walkthrough.Page
import Walkthrough.Proofs.Run.Learning

/-! # Elements that are found in time

A browser is punctual if it finds an element when it is there in time, and takes all the time that it is
given when it is not. With such a browser, more time finds the same candidate for a target, and so does
a selector that is remembered in place of one that comes with the step. -/

namespace Walkthrough

open Effect

variable {σ α : Type}

/-! ## Browsers -/

/-- How waiting for an element ends that is there after a delay, or never: the element is found then, or
the time runs out. The browser stays as it is. -/
inductive Waits (state : σ) (delay? : Option Int) (limit : Int) : Reply σ Unit → Prop
  | found {delay : Int} (there : delay? = some delay) (inTime : delay ≤ limit) :
      Waits state delay? limit ⟨state, delay, .ok ()⟩
  | late (message : String) (absent : ∀ delay, delay? = some delay → limit < delay) :
      Waits state delay? limit ⟨state, limit, .error (.browserTimeout message)⟩

theorem Waits.cases {state : σ} {delay? : Option Int} {limit : Int} {reply : Reply σ Unit}
    (h : Waits state delay? limit reply) :
    (∃ delay, delay? = some delay ∧ delay ≤ limit ∧ reply = ⟨state, delay, .ok ()⟩) ∨
      ∃ message, (∀ delay, delay? = some delay → limit < delay) ∧
        reply = ⟨state, limit, .error (.browserTimeout message)⟩ := by
  cases h with
  | found there inTime => exact .inl ⟨_, there, inTime, rfl⟩
  | late message absent => exact .inr ⟨message, absent, rfl⟩

/-- A browser that is punctual in some states, which no call leads out of. -/
structure Browser.Punctual (b : Browser σ) (fair : σ → Prop) : Prop where
  called {α : Type} {c : Call} {reply : σ → Reply σ α} (h : b.Replies c reply) {state : σ}
    (hstate : fair state) : fair (reply state).state
  read (key : Key) (index : Nat) {state : σ} (hstate : fair state) :
    fair (b.innerText key index state).state
  waits (key : Key) {state : σ} (hstate : fair state) :
    ∃ delay?, ∀ limit, Waits state delay? limit (b.waitFor key .attached limit state)

namespace Page

theorem unlessFaulty_of_nil {p : Page} (h : p.faults = []) (label : String) (timeout : Int)
    (reply : Reply Page α) : p.unlessFaulty label timeout reply = reply := by
  simp [unlessFaulty, h]

theorem waits_awaiting (p : Page) (key : Key) (timeout : Int) :
    Waits p (p.delay? key) timeout (p.awaiting key timeout p) := by
  unfold awaiting
  cases hdelay : p.delay? key with
  | none => exact .late _ (by simp)
  | some delay =>
      dsimp only
      split
      · rename_i hle
        exact .found rfl hle
      · rename_i hle
        exact .late _ (by simpa using hle)

theorem faults_awaiting {p after : Page} (hafter : after.faults = p.faults) (key : Key)
    (timeout : Int) : (p.awaiting key timeout after).state.faults = p.faults := by
  unfold awaiting
  split
  · split
    · exact hafter
    · rfl
  · rfl

theorem faults_clicked (p : Page) (key : Key) : (p.clicked key).faults = p.faults := by
  unfold clicked
  split <;> rfl

theorem waits_browser {p : Page} (hp : p.faults = []) (key : Key) (limit : Int) :
    Waits p (p.delay? key) limit (browser.waitFor key .attached limit p) := by
  simpa [browser, unlessFaulty_of_nil hp] using p.waits_awaiting key limit

/-- A page is punctual as long as none of its calls is scripted to fail. -/
theorem punctual_browser : browser.Punctual fun p => p.faults = [] where
  called h p hp := by
    cases h <;>
      simp [browser, unlessFaulty_of_nil hp, atOnce, faults_awaiting, faults_clicked, hp]
    split <;> exact hp
  read key index p hp := by simp [browser, unlessFaulty_of_nil hp, atOnce, hp]
  waits key p hp := ⟨p.delay? key, waits_browser hp key⟩

end Page

/-! ## Deeds -/

/-- Whether a call does something on a page, or asks for its address or for how many elements there are.
-/
def Call.isDeed : Call → Bool
  | .goto .. | .click .. | .fill .. | .waitForUrl .. | .pause _ | .count _ => true
  | _ => false

/-- What was done on pages, beside looking for elements. -/
def deeds (events : List Event) : List Call :=
  events.filterMap fun
    | .call c => if c.isDeed then some c else none
    | _ => none

theorem deeds_append (events more : List Event) :
    deeds (events ++ more) = deeds events ++ deeds more :=
  List.filterMap_append

theorem deeds_append_call {c : Call} (events : List Event) (h : c.isDeed = false) :
    deeds (events ++ [.call c]) = deeds events := by
  simp [deeds, h]

/-- What is left of a world where elements are only looked for. -/
structure Looked (w w' : World σ) : Prop where
  browser : w'.browser = w.browser
  deeds : deeds w'.events = deeds w.events

theorem Looked.trans {w w' w'' : World σ} (h : Looked w w') (h' : Looked w' w'') : Looked w w'' :=
  ⟨h'.browser.trans h.browser, h'.deeds.trans h.deeds⟩

/-! ## More time -/

namespace Locate

variable {b : Browser σ} {fair : σ → Prop} {target : String} {deadline : Instant}
  {tried : List String} {c : Candidate} {rest : List Candidate} {w : World σ}

/-- A candidate that is there in time is found. -/
theorem exists_probe_of_found (target : String) (tried : List String) {delay : Int}
    (hpos : 0 < deadline - w.now)
    (hreply : b.waitFor c.key .attached (min (deadline - w.now) probeLimit) w.browser =
      ⟨w.browser, delay, .ok ()⟩) :
    ∃ w', outcome (probe b target deadline tried (c :: rest)) w = (.ok c, w') ∧ Looked w w' ∧
      w'.profile = learned target c w.profile := by
  rw [outcome_probe_cons _ _ _ _ _ hpos, hreply]
  exact ⟨_, rfl, ⟨rfl, deeds_append_call _ rfl⟩, rfl⟩

/-- A candidate that is not there takes its time, and then the next one is tried. -/
theorem exists_probe_of_late (target : String) (tried : List String) {message : String}
    (hpos : 0 < deadline - w.now)
    (hreply : b.waitFor c.key .attached (min (deadline - w.now) probeLimit) w.browser =
      ⟨w.browser, min (deadline - w.now) probeLimit, .error (.browserTimeout message)⟩) :
    ∃ w', outcome (probe b target deadline tried (c :: rest)) w =
        outcome (probe b target deadline (tried ++ [c.label]) rest) w' ∧ Looked w w' ∧
      w'.profile = w.profile ∧ w'.now = w.now + min (deadline - w.now) probeLimit := by
  rw [outcome_probe_cons _ _ _ _ _ hpos, hreply]
  exact ⟨_, rfl, ⟨rfl, deeds_append_call _ rfl⟩, rfl, rfl⟩

/-- Only a candidate that had the longest time there is for one leaves time for others. -/
theorem min_eq_probeLimit {remaining : Int} (h : 0 < remaining - min remaining probeLimit) :
    min remaining probeLimit = probeLimit := by
  unfold probeLimit at h ⊢
  omega

/-- Some time is left if something is found. -/
theorem pos_of_probe {candidates : List Candidate} {found : Candidate} {w' : World σ}
    (h : outcome (probe b target deadline tried candidates) w = (.ok found, w')) :
    0 < deadline - w.now := by
  by_contra hlate
  rw [outcome_probe_late _ _ _ _ (Int.not_lt.mp hlate)] at h
  cases congrArg Prod.fst h

/-- A candidate that is found first with some time left is found first with more time, since each one
before it has had the longest time there is for one. -/
theorem exists_probe (hb : b.Punctual fair) {deadline' : Instant} (tried' : List String)
    {candidates : List Candidate} {found : Candidate} {w' v : World σ} (hfair : fair w.browser)
    (hbrowser : v.browser = w.browser) (htime : deadline - w.now ≤ deadline' - v.now)
    (hknown : ∀ c ∈ candidates, learned target c v.profile = v.profile)
    (h : outcome (probe b target deadline tried candidates) w = (.ok found, w')) :
    Looked w w' ∧ ∃ v', outcome (probe b target deadline' tried' candidates) v = (.ok found, v') ∧
      Looked v v' ∧ v'.profile = v.profile := by
  induction candidates generalizing tried tried' w v with
  | nil => cases congrArg Prod.fst h
  | cons c rest ih =>
      have hpos : 0 < deadline - w.now := pos_of_probe h
      have hpos' : 0 < deadline' - v.now := Int.lt_of_lt_of_le hpos htime
      have hlimit : min (deadline - w.now) probeLimit ≤ min (deadline' - v.now) probeLimit :=
        min_le_min_right probeLimit htime
      obtain ⟨delay?, hwaits⟩ := hb.waits c.key hfair
      rcases (hwaits (min (deadline - w.now) probeLimit)).cases with
        ⟨delay, there, inTime, hreply⟩ | ⟨message, absent, hreply⟩
      · obtain ⟨last, hfound, hlooked, -⟩ := exists_probe_of_found target tried hpos hreply
        rw [hfound] at h
        cases h
        rcases (hwaits (min (deadline' - v.now) probeLimit)).cases with
          ⟨delay', there', -, hreply'⟩ | ⟨-, absent, -⟩
        · rw [← hbrowser] at hreply'
          obtain ⟨last', hfound', hlooked', hlearned⟩ := exists_probe_of_found target tried' hpos' hreply'
          exact ⟨hlooked, last', hfound', hlooked', hlearned.trans (hknown _ List.mem_cons_self)⟩
        · exact absurd (absent delay there) (Int.not_lt.mpr (inTime.trans hlimit))
      · obtain ⟨next, hnext, hlooked, -, hnow⟩ := exists_probe_of_late target tried hpos hreply
        rw [hnext] at h
        have hleft : deadline - next.now =
            deadline - w.now - min (deadline - w.now) probeLimit := by
          rw [hnow, Int.sub_sub]
        have hfull : min (deadline - w.now) probeLimit = probeLimit :=
          min_eq_probeLimit (hleft ▸ pos_of_probe h)
        have hfull' : min (deadline' - v.now) probeLimit = probeLimit :=
          le_antisymm (min_le_right _ _) (hfull.symm.trans_le hlimit)
        rcases (hwaits (min (deadline' - v.now) probeLimit)).cases with
          ⟨delay, there, inTime, -⟩ | ⟨message', -, hreply'⟩
        · rw [hfull'] at inTime
          rw [hfull] at absent
          exact absurd (absent delay there) (Int.not_lt.mpr inTime)
        · rw [← hbrowser] at hreply'
          obtain ⟨next', hnext', hlooked', hprofile', hnow'⟩ := exists_probe_of_late target tried' hpos' hreply'
          have hleft' : deadline' - next'.now =
              deadline' - v.now - min (deadline' - v.now) probeLimit := by
            rw [hnow', Int.sub_sub]
          obtain ⟨hrest, last', hfound', hlast', hprofile⟩ := ih (tried' ++ [c.label])
            (hlooked.browser ▸ hfair)
            ((hlooked'.browser.trans hbrowser).trans hlooked.browser.symm)
            (by rw [hleft, hleft', hfull, hfull']; exact Int.sub_le_sub_right htime _)
            (fun d hd => hprofile' ▸ hknown d (List.mem_cons_of_mem c hd)) h
          rw [hnext']
          exact ⟨hlooked.trans hrest, last', hfound', hlooked'.trans hlast',
            hprofile.trans hprofile'⟩

/-! ## Remembered selectors -/

/-- The blanks around a target do not matter for its candidates. -/
theorem all_strip (target : String) (selector : Option String) (profile : Profile) :
    Candidate.all (Text.strip target) selector profile = Candidate.all target selector profile := by
  rw [Candidate.all, Candidate.all, Text.strip_strip]

/-- The candidates of a step without a selector depend on the profile by what it knows of the target. -/
theorem all_eq_of_remembered {target : String} {p q : Profile}
    (h : q.remembered (Text.strip target) = p.remembered (Text.strip target)) :
    Candidate.all target (some "") q = Candidate.all target none p := by
  simp only [Candidate.all, h]
  rfl

/-- What was found with a selector, or without it, is found in the same place with a profile that has
learned from it. -/
theorem exists_resolve (hb : b.Punctual fair) {selector : Option String} {timeout : Int}
    {found : Candidate} {w' v : World σ} (hfair : fair w.browser) (hbrowser : v.browser = w.browser)
    (htaught : Table.get? v.profile.selectors (Text.strip target) =
      Table.get? (w.profile.taught (lesson? b (Text.strip target) (selector.filter (· != "")) timeout
        w.browser).toList).selectors (Text.strip target))
    (h : outcome (resolve b target selector timeout) w = (.ok found, w')) :
    Looked w w' ∧ ∃ found' v', outcome (resolve b target (some "") timeout) v = (.ok found', v') ∧
      found'.key = found.key ∧ Looked v v' ∧ v'.profile = v.profile := by
  have hknown : ∀ c ∈ Candidate.all (Text.strip target) (some "") v.profile,
      learned (Text.strip target) c v.profile = v.profile := fun c => learned_of_mem
  have hremaining : w.now + timeout - w.now = timeout := by rw [Int.add_comm, Int.add_sub_cancel]
  have hremaining' : v.now + timeout - v.now = timeout := by rw [Int.add_comm, Int.add_sub_cancel]
  obtain ⟨seconds, hseconds⟩ : ∃ seconds, Clock.seconds timeout = .ok seconds := by
    cases hseconds : Clock.seconds timeout with
    | error failure =>
        rw [outcome_resolve_of_error target selector hseconds] at h
        cases congrArg Prod.fst h
    | ok seconds => exact ⟨seconds, rfl⟩
  rw [outcome_resolve target selector hseconds] at h
  rw [outcome_resolve target (some "") hseconds]
  -- Without a lesson both profiles know the same of the target.
  have hsame : lesson? b (Text.strip target) (selector.filter (· != "")) timeout w.browser = none →
      Candidate.all (Text.strip target) (some "") v.profile =
        Candidate.all (Text.strip target) none w.profile := by
    intro hlesson
    rw [hlesson] at htaught
    refine all_eq_of_remembered ?_
    rw [Text.strip_strip, Profile.remembered, Profile.remembered, htaught]
    rfl
  cases hselector : selector.filter (· != "") with
  | none =>
      have hall : Candidate.all (Text.strip target) selector w.profile =
          Candidate.all (Text.strip target) none w.profile := by
        rw [Candidate.all, hselector]
        rfl
      rw [hall, ← hsame (by rw [hselector]; rfl)] at h
      obtain ⟨hlooked, v', hfound, hlooked', hprofile⟩ := exists_probe hb [] hfair hbrowser
        (hremaining.trans hremaining'.symm).le hknown h
      exact ⟨hlooked, found, v', hfound, rfl, hlooked', hprofile⟩
  | some s =>
      have hall : Candidate.all (Text.strip target) selector w.profile =
          .learnable "explicit" s :: Candidate.all (Text.strip target) none w.profile := by
        rw [Candidate.all, hselector]
        rfl
      rw [hall] at h
      rw [hselector] at htaught hsame
      have hlimit : min (w.now + timeout - w.now) probeLimit = min timeout probeLimit := by
        rw [hremaining]
      have hlimit' : min (v.now + timeout - v.now) probeLimit = min timeout probeLimit := by
        rw [hremaining']
      have hpos : 0 < w.now + timeout - w.now := pos_of_probe h
      have hpos' : 0 < v.now + timeout - v.now := by rwa [hremaining', ← hremaining]
      obtain ⟨delay?, hwaits⟩ := hb.waits (.css s) hfair
      rcases (hwaits (min timeout probeLimit)).cases with
        ⟨delay, there, inTime, hreply⟩ | ⟨message, absent, hreply⟩
      · have hlesson : lesson? b (Text.strip target) (some s) timeout w.browser =
            some (Text.strip target, s) :=
          lesson?_of_ok (hpos.trans_eq hremaining) hseconds (congrArg Reply.answer hreply)
        have hremembered : v.profile.remembered (Text.strip target) = some s := by
          have hset : Table.get? v.profile.selectors (Text.strip target) = some s := by
            rw [htaught, hlesson]
            exact (Table.get?_set _ _ _ _).trans (if_pos rfl)
          rw [Profile.remembered, hset, Option.filter_eq_some_iff]
          exact ⟨rfl, (Option.filter_eq_some_iff.mp hselector).2⟩
        have hall' : Candidate.all (Text.strip target) (some "") v.profile =
            .learnable "profile" s :: Candidate.heuristics (Text.strip target) := by
          simp only [Candidate.all, Text.strip_strip, hremembered]
          rfl
        rw [← hlimit] at hreply
        obtain ⟨last, hfound, hlooked, -⟩ := exists_probe_of_found (c := .learnable "explicit" s)
          (Text.strip target) [] hpos hreply
        rw [hfound] at h
        cases h
        rw [hlimit, ← hlimit', ← hbrowser] at hreply
        obtain ⟨last', hfound', hlooked', hprofile⟩ := exists_probe_of_found
          (c := .learnable "profile" s) (Text.strip target) [] hpos' hreply
        rw [hall']
        exact ⟨hlooked, _, last', hfound', rfl, hlooked',
          hprofile.trans (Profile.remember_of_remembered hremembered)⟩
      · have hlesson : lesson? b (Text.strip target) (some s) timeout w.browser = none :=
          lesson?_of_error (congrArg Reply.answer hreply)
        rw [← hsame hlesson] at h
        rw [← hlimit] at hreply
        obtain ⟨next, hnext, hlooked, -, hnow⟩ := exists_probe_of_late (c := .learnable "explicit" s)
          (Text.strip target) [] hpos hreply
        rw [hnext] at h
        have hspent : 0 ≤ min (w.now + timeout - w.now) probeLimit := le_min hpos.le (by decide)
        have hless : w.now + timeout - next.now ≤ v.now + timeout - v.now := by
          rw [hnow, ← Int.sub_sub, hremaining', hremaining]
          exact Int.sub_le_self timeout (hremaining ▸ hspent)
        obtain ⟨hlast, v', hfound, hlooked', hprofile⟩ := exists_probe hb []
          (hlooked.browser ▸ hfair) (hbrowser.trans hlooked.browser.symm) hless hknown h
        exact ⟨hlooked.trans hlast, found, v', hfound, rfl, hlooked', hprofile⟩

end Locate

end Walkthrough
