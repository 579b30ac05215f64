import Walkthrough.Proofs.Plan.Compile
import Walkthrough.Proofs.Run.Saving
import Walkthrough.Proofs.Text

/-! # Selectors that a run learns

A step that looks for a target teaches its own selector, if that is there at the first try, and nothing
else that a run does changes the selectors of its site profile. So the selectors that are saved are
those that were loaded, with what the steps that were carried out have taught, in order. -/

namespace Walkthrough

open Effect

variable {σ α β : Type}

/-! ## Lessons -/

namespace Primitive

/-- The trimmed name of what a step looks for, if it clicks on something or fills a field. -/
def target? (p : Primitive) : Option String :=
  match p.kind with
  | "click" => (Stage.ensureText p.payload "target").toOption.map Text.strip
  | "fill" => (Stage.ensureText p.payload "field").toOption.map Text.strip
  | _ => none

/-- The selector that a step brings with it. -/
def selector? (p : Primitive) : Option String :=
  (Stage.text? p.payload "selector").filter (· != "")

end Primitive

/-- What looking for a target teaches: the selector that was brought along, if there is time for a try
and not too much of it, and the element is there at the first one. -/
def Locate.lesson? (b : Browser σ) (target : String) (selector : Option String) (timeout : Int)
    (state : σ) : Option (String × String) :=
  match selector with
  | some s =>
    if 0 < timeout ∧ (Clock.seconds timeout).isOk ∧
        (b.waitFor (.css s) .attached (min timeout Locate.probeLimit) state).answer.isOk then
      some (target, s)
    else none
  | none => none

/-- What a step teaches that begins in a state of the browser: a selector under a target. -/
def Stage.lesson? (stage : Stage σ) (p : Primitive) (state : σ) : Option (String × String) :=
  p.target?.bind fun target =>
    Locate.lesson? stage.browser target p.selector? stage.timeoutMs state

namespace Profile

/-- A profile with lessons, each a selector under a target, in order. -/
def taught (p : Profile) (lessons : List (String × String)) : Profile :=
  lessons.foldl (fun p lesson => p.remember lesson.1 lesson.2) p

@[simp] theorem taught_nil (p : Profile) : p.taught [] = p :=
  rfl

theorem taught_append (p : Profile) (lessons more : List (String × String)) :
    p.taught (lessons ++ more) = (p.taught lessons).taught more :=
  List.foldl_append

theorem selectors_taught (p : Profile) (lessons : List (String × String)) :
    (p.taught lessons).selectors = Table.update p.selectors lessons := by
  induction lessons generalizing p with
  | nil => rfl
  | cons lesson lessons ih => exact ih (p.remember lesson.1 lesson.2)

theorem domain_taught (p : Profile) (lessons : List (String × String)) :
    (p.taught lessons).domain = p.domain := by
  induction lessons generalizing p with
  | nil => rfl
  | cons lesson lessons ih => exact ih (p.remember lesson.1 lesson.2)

theorem Distinct.taught {p : Profile} (h : p.Distinct) (lessons : List (String × String)) :
    (p.taught lessons).Distinct := by
  induction lessons generalizing p with
  | nil => exact h
  | cons lesson lessons ih => exact ih (h.remember lesson.1 lesson.2)

/-- Remembering the selector that is remembered already changes nothing. -/
theorem remember_of_remembered {p : Profile} {target s : String} (h : p.remembered target = some s) :
    p.remember target s = p := by
  obtain ⟨hget, -⟩ := Option.filter_eq_some_iff.mp h
  rw [remember, Table.set_of_get? hget]

end Profile

/-! ## Profiles that stay -/

/-- The site profile stays as it is. -/
def SameProfile (w w' : World σ) : Prop :=
  w'.profile = w.profile

instance : Std.Refl (α := World σ) SameProfile :=
  ⟨fun _ => rfl⟩

instance : IsTrans (World σ) SameProfile :=
  ⟨fun _ _ _ h h' => h'.trans h⟩

section Follows

variable (start : World σ)

theorem follows_sameProfile_call (c : Call) (reply : σ → Reply σ α) :
    Follows SameProfile (Work.call c reply) := by
  intro w
  rw [outcome_call]
  exact .single rfl

theorem follows_sameProfile_write (path : Path) (content : Text.Content) :
    Follows SameProfile (Work.writeFile path content : Work σ Unit) := by
  intro w
  rw [outcome_writeFile]
  split <;> exact .single rfl

theorem follows_sameProfile_log (runDir : Path) (level : Level) (message : String) :
    Follows SameProfile (logTo runDir level message : Work σ Unit) := by
  intro w
  obtain ⟨w', hlog, hfiled⟩ := Run.exists_logTo runDir level message w
  rw [hlog]
  exact .single hfiled.profile

theorem keeping_sameProfile (stage : Stage σ) : stage.Keeping (Along SameProfile start) where
  url h := by rw [h.1]
  called _ _ := (follows_sameProfile_call _ _).respects
  read _ _ := Follows.respects fun w => by
    simp only [outcome_receive]
    exact .single rfl
  viewed _ _ := (follows_sameProfile_call _ _).respects
  logged level message := (follows_sameProfile_log _ level message).respects
  shot _ data := (follows_sameProfile_write _ data).respects
  snapped _ _ := (follows_sameProfile_write _ _).respects

theorem tracing_sameProfile (stage : Stage σ) : Run.Tracing (Along SameProfile start) stage where
  called _ := (follows_sameProfile_call _ _).respects
  logged level message := (follows_sameProfile_log _ level message).respects
  kept data := (follows_sameProfile_write _ data).respects

end Follows

/-! ## Looking for a target -/

namespace Locate

variable {b : Browser σ}

/-- A time limit that is not too long sets a deadline. -/
theorem outcome_resolve (target : String) (selector : Option String) {timeout : Int}
    {limit : Binary64} (h : Clock.seconds timeout = .ok limit) (w : World σ) :
    outcome (resolve b target selector timeout) w =
      outcome (probe b (Text.strip target) (w.now + timeout) []
        (Candidate.all (Text.strip target) selector w.profile)) w := by
  rw [resolve, h]
  rfl

theorem outcome_resolve_of_error (target : String) (selector : Option String) {timeout : Int}
    {failure : Failure} (h : Clock.seconds timeout = .error failure) (w : World σ) :
    outcome (resolve b target selector timeout) w = (.error failure, w) := by
  rw [resolve, h]
  rfl

/-- What a profile knows of a target after a candidate was found. -/
def learned (target : String) (c : Candidate) (p : Profile) : Profile :=
  match c.selector with
  | some s => p.remember target s
  | none => p

theorem outcome_learn (target : String) (c : Candidate) (w : World σ) :
    outcome (learn target c) w = (.ok (), { w with profile := learned target c w.profile }) := by
  unfold learn learned
  cases c.selector <;> rfl

/-- Trying a candidate first, while there is time. -/
theorem outcome_probe_cons (target : String) (deadline : Instant) (tried : List String)
    (c : Candidate) (rest : List Candidate) {w : World σ} (hremaining : 0 < deadline - w.now) :
    let limit := min (deadline - w.now) probeLimit
    let reply := b.waitFor c.key .attached limit w.browser
    let tries := w.after (.waitFor c.key .attached limit) reply
    outcome (probe b target deadline tried (c :: rest)) w = match reply.answer with
      | .ok _ => (.ok c, { tries with profile := learned target c w.profile })
      | .error failure =>
        if failure.isBrowser then outcome (probe b target deadline (tried ++ [c.label]) rest) tries
        else (.error failure, tries) := by
  intro limit reply tries
  have hcall := outcome_attempt_of (outcome_call (.waitFor c.key .attached limit)
    (b.waitFor c.key .attached limit) w)
  rw [probe, outcome_bind_of_ok (outcome_now w)]
  dsimp only
  rw [if_neg (Int.not_le.mpr hremaining), outcome_bind_of_ok hcall]
  cases reply.answer with
  | ok _ =>
      dsimp only
      rw [outcome_bind_of_ok (outcome_learn target c tries), outcome_pure]
      rfl
  | error failure =>
      dsimp only
      split <;> rfl

theorem outcome_probe_late (target : String) (deadline : Instant) (tried : List String)
    (candidates : List Candidate) {w : World σ} (hremaining : deadline - w.now ≤ 0) :
    outcome (probe b target deadline tried candidates) w = (.error (.unresolved target tried), w) := by
  cases candidates with
  | nil => rfl
  | cons c rest =>
      rw [probe, outcome_bind_of_ok (outcome_now w)]
      dsimp only
      rw [if_pos hremaining, outcome_throw]

/-- Candidates that teach nothing new leave the profile as it is. -/
theorem profile_probe_of_known {target : String} {deadline : Instant} {tried : List String}
    {candidates : List Candidate} {w : World σ}
    (h : ∀ c ∈ candidates, learned target c w.profile = w.profile) :
    (outcome (probe b target deadline tried candidates) w).2.profile = w.profile := by
  induction candidates generalizing tried w with
  | nil => rfl
  | cons c rest ih =>
      by_cases hremaining : deadline - w.now ≤ 0
      · rw [outcome_probe_late target deadline tried _ hremaining]
      · rw [outcome_probe_cons target deadline tried c rest (Int.not_le.mp hremaining)]
        split
        · exact h c List.mem_cons_self
        · split
          · exact ih fun d hd => h d (List.mem_cons_of_mem c hd)
          · rfl

/-- The candidates for a target that do not come with the step are known or have no selector. -/
theorem learned_of_mem {target : String} {p : Profile} {c : Candidate}
    (hc : c ∈ Candidate.all (Text.strip target) none p) : learned (Text.strip target) c p = p := by
  rcases List.mem_append.mp hc with hmem | hmem
  · simp only [Option.filter_none, Option.map_none, Option.toList_none, List.nil_append,
      Option.mem_toList, Option.map_eq_some_iff, Text.strip_strip] at hmem
    obtain ⟨s, hs, rfl⟩ := hmem
    exact Profile.remember_of_remembered hs
  · simp only [Candidate.heuristics, List.mem_cons, List.not_mem_nil, or_false] at hmem
    rcases hmem with rfl | rfl | rfl | rfl | rfl | rfl | rfl | rfl <;> rfl

theorem lesson?_of_late {target : String} {selector : Option String} {timeout : Int} {state : σ}
    (h : timeout ≤ 0) : lesson? b target selector timeout state = none := by
  cases selector <;> simp [lesson?, Int.not_lt.mpr h]

/-- A time limit that is too long teaches nothing. -/
theorem lesson?_of_endless {target : String} {selector : Option String} {timeout : Int} {state : σ}
    {failure : Failure} (h : Clock.seconds timeout = .error failure) :
    lesson? b target selector timeout state = none := by
  cases selector <;> simp [lesson?, h, Except.isOk, Except.toBool]

theorem lesson?_of_ok {target s : String} {timeout : Int} {state : σ} {limit : Binary64}
    (hpos : 0 < timeout) (hlimit : Clock.seconds timeout = .ok limit)
    (h : (b.waitFor (.css s) .attached (min timeout probeLimit) state).answer = .ok ()) :
    lesson? b target (some s) timeout state = some (target, s) := by
  simp [lesson?, hpos, hlimit, h, Except.isOk, Except.toBool]

theorem lesson?_of_error {target s : String} {timeout : Int} {state : σ} {failure : Failure}
    (h : (b.waitFor (.css s) .attached (min timeout probeLimit) state).answer = .error failure) :
    lesson? b target (some s) timeout state = none := by
  simp [lesson?, h, Except.isOk, Except.toBool]

/-- Looking for a target by a selector first changes the profile by the lesson, if there is one. -/
theorem profile_probe_explicit {target s : String} {timeout : Int} {limit : Binary64}
    (hlimit : Clock.seconds timeout = .ok limit) {rest : List Candidate} {w : World σ}
    (h : ∀ c ∈ rest, learned target c w.profile = w.profile) :
    (outcome (probe b target (w.now + timeout) [] (.learnable "explicit" s :: rest)) w).2.profile =
      w.profile.taught (lesson? b target (some s) timeout w.browser).toList := by
  have hremaining : w.now + timeout - w.now = timeout := by rw [Int.add_comm, Int.add_sub_cancel]
  by_cases hlate : timeout ≤ 0
  · rw [outcome_probe_late _ _ _ _ (hremaining.trans_le hlate), lesson?_of_late hlate]
    rfl
  · have hpos : 0 < timeout := Int.not_le.mp hlate
    rw [outcome_probe_cons _ _ _ _ _ (hpos.trans_eq hremaining.symm), hremaining]
    dsimp only [Candidate.learnable]
    split
    · rename_i hok
      rw [lesson?_of_ok hpos hlimit hok]
      rfl
    · rename_i failure herror
      rw [lesson?_of_error herror]
      split
      · exact profile_probe_of_known h
      · rfl

/-- Looking for a target changes the profile by the lesson, if there is one. -/
theorem profile_resolve (target : String) (selector : Option String) (timeout : Int) (w : World σ) :
    (outcome (resolve b target selector timeout) w).2.profile =
      w.profile.taught (lesson? b (Text.strip target) (selector.filter (· != "")) timeout
        w.browser).toList := by
  have hknown : ∀ c ∈ Candidate.all (Text.strip target) none w.profile,
      learned (Text.strip target) c w.profile = w.profile := fun c => learned_of_mem
  rcases hlimit : Clock.seconds timeout with failure | limit
  · rw [outcome_resolve_of_error target selector hlimit, lesson?_of_endless hlimit]
    rfl
  rw [outcome_resolve target selector hlimit]
  cases hselector : selector.filter (· != "") with
  | none =>
      have hall : Candidate.all (Text.strip target) selector w.profile =
          Candidate.all (Text.strip target) none w.profile := by
        rw [Candidate.all, hselector]
        rfl
      rw [hall]
      exact profile_probe_of_known hknown
  | some s =>
      have hall : Candidate.all (Text.strip target) selector w.profile =
          .learnable "explicit" s :: Candidate.all (Text.strip target) none w.profile := by
        rw [Candidate.all, hselector]
        rfl
      rw [hall]
      exact profile_probe_explicit hlimit hknown

end Locate

/-! ## Steps -/

/-- Work that keeps the profile leaves it as the work before it did. -/
theorem profile_bind {x : Work σ α} {f : α → Work σ β} (hf : ∀ a, Follows SameProfile (f a))
    (w : World σ) : (outcome (x >>= f) w).2.profile = (outcome x w).2.profile := by
  rw [outcome_bind]
  rcases outcome x w with ⟨failure | a, w'⟩
  · rfl
  · exact (hf a).related w'

namespace Stage

variable (stage : Stage σ) {p : Primitive}

theorem follows_sameProfile_waiting (wait : Wait) (timeout : String) (c : Call)
    (reply : σ → Reply σ α) :
    Follows SameProfile (waiting wait timeout (Work.call c reply)) :=
  follows_of_respects fun _ => lockstep_waiting wait timeout (follows_sameProfile_call c reply).respects

theorem profile_click (hkind : p.kind = "click") (w : World σ) :
    (outcome (stage.click p.payload) w).2.profile =
      w.profile.taught (stage.lesson? p w.browser).toList := by
  rw [click, lesson?, Primitive.target?, hkind]
  cases htarget : ensureText p.payload "target" with
  | error failure => rfl
  | ok target =>
      rw [outcome_bind_of_ok (outcome_ofExcept w (.ok target)),
        profile_bind fun _ => follows_sameProfile_waiting _ _ _ _]
      exact Locate.profile_resolve target (text? p.payload "selector") stage.timeoutMs w

theorem profile_fill (hkind : p.kind = "fill") {value : String}
    (hvalue : ensureText p.payload "value" = .ok value) (w : World σ) :
    (outcome (stage.fill p.payload) w).2.profile =
      w.profile.taught (stage.lesson? p w.browser).toList := by
  rw [fill, lesson?, Primitive.target?, hkind, hvalue]
  cases htarget : ensureText p.payload "field" with
  | error failure => rfl
  | ok field =>
      rw [outcome_bind_of_ok (outcome_ofExcept w (.ok field)),
        outcome_bind_of_ok (outcome_ofExcept w (.ok value)),
        profile_bind fun _ => (follows_ofExcept _).bind fun _ =>
          follows_sameProfile_waiting _ _ _ _]
      exact Locate.profile_resolve field (text? p.payload "selector") stage.timeoutMs w

/-- Carrying out an action changes the profile by its lesson, if there is one. -/
theorem profile_act (hvalue : p.kind = "fill" → ∃ value, ensureText p.payload "value" = .ok value)
    (w : World σ) :
    (outcome (stage.act p.toAction) w).2.profile =
      w.profile.taught (stage.lesson? p w.browser).toList := by
  -- Only clicks and fills look for a target; the other actions keep the profile.
  have hother : p.kind ≠ "click" → p.kind ≠ "fill" → stage.lesson? p w.browser = none := by
    intro hclick hfill
    have htarget : p.target? = none := by
      unfold Primitive.target?
      split <;> simp_all
    rw [lesson?, htarget, Option.bind_none]
  have hacting := fun start => (keeping_sameProfile start stage).toActing
  unfold act
  split
  · rename_i hkind
    rw [profile_bind fun _ => follows_pure _, hother (by simp [hkind]) (by simp [hkind])]
    exact (follows_of_respects fun start => (hacting start).goto p.payload).related w
  · rename_i hkind
    rw [profile_bind fun _ => follows_pure _]
    exact stage.profile_click hkind w
  · rename_i hkind
    obtain ⟨value, hvalue⟩ := hvalue hkind
    rw [profile_bind fun _ => follows_pure _]
    exact stage.profile_fill hkind hvalue w
  · rename_i hkind
    rw [profile_bind fun _ => follows_pure _, hother (by simp [hkind]) (by simp [hkind])]
    exact (follows_of_respects fun start => (hacting start).expect p.payload).related w
  · rename_i hkind
    rw [profile_bind fun _ => follows_pure _, hother (by simp [hkind]) (by simp [hkind])]
    exact (follows_of_respects fun start => (hacting start).waitFor p.payload).related w
  · rename_i hkind
    rw [profile_bind fun _ => follows_pure _, hother (by simp [hkind]) (by simp [hkind])]
    exact (follows_of_respects fun start =>
      (hacting start).extract stage.secrets p.payload).related w
  · rename_i hclick hfill _ _ _
    rw [hother hclick hfill]
    rfl

/-- Carrying out a step changes the profile by its lesson, if there is one, however the step ends. -/
theorem profile_run (hvalue : p.kind = "fill" → ∃ value, ensureText p.payload "value" = .ok value)
    (w : World σ) :
    (outcome (stage.run p) w).2.profile = w.profile.taught (stage.lesson? p w.browser).toList := by
  obtain ⟨begun, hlog, hfiled⟩ := Run.exists_log stage .info s!"Step {p.index + 1}: {p.description}" w
  have hkeeping := fun start => keeping_sameProfile start stage
  have hlogged : ∀ level message, Follows SameProfile (stage.log level message) := fun _ _ =>
    follows_sameProfile_log _ _ _
  rw [run, outcome_bind_of_ok (outcome_now w), outcome_bind_of_ok hlog, profile_bind]
  · exact (stage.profile_act hvalue begun).trans (by rw [hfiled.profile, hfiled.browser])
  · intro answer
    cases answer with
    | ok extract => exact follows_now.bind fun _ => follows_pure _
    | error failure =>
        dsimp only
        split
        · exact follows_now.bind fun _ => (hlogged _ _).bind fun _ =>
            (follows_of_respects fun start => (hkeeping start).keepEvidence _).bind fun _ =>
            follows_now.bind fun _ => follows_pure _
        · exact follows_throw _

end Stage

namespace Run

/-- The steps that are carried out from a world, up to the first that does not pass, each with the world
in which it begins. -/
def trail (stage : Stage σ) : List Primitive → World σ → List (Primitive × World σ)
  | [], _ => []
  | p :: rest, w =>
    (p, w) :: match outcome (stage.run p) w with
      | (.ok out, w') => match out.report.verdict with
        | .passed => trail stage rest w'
        | .failed => []
      | (.error _, _) => []

/-- What the steps that are carried out from a world teach, in order. -/
def lessons (stage : Stage σ) (primitives : List Primitive) (w : World σ) : List (String × String) :=
  (trail stage primitives w).filterMap fun entry => stage.lesson? entry.1 entry.2.browser

variable {stage : Stage σ}

theorem lessons_cons_of_passed {p : Primitive} {w w' : World σ} {out : Stage.Outcome}
    (h : outcome (stage.run p) w = (.ok out, w')) (hverdict : out.report.verdict = .passed)
    (rest : List Primitive) :
    lessons stage (p :: rest) w = (stage.lesson? p w.browser).toList ++ lessons stage rest w' := by
  simp only [lessons, trail, h, hverdict, List.filterMap_cons]
  cases stage.lesson? p w.browser <;> rfl

theorem lessons_cons_of_failed {p : Primitive} {w w' : World σ} {out : Stage.Outcome}
    (h : outcome (stage.run p) w = (.ok out, w')) (hverdict : out.report.verdict = .failed)
    (rest : List Primitive) :
    lessons stage (p :: rest) w = (stage.lesson? p w.browser).toList := by
  simp only [lessons, trail, h, hverdict, List.filterMap_cons]
  cases stage.lesson? p w.browser <;> rfl

theorem lessons_cons_of_error {p : Primitive} {w w' : World σ} {failure : Failure}
    (h : outcome (stage.run p) w = (.error failure, w')) (rest : List Primitive) :
    lessons stage (p :: rest) w = (stage.lesson? p w.browser).toList := by
  simp only [lessons, trail, h, List.filterMap_cons]
  cases stage.lesson? p w.browser <;> rfl

/-- Carrying out steps changes the profile by their lessons, however they end. -/
theorem profile_steps {primitives : List Primitive}
    (hvalue : ∀ p ∈ primitives, p.kind = "fill" →
      ∃ value, Stage.ensureText p.payload "value" = .ok value) (progress : Progress) (w : World σ) :
    (outcome (steps stage progress primitives) w).2.profile =
      w.profile.taught (lessons stage primitives w) := by
  induction primitives generalizing progress w with
  | nil => rfl
  | cons p rest ih =>
      obtain ⟨hp, hrest⟩ := List.forall_mem_cons.mp hvalue
      have hstep := stage.profile_run hp w
      rw [steps]
      rcases hrun : outcome (stage.run p) w with ⟨failure | out, w'⟩ <;> rw [hrun] at hstep
      · rw [outcome_bind_of_error hrun, lessons_cons_of_error hrun]
        exact hstep
      · rw [outcome_bind_of_ok hrun]
        dsimp only
        cases hverdict : out.report.verdict with
        | failed =>
            rw [lessons_cons_of_failed hrun hverdict]
            exact hstep
        | passed =>
            rw [lessons_cons_of_passed hrun hverdict, Profile.taught_append, ← hstep]
            exact ih hrest (progress.add out) w'

/-! ## Whole runs -/

theorem profile_andFinally {x : Work σ α} {last : Work σ Unit} (hlast : Follows SameProfile last)
    (w : World σ) : (outcome (andFinally x last) w).2.profile = (outcome x w).2.profile := by
  have h := hlast.related (outcome x w).2
  rw [outcome_andFinally]
  rcases hend : outcome last (outcome x w).2 with ⟨failure | _, w'⟩ <;> rwa [hend] at h

theorem profile_leave (answer : Except Failure α) (w : World σ) :
    (outcome (leave stage answer) w).2.profile = w.profile := by
  have hstop : Follows SameProfile (stopTrace stage) :=
    follows_of_respects fun start => (tracing_sameProfile start stage).stopTrace
  rw [leave, profile_andFinally (follows_sameProfile_call _ _), profile_andFinally hstop]
  rfl

/-- A session that does not come to its work keeps the profile. -/
theorem profile_session_of_error {headless : Bool} {x : Work σ α} {failure : Failure}
    {w w' : World σ} (h : outcome (arrive stage headless) w = (.error failure, w')) :
    (outcome (session stage headless (traced stage x)) w).2.profile = w.profile := by
  have hcall := outcome_call (.openSession headless) (stage.browser.openSession headless) w
  rw [session]
  cases hopen : (stage.browser.openSession headless w.browser).answer with
  | error refusal =>
      rw [hopen] at hcall
      rw [outcome_bind_of_error hcall]
      rfl
  | ok _ =>
      rw [hopen] at hcall
      rw [arrive, outcome_bind_of_ok hcall] at h
      have hstart : Follows SameProfile (startTrace stage) :=
        follows_of_respects fun start => (tracing_sameProfile start stage).startTrace
      have hkept := hstart.related
        (w.after (.openSession headless) (stage.browser.openSession headless w.browser))
      rw [h] at hkept
      rw [outcome_bind_of_ok hcall, profile_andFinally (follows_sameProfile_call _ _), traced,
        outcome_bind_of_error h]
      exact hkept

section Live

variable {host : Host σ} {options : RunOptions} {plan : Plan} {known : Prepared}

/-- What the steps teach that a live run carries out which has loaded its site profile. -/
def lessonsOf (host : Host σ) (options : RunOptions) (known : Prepared) (loaded : World σ) :
    List (String × String) :=
  match outcome (enter host options known) loaded with
  | (.ok _, start) => lessons (known.stage host options) known.primitives start
  | (.error _, _) => []

theorem profile_enter {answer : Except Failure Unit} {w start : World σ}
    (h : outcome (enter host options known) w = (answer, start)) : start.profile = w.profile := by
  have hkept : Follows SameProfile (enter host options known) :=
    (follows_sameProfile_log _ _ _).bind fun _ => follows_of_respects fun start =>
      (tracing_sameProfile start (known.stage host options)).arrive options.headless
  have hsame := hkept.related w
  rwa [h] at hsame

/-- A visit changes the profile by the lessons of its steps, however it ends. -/
theorem profile_visit
    (hvalue : ∀ p ∈ known.primitives, p.kind = "fill" →
      ∃ value, Stage.ensureText p.payload "value" = .ok value) (w : World σ) :
    (outcome (visit host options known) w).2.profile =
      w.profile.taught (lessonsOf host options known w) := by
  obtain ⟨ready, hlog, hfiled⟩ := exists_log (known.stage host options) .info known.greeting w
  have henter : outcome (enter host options known) w =
      outcome (arrive (known.stage host options) options.headless) ready := by
    rw [enter, outcome_bind_of_ok hlog]
  rcases harrive : outcome (arrive (known.stage host options) options.headless) ready with
    ⟨failure | _, start⟩
  · rw [lessonsOf, henter, harrive, visit, outcome_bind_of_ok hlog,
      profile_session_of_error harrive, hfiled.profile]
    rfl
  · rw [outcome_visit_of_enter (henter.trans harrive), profile_leave, Prepared.work,
      profile_steps hvalue, lessonsOf, henter, harrive, profile_enter (henter.trans harrive)]

/-- When a live run of an accepted plan saves its site profile, a profile with the lessons of its steps is
in the file of the domain when the run is over. -/
theorem exists_read_of_saved (host : Host σ) (options : RunOptions) {raw : Json} {plan : Plan}
    {known : Prepared} {path : Path} {answer : Except Failure Report}
    {w loaded saved final : World σ} (hplan : Plan.validate raw = .ok plan)
    (hlive : options.dryRun = false) (hrun : outcome (run host options plan) w = (answer, final))
    (hprepared : outcome (prepare host options plan) w = (.ok known, loaded))
    (hsaved : outcome (saveAfterVisit host options known) loaded = (.ok path, saved)) :
    ∃ profile : Profile, profile.Distinct ∧
      profile.selectors =
        Table.update loaded.profile.selectors (lessonsOf host options known loaded) ∧
      final.files.read (Profile.file options.profiles known.domain) =
        .ok (.text profile.toJson.pretty) := by
  obtain ⟨hcompile, hdomain⟩ := compile_of_prepare hprepared
  obtain ⟨before, after, hload, hsame, -⟩ := exists_load_of_prepare hprepared
  obtain ⟨closed, hclosed⟩ : ∃ closed, (outcome (visit host options known) loaded).2 = closed :=
    ⟨_, rfl⟩
  rw [outcome_saveAfterVisit hclosed] at hsaved
  have htaught : closed.profile =
      loaded.profile.taught (lessonsOf host options known loaded) := by
    rw [← hclosed]
    refine profile_visit (fun p hp => ?_) loaded
    exact (Plan.accepted_of_validate hplan).exists_value hcompile hp
  have hname : (stamped closed).domain = loaded.profile.domain := by
    rw [domain_stamped, htaught, Profile.domain_taught]
  have hselectors : (stamped closed).selectors =
      Table.update loaded.profile.selectors (lessonsOf host options known loaded) := by
    rw [selectors_stamped, htaught, Profile.selectors_taught]
  have hdistinct : (stamped closed).Distinct := by
    refine distinct_stamped ?_
    rw [htaught]
    exact (Profile.distinct_of_load hload).taught _
  have hfinal : final = (outcome (depart host options plan known
      (outcome (visit host options known) loaded).1) closed).2 := by
    rw [run_eq_prepare host options plan hlive, outcome_bind_of_ok hprepared, outcome_finish,
      hclosed] at hrun
    rw [hrun]
  -- What the visit came to does not matter: the profile is in its file before the run goes on.
  have hread : final.files.read (Profile.file options.profiles (stamped closed).domain) =
      .ok (.text (stamped closed).toJson.pretty) := by
    rw [hfinal]
    exact read_of_depart (by rwa [hname]) hsaved
  rw [hname, hsame] at hread
  exact ⟨stamped closed, hdistinct, hselectors, hread⟩

/-- When a live run of an accepted plan saves its site profile, then whether it passes, fails or ends by
a failure of a step, the selectors that are loaded from there on are the ones that it had loaded, with
the lessons of the steps that it carried out written over them in order, and no others. -/
theorem lessons_are_saved (host : Host σ) (options : RunOptions) {raw : Json} {plan : Plan}
    {known : Prepared} {path : Path} {answer : Except Failure Report}
    {w loaded saved final : World σ} (hplan : Plan.validate raw = .ok plan)
    (hlive : options.dryRun = false) (hrun : outcome (run host options plan) w = (answer, final))
    (hprepared : outcome (prepare host options plan) w = (.ok known, loaded))
    (hsaved : outcome (saveAfterVisit host options known) loaded = (.ok path, saved)) :
    ∃ profile, outcome (Profile.load options.profiles known.domain) final = (.ok profile, final) ∧
      profile.domain = loaded.profile.domain ∧
      profile.selectors =
        Table.update loaded.profile.selectors (lessonsOf host options known loaded) ∧
      ∀ target, target ∉ Table.keys (lessonsOf host options known loaded) →
        Table.get? profile.selectors target = Table.get? loaded.profile.selectors target := by
  obtain ⟨kept, hdistinct, hselectors, hread⟩ :=
    exists_read_of_saved host options hplan hlive hrun hprepared hsaved
  obtain ⟨before, after, -, hsame, -⟩ := exists_load_of_prepare hprepared
  obtain ⟨profile, hagain, hprofile, hsaid⟩ := Profile.exists_load_of_read hdistinct hread
  refine ⟨profile, hagain, hprofile.trans hsame.symm, hsaid.trans hselectors, fun target htarget => ?_⟩
  rw [hsaid, hselectors, Table.get?_update_of_notMem htarget]

/-- A run that breaks off at a click still saves what its steps taught: the selectors of the two clicks,
but not that of the field, which was found by its label. -/
theorem lessons_are_saved_crash :
    let plan : Plan := ⟨.str "1", .null, .null, [.click (.str " Go ") (.str "#go"),
      .fill (.str "Name") (.str "Ada") (.str "#nam"), .click (.str "Stop") (.str "#stop")]⟩
    let page : Page := { Page.blank with
      elements := [("css:#go", []), ("label:Name", []), ("css:#stop", [])]
      faults := [("click:css:#stop", .other "gone")] }
    let w : World Page := ⟨page, 0, .empty [], .empty Profile.defaultDomain, 0, [], [], []⟩
    let host : Host Page := ⟨Page.browser, [], some []⟩
    Plan.validate plan.toJson = .ok plan ∧ RunOptions.usual.dryRun = false ∧
      ∃ known loaded path saved failure final profile,
        outcome (run host .usual plan) w = (.error failure, final) ∧
        outcome (prepare host .usual plan) w = (.ok known, loaded) ∧
        outcome (saveAfterVisit host .usual known) loaded = (.ok path, saved) ∧
        outcome (Profile.load RunOptions.usual.profiles known.domain) final = (.ok profile, final) ∧
        profile.selectors = [("Go", "#go"), ("Stop", "#stop")] := by
  intro plan page w host
  have hplan : Plan.validate plan.toJson = .ok plan := rfl
  have hended : (outcome (run host .usual plan) w).1.isOk = false := by decide +kernel
  have hlearned : (match outcome (prepare host .usual plan) w with
      | (.ok known, loaded) => (outcome (saveAfterVisit host .usual known) loaded).1.isOk &&
        loaded.profile.selectors == [] &&
        lessonsOf host .usual known loaded == [("Go", "#go"), ("Stop", "#stop")]
      | (.error _, _) => false) = true := by decide +kernel
  rcases hrun : outcome (run host .usual plan) w with ⟨failure | report, final⟩
  · rcases hprepared : outcome (prepare host .usual plan) w with ⟨refusal | known, loaded⟩
    · rw [hprepared] at hlearned
      cases hlearned
    rw [hprepared] at hlearned
    simp only [Bool.and_eq_true, beq_iff_eq] at hlearned
    obtain ⟨⟨hsaves, hempty⟩, htaught⟩ := hlearned
    rcases hsaved : outcome (saveAfterVisit host .usual known) loaded with ⟨refusal | path, saved⟩
    · rw [hsaved] at hsaves
      cases hsaves
    obtain ⟨profile, hagain, -, hselectors, -⟩ :=
      lessons_are_saved host .usual hplan rfl hrun hprepared hsaved
    rw [hempty, htaught] at hselectors
    exact ⟨hplan, rfl, known, loaded, path, saved, failure, final, profile, rfl, rfl, hsaved, hagain,
      hselectors⟩
  · rw [hrun] at hended
    cases hended

end Live

end Run

end Walkthrough
