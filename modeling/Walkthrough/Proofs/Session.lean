import Mathlib.Data.List.Basic
import Walkthrough.Proofs.Effect
import Walkthrough.Session

/-! # How sessions end

What happens in a session is a list of entries: it is opened, requests are carried out, it is closed,
and the engine is left. The context is closed if and only if it was made, and the browser is closed if
and only if the context was. So a browser that was launched stays open where its context cannot be made
or cannot be closed. -/

namespace Walkthrough.Session

open Effect

variable {engine : Engine}

/-! ## Acts -/

/-- An act that was done and did not fail. -/
def Succeeded (engine : Engine) (entries : List Entry) (act : Act) : Prop :=
  ∃ before after, entries = before ++ .act act :: after ∧ engine before act = none

/-- An act that is done once succeeds there or not at all. -/
theorem succeeded_iff {before after : List Entry} {act : Act} (hbefore : .act act ∉ before)
    (hafter : .act act ∉ after) :
    Succeeded engine (before ++ .act act :: after) act ↔ engine before act = none := by
  constructor
  · rintro ⟨before', after', hsame, hnone⟩
    obtain ⟨rfl, -, -⟩ := (List.append_cons_inj_of_notMem hbefore hafter).mp hsame
    exact hnone
  · intro hnone
    exact ⟨before, after, rfl, hnone⟩

theorem not_succeeded {entries : List Entry} {act : Act} (h : .act act ∉ entries) :
    ¬Succeeded engine entries act := by
  rintro ⟨before, after, rfl, -⟩
  exact h (by simp)

/-- An act is entered, and then it fails or not. -/
theorem outcome_perform (act : Act) (s : State) :
    outcome (perform engine act) s =
      ((match engine s.entries act with
        | none => .ok ()
        | some failure => .error failure),
        { s with entries := s.entries ++ [.act act] }) := by
  simp only [perform, keep, outcome_bind, outcome_get, outcome_modify]
  cases engine s.entries act <;> rfl

theorem entries_perform (act : Act) (s : State) :
    (outcome (perform engine act) s).2.entries = s.entries ++ [.act act] := by
  rw [outcome_perform]

theorem entries_perform_bind_of_error {act : Act} {s : State} {failure : Failure}
    (h : engine s.entries act = some failure) (f : Unit → Work Unit) :
    (outcome (perform engine act >>= f) s).2.entries = s.entries ++ [.act act] := by
  rw [outcome_bind, outcome_perform, h]

theorem outcome_perform_bind_of_none {act : Act} {s : State} (h : engine s.entries act = none)
    (f : Unit → Work Unit) :
    outcome (perform engine act >>= f) s =
      outcome (f ()) { s with entries := s.entries ++ [.act act] } := by
  rw [outcome_bind, outcome_perform, h]

theorem state_andFinally (x last : Work Unit) (s : State) :
    (outcome (Effect.andFinally x last) s).2 = (outcome last (outcome x s).2).2 := by
  rw [outcome_andFinally]
  rcases outcome last (outcome x s).2 with ⟨_ | _, s'⟩ <;> rfl

/-! ## Inside a context -/

/-- Whether an entry comes from what is done with a context: its page, a request, or an act of tracing.
-/
def Entry.isInner : Entry → Bool
  | .request _ | .act .newPage | .act .startTracing | .act (.stopTracing _) => true
  | .act _ => false

/-- Some entries followed by what is done with a context. -/
def Inside (start : List Entry) (s : State) : Prop :=
  ∃ body, s.entries = start ++ body ∧ ∀ entry ∈ body, entry.isInner

section Inside

variable {start : List Entry}

theorem Inside.concat {s s' : State} (h : Inside start s) {entry : Entry} (hentry : entry.isInner)
    (hs' : s'.entries = s.entries ++ [entry]) : Inside start s' := by
  obtain ⟨body, hbody, hall⟩ := h
  refine ⟨body ++ [entry], by rw [hs', hbody, List.append_assoc], fun e he => ?_⟩
  rcases List.mem_append.mp he with hmem | hmem
  · exact hall e hmem
  · rwa [List.mem_singleton.mp hmem]

theorem upholds_perform {act : Act} (h : (Entry.act act).isInner) :
    Upholds (Inside start) (fun _ => True) (perform engine act) := by
  intro s hs
  rw [outcome_perform]
  exact ⟨hs.concat h rfl, fun _ _ => trivial⟩

theorem upholds_startTrace : Upholds (Inside start) (fun _ => True) (startTrace engine) :=
  (upholds_perform rfl).bind fun _ => upholds_modify fun _ hs => hs

theorem upholds_stopTrace (path : String) :
    Upholds (Inside start) (fun _ => True) (stopTrace engine path) := by
  refine upholds_get.bind fun s => ?_
  split
  · refine Upholds.bind (upholds_modify fun _ hs => hs) fun _ => ?_
    exact upholds_perform rfl
  · exact upholds_pure _

theorem upholds_serve {x : Work Unit} (h : Upholds (Inside start) (fun _ => True) x) :
    Upholds (Inside start) (fun _ => True) (serve x) :=
  h.attempt_bind fun _ _ => upholds_modify fun _ hs => hs

/-- Requests add entries of their own, whatever becomes of them. -/
theorem upholds_serveAll (requests : List Request) :
    Upholds (Inside start) (fun _ => True) (serveAll engine requests) := by
  induction requests with
  | nil => exact upholds_pure _
  | cons request rest ih =>
      have hkeep : Upholds (Inside start) (fun _ => True) (keep (.request request)) :=
        upholds_modify fun s hs => hs.concat rfl rfl
      refine hkeep.bind fun _ => ?_
      cases request with
      | startTrace => exact (upholds_serve upholds_startTrace).bind fun _ => ih
      | stopTrace path => exact (upholds_serve (upholds_stopTrace path)).bind fun _ => ih
      | giveUp message => exact (upholds_throw trivial).bind fun _ => ih

/-- A page is made, and requests are carried out. -/
theorem inside_of_serve (engine : Engine) (requests : List Request) {s : State}
    (h : s.entries = start) :
    Inside start (outcome (do perform engine .newPage; serveAll engine requests) s).2 := by
  have hwork : Upholds (Inside start) (fun _ => True)
      (do perform engine .newPage; serveAll engine requests) :=
    Upholds.bind (upholds_perform rfl) fun _ => upholds_serveAll requests
  exact (hwork ⟨[], by rw [h, List.append_nil], by simp⟩).1

end Inside

/-! ## The course of a session -/

/-- What happens up to the context. -/
def opening (headless : Bool) : List Entry :=
  [.act .enter, .act (.launch headless)]

/-- What happens in a session whose browser was launched. There is no context; or what was done with it
is followed by an attempt to close it, and by one to close the browser if that worked. -/
inductive Course (engine : Engine) (headless : Bool) : List Entry → Prop
  | noContext {failure : Failure} (fails : engine (opening headless) .newContext = some failure) :
      Course engine headless (opening headless ++ .act .newContext :: [.act .leave])
  | stuck {body : List Entry} {failure : Failure} (made : engine (opening headless) .newContext = none)
      (inner : ∀ entry ∈ body, entry.isInner)
      (fails : engine (opening headless ++ .act .newContext :: body) .closeContext = some failure) :
      Course engine headless
        (opening headless ++ .act .newContext :: body ++ .act .closeContext :: [.act .leave])
  | closed {body : List Entry} (made : engine (opening headless) .newContext = none)
      (inner : ∀ entry ∈ body, entry.isInner)
      (closes : engine (opening headless ++ .act .newContext :: body) .closeContext = none) :
      Course engine headless (opening headless ++ .act .newContext :: body ++
        .act .closeContext :: [.act .closeBrowser, .act .leave])

theorem entries_close_of_error {s : State} {failure : Failure}
    (h : engine s.entries .closeContext = some failure) :
    (outcome (close engine) s).2.entries = s.entries ++ [.act .closeContext] :=
  entries_perform_bind_of_error h _

theorem entries_close_of_none {s : State} (h : engine s.entries .closeContext = none) :
    (outcome (close engine) s).2.entries = s.entries ++ [.act .closeContext, .act .closeBrowser] := by
  rw [close, outcome_perform_bind_of_none h, entries_perform, List.append_assoc]
  rfl

/-- From the making of a context on, one of the courses is taken. -/
theorem course_of_context {headless : Bool} (requests : List Request) {s : State}
    (h : s.entries = opening headless) :
    let withContext : Work Unit := do
      perform engine .newContext
      Effect.andFinally (do perform engine .newPage; serveAll engine requests) (close engine)
    Course engine headless ((outcome withContext s).2.entries ++ [.act .leave]) := by
  intro withContext
  cases hcontext : engine s.entries .newContext with
  | some failure =>
      rw [entries_perform_bind_of_error hcontext, h, List.append_assoc]
      exact .noContext (h ▸ hcontext)
  | none =>
      rw [outcome_perform_bind_of_none hcontext, state_andFinally]
      have hstart : ({ s with entries := s.entries ++ [.act .newContext] } : State).entries =
          opening headless ++ [.act .newContext] := by rw [h]
      obtain ⟨body, hbody, hinner⟩ := inside_of_serve engine requests hstart
      rw [List.append_assoc, List.singleton_append] at hbody
      rw [h] at hcontext
      cases hclose : engine (opening headless ++ .act .newContext :: body) .closeContext with
      | some failure =>
          rw [entries_close_of_error (hbody ▸ hclose), hbody, List.append_assoc]
          exact .stuck hcontext hinner hclose
      | none =>
          rw [entries_close_of_none (hbody ▸ hclose), hbody, List.append_assoc]
          exact .closed hcontext hinner hclose

/-- A session whose browser was launched takes one of the courses. -/
theorem course_run {headless : Bool} {requests : List Request}
    (h : Succeeded engine (run engine headless requests).2.entries (.launch headless)) :
    Course engine headless (run engine headless requests).2.entries := by
  change Succeeded engine (outcome (use engine headless requests) ⟨[], false, []⟩).2.entries _ at h
  change Course engine headless (outcome (use engine headless requests) ⟨[], false, []⟩).2.entries
  unfold use at h ⊢
  cases henter : engine [] .enter with
  | some failure =>
      rw [entries_perform_bind_of_error henter] at h
      exact absurd h (not_succeeded (by simp))
  | none =>
      rw [outcome_perform_bind_of_none henter, state_andFinally, entries_perform] at h ⊢
      dsimp only [List.nil_append] at h ⊢
      cases hlaunch : engine [.act .enter] (.launch headless) with
      | some failure =>
          rw [entries_perform_bind_of_error hlaunch, List.append_assoc] at h
          cases ((succeeded_iff (by simp) (by simp)).mp h).symm.trans hlaunch
      | none =>
          rw [outcome_perform_bind_of_none hlaunch]
          exact course_of_context requests rfl

/-! ## What is closed -/

theorem notMem_of_inner {body : List Entry} (hinner : ∀ entry ∈ body, entry.isInner) {act : Act}
    (hact : (Entry.act act).isInner = false) : .act act ∉ body := by
  intro hmem
  rw [hinner _ hmem] at hact
  cases hact

/-- What is done with a context closes neither it nor the browser. -/
theorem notMem_close_of_inner {body : List Entry} (hinner : ∀ entry ∈ body, entry.isInner) :
    .act .closeContext ∉ body ∧ .act .closeBrowser ∉ body :=
  ⟨notMem_of_inner hinner rfl, notMem_of_inner hinner rfl⟩

section Course

variable {headless : Bool} {entries : List Entry} (h : Course engine headless entries)
include h

theorem Course.exists_leave : ∃ before, entries = before ++ [.act .leave] ∧ .act .leave ∉ before := by
  cases h with
  | noContext fails =>
      exact ⟨opening headless ++ [.act .newContext], by simp, by simp [opening]⟩
  | @stuck body failure made inner fails =>
      have hbody : .act .leave ∉ body := notMem_of_inner inner rfl
      exact ⟨opening headless ++ .act .newContext :: body ++ [.act .closeContext], by simp,
        by simp [opening, hbody]⟩
  | @closed body made inner closes =>
      have hbody : .act .leave ∉ body := notMem_of_inner inner rfl
      exact ⟨opening headless ++ .act .newContext :: body ++ [.act .closeContext, .act .closeBrowser],
        by simp, by simp [opening, hbody]⟩

/-- What is closed is closed once. -/
theorem Course.count_le_one :
    entries.count (.act .closeContext) ≤ 1 ∧ entries.count (.act .closeBrowser) ≤ 1 := by
  cases h with
  | noContext fails => simp [opening]
  | @stuck body failure made inner fails =>
      obtain ⟨hcontext, hbrowser⟩ := notMem_close_of_inner inner
      simp [opening, List.count_eq_zero.mpr hcontext, List.count_eq_zero.mpr hbrowser]
  | @closed body made inner closes =>
      obtain ⟨hcontext, hbrowser⟩ := notMem_close_of_inner inner
      simp [opening, List.count_eq_zero.mpr hcontext, List.count_eq_zero.mpr hbrowser]

/-- The context is closed if it was made. -/
theorem Course.closeContext_mem_iff :
    .act .closeContext ∈ entries ↔ Succeeded engine entries .newContext := by
  cases h with
  | noContext fails =>
      rw [succeeded_iff (by simp [opening]) (by simp), fails]
      simp [opening]
  | @stuck body failure made inner fails =>
      have hbody : .act .newContext ∉ body := notMem_of_inner inner rfl
      rw [List.append_assoc, List.cons_append, succeeded_iff (by simp [opening]) (by simp [hbody])]
      simp [made]
  | @closed body made inner closes =>
      have hbody : .act .newContext ∉ body := notMem_of_inner inner rfl
      rw [List.append_assoc, List.cons_append, succeeded_iff (by simp [opening]) (by simp [hbody])]
      simp [made]

/-- The browser is closed if closing the context worked. -/
theorem Course.closeBrowser_mem_iff :
    .act .closeBrowser ∈ entries ↔ Succeeded engine entries .closeContext := by
  cases h with
  | noContext fails =>
      exact iff_of_false (by simp [opening]) (not_succeeded (by simp [opening]))
  | @stuck body failure made inner fails =>
      obtain ⟨hcontext, hbrowser⟩ := notMem_close_of_inner inner
      rw [succeeded_iff (by simp [opening, hcontext]) (by simp), fails]
      simp [opening, hbrowser]
  | @closed body made inner closes =>
      have hcontext : .act .closeContext ∉ body := notMem_of_inner inner rfl
      rw [succeeded_iff (by simp [opening, hcontext]) (by simp), closes]
      simp

end Course

/-- In a session whose browser was launched, the context is closed if and only if it was made, and the
browser is closed if and only if closing the context worked, each at most once and before the engine is
left. -/
theorem closes_iff (engine : Engine) (headless : Bool) (requests : List Request)
    (hlaunch : Succeeded engine (run engine headless requests).2.entries (.launch headless)) :
    let entries := (run engine headless requests).2.entries
    (∃ before, entries = before ++ [.act .leave] ∧ .act .leave ∉ before) ∧
      entries.count (.act .closeContext) ≤ 1 ∧ entries.count (.act .closeBrowser) ≤ 1 ∧
      (.act .closeContext ∈ entries ↔ Succeeded engine entries .newContext) ∧
      (.act .closeBrowser ∈ entries ↔ Succeeded engine entries .closeContext) := by
  intro entries
  have hcourse : Course engine headless entries := course_run hlaunch
  exact ⟨hcourse.exists_leave, hcourse.count_le_one.1, hcourse.count_le_one.2,
    hcourse.closeContext_mem_iff, hcourse.closeBrowser_mem_iff⟩

/-- A session that is traced and then given up is closed as a whole. -/
theorem closes_iff_given_up :
    let engine : Engine := fun _ _ => none
    let requests : List Request := [.startTrace, .giveUp "body"]
    let entries := (run engine true requests).2.entries
    Succeeded engine entries (.launch true) ∧ .act .closeContext ∈ entries ∧
      entries.count (.act .closeBrowser) = 1 := by
  intro engine requests entries
  have hlaunch : Succeeded engine entries (.launch true) :=
    ⟨[.act .enter], entries.drop 2, by decide, rfl⟩
  obtain ⟨-, -, honce, -, hbrowser⟩ := closes_iff engine true requests hlaunch
  have hcontext : Succeeded engine entries .closeContext :=
    ⟨entries.take 7, entries.drop 8, by decide, rfl⟩
  have hmem := hbrowser.mpr hcontext
  exact ⟨hlaunch, by decide, Nat.le_antisymm honce (List.count_pos_iff.mpr hmem)⟩

/-- A browser that was launched stays open where no context can be made in it, and where the context
cannot be closed. -/
theorem browser_stays_open :
    (let engine : Engine := fun _ act => if act = .newContext then some (.browser "no context") else none
      let entries := (run engine true []).2.entries
      Succeeded engine entries (.launch true) ∧ .act .closeBrowser ∉ entries) ∧
    (let engine : Engine := fun _ act =>
        if act = .closeContext then some (.browser "no close") else none
      let entries := (run engine true []).2.entries
      Succeeded engine entries (.launch true) ∧ .act .closeBrowser ∉ entries) := by
  refine ⟨⟨⟨[.act .enter], [.act .newContext, .act .leave], by decide, rfl⟩, by decide⟩,
    ⟨⟨[.act .enter], [.act .newContext, .act .newPage, .act .closeContext, .act .leave], by decide,
      rfl⟩, by decide⟩⟩

end Walkthrough.Session
