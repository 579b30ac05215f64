import Mathlib.Data.List.Induction
import Walkthrough.Proofs.Session

/-! # Traces that are stopped

A session asks its engine to stop a trace only while one runs: one that was started since a stop was last
asked for, whether that stop worked or not. So in no part of what happens are more traces stopped than
were started. -/

namespace Walkthrough.Session

open Effect

variable {engine : Engine} {entries : List Entry}

/-! ## Traces that run -/

/-- A trace was started, and the engine was not asked to stop one since. -/
def Pending (engine : Engine) (entries : List Entry) : Prop :=
  ∃ before after, entries = before ++ .act .startTracing :: after ∧
    engine before .startTracing = none ∧ ∀ path, .act (.stopTracing path) ∉ after

/-- Whenever the engine is asked to stop a trace, one runs. -/
def Paired (engine : Engine) (entries : List Entry) : Prop :=
  ∀ before path after, entries = before ++ .act (.stopTracing path) :: after → Pending engine before

/-- Where an entry stands in a list with one more at its end. -/
theorem concat_eq_append_cons_iff {before after : List Entry} {last entry : Entry} :
    entries ++ [last] = before ++ entry :: after ↔
      (after = [] ∧ entries = before ∧ last = entry) ∨
        ∃ rest, after = rest ++ [last] ∧ entries = before ++ entry :: rest := by
  constructor
  · intro hsplit
    rcases List.eq_nil_or_concat' after with rfl | ⟨rest, found, rfl⟩
    · obtain ⟨rfl, hlast⟩ := List.append_inj' hsplit rfl
      exact .inl ⟨rfl, rfl, List.singleton_inj.mp hlast⟩
    · rw [← List.cons_append, ← List.append_assoc] at hsplit
      obtain ⟨rfl, hlast⟩ := List.append_inj' hsplit rfl
      exact .inr ⟨rest, by rw [hlast], rfl⟩
  · rintro (⟨rfl, rfl, rfl⟩ | ⟨rest, rfl, rfl⟩)
    · rfl
    · simp

theorem not_pending_nil : ¬Pending engine [] := by
  rintro ⟨before, after, hsplit, -⟩
  simp at hsplit

theorem pending_concat_start (h : engine entries .startTracing = none) :
    Pending engine (entries ++ [.act .startTracing]) :=
  ⟨entries, [], rfl, h, by simp⟩

theorem not_pending_concat_stop (path : String) :
    ¬Pending engine (entries ++ [.act (.stopTracing path)]) := by
  rintro ⟨before, after, hsplit, -, hafter⟩
  rcases concat_eq_append_cons_iff.mp hsplit with ⟨-, -, hlast⟩ | ⟨rest, rfl, -⟩
  · cases hlast
  · exact hafter path (by simp)

/-- An entry that neither stops a trace nor starts one changes nothing about a trace that runs. -/
theorem pending_concat_iff {last : Entry} (hstop : ∀ path, last ≠ .act (.stopTracing path))
    (hstart : last = .act .startTracing → engine entries .startTracing ≠ none) :
    Pending engine (entries ++ [last]) ↔ Pending engine entries := by
  constructor
  · rintro ⟨before, after, hsplit, hnone, hafter⟩
    rcases concat_eq_append_cons_iff.mp hsplit with ⟨-, rfl, hlast⟩ | ⟨rest, rfl, hrest⟩
    · exact absurd hnone (hstart hlast)
    · exact ⟨before, rest, hrest, hnone, fun path hmem => hafter path (List.mem_append_left _ hmem)⟩
  · rintro ⟨before, after, rfl, hnone, hafter⟩
    refine ⟨before, after ++ [last], by simp, hnone, fun path hmem => ?_⟩
    rcases List.mem_append.mp hmem with hmem | hmem
    · exact hafter path hmem
    · exact hstop path (List.mem_singleton.mp hmem).symm

theorem paired_nil : Paired engine [] := by
  intro before path after hsplit
  simp at hsplit

theorem Paired.of_append {after : List Entry} (h : Paired engine (entries ++ after)) :
    Paired engine entries := by
  rintro before path rest rfl
  exact h before path (rest ++ after) (by simp)

/-- Entries stay paired with one more that stops a trace that runs, or that stops none. -/
theorem Paired.concat (h : Paired engine entries) {last : Entry}
    (hlast : ∀ path, last = .act (.stopTracing path) → Pending engine entries) :
    Paired engine (entries ++ [last]) := by
  intro before path after hsplit
  rcases concat_eq_append_cons_iff.mp hsplit with ⟨-, rfl, hstop⟩ | ⟨rest, -, hrest⟩
  · exact hlast path hstop
  · exact h before path rest hrest

/-! ## How many -/

/-- How many traces are started in some entries that come after others. -/
def startsAfter (engine : Engine) : List Entry → List Entry → Nat
  | _, [] => 0
  | before, entry :: rest =>
    (if entry = .act .startTracing ∧ (engine before .startTracing).isNone then 1 else 0) +
      startsAfter engine (before ++ [entry]) rest

/-- How many traces are started. -/
def starts (engine : Engine) (entries : List Entry) : Nat :=
  startsAfter engine [] entries

/-- Whether an entry asks the engine to stop a trace. -/
def Entry.isStop : Entry → Bool
  | .act (.stopTracing _) => true
  | _ => false

/-- How often the engine is asked to stop a trace. -/
def stops (entries : List Entry) : Nat :=
  entries.countP Entry.isStop

theorem startsAfter_append (before entries more : List Entry) :
    startsAfter engine before (entries ++ more) =
      startsAfter engine before entries + startsAfter engine (before ++ entries) more := by
  induction entries generalizing before with
  | nil => simp [startsAfter]
  | cons entry rest ih => simp [startsAfter, ih, Nat.add_assoc]

theorem starts_concat (last : Entry) :
    starts engine (entries ++ [last]) = starts engine entries +
      if last = .act .startTracing ∧ (engine entries .startTracing).isNone then 1 else 0 := by
  simp [starts, startsAfter_append, startsAfter]

theorem stops_concat (last : Entry) :
    stops (entries ++ [last]) = stops entries + if last.isStop then 1 else 0 := by
  simp [stops, List.countP_append, List.countP_cons]

/-- Where every stop comes while a trace runs, a trace that runs makes up for one stop more. -/
theorem Paired.stops_le (h : Paired engine entries) :
    stops entries ≤ starts engine entries ∧
      (Pending engine entries → stops entries < starts engine entries) := by
  induction entries using List.reverseRecOn with
  | nil => exact ⟨Nat.le_refl 0, fun hpending => absurd hpending not_pending_nil⟩
  | append_singleton entries last ih =>
      obtain ⟨hle, hlt⟩ := ih h.of_append
      rw [starts_concat, stops_concat]
      by_cases hstop : ∃ path, last = .act (.stopTracing path)
      · obtain ⟨path, rfl⟩ := hstop
        have hpending := hlt (h entries path [] rfl)
        refine ⟨?_, fun hlast => absurd hlast (not_pending_concat_stop path)⟩
        simp only [Entry.isStop, if_true]
        omega
      have hnone : last.isStop = false := by
        unfold Entry.isStop
        split
        · exact absurd ⟨_, rfl⟩ hstop
        · rfl
      rw [hnone, if_neg Bool.false_ne_true, Nat.add_zero]
      by_cases hstart : last = .act .startTracing ∧ (engine entries .startTracing).isNone
      · rw [if_pos hstart]
        exact ⟨by omega, fun _ => by omega⟩
      · rw [if_neg hstart, Nat.add_zero, pending_concat_iff (fun path hpath => hstop ⟨path, hpath⟩)
          fun hlast hnone => hstart ⟨hlast, by rw [hnone]; rfl⟩]
        exact ⟨hle, hlt⟩

/-! ## Sessions -/

/-- The session knows whether a trace runs, and has stopped one only where it did. -/
structure Traced (engine : Engine) (s : State) : Prop where
  flag : s.isTracing = true ↔ Pending engine s.entries
  paired : Paired engine s.entries

theorem outcome_startTrace (s : State) :
    outcome (startTrace engine) s = match engine s.entries .startTracing with
      | none => (.ok (), { s with entries := s.entries ++ [.act .startTracing], isTracing := true })
      | some failure => (.error failure, { s with entries := s.entries ++ [.act .startTracing] }) := by
  rw [startTrace, outcome_bind, outcome_perform]
  cases engine s.entries .startTracing <;> rfl

theorem outcome_stopTrace (path : String) (s : State) :
    outcome (stopTrace engine path) s = if s.isTracing then
        outcome (perform engine (.stopTracing path)) { s with isTracing := false }
      else (.ok (), s) := by
  rw [stopTrace, outcome_bind, outcome_get]
  dsimp only
  split <;> rfl

/-- Whether an entry has nothing to do with traces, but for a request. -/
def Entry.isOther : Entry → Bool
  | .act .startTracing | .act (.stopTracing _) => false
  | _ => true

theorem Traced.concat {s s' : State} (h : Traced engine s) {entry : Entry} (hentry : entry.isOther)
    (hentries : s'.entries = s.entries ++ [entry]) (hflag : s'.isTracing = s.isTracing) :
    Traced engine s' := by
  have hstart : entry ≠ .act .startTracing := by
    rintro rfl
    cases hentry
  have hstop : ∀ path, entry ≠ .act (.stopTracing path) := by
    rintro path rfl
    cases hentry
  constructor
  · rw [hentries, hflag, h.flag, pending_concat_iff hstop fun hlast => absurd hlast hstart]
  · exact hentries ▸ h.paired.concat fun path hlast => absurd hlast (hstop path)

theorem upholds_traced_perform {act : Act} (hact : (Entry.act act).isOther) :
    Upholds (Traced engine) (fun _ => True) (perform engine act) := by
  intro s hs
  rw [outcome_perform]
  exact ⟨hs.concat hact rfl rfl, fun _ _ => trivial⟩

theorem upholds_traced_startTrace : Upholds (Traced engine) (fun _ => True) (startTrace engine) := by
  intro s hs
  refine ⟨?_, fun _ _ => trivial⟩
  have hpaired : Paired engine (s.entries ++ [.act .startTracing]) := hs.paired.concat fun _ => nofun
  rw [outcome_startTrace]
  cases hstart : engine s.entries .startTracing with
  | none => exact ⟨by simp [pending_concat_start hstart], hpaired⟩
  | some failure =>
      refine ⟨?_, hpaired⟩
      dsimp only
      rw [hs.flag, pending_concat_iff (by simp) fun _ => by simp [hstart]]

theorem upholds_traced_stopTrace (path : String) :
    Upholds (Traced engine) (fun _ => True) (stopTrace engine path) := by
  intro s hs
  refine ⟨?_, fun _ _ => trivial⟩
  rw [outcome_stopTrace]
  split
  · rename_i hruns
    rw [outcome_perform]
    exact ⟨by simp [not_pending_concat_stop], hs.paired.concat fun _ _ => hs.flag.mp hruns⟩
  · exact hs

theorem upholds_traced_serve {x : Work Unit} (h : Upholds (Traced engine) (fun _ => True) x) :
    Upholds (Traced engine) (fun _ => True) (serve x) :=
  h.attempt_bind fun _ _ => upholds_modify fun _ hs => ⟨hs.flag, hs.paired⟩

theorem upholds_traced_keep (request : Request) :
    Upholds (Traced engine) (fun _ => True) (keep (.request request)) :=
  upholds_modify fun _ hs => hs.concat rfl rfl rfl

theorem upholds_traced_serveAll (requests : List Request) :
    Upholds (Traced engine) (fun _ => True) (serveAll engine requests) := by
  induction requests with
  | nil => exact upholds_pure _
  | cons request rest ih =>
      refine (upholds_traced_keep request).bind fun _ => ?_
      cases request with
      | startTrace => exact (upholds_traced_serve upholds_traced_startTrace).bind fun _ => ih
      | stopTrace path => exact (upholds_traced_serve (upholds_traced_stopTrace path)).bind fun _ => ih
      | giveUp message => exact (upholds_throw trivial).bind fun _ => ih

theorem upholds_traced_use (headless : Bool) (requests : List Request) :
    Upholds (Traced engine) (fun _ => True) (use engine headless requests) := by
  have hwork : Upholds (Traced engine) (fun _ => True)
      (do perform engine .newPage; serveAll engine requests) :=
    Upholds.bind (upholds_traced_perform rfl) fun _ => upholds_traced_serveAll requests
  have hclose : Upholds (Traced engine) (fun _ => True) (close engine) :=
    Upholds.bind (upholds_traced_perform rfl) fun _ =>
      upholds_traced_perform rfl
  refine Upholds.bind (upholds_traced_perform rfl) fun _ => Upholds.andFinally ?_
    (upholds_traced_perform rfl)
  exact Upholds.bind (upholds_traced_perform rfl) fun _ =>
    Upholds.bind (upholds_traced_perform rfl) fun _ => hwork.andFinally hclose

/-- A session that was just opened. -/
def opened (headless : Bool) : State :=
  ⟨opening headless ++ [.act .newContext, .act .newPage], false, []⟩

theorem traced_opened (headless : Bool) : Traced engine (opened headless) where
  flag := by
    have hstill : ¬Pending engine (opened headless).entries := by
      rintro ⟨before, after, hsplit, -⟩
      have hmem : Entry.act .startTracing ∈ (opened headless).entries := by simp [hsplit]
      simp [opened, opening] at hmem
    exact iff_of_false Bool.false_ne_true hstill
  paired before path after hsplit := by
    have hmem : Entry.act (.stopTracing path) ∈ (opened headless).entries := by simp [hsplit]
    simp [opened, opening] at hmem

/-- What a stop that is asked for does to a session. -/
theorem outcome_serve_stopTrace (path : String) (s : State) :
    outcome (serve (stopTrace engine path)) s =
      (.ok (), { (outcome (stopTrace engine path) s).2 with
        results := (outcome (stopTrace engine path) s).2.results ++
          [(outcome (stopTrace engine path) s).1] }) :=
  rfl

/-- In every session, the engine is asked to stop a trace only while one runs, so never more often than
traces were started. Whatever was asked of a session before, a stop goes to the engine if and only if a
trace runs; else it does nothing and goes well. -/
theorem traces_are_paired (engine : Engine) (headless : Bool) (requests : List Request) :
    let entries := (run engine headless requests).2.entries
    let s := (outcome (serveAll engine requests) (opened headless)).2
    (∀ before path after, entries = before ++ .act (.stopTracing path) :: after →
        Pending engine before) ∧
      (∀ before, before <+: entries → stops before ≤ starts engine before) ∧
      ∀ path,
        (Pending engine s.entries → (outcome (serveAll engine [.stopTrace path]) s).2.entries =
          s.entries ++ [.request (.stopTrace path), .act (.stopTracing path)]) ∧
        (¬Pending engine s.entries → outcome (serveAll engine [.stopTrace path]) s =
          (.ok (), { s with
            entries := s.entries ++ [.request (.stopTrace path)], results := s.results ++ [.ok ()] })) := by
  intro entries s
  have hrun : Traced engine (run engine headless requests).2 :=
    (upholds_traced_use headless requests ⟨by simp [not_pending_nil], paired_nil⟩).1
  have hserved : Traced engine s := (upholds_traced_serveAll requests (traced_opened headless)).1
  refine ⟨hrun.paired, fun before hbefore => ?_, fun path => ?_⟩
  · obtain ⟨after, hafter⟩ := hbefore
    have hpaired : Paired engine (before ++ after) := hafter ▸ hrun.paired
    exact hpaired.of_append.stops_le.1
  · have hasked : outcome (serveAll engine [.stopTrace path]) s =
        outcome (serve (stopTrace engine path))
          { s with entries := s.entries ++ [.request (.stopTrace path)] } := rfl
    rw [hasked, outcome_serve_stopTrace, outcome_stopTrace]
    constructor
    · intro hpending
      rw [if_pos (hserved.flag.mpr hpending), outcome_perform, List.append_assoc]
      rfl
    · intro hstill
      rw [if_neg fun hruns => hstill (hserved.flag.mp hruns)]

end Walkthrough.Session
