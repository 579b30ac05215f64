import Mathlib.Logic.Relation
import Walkthrough.Effect

/-! # How work ends

Work from a state ends with a value or a failure, and in a state. What work does to the state is
followed step by step: whatever is made of work that takes steps of a relation takes such steps. Two
works are compared in lockstep: whatever is made of works that end alike from related states ends
alike from related states. And whatever is made of work that upholds an invariant and fails in some
ways only does so too. -/

namespace Walkthrough.Effect

variable {S α β γ δ : Type}

theorem exists_of_bind_eq_ok {e : Except Failure α} {f : α → Except Failure β} {b : β}
    (h : e >>= f = .ok b) : ∃ a, e = .ok a ∧ f a = .ok b := by
  cases e with
  | error failure => cases h
  | ok a => exact ⟨a, rfl, h⟩

/-- How work ends from a state: with a value or a failure, and in a state. -/
def outcome (x : Effect S α) (s : S) : Except Failure α × S :=
  x.run.run s

/-! ## Outcomes -/

section Outcomes

variable (x : Effect S α) (f : α → Effect S β) (s : S)

@[simp] theorem outcome_pure (a : α) : outcome (pure a : Effect S α) s = (.ok a, s) :=
  rfl

@[simp] theorem outcome_throw (failure : Failure) :
    outcome (throw failure : Effect S α) s = (.error failure, s) :=
  rfl

@[simp] theorem outcome_get : outcome (get : Effect S S) s = (.ok s, s) :=
  rfl

@[simp] theorem outcome_set (s' : S) : outcome (set s' : Effect S PUnit) s = (.ok ⟨⟩, s') :=
  rfl

@[simp] theorem outcome_modify (g : S → S) :
    outcome (modify g : Effect S PUnit) s = (.ok ⟨⟩, g s) :=
  rfl

@[simp] theorem outcome_ofExcept (e : Except Failure α) :
    outcome (ofExcept e : Effect S α) s = (e, s) :=
  rfl

@[simp] theorem outcome_attempt :
    outcome (attempt x) s = (.ok (outcome x s).1, (outcome x s).2) :=
  rfl

theorem outcome_bind :
    outcome (x >>= f) s = match outcome x s with
      | (.ok a, s') => outcome (f a) s'
      | (.error failure, s') => (.error failure, s') := by
  change (ExceptT.bindCont f (x.run.run s).1).run (x.run.run s).2 = _
  unfold outcome
  rcases x.run.run s with ⟨_ | _, s'⟩ <;> rfl

/-- What work goes on with, if it begins with a value or a failure. -/
theorem answer_ofExcept_bind (e : Except Failure α) :
    (outcome (ofExcept e >>= f) s).1 = e >>= fun a => (outcome (f a) s).1 := by
  cases e <;> rfl

/-- What work gives that ends with a change of its value. -/
theorem toOption_bind_pure (g : α → β) :
    (outcome (x >>= fun a => pure (g a)) s).1.toOption = (outcome x s).1.toOption.map g := by
  rw [outcome_bind]
  rcases outcome x s with ⟨failure | a, s'⟩ <;> rfl

end Outcomes

section Sequences

variable {x : Effect S α} {f : α → Effect S β} {s s' : S}

theorem outcome_attempt_of {answer : Except Failure α} (h : outcome x s = (answer, s')) :
    outcome (attempt x) s = (.ok answer, s') := by
  rw [outcome_attempt, h]

theorem outcome_bind_of_ok {a : α} (h : outcome x s = (.ok a, s')) :
    outcome (x >>= f) s = outcome (f a) s' := by
  rw [outcome_bind, h]

theorem outcome_bind_of_error {failure : Failure} (h : outcome x s = (.error failure, s')) :
    outcome (x >>= f) s = (.error failure, s') := by
  rw [outcome_bind, h]

/-- Work in sequence gives a value by way of a value. -/
theorem outcome_bind_eq_ok_iff {b : β} :
    outcome (x >>= f) s = (.ok b, s') ↔
      ∃ a mid, outcome x s = (.ok a, mid) ∧ outcome (f a) mid = (.ok b, s') := by
  rw [outcome_bind]
  rcases outcome x s with ⟨failure | a, mid⟩
  · simp
  · constructor
    · intro h
      exact ⟨a, mid, rfl, h⟩
    · rintro ⟨_, _, heq, h⟩
      cases heq
      exact h

/-- Last work is done in any case, and its failure is the one that counts. -/
theorem outcome_andFinally (x : Effect S α) (last : Effect S Unit) (s : S) :
    outcome (andFinally x last) s = match outcome last (outcome x s).2 with
      | (.ok _, s') => ((outcome x s).1, s')
      | (.error failure, s') => (.error failure, s') := by
  simp only [andFinally, outcome_bind, outcome_attempt]
  rcases outcome last (outcome x s).2 with ⟨_ | _, s'⟩ <;> rfl

theorem outcome_andFinally_eq_ok {last : Effect S Unit} {a : α}
    (h : outcome (andFinally x last) s = (.ok a, s')) :
    ∃ mid, outcome x s = (.ok a, mid) ∧ (outcome last mid).2 = s' := by
  rw [outcome_andFinally] at h
  split at h
  · rename_i mid hlast
    obtain ⟨hx, rfl⟩ := Prod.mk.inj h
    exact ⟨(outcome x s).2, by rw [← hx], by rw [hlast]⟩
  · cases h

theorem outcome_handling (x : Effect S α) (handles : Failure → Bool)
    (handler : Failure → Effect S α) (s : S) :
    outcome (handling x handles handler) s = match outcome x s with
      | (.ok a, s') => (.ok a, s')
      | (.error failure, s') =>
        if handles failure then outcome (handler failure) s' else (.error failure, s') := by
  simp only [handling, outcome_bind, outcome_attempt]
  rcases outcome x s with ⟨failure | a, s'⟩
  · by_cases h : handles failure <;> simp [h]
  · simp

end Sequences

/-- Whether work ends from a state with a value, and in a state, that pass a test. -/
def endsIn (x : Effect S α) (s : S) (test : α → S → Bool) : Bool :=
  match outcome x s with
  | (.ok a, s') => test a s'
  | (.error _, _) => false

theorem endsIn_iff {x : Effect S α} {s : S} {test : α → S → Bool} :
    endsIn x s test = true ↔ ∃ a s', outcome x s = (.ok a, s') ∧ test a s' = true := by
  unfold endsIn
  rcases outcome x s with ⟨_ | a, s'⟩
  · simp
  · constructor
    · intro h
      exact ⟨a, s', rfl, h⟩
    · rintro ⟨_, _, heq, h⟩
      cases heq
      exact h

/-- Whether work ends from a state with a failure, and in a state, that pass a test. -/
def failsIn (x : Effect S α) (s : S) (test : Failure → S → Bool) : Bool :=
  match outcome x s with
  | (.ok _, _) => false
  | (.error failure, s') => test failure s'

theorem failsIn_iff {x : Effect S α} {s : S} {test : Failure → S → Bool} :
    failsIn x s test = true ↔
      ∃ failure s', outcome x s = (.error failure, s') ∧ test failure s' = true := by
  unfold failsIn
  rcases outcome x s with ⟨failure | _, s'⟩
  · constructor
    · intro h
      exact ⟨failure, s', rfl, h⟩
    · rintro ⟨_, _, heq, h⟩
      cases heq
      exact h
  · simp

/-! ## Steps of work -/

/-- Work that changes a state only by steps of a relation. -/
def Follows (r : S → S → Prop) (x : Effect S α) : Prop :=
  ∀ s, Relation.ReflTransGen r s (outcome x s).2

section Steps

variable {r : S → S → Prop} {x : Effect S α} {f : α → Effect S β}

theorem follows_pure (a : α) : Follows r (pure a : Effect S α) :=
  fun _ => .refl

theorem follows_throw (failure : Failure) : Follows r (throw failure : Effect S α) :=
  fun _ => .refl

theorem follows_get : Follows r (get : Effect S S) :=
  fun _ => .refl

theorem follows_ofExcept (e : Except Failure α) : Follows r (ofExcept e : Effect S α) :=
  fun _ => .refl

theorem follows_modify {g : S → S} (h : ∀ s, Relation.ReflTransGen r s (g s)) :
    Follows r (modify g : Effect S PUnit) :=
  h

theorem Follows.bind (hx : Follows r x) (hf : ∀ a, Follows r (f a)) : Follows r (x >>= f) := by
  intro s
  rw [outcome_bind]
  have h := hx s
  rcases hs : outcome x s with ⟨failure | a, s'⟩
  · rwa [hs] at h
  · rw [hs] at h
    exact h.trans (hf a s')

/-- Steps of a preorder come to one step. -/
theorem Follows.related [Std.Refl r] [IsTrans S r] (hx : Follows r x) (s : S) :
    r s (outcome x s).2 := by
  have h := hx s
  rwa [Relation.reflTransGen_eq_self] at h

end Steps

/-! ## Works in lockstep -/

/-- Answers that are related values or the same failure. -/
inductive Answers (q : α → β → Prop) : Except Failure α → Except Failure β → Prop
  | ok {a : α} {b : β} (related : q a b) : Answers q (.ok a) (.ok b)
  | error (failure : Failure) : Answers q (.error failure) (.error failure)

theorem Answers.refl (e : Except Failure α) : Answers Eq e e := by
  cases e with
  | ok a => exact .ok rfl
  | error failure => exact .error failure

theorem answers_iff {q : α → β → Prop} {e : Except Failure α} {e' : Except Failure β} :
    Answers q e e' ↔ (∃ a b, e = .ok a ∧ e' = .ok b ∧ q a b) ∨
      ∃ failure, e = .error failure ∧ e' = .error failure := by
  constructor
  · rintro (hab | failure)
    · exact .inl ⟨_, _, rfl, rfl, hab⟩
    · exact .inr ⟨failure, rfl, rfl⟩
  · rintro (⟨a, b, rfl, rfl, hab⟩ | ⟨failure, rfl, rfl⟩)
    · exact .ok hab
    · exact .error failure

theorem Answers.eq {e e' : Except Failure α} (h : Answers Eq e e') : e = e' := by
  cases h with
  | ok related => rw [related]
  | error => rfl

/-- Works that end with related answers and in related states from any states that are related. -/
def Lockstep (r : S → S → Prop) (q : α → β → Prop) (x : Effect S α) (y : Effect S β) : Prop :=
  ∀ ⦃s t⦄, r s t → Answers q (outcome x s).1 (outcome y t).1 ∧ r (outcome x s).2 (outcome y t).2

section Pairs

variable {r : S → S → Prop} {p : α → β → Prop} {q : γ → δ → Prop}

theorem lockstep_pure {a : α} {b : β} (h : p a b) :
    Lockstep r p (pure a : Effect S α) (pure b : Effect S β) :=
  fun _ _ hr => ⟨.ok h, hr⟩

theorem lockstep_throw (failure : Failure) :
    Lockstep r p (throw failure : Effect S α) (throw failure : Effect S β) :=
  fun _ _ hr => ⟨.error failure, hr⟩

theorem lockstep_ofExcept {e : Except Failure α} {e' : Except Failure β} (h : Answers p e e') :
    Lockstep r p (ofExcept e : Effect S α) (ofExcept e' : Effect S β) :=
  fun _ _ hr => ⟨h, hr⟩

theorem lockstep_get : Lockstep r r (get : Effect S S) (get : Effect S S) :=
  fun _ _ hr => ⟨.ok hr, hr⟩

theorem lockstep_modify {g g' : S → S} (h : ∀ ⦃s t⦄, r s t → r (g s) (g' t)) :
    Lockstep r Eq (modify g : Effect S PUnit) (modify g' : Effect S PUnit) :=
  fun _ _ hr => ⟨.ok rfl, h hr⟩

theorem Lockstep.bind {x : Effect S α} {y : Effect S β} {f : α → Effect S γ} {g : β → Effect S δ}
    (hx : Lockstep r p x y) (hf : ∀ a b, p a b → Lockstep r q (f a) (g b)) :
    Lockstep r q (x >>= f) (y >>= g) := by
  intro s t hr
  obtain ⟨hanswer, hstate⟩ := hx hr
  rw [outcome_bind, outcome_bind]
  rcases hs : outcome x s with ⟨failure | a, s'⟩ <;> rcases ht : outcome y t with ⟨failure' | b, t'⟩ <;>
    rw [hs, ht] at hanswer hstate <;> cases hanswer
  · exact ⟨.error _, hstate⟩
  · rename_i hab
    exact hf a b hab hstate

theorem Lockstep.bind_eq {x y : Effect S α} {f : α → Effect S γ} {g : α → Effect S δ}
    (hx : Lockstep r Eq x y) (hf : ∀ a, Lockstep r q (f a) (g a)) :
    Lockstep r q (x >>= f) (y >>= g) :=
  hx.bind fun a _ hab => hab ▸ hf a

/-- What one work ends with, the other one ends with too. -/
theorem Lockstep.outcome_eq {x y : Effect S α} (hx : Lockstep r Eq x y) {s t s' : S} (hr : r s t)
    {answer : Except Failure α} (h : outcome x s = (answer, s')) :
    ∃ t', outcome y t = (answer, t') ∧ r s' t' := by
  obtain ⟨hanswer, hstate⟩ := hx hr
  rw [h] at hanswer hstate
  exact ⟨(outcome y t).2, Prod.ext hanswer.eq.symm rfl, hstate⟩

theorem Lockstep.attempt {x : Effect S α} {y : Effect S β} (hx : Lockstep r p x y) :
    Lockstep r (Answers p) (Effect.attempt x) (Effect.attempt y) :=
  fun _ _ hr => ⟨.ok (hx hr).1, (hx hr).2⟩

theorem Lockstep.attempt_eq {x y : Effect S α} (hx : Lockstep r Eq x y) :
    Lockstep r Eq (Effect.attempt x) (Effect.attempt y) :=
  fun _ _ hr => ⟨.ok (hx hr).1.eq, (hx hr).2⟩

theorem Lockstep.andFinally {x : Effect S α} {y : Effect S β} {last last' : Effect S Unit}
    (hx : Lockstep r p x y) (hlast : Lockstep r Eq last last') :
    Lockstep r p (Effect.andFinally x last) (Effect.andFinally y last') :=
  hx.attempt.bind fun _ _ hanswer => hlast.bind fun _ _ _ => lockstep_ofExcept hanswer

theorem Lockstep.handling {x : Effect S α} {y : Effect S β} {handles : Failure → Bool}
    {handler : Failure → Effect S α} {handler' : Failure → Effect S β} (hx : Lockstep r p x y)
    (hhandler : ∀ failure, Lockstep r p (handler failure) (handler' failure)) :
    Lockstep r p (Effect.handling x handles handler) (Effect.handling y handles handler') := by
  refine hx.attempt.bind fun _ _ hanswer => ?_
  cases hanswer with
  | ok related => exact lockstep_pure related
  | error failure =>
      by_cases h : handles failure
      · simpa [h] using hhandler failure
      · simpa [h] using lockstep_throw failure

end Pairs

/-! ## Work in lockstep with itself -/

/-- Work that ends in the same way from states that are related, and in related states. -/
abbrev Respects (r : S → S → Prop) (x : Effect S α) : Prop :=
  Lockstep r Eq x x

section Single

variable {r : S → S → Prop} {x : Effect S α} {q : γ → δ → Prop}

theorem respects_ofExcept (e : Except Failure α) : Respects r (ofExcept e : Effect S α) :=
  lockstep_ofExcept (.refl e)

/-- The same state, reached from another one. -/
def Along (r : S → S → Prop) (start s t : S) : Prop :=
  s = t ∧ Relation.ReflTransGen r start s

theorem Follows.respects {start : S} (hx : Follows r x) : Respects (Along r start) x := by
  rintro s _ ⟨rfl, hs⟩
  exact ⟨.refl _, rfl, hs.trans (hx s)⟩

theorem follows_of_respects (hx : ∀ start, Respects (Along r start) x) : Follows r x :=
  fun s => (hx s ⟨rfl, .refl⟩).2.2

end Single

/-! ## What work upholds -/

/-- An answer that is a failure in some ways only. -/
def FailsOnly (p : Failure → Prop) (e : Except Failure α) : Prop :=
  ∀ failure, e = .error failure → p failure

theorem failsOnly_ok (p : Failure → Prop) (a : α) : FailsOnly p (.ok a) :=
  fun _ h => nomatch h

theorem failsOnly_error {p : Failure → Prop} {failure : Failure} (h : p failure) :
    FailsOnly p (.error failure : Except Failure α) := by
  intro found hfound
  cases hfound
  exact h

theorem FailsOnly.bind_of_ok {p : Failure → Prop} {e : Except Failure α}
    {f : α → Except Failure β} (he : FailsOnly p e) (hf : ∀ a, e = .ok a → FailsOnly p (f a)) :
    FailsOnly p (e >>= f) := by
  cases e with
  | error failure => exact failsOnly_error (he failure rfl)
  | ok a => exact hf a rfl

theorem FailsOnly.bind {p : Failure → Prop} {e : Except Failure α}
    {f : α → Except Failure β} (he : FailsOnly p e) (hf : ∀ a, FailsOnly p (f a)) :
    FailsOnly p (e >>= f) :=
  he.bind_of_ok fun a _ => hf a

theorem FailsOnly.map {p : Failure → Prop} {e : Except Failure α} (h : FailsOnly p e) (f : α → β) :
    FailsOnly p (e.map f) := by
  cases e with
  | error failure => exact failsOnly_error (h failure rfl)
  | ok a => exact failsOnly_ok _ _

theorem FailsOnly.mapM {p : Failure → Prop} {f : α → Except Failure β} (h : ∀ a, FailsOnly p (f a))
    (as : List α) : FailsOnly p (as.mapM f) := by
  induction as with
  | nil => exact failsOnly_ok _ _
  | cons a as ih =>
      rw [List.mapM_cons]
      exact (h a).bind fun _ => ih.bind fun _ => failsOnly_ok _ _

/-- Work that upholds an invariant, and that fails, from where it holds, in some ways only. -/
def Upholds (inv : S → Prop) (p : Failure → Prop) (x : Effect S α) : Prop :=
  ∀ ⦃s⦄, inv s → inv (outcome x s).2 ∧ FailsOnly p (outcome x s).1

section Upholding

variable {inv : S → Prop} {p q : Failure → Prop} {x : Effect S α}

theorem upholds_pure (a : α) : Upholds inv p (pure a : Effect S α) :=
  fun _ hs => ⟨hs, failsOnly_ok p a⟩

theorem upholds_throw {failure : Failure} (h : p failure) :
    Upholds inv p (throw failure : Effect S α) :=
  fun _ hs => ⟨hs, failsOnly_error h⟩

theorem upholds_get : Upholds inv p (get : Effect S S) :=
  fun s hs => ⟨hs, failsOnly_ok p s⟩

theorem upholds_ofExcept {e : Except Failure α} (h : FailsOnly p e) :
    Upholds inv p (ofExcept e : Effect S α) :=
  fun _ hs => ⟨hs, h⟩

theorem upholds_modify {g : S → S} (h : ∀ s, inv s → inv (g s)) :
    Upholds inv p (modify g : Effect S PUnit) :=
  fun s hs => ⟨h s hs, failsOnly_ok p _⟩

theorem Upholds.mono (hx : Upholds inv p x) (h : ∀ failure, p failure → q failure) :
    Upholds inv q x :=
  fun _ hs => ⟨(hx hs).1, fun failure hfailure => h failure ((hx hs).2 failure hfailure)⟩

theorem Upholds.bind {f : α → Effect S β} (hx : Upholds inv p x) (hf : ∀ a, Upholds inv p (f a)) :
    Upholds inv p (x >>= f) := by
  intro s hs
  obtain ⟨hstate, hfails⟩ := hx hs
  rw [outcome_bind]
  rcases hcase : outcome x s with ⟨failure | a, s'⟩ <;> rw [hcase] at hstate hfails
  · exact ⟨hstate, failsOnly_error (hfails failure rfl)⟩
  · exact hf a hstate

/-- Work that looks at how other work ended, which it did with a value or in some ways only. -/
theorem Upholds.attempt_bind {f : Except Failure α → Effect S β} (hx : Upholds inv p x)
    (hf : ∀ answer, FailsOnly p answer → Upholds inv q (f answer)) :
    Upholds inv q (attempt x >>= f) := by
  intro s hs
  obtain ⟨hstate, hfails⟩ := hx hs
  rw [outcome_bind, outcome_attempt]
  exact hf _ hfails hstate

theorem Upholds.andFinally {last : Effect S Unit} (hx : Upholds inv p x)
    (hlast : Upholds inv p last) : Upholds inv p (andFinally x last) :=
  hx.attempt_bind fun _ hanswer => hlast.bind fun _ => upholds_ofExcept hanswer

theorem Upholds.handling {handles : Failure → Bool} {handler : Failure → Effect S α}
    (hx : Upholds inv p x) (hother : ∀ failure, p failure → handles failure = false → q failure)
    (hhandler : ∀ failure, p failure → handles failure = true → Upholds inv q (handler failure)) :
    Upholds inv q (handling x handles handler) := by
  refine hx.attempt_bind fun answer hanswer => ?_
  cases answer with
  | ok a => exact upholds_pure a
  | error failure =>
      have hfailure := hanswer failure rfl
      cases hhandles : handles failure with
      | false => simpa [hhandles] using upholds_throw (hother failure hfailure hhandles)
      | true => simpa [hhandles] using hhandler failure hfailure hhandles

end Upholding

end Walkthrough.Effect
