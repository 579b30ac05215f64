import Walkthrough.Proofs.Patch.Overwriting

/-! # What a patch cannot change

Operations add members and replace them, and take none away. With the list of fields that may be
written, and the one condition that a step has to have, this keeps what a plan means to check. -/

namespace Walkthrough

namespace Step

/-- The conditions that a step sets. -/
def conditions (s : Step) : List String :=
  (Plan.conditionKeys s.tag).filter (Table.has s.members)

/-- What a step keeps through repairs: its kind, the name and the password of a login, what goes by
which name in the outputs and how much of it, and which condition is waited for. -/
structure Agrees (s t : Step) : Prop where
  tag : t.tag = s.tag
  credentials : ∀ username password, s = .login username password → t = .login username password
  output : ∀ selector outputKey limit, s = .extractTextList selector outputKey limit →
    ∃ selector', t = .extractTextList selector' outputKey limit
  condition : s.tag = "expect" ∨ s.tag = "waitFor" →
    ∃ key, s.conditions = [key] ∧ t.conditions = [key]

theorem Agrees.trans {s t u : Step} (h : s.Agrees t) (h' : t.Agrees u) : s.Agrees u where
  tag := h'.tag.trans h.tag
  credentials username password hs := h'.credentials _ _ (h.credentials _ _ hs)
  output selector outputKey limit hs := by
    obtain ⟨selector', ht⟩ := h.output _ _ _ hs
    exact h'.output _ _ _ ht
  condition hs := by
    obtain ⟨key, hkey, ht⟩ := h.condition hs
    obtain ⟨key', hkey', hu⟩ := h'.condition (h.tag ▸ hs)
    rw [ht] at hkey'
    exact ⟨key, hkey, hu.trans hkey'.symm⟩

theorem conforms_of_reads {s : Step} (h : Reads s.toJson s) : Conforms s.tag s.members := by
  obtain ⟨ms, hms, hc, -⟩ := h
  obtain rfl : s.members = ms := Json.obj.inj hms
  exact hc

/-- A step that is accepted sets one of its conditions, if it has any. -/
theorem exists_conditions {s : Step} (h : Reads s.toJson s)
    (hs : s.tag = "expect" ∨ s.tag = "waitFor") : ∃ key, s.conditions = [key] := by
  rcases (conforms_of_reads h).condition with hnone | hone
  · rcases hs with hs | hs <;> simp [hs, Plan.conditionKeys] at hnone
  · exact hone

theorem Agrees.refl {s : Step} (h : Reads s.toJson s) : s.Agrees s where
  tag := rfl
  credentials _ _ hs := hs
  output selector _ _ hs := ⟨selector, hs⟩
  condition hs := by
    obtain ⟨key, hkey⟩ := exists_conditions h hs
    exact ⟨key, hkey, hkey⟩

theorem get?_members_type (s : Step) : Table.get? s.members "type" = some (.str s.tag) := by
  simp [members]

/-- A value that is not set is null, so members tell fields apart. -/
theorem eq_of_members {v w : Json}
    (h : (if v.isSet then some v else none) = if w.isSet then some w else none) : v = w := by
  cases v <;> cases w <;> simp_all [Json.isSet]

theorem get?_members_login (username password : Json) :
    Table.get? (login username password).members "username" =
        (if username.isSet then some username else none) ∧
      Table.get? (login username password).members "password" =
        if password.isSet then some password else none := by
  by_cases hu : username.isSet <;> by_cases hp : password.isSet <;>
    simp [members, fields, hu, hp, Table.get?_cons]

theorem get?_members_extractTextList (selector outputKey limit : Json) :
    Table.get? (extractTextList selector outputKey limit).members "outputKey" =
        (if outputKey.isSet then some outputKey else none) ∧
      Table.get? (extractTextList selector outputKey limit).members "limit" =
        if limit.isSet then some limit else none := by
  by_cases hs : selector.isSet <;> by_cases ho : outputKey.isSet <;> by_cases hl : limit.isSet <;>
    simp [members, fields, hs, ho, hl, Table.get?_cons]

/-- Steps agree when the one was made from the other by writing members that patches may write. -/
theorem agrees_of_members {s t : Step} (hs : Reads s.toJson s) (ht : Reads t.toJson t)
    (hkept : ∀ key ∉ Patch.fields, Table.get? t.members key = Table.get? s.members key)
    (hthere : ∀ key, Table.has s.members key → Table.has t.members key) : s.Agrees t := by
  have htag : t.tag = s.tag := by
    have h := hkept "type" (by decide)
    rw [get?_members_type, get?_members_type] at h
    exact Json.str.inj (Option.some.inj h)
  refine ⟨htag, ?_, ?_, ?_⟩
  · rintro username password rfl
    cases t with
    | login username' password' =>
        have hu := hkept "username" (by decide)
        have hp := hkept "password" (by decide)
        rw [(get?_members_login _ _).1, (get?_members_login _ _).1] at hu
        rw [(get?_members_login _ _).2, (get?_members_login _ _).2] at hp
        rw [eq_of_members hu, eq_of_members hp]
    | _ => simp [tag] at htag
  · rintro selector outputKey limit rfl
    cases t with
    | extractTextList selector' outputKey' limit' =>
        have ho := hkept "outputKey" (by decide)
        have hl := hkept "limit" (by decide)
        rw [(get?_members_extractTextList _ _ _).1, (get?_members_extractTextList _ _ _).1] at ho
        rw [(get?_members_extractTextList _ _ _).2, (get?_members_extractTextList _ _ _).2] at hl
        exact ⟨selector', by rw [eq_of_members ho, eq_of_members hl]⟩
    | _ => simp [tag] at htag
  · intro hcondition
    obtain ⟨key, hkey⟩ := exists_conditions hs hcondition
    obtain ⟨key', hkey'⟩ := exists_conditions ht (htag ▸ hcondition)
    -- The condition of the one step is still there, and the other one has no second.
    have hmem : key ∈ t.conditions := by
      have h : key ∈ s.conditions := by simp [hkey]
      obtain ⟨hlisted, hhas⟩ := List.mem_filter.mp h
      exact List.mem_filter.mpr ⟨htag ▸ hlisted, hthere key hhas⟩
    obtain rfl : key = key' := by simpa [hkey'] using hmem
    exact ⟨key, hkey, hkey'⟩

end Step

/-- Plans whose steps agree one by one. -/
def Plan.Agrees (p q : Plan) : Prop :=
  List.Forall₂ Step.Agrees p.steps q.steps

theorem Plan.Agrees.refl {p : Plan} (hp : p.Accepted) : p.Agrees p :=
  List.forall₂_same.mpr fun s hs => Step.Agrees.refl (hp.reads s hs)

theorem Plan.Agrees.trans {p q r : Plan} (h : p.Agrees q) (h' : q.Agrees r) : p.Agrees r := by
  rw [Plan.Agrees, List.forall₂_iff_get] at h h' ⊢
  obtain ⟨hlength, hsteps⟩ := h
  obtain ⟨hlength', hsteps'⟩ := h'
  refine ⟨hlength.trans hlength', fun i hp hr => ?_⟩
  have hq : i < q.steps.length := hlength ▸ hp
  exact (hsteps i hp hq).trans (hsteps' i hq hr)

namespace Patch

theorem accepted_of_apply {p q : Plan} {patch : Patch} (h : patch.apply p = .ok q) :
    q.Accepted := by
  obtain ⟨-, steps, -, hvalid⟩ := apply_eq_ok_iff_validate.mp h
  exact Plan.accepted_of_validate hvalid

/-- A patched plan agrees with the plan before. -/
theorem agrees_of_apply {raw : Json} {p q : Plan} {patch : Patch} (hp : p.Accepted)
    (hpatch : parse raw = .ok patch) (h : patch.apply p = .ok q) : p.Agrees q := by
  have hq := accepted_of_apply h
  obtain ⟨-, old, new, hold, hnew, hlength, hmembers⟩ := overwrites_of_apply hp hpatch h
  obtain rfl := Json.arr.inj (Option.some.inj (hold.symm.trans (Plan.get?_members_steps p)))
  obtain rfl := Json.arr.inj (Option.some.inj (hnew.symm.trans (Plan.get?_members_steps q)))
  rw [Plan.Agrees, List.forall₂_iff_get]
  refine ⟨by simpa using hlength.symm, fun i hi hi' => ?_⟩
  have hmember : ∀ key, Table.get? (q.steps.get ⟨i, hi'⟩).members key =
      (lastValue? patch.operations i key).or (Table.get? (p.steps.get ⟨i, hi⟩).members key) := by
    intro key
    simpa [memberAt?_map_toJson, hi, hi'] using hmembers i key
  refine Step.agrees_of_members (hp.reads _ (List.get_mem ..)) (hq.reads _ (List.get_mem ..)) ?_ ?_
  · intro key hkey
    rw [hmember, lastValue?_eq_none hkey, Option.none_or]
  · intro key hhas
    rw [Table.has_eq_isSome] at hhas ⊢
    rw [hmember, Option.isSome_or, hhas, Bool.or_true]

end Patch
end Walkthrough
