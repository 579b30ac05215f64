import Walkthrough.Proofs.Patch.Overwriting

/-! # Refusing patches

A patch is applied or refused, unless it trips: over a step number with more digits than are read, or
over a page to go to whose URL cannot be split. Both are faults of values, and neither is handled. -/

namespace Walkthrough

/-- Ends with a value, or with the refusal of a patch. -/
def Settled {α : Type} (x : Except Failure α) : Prop :=
  (∃ a, x = .ok a) ∨ ∃ fault, x = .error (.patchRejected fault)

theorem not_settled_of_valueFault {α : Type} {x : Except Failure α}
    (h : ∃ fault, x = .error (.value fault)) : ¬ Settled x := by
  obtain ⟨fault, rfl⟩ := h
  rintro (⟨a, ha⟩ | ⟨refusal, hrefusal⟩)
  · cases ha
  · cases hrefusal

namespace Patch

/-- An operation whose path holds a step number with too many digits. -/
def Operation.Overlong (o : Operation) : Prop :=
  ∃ path digits field, o.path = .str path ∧ address? path = some (digits, field) ∧
    Json.digitLimit < digits.length

/-- A step that goes to a page whose URL cannot be split. -/
def Unsplittable (v : Json) : Prop :=
  ∃ ms s fault, v = .obj ms ∧ Table.get? ms "type" = some (.str "goto") ∧
    Table.get? ms "url" = some (.str s) ∧ Url.split s = .error fault

/-- What operations on a plan trip over: the first of them that cannot be carried out has an overlong
step number, or the first of the overwritten steps that does not conform goes to a page whose URL
cannot be split. -/
inductive Trips (p : Plan) (operations : List Operation) : Prop
  | overlong (before : List Operation) (o : Operation) (after : List Operation) (steps : List Json)
      (split : operations = before ++ o :: after)
      (done : overwriteAll (p.steps.map Step.toJson) before = .ok steps)
      (long : o.Overlong) : Trips p operations
  | unsplittable (before : List Json) (v : Json) (after : List Json)
      (done : overwriteAll (p.steps.map Step.toJson) operations = .ok (before ++ v :: after))
      (conforming : ∀ w ∈ before, ∃ s, Step.Reads w s)
      (bad : Unsplittable v) : Trips p operations

/-! ## Operations that cannot be carried out -/

theorem Operation.Reads.known {v : Json} {o : Operation} (h : Operation.Reads v o) :
    (∃ op ∈ ops, o.op = .str op) ∧ ∃ path digits field, o.path = .str path ∧
      address? path = some (digits, field) := by
  obtain ⟨ms, op, path, value, -, ⟨-, hop⟩, ⟨-, haddress⟩, -, rfl⟩ := h
  obtain ⟨⟨digits, field⟩, haddress⟩ := Option.isSome_iff_exists.mp haddress
  exact ⟨⟨op, hop, rfl⟩, path, digits, field, rfl, haddress⟩

theorem overwrite_overlong {v : Json} {o : Operation} (hread : Operation.Reads v o)
    (hlong : o.Overlong) (steps : List Json) :
    ∃ n, overwrite steps o = .error (.value (.hugeInteger n)) := by
  obtain ⟨hop, -⟩ := hread.known
  obtain ⟨path, digits, field, hpath, haddress, hlength⟩ := hlong
  have hknown := any_contains_iff.mpr hop
  exact ⟨digits.length, by simp [overwrite, hknown, hpath, haddress, indexOf, hlength]⟩

theorem settled_overwrite {v : Json} {o : Operation} (hread : Operation.Reads v o)
    (hshort : ¬ o.Overlong) (steps : List Json) : Settled (overwrite steps o) := by
  obtain ⟨hop, path, digits, field, hpath, haddress⟩ := hread.known
  have hknown := any_contains_iff.mpr hop
  have hlength : digits.length ≤ Json.digitLimit := by
    by_contra hlong
    exact hshort ⟨path, digits, field, hpath, haddress, by omega⟩
  by_cases hindex : steps.length ≤ Text.decimalValue digits
  · right
    exact ⟨.noSuchStep (Text.decimalValue digits), by
      simp [overwrite, hknown, hpath, haddress, indexOf, Nat.not_lt.mpr hlength, hindex]⟩
  · left
    exact ⟨_, overwrite_eq_ok_iff.mpr
      ⟨_, field, ⟨hop, path, digits, hpath, haddress, hlength, rfl⟩, by omega, rfl⟩⟩

theorem overwriteAll_append {steps mid : List Json} {before rest : List Operation}
    (h : overwriteAll steps before = .ok mid) :
    overwriteAll steps (before ++ rest) = overwriteAll mid rest := by
  induction before generalizing steps with
  | nil =>
      obtain rfl := Except.ok.inj h
      rfl
  | cons o before ih =>
      obtain ⟨next, hnext, hrest⟩ := overwriteAll_cons_eq_ok_iff.mp h
      simpa [overwriteAll, hnext] using ih hrest

/-- Operations that were read are carried out, or refused, or one of them is overlong. -/
theorem settled_overwriteAll_or {steps : List Json} {operations : List Operation}
    (hreads : ∀ o ∈ operations, ∃ v, Operation.Reads v o) :
    Settled (overwriteAll steps operations) ∨ ∃ before o after mid,
      operations = before ++ o :: after ∧ overwriteAll steps before = .ok mid ∧ o.Overlong := by
  induction operations generalizing steps with
  | nil => exact .inl (.inl ⟨steps, rfl⟩)
  | cons o rest ih =>
      obtain ⟨v, hv⟩ := hreads o (by simp)
      by_cases hlong : o.Overlong
      · exact .inr ⟨[], o, rest, steps, rfl, rfl, hlong⟩
      rcases settled_overwrite hv hlong steps with ⟨mid, hmid⟩ | ⟨fault, hfault⟩
      · rcases @ih mid fun o ho => hreads o (by simp [ho]) with
          hsettled | ⟨before, o', after, mid', rfl, hbefore, hlong'⟩
        · left
          simpa [overwriteAll, hmid] using hsettled
        · right
          exact ⟨o :: before, o', after, mid', rfl,
            overwriteAll_cons_eq_ok_iff.mpr ⟨mid, hmid, hbefore⟩, hlong'⟩
      · exact .inl (.inr ⟨fault, by simp [overwriteAll, hfault]⟩)

/-! ## Steps that do not conform -/

/-- The kind of a step is not for a patch to change. -/
theorem tagged_overwriteAll {steps : List Step} {steps' : List Json} {operations : List Operation}
    (h : overwriteAll (steps.map Step.toJson) operations = .ok steps') :
    ∀ v ∈ steps', ∃ tag ms, Plan.Tagged v tag ms := by
  intro v hv
  have hobjects := map_toJson_objects steps
  obtain ⟨ms, rfl⟩ := overwriteAll_objects h hobjects v hv
  obtain ⟨i, hi⟩ := List.mem_iff_getElem?.mp hv
  have hmember := memberAt?_overwriteAll h hobjects i "type"
  rw [lastValue?_eq_none (by decide), Option.none_or, memberAt?_map_toJson] at hmember
  cases hs : steps[i]? with
  | none =>
      have hlength := length_overwriteAll h
      have := List.getElem?_eq_none_iff.mp hs
      have := (List.getElem?_eq_some_iff.mp hi).1
      simp at hlength
      omega
  | some s =>
      refine ⟨s.tag, ms, rfl, s.tag_mem_tags, ?_⟩
      simpa [memberAt?, hi, hs, Json.member?, Step.members] using hmember

theorem checkStep_eq_urlFault_iff {index : Nat} {v : Json}
    (htagged : ∃ tag ms, Plan.Tagged v tag ms) :
    (∃ fault, Plan.checkStep index v = .error (.value (.url fault))) ↔ Unsplittable v := by
  obtain ⟨tag, ms, rfl, hknown, htag⟩ := htagged
  simp only [Plan.checkStep_eq_urlFault_iff hknown htag]
  constructor
  · rintro ⟨fault, rfl, s, hs, hfault⟩
    exact ⟨ms, s, fault, rfl, htag, hs, hfault⟩
  · rintro ⟨ms', s, fault, hms, htype, hs, hfault⟩
    obtain rfl := Json.obj.inj hms
    rw [htag] at htype
    exact ⟨fault, Json.str.inj (Option.some.inj htype), s, hs, hfault⟩

theorem validate_withSteps {p : Plan} (hp : p.Accepted) {steps : List Json} (hne : steps ≠ [])
    (htagged : ∀ v ∈ steps, ∃ tag ms, Plan.Tagged v tag ms) :
    (∃ q, Plan.validate (withSteps p steps) = .ok q) ∨
      ∃ failure, Plan.validate (withSteps p steps) = .error failure ∧
        Plan.checkSteps 0 steps = .error failure := by
  have hvalidate := Plan.validate_of_conforms (conforms_set_steps hp hne) htagged
  cases hsteps : Plan.checkSteps 0 steps with
  | error failure => exact .inr ⟨failure, by rw [withSteps_eq, hvalidate, hsteps], rfl⟩
  | ok checked =>
      left
      obtain ⟨read, hread⟩ := exists_forall₂ ((Plan.checkSteps_eq_ok_iff htagged).mp hsteps)
      exact ⟨{ p with steps := read },
        (validate_withSteps_eq_ok_iff hp).mpr ⟨hne, hread, rfl, rfl, rfl⟩⟩

/-! ## Applying patches -/

/-- A patch that trips neither is applied nor refused. -/
theorem apply_of_trips {raw : Json} {p : Plan} {patch : Patch} (hp : p.Accepted)
    (hpatch : parse raw = .ok patch) (h : Trips p patch.operations) :
    ∃ fault, patch.apply p = .error (.value fault) := by
  obtain ⟨ms, reason, items, -, -, ⟨-, hlength⟩, hitems, -⟩ := parse_eq_ok_iff.mp hpatch
  have hcount : ¬ operationLimit < patch.operations.length := by
    rw [← hitems.length_eq]
    omega
  cases h with
  | overlong before o after steps split done long =>
      have ho : o ∈ patch.operations := by simp [split]
      obtain ⟨v, -, hv⟩ := exists_of_mem_right hitems ho
      obtain ⟨n, hn⟩ := overwrite_overlong hv long steps
      have hall : overwriteAll (p.steps.map Step.toJson) patch.operations =
          .error (.value (.hugeInteger n)) := by
        rw [split, overwriteAll_append done]
        simp [overwriteAll, hn]
      exact ⟨.hugeInteger n, by simp [apply, hcount, hall]⟩
  | unsplittable before v after done conforming bad =>
      have htagged := tagged_overwriteAll done
      obtain ⟨fault, hfault⟩ :=
        (@checkStep_eq_urlFault_iff (0 + before.length) _ (htagged v (by simp))).mpr bad
      have hbefore : Plan.checkSteps 0 before = .ok () :=
        (Plan.checkSteps_eq_ok_iff fun w hw => htagged w (by simp [hw])).mpr conforming
      have hsteps := Plan.checkSteps_eq_error_iff.mpr ⟨before, v, after, rfl, hbefore, hfault⟩
      have hvalidate : Plan.validate (withSteps p (before ++ v :: after)) =
          .error (.value (.url fault)) := by
        rw [withSteps_eq, Plan.validate_of_conforms (conforms_set_steps hp (by simp)) htagged,
          hsteps]
      exact ⟨.url fault, by simp [apply, hcount, done, hvalidate]⟩

/-- A patch that does not trip is applied or refused. -/
theorem settled_apply {raw : Json} {p : Plan} {patch : Patch} (hp : p.Accepted)
    (hpatch : parse raw = .ok patch) (h : ¬ Trips p patch.operations) :
    Settled (patch.apply p) := by
  obtain ⟨ms, reason, items, -, -, ⟨-, hlength⟩, hitems, -⟩ := parse_eq_ok_iff.mp hpatch
  have hcount : ¬ operationLimit < patch.operations.length := by
    rw [← hitems.length_eq]
    omega
  have hreads : ∀ o ∈ patch.operations, ∃ v, Operation.Reads v o := by
    intro o ho
    obtain ⟨v, -, hv⟩ := exists_of_mem_right hitems ho
    exact ⟨v, hv⟩
  rcases @settled_overwriteAll_or (p.steps.map Step.toJson) _ hreads with
    (⟨steps, hsteps⟩ | ⟨fault, hfault⟩) | ⟨before, o, after, mid, hsplit, hbefore, hlong⟩
  · have hne : steps ≠ [] := by
      rintro rfl
      have := length_overwriteAll hsteps
      simp [eq_comm, hp.nonempty] at this
    have htagged := tagged_overwriteAll hsteps
    rcases validate_withSteps hp hne htagged with ⟨q, hq⟩ | ⟨failure, hfailure, hcheck⟩
    · exact .inl ⟨q, by simp [apply, hcount, hsteps, hq]⟩
    obtain ⟨before, v, after, rfl, hbefore, hv⟩ := Plan.checkSteps_eq_error_iff.mp hcheck
    rcases Plan.checkStep_eq_error hv with ⟨place, fault, rfl⟩ | ⟨fault, rfl⟩
    · exact .inr ⟨.spoilsPlan place fault, by simp [apply, hcount, hsteps, hfailure]⟩
    · have hbad := (checkStep_eq_urlFault_iff (htagged v (by simp))).mp ⟨fault, hv⟩
      have hconforming :=
        (Plan.checkSteps_eq_ok_iff fun w hw => htagged w (by simp [hw])).mp hbefore
      exact absurd (.unsplittable before v after hsteps hconforming hbad) h
  · exact .inr ⟨fault, by simp [apply, hcount, hfault]⟩
  · exact absurd (.overlong before o after mid hsplit hbefore hlong) h

/-- An empty patch changes nothing. -/
theorem apply_empty {p : Plan} (hp : p.Accepted) (reason : Json) : apply p ⟨reason, []⟩ = .ok p := by
  have hreads : List.Forall₂ Step.Reads (p.steps.map Step.toJson) p.steps := by
    rw [List.forall₂_map_left_iff, List.forall₂_same]
    exact hp.reads
  have hne : p.steps.map Step.toJson ≠ [] := by simpa using hp.nonempty
  exact apply_eq_ok_iff_validate.mpr ⟨Nat.zero_le _, _, rfl,
    (validate_withSteps_eq_ok_iff hp).mpr ⟨hne, hreads, rfl, rfl, rfl⟩⟩

theorem operations_ne_nil {p : Plan} {patch : Patch} {failure : Failure} (hp : p.Accepted)
    (h : patch.apply p = .error failure) : patch.operations ≠ [] := by
  obtain ⟨reason, operations⟩ := patch
  rintro rfl
  rw [apply_empty hp] at h
  cases h

/-! ## Amending plans -/

/-- A plan with the patch in a JSON value applied to it. -/
def amend (p : Plan) (raw : Json) : Except Failure Plan :=
  match parse raw with
  | .ok patch => patch.apply p
  | .error failure => .error failure

/-- A JSON value holds a patch that trips. -/
def TripsOver (p : Plan) (raw : Json) : Prop :=
  ∃ patch, parse raw = .ok patch ∧ Trips p patch.operations

theorem amend_of_tripsOver {p : Plan} {raw : Json} (hp : p.Accepted) (h : TripsOver p raw) :
    ∃ fault, amend p raw = .error (.value fault) := by
  obtain ⟨patch, hpatch, htrips⟩ := h
  simpa [amend, hpatch] using apply_of_trips hp hpatch htrips

theorem settled_amend {p : Plan} {raw : Json} (hp : p.Accepted) (h : ¬ TripsOver p raw) :
    Settled (amend p raw) := by
  cases hparse : parse raw with
  | error failure =>
      obtain ⟨fault, rfl⟩ := parse_eq_error hparse
      exact .inr ⟨fault, by simp [amend, hparse]⟩
  | ok patch =>
      have hsettled := settled_apply hp hparse fun htrips => h ⟨patch, hparse, htrips⟩
      simpa [amend, hparse] using hsettled

/-- A JSON value makes another plan or is refused, unless it holds a patch that trips. -/
theorem settled_amend_iff {p : Plan} {raw : Json} (hp : p.Accepted) :
    Settled (amend p raw) ↔ ¬ TripsOver p raw :=
  ⟨fun hsettled htrips => not_settled_of_valueFault (amend_of_tripsOver hp htrips) hsettled,
    settled_amend hp⟩

end Patch
end Walkthrough
