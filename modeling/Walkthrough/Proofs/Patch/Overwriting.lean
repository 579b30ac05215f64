import Walkthrough.Proofs.Patch.Reading

/-! # Applying patches

A patch that is applied to an accepted plan overwrites the members that its operations address, the
last operation on a member deciding, and leaves all else as it was. -/

namespace Walkthrough.Patch

/-! ## Overwriting members -/

/-- The member of a step in a list of steps. -/
def memberAt? (steps : List Json) (i : Nat) (key : String) : Option Json :=
  steps[i]?.bind (·.member? key)

/-- The step and the member that an operation addresses. -/
def Operation.leaf? (o : Operation) : Option (Nat × String) :=
  (o.path.str?.bind address?).map fun address => (Text.decimalValue address.1, address.2)

/-- The value of the last operation on a member of a step. -/
def lastValue? (operations : List Operation) (i : Nat) (key : String) : Option Json :=
  (operations.filter fun o => o.leaf? = some (i, key)).getLast?.map Operation.value

/-- A known operation whose path leads to a member of a step, by a number that is not too long. -/
def Operation.Targets (o : Operation) (index : Nat) (field : String) : Prop :=
  (∃ op ∈ ops, o.op = .str op) ∧ ∃ path digits, o.path = .str path ∧
    address? path = some (digits, field) ∧ digits.length ≤ Json.digitLimit ∧
    Text.decimalValue digits = index

theorem Operation.Targets.leaf? {o : Operation} {index : Nat} {field : String}
    (h : o.Targets index field) : o.leaf? = some (index, field) := by
  obtain ⟨-, path, digits, hpath, haddress, -, rfl⟩ := h
  simp [Operation.leaf?, hpath, Json.str?, haddress]

theorem field_mem_fields {path : String} {digits : List Char} {field : String}
    (h : address? path = some (digits, field)) : field ∈ fields := by
  unfold address? at h
  dsimp only at h
  split at h
  swap
  · cases h
  split at h
  swap
  · cases h
  rename_i rest _
  generalize String.ofList (if rest.getLast? = some '\n' then rest.dropLast else rest) = name at h
  split at h
  · cases h
  · rename_i hallowed
    obtain ⟨-, rfl⟩ := Prod.mk.inj (Option.some.inj h)
    simp only [Bool.or_eq_true, not_or, Bool.not_eq_true, Bool.not_eq_false'] at hallowed
    simpa using hallowed.2

/-- A member that no path leads to is not written. -/
theorem lastValue?_eq_none {key : String} (hkey : key ∉ fields) (operations : List Operation)
    (i : Nat) : lastValue? operations i key = none := by
  have hnone : operations.filter (fun o => o.leaf? = some (i, key)) = [] := by
    rw [List.filter_eq_nil_iff]
    intro o _ ho
    obtain ⟨⟨digits, field⟩, haddress, heq⟩ := Option.map_eq_some_iff.mp (of_decide_eq_true ho)
    obtain ⟨path, -, hpath⟩ := Option.bind_eq_some_iff.mp haddress
    obtain ⟨-, rfl⟩ := Prod.mk.inj heq
    exact hkey (field_mem_fields hpath)
  simp [lastValue?, hnone]

theorem any_contains_iff {v : Json} : v.str?.any ops.contains = true ↔ ∃ op ∈ ops, v = .str op := by
  cases v <;> simp [Json.str?]

theorem overwrite_eq_ok_iff {steps steps' : List Json} {o : Operation} :
    overwrite steps o = .ok steps' ↔ ∃ index field, o.Targets index field ∧
      index < steps.length ∧ steps' = steps.modify index (overwriteMember field o.value) := by
  constructor
  · intro h
    unfold overwrite at h
    split at h
    · cases h
    rename_i hop
    have hop := any_contains_iff.mp (by simpa using hop)
    split at h
    swap
    · cases h
    rename_i path hpath
    split at h
    · cases h
    rename_i digits field haddress
    split at h
    · cases h
    rename_i index hindex
    obtain ⟨hlength, rfl⟩ : digits.length ≤ Json.digitLimit ∧ Text.decimalValue digits = index := by
      unfold indexOf at hindex
      split at hindex
      · cases hindex
      · exact ⟨by omega, Except.ok.inj hindex⟩
    split at h
    · cases h
    · exact ⟨_, field, ⟨hop, path, digits, hpath, haddress, hlength, rfl⟩, by omega,
        (Except.ok.inj h).symm⟩
  · rintro ⟨_, field, ⟨hop, path, digits, hpath, haddress, hlength, rfl⟩, hindex, rfl⟩
    have hknown := any_contains_iff.mpr hop
    simp [overwrite, hknown, hpath, haddress, indexOf, Nat.not_lt.mpr hlength,
      Nat.not_le.mpr hindex]

theorem overwriteAll_cons_eq_ok_iff {steps steps' : List Json} {o : Operation}
    {rest : List Operation} :
    overwriteAll steps (o :: rest) = .ok steps' ↔
      ∃ mid, overwrite steps o = .ok mid ∧ overwriteAll mid rest = .ok steps' := by
  cases h : overwrite steps o <;> simp [overwriteAll, h]

/-- Whether operations can be carried out does not depend on their order. -/
theorem overwriteAll_isOk_iff {steps : List Json} {operations : List Operation} :
    (∃ steps', overwriteAll steps operations = .ok steps') ↔
      ∀ o ∈ operations, ∃ index field, o.Targets index field ∧ index < steps.length := by
  induction operations generalizing steps with
  | nil => simp [overwriteAll]
  | cons o rest ih =>
      rw [List.forall_mem_cons]
      constructor
      · rintro ⟨steps', h⟩
        obtain ⟨mid, hmid, hrest⟩ := overwriteAll_cons_eq_ok_iff.mp h
        obtain ⟨index, field, htargets, hindex, rfl⟩ := overwrite_eq_ok_iff.mp hmid
        refine ⟨⟨index, field, htargets, hindex⟩, ?_⟩
        simpa using ih.mp ⟨steps', hrest⟩
      · rintro ⟨⟨index, field, htargets, hindex⟩, hrest⟩
        obtain ⟨steps', hsteps'⟩ :=
          (@ih (steps.modify index (overwriteMember field o.value))).mpr
            (by simpa using hrest)
        exact ⟨steps', overwriteAll_cons_eq_ok_iff.mpr
          ⟨_, overwrite_eq_ok_iff.mpr ⟨index, field, htargets, hindex, rfl⟩, hsteps'⟩⟩

theorem lastValue?_cons (o : Operation) (rest : List Operation) (i : Nat) (key : String) :
    lastValue? (o :: rest) i key =
      (lastValue? rest i key).or (if o.leaf? = some (i, key) then some o.value else none) := by
  by_cases h : o.leaf? = some (i, key)
  · simp only [lastValue?, h, List.filter_cons_of_pos, decide_true, if_true]
    cases hlast : (rest.filter fun o => o.leaf? = some (i, key)).getLast? with
    | none => simp [List.getLast?_cons, hlast]
    | some last => simp [List.getLast?_cons, hlast]
  · simp [lastValue?, h]

/-- Objects stay objects, and an object holds the value under the field that was written. -/
theorem member?_overwriteMember {v : Json} (h : ∃ ms, v = .obj ms) (field : String) (value : Json)
    (key : String) :
    (overwriteMember field value v).member? key =
      if field = key then some value else v.member? key := by
  obtain ⟨ms, rfl⟩ := h
  simp [overwriteMember, Json.member?, Table.get?_set]

theorem overwrite_objects {steps mid : List Json} {o : Operation}
    (h : overwrite steps o = .ok mid) (hobjects : ∀ v ∈ steps, ∃ ms, v = .obj ms) :
    ∀ v ∈ mid, ∃ ms, v = .obj ms := by
  obtain ⟨index, field, -, -, rfl⟩ := overwrite_eq_ok_iff.mp h
  intro v hv
  obtain ⟨i, hi⟩ := List.mem_iff_getElem?.mp hv
  rw [List.getElem?_modify] at hi
  obtain ⟨w, hw, rfl⟩ := Option.map_eq_some_iff.mp hi
  obtain ⟨ms, rfl⟩ := hobjects w (List.mem_of_getElem? hw)
  split
  · exact ⟨_, rfl⟩
  · exact ⟨ms, rfl⟩

theorem overwriteAll_objects {steps steps' : List Json} {operations : List Operation}
    (h : overwriteAll steps operations = .ok steps') (hobjects : ∀ v ∈ steps, ∃ ms, v = .obj ms) :
    ∀ v ∈ steps', ∃ ms, v = .obj ms := by
  induction operations generalizing steps with
  | nil =>
      obtain rfl := Except.ok.inj h
      exact hobjects
  | cons o rest ih =>
      obtain ⟨mid, hmid, hrest⟩ := overwriteAll_cons_eq_ok_iff.mp h
      exact ih hrest (overwrite_objects hmid hobjects)

theorem length_overwriteAll {steps steps' : List Json} {operations : List Operation}
    (h : overwriteAll steps operations = .ok steps') : steps'.length = steps.length := by
  induction operations generalizing steps with
  | nil => rw [Except.ok.inj h]
  | cons o rest ih =>
      obtain ⟨mid, hmid, hrest⟩ := overwriteAll_cons_eq_ok_iff.mp h
      obtain ⟨index, field, -, -, rfl⟩ := overwrite_eq_ok_iff.mp hmid
      rw [ih hrest, List.length_modify]

/-- An operation writes the member that it addresses, and no other. -/
theorem memberAt?_overwrite {steps mid : List Json} {o : Operation}
    (h : overwrite steps o = .ok mid) (hobjects : ∀ v ∈ steps, ∃ ms, v = .obj ms) (i : Nat)
    (key : String) :
    memberAt? mid i key =
      (if o.leaf? = some (i, key) then some o.value else none).or (memberAt? steps i key) := by
  obtain ⟨index, field, htargets, hindex, rfl⟩ := overwrite_eq_ok_iff.mp h
  rw [htargets.leaf?, memberAt?, memberAt?, List.getElem?_modify]
  cases hstep : steps[i]? with
  | none =>
      have hne : index ≠ i := by
        rintro rfl
        simp [hindex] at hstep
      simp [hne]
  | some v =>
      have hobject := hobjects v (List.mem_of_getElem? hstep)
      by_cases hi : index = i
      · subst hi
        by_cases hkey : field = key <;> simp [hkey, member?_overwriteMember hobject]
      · simp [hi]

/-- The last operation on a member decides what it holds; all other members stay. -/
theorem memberAt?_overwriteAll {steps steps' : List Json} {operations : List Operation}
    (h : overwriteAll steps operations = .ok steps') (hobjects : ∀ v ∈ steps, ∃ ms, v = .obj ms)
    (i : Nat) (key : String) :
    memberAt? steps' i key = (lastValue? operations i key).or (memberAt? steps i key) := by
  induction operations generalizing steps with
  | nil =>
      obtain rfl := Except.ok.inj h
      simp [lastValue?]
  | cons o rest ih =>
      obtain ⟨mid, hmid, hrest⟩ := overwriteAll_cons_eq_ok_iff.mp h
      rw [ih hrest (overwrite_objects hmid hobjects), memberAt?_overwrite hmid hobjects,
        lastValue?_cons, Option.or_assoc]

/-! ## The order of operations -/

/-- No two operations with the same leaf means that a leaf's last operation is its only one. -/
theorem lastValue?_perm {operations operations' : List Operation}
    (hperm : operations.Perm operations') (hnodup : (operations.map Operation.leaf?).Nodup)
    (i : Nat) (key : String) : lastValue? operations i key = lastValue? operations' i key := by
  have hfilter := hperm.filter fun o => o.leaf? = some (i, key)
  have hsub := (List.filter_sublist
    (p := fun o => o.leaf? = some (i, key)) (l := operations)).map Operation.leaf?
  have hleaf : ∀ o ∈ operations.filter (fun o => o.leaf? = some (i, key)),
      o.leaf? = some (i, key) := by
    intro o ho
    simpa using (List.mem_filter.mp ho).2
  simp only [lastValue?]
  revert hfilter hsub hleaf
  generalize operations.filter (fun o => o.leaf? = some (i, key)) = found
  generalize operations'.filter (fun o => o.leaf? = some (i, key)) = found'
  intro hfilter hsub hleaf
  match found with
  | [] => rw [List.nil_perm.mp hfilter]
  | [o] => rw [List.singleton_perm.mp hfilter]
  | o :: o' :: rest =>
      have hpair := hsub.nodup hnodup
      have ho := hleaf o (by simp)
      have ho' := hleaf o' (by simp)
      simp [ho, ho'] at hpair

/-- Lists of objects with the same members are read as the same steps. -/
theorem forall₂_reads_congr {steps steps' : List Json} {read : List Step}
    (hlength : steps.length = steps'.length) (hobjects : ∀ v ∈ steps', ∃ ms, v = .obj ms)
    (hmembers : ∀ i key, memberAt? steps i key = memberAt? steps' i key)
    (h : List.Forall₂ Step.Reads steps read) : List.Forall₂ Step.Reads steps' read := by
  rw [List.forall₂_iff_get] at h ⊢
  refine ⟨hlength ▸ h.1, fun i hi hr => ?_⟩
  have hread := h.2 i (hlength ▸ hi) hr
  obtain ⟨ms', hms'⟩ := hobjects (steps'.get ⟨i, hi⟩) (List.get_mem ..)
  obtain ⟨ms, hms, hc, hs⟩ := hread
  rw [hms']
  refine @Step.reads_congr ms _ _ (fun key => ?_) ⟨ms, rfl, hc, hs⟩
  have hkey := hmembers i key
  simp only [List.get_eq_getElem] at hms hms'
  simpa [memberAt?, hlength ▸ hi, hi, hms, hms', Json.member?] using hkey

/-! ## Applying patches -/

theorem withSteps_eq (p : Plan) (steps : List Json) :
    withSteps p steps = .obj (Table.set p.members "steps" (.arr steps)) :=
  rfl

theorem get?_set_steps (p : Plan) (steps : List Json) {key : String} (hkey : key ≠ "steps") :
    Table.get? (Table.set p.members "steps" (.arr steps)) key = Table.get? p.members key := by
  simp [Table.get?_set, Ne.symm hkey]

/-- An accepted plan conforms with any other steps in place of its own. -/
theorem conforms_set_steps {p : Plan} (hp : p.Accepted) {steps : List Json} (hne : steps ≠ []) :
    Plan.Conforms (Table.set p.members "steps" (.arr steps)) steps := by
  obtain ⟨ms, old, hms, hc, -⟩ := Plan.validate_eq_ok_iff.mp hp
  obtain rfl : p.members = ms := Json.obj.inj hms
  refine ⟨?_, ?_, ?_, by simp [Table.get?_set], hne⟩
  · rw [get?_set_steps _ _ (by decide)]
    exact hc.version
  · rw [get?_set_steps _ _ (by decide)]
    exact hc.name
  · rw [get?_set_steps _ _ (by decide)]
    exact hc.baseUrl

/-- With other steps an accepted plan is read as one that differs in its steps alone. -/
theorem validate_withSteps_eq_ok_iff {p q : Plan} (hp : p.Accepted) {steps : List Json} :
    Plan.validate (withSteps p steps) = .ok q ↔ steps ≠ [] ∧
      List.Forall₂ Step.Reads steps q.steps ∧ q.version = p.version ∧ q.name = p.name ∧
      q.baseUrl = p.baseUrl := by
  obtain ⟨ms, -, hms, -, -, hversion, hname, hbaseUrl⟩ := Plan.validate_eq_ok_iff.mp hp
  obtain rfl : p.members = ms := Json.obj.inj hms
  rw [withSteps_eq, Plan.validate_eq_ok_iff]
  constructor
  · rintro ⟨ms', steps', hms', hc', hreads, hv, hn, hb⟩
    obtain rfl := Json.obj.inj hms'
    have hsame := hc'.listed
    rw [Table.get?_set, if_pos rfl] at hsame
    obtain rfl := Json.arr.inj (Option.some.inj hsame)
    rw [get?_set_steps _ _ (by decide)] at hn hb
    exact ⟨hc'.nonempty, hreads, hv.trans hversion.symm, hn.trans hname.symm,
      hb.trans hbaseUrl.symm⟩
  · rintro ⟨hne, hreads, hv, hn, hb⟩
    refine ⟨_, steps, rfl, conforms_set_steps hp hne, hreads, hv.trans hversion, ?_, ?_⟩
    · rw [get?_set_steps _ _ (by decide), hn, hname]
    · rw [get?_set_steps _ _ (by decide), hb, hbaseUrl]

theorem map_toJson_objects (steps : List Step) :
    ∀ v ∈ steps.map Step.toJson, ∃ ms, v = .obj ms := by
  intro v hv
  obtain ⟨s, -, rfl⟩ := List.mem_map.mp hv
  exact ⟨_, s.toJson_eq⟩

theorem apply_eq_ok_iff_validate {p q : Plan} {patch : Patch} :
    patch.apply p = .ok q ↔ patch.operations.length ≤ operationLimit ∧
      ∃ steps, overwriteAll (p.steps.map Step.toJson) patch.operations = .ok steps ∧
        Plan.validate (withSteps p steps) = .ok q := by
  by_cases hcount : operationLimit < patch.operations.length
  · simp [apply, hcount, Nat.not_le.mpr hcount]
  cases hsteps : overwriteAll (p.steps.map Step.toJson) patch.operations with
  | error failure => simp [apply, hcount, hsteps]
  | ok steps =>
      simp only [apply, hcount, hsteps, if_false, Except.ok.injEq, exists_eq_left',
        Nat.le_of_not_lt hcount, true_and]
      split <;> simp_all

theorem apply_eq_ok_iff {p q : Plan} (hp : p.Accepted) {patch : Patch} :
    patch.apply p = .ok q ↔ patch.operations.length ≤ operationLimit ∧
      ∃ steps, overwriteAll (p.steps.map Step.toJson) patch.operations = .ok steps ∧
        List.Forall₂ Step.Reads steps q.steps ∧ q.version = p.version ∧ q.name = p.name ∧
        q.baseUrl = p.baseUrl := by
  have hne : ∀ steps, overwriteAll (p.steps.map Step.toJson) patch.operations = .ok steps →
      steps ≠ [] := by
    rintro steps hsteps rfl
    have hlength := length_overwriteAll hsteps
    simp [eq_comm, hp.nonempty] at hlength
  simp only [apply_eq_ok_iff_validate, validate_withSteps_eq_ok_iff hp]
  refine and_congr_right fun _ => exists_congr fun steps => and_congr_right fun hsteps => ?_
  simp [hne steps hsteps]

/-- What a patch that was read writes is settled. -/
theorem settle_value_of_parse {raw : Json} {patch : Patch} (h : parse raw = .ok patch) :
    ∀ o ∈ patch.operations, o.value.settle = o.value := by
  intro o ho
  obtain ⟨_, _, items, -, -, -, hitems, -⟩ := parse_eq_ok_iff.mp h
  obtain ⟨v, -, hv⟩ := exists_of_mem_right hitems ho
  obtain ⟨_, _, _, _, -, -, -, -, rfl⟩ := hv
  exact Json.settle_settle _

/-- The JSON objects of a plan before and after some operations, read as nested maps: each member of
a step holds what the last operation on it wrote, or else what it held before, and no other member,
no step and no place of a step is different. -/
structure Overwrites (operations : List Operation) (before after : Json) : Prop where
  top : ∀ key, key ≠ "steps" → after.member? key = before.member? key
  steps : ∃ old new, before.member? "steps" = some (.arr old) ∧
    after.member? "steps" = some (.arr new) ∧ new.length = old.length ∧
    ∀ i key, memberAt? new i key = (lastValue? operations i key).or (memberAt? old i key)

theorem memberAt?_map_toJson (steps : List Step) (i : Nat) (key : String) :
    memberAt? (steps.map Step.toJson) i key =
      steps[i]?.bind fun s => Table.get? s.members key := by
  cases h : steps[i]? <;> simp [memberAt?, h, Step.toJson_eq, Json.member?]

/-- Steps that were read hold the members that they were read from, settled. -/
theorem memberAt?_of_reads {steps : List Json} {read : List Step}
    (h : List.Forall₂ Step.Reads steps read) (i : Nat) (key : String) :
    memberAt? (read.map Step.toJson) i key = (memberAt? steps i key).map Json.settle := by
  rw [memberAt?_map_toJson]
  cases hi : steps[i]? with
  | none =>
      have hread : read[i]? = none := by
        rw [List.getElem?_eq_none_iff] at hi ⊢
        rwa [← h.length_eq]
      simp [memberAt?, hi, hread]
  | some v =>
      obtain ⟨s, hs, hread⟩ := forall₂_getElem? h hi
      obtain ⟨ms, rfl, hc, hs'⟩ := hread
      simp [memberAt?, hi, hs, Json.member?, Step.get?_members hc hs' key]

/-- Members of accepted steps are settled. -/
theorem map_settle_memberAt? {steps : List Step} (h : ∀ s ∈ steps, Step.Reads s.toJson s) (i : Nat)
    (key : String) :
    (memberAt? (steps.map Step.toJson) i key).map Json.settle =
      memberAt? (steps.map Step.toJson) i key := by
  rw [memberAt?_map_toJson]
  cases hi : steps[i]? with
  | none => rfl
  | some s =>
      cases hkey : Table.get? s.members key with
      | none => simp [hkey]
      | some w => simp [hkey, (h s (List.mem_of_getElem? hi)).get?_settled hkey]

theorem map_settle_lastValue? {operations : List Operation}
    (h : ∀ o ∈ operations, o.value.settle = o.value) (i : Nat) (key : String) :
    (lastValue? operations i key).map Json.settle = lastValue? operations i key := by
  rw [lastValue?, Option.map_map]
  cases hlast : (operations.filter fun o => o.leaf? = some (i, key)).getLast? with
  | none => rfl
  | some o =>
      have hmem := List.mem_of_getLast? hlast
      simp [h o (List.mem_filter.mp hmem).1]

/-- What applying a read patch to an accepted plan changes. -/
theorem overwrites_of_apply {raw : Json} {p q : Plan} {patch : Patch} (hp : p.Accepted)
    (hpatch : parse raw = .ok patch) (h : patch.apply p = .ok q) :
    Overwrites patch.operations p.toJson q.toJson := by
  obtain ⟨-, steps, hsteps, hreads, hversion, hname, hbaseUrl⟩ := (apply_eq_ok_iff hp).mp h
  refine ⟨fun key => Plan.member?_toJson_congr hversion hname hbaseUrl, p.steps.map Step.toJson,
    q.steps.map Step.toJson, Plan.get?_members_steps p, Plan.get?_members_steps q, ?_, ?_⟩
  · rw [List.length_map, ← hreads.length_eq, length_overwriteAll hsteps]
  · intro i key
    rw [memberAt?_of_reads hreads, memberAt?_overwriteAll hsteps (map_toJson_objects p.steps),
      Option.map_or, map_settle_lastValue? (settle_value_of_parse hpatch),
      map_settle_memberAt? hp.reads]

/-- Operations on distinct leaves may be carried out in any order. -/
theorem apply_perm {p q : Plan} {reason : Json} {operations operations' : List Operation}
    (hp : p.Accepted) (hperm : operations.Perm operations')
    (hnodup : (operations.map Operation.leaf?).Nodup)
    (h : apply p ⟨reason, operations⟩ = .ok q) : apply p ⟨reason, operations'⟩ = .ok q := by
  obtain ⟨hcount, steps, hsteps, hreads, htop⟩ := (apply_eq_ok_iff hp).mp h
  have hobjects := map_toJson_objects p.steps
  obtain ⟨steps', hsteps'⟩ :
      ∃ steps', overwriteAll (p.steps.map Step.toJson) operations' = .ok steps' := by
    rw [overwriteAll_isOk_iff]
    intro o ho
    exact overwriteAll_isOk_iff.mp ⟨steps, hsteps⟩ o (hperm.mem_iff.mpr ho)
  have hmembers : ∀ i key, memberAt? steps i key = memberAt? steps' i key := by
    intro i key
    rw [memberAt?_overwriteAll hsteps hobjects, memberAt?_overwriteAll hsteps' hobjects,
      lastValue?_perm hperm hnodup]
  have hlength : steps.length = steps'.length := by
    rw [length_overwriteAll hsteps, length_overwriteAll hsteps']
  exact (apply_eq_ok_iff hp).mpr ⟨hperm.length_eq ▸ hcount, steps', hsteps',
    forall₂_reads_congr hlength (overwriteAll_objects hsteps' hobjects) hmembers hreads, htop⟩

/-- A patch overwrites the leaves that its operations address, the last one on a leaf deciding, and
the order of operations on distinct leaves does not matter. -/
theorem apply_overwrites {raw raw' : Json} {p : Plan} {patch : Patch}
    (hp : Plan.validate raw = .ok p) (hpatch : parse raw' = .ok patch) :
    (∀ q, patch.apply p = .ok q → Overwrites patch.operations p.toJson q.toJson) ∧
      ∀ operations, patch.operations.Perm operations →
        (patch.operations.map Operation.leaf?).Nodup →
        ∀ q, patch.apply p = .ok q ↔ { patch with operations := operations }.apply p = .ok q := by
  have haccepted := Plan.accepted_of_validate hp
  refine ⟨fun q hq => overwrites_of_apply haccepted hpatch hq, ?_⟩
  intro operations hperm hnodup q
  exact ⟨apply_perm haccepted hperm hnodup,
    apply_perm haccepted hperm.symm ((hperm.map _).nodup_iff.mp hnodup)⟩

/-- A click on a link is pointed at another link, and told how to find it. -/
theorem apply_overwrites_click :
    let page : Json := .str "https://example.com/"
    let p : Plan := ⟨.str "1", .null, page, [.goto page, .click (.str "Help") .null]⟩
    let q : Plan := ⟨.str "1", .null, page, [.goto page, .click (.str "Guide") (.str "#guide")]⟩
    let target : Operation := ⟨.str "replace", .str "/steps/1/target", .str "Guide"⟩
    let selector : Operation := ⟨.str "add", .str "/steps/01/selector", .str "#guide"⟩
    Plan.validate p.toJson = .ok p ∧ parse (toJson ⟨.str "moved", [target, selector]⟩) =
        .ok ⟨.str "moved", [target, selector]⟩ ∧
      apply p ⟨.str "moved", [target, selector]⟩ = .ok q ∧
      Overwrites [target, selector] p.toJson q.toJson ∧
      apply p ⟨.str "moved", [selector, target]⟩ = .ok q := by
  intro page p q target selector
  have hp : Plan.validate p.toJson = .ok p := rfl
  have hpatch : parse (toJson ⟨.str "moved", [target, selector]⟩) =
      .ok ⟨.str "moved", [target, selector]⟩ := rfl
  have hq : apply p ⟨.str "moved", [target, selector]⟩ = .ok q :=
    apply_eq_ok_iff_validate.mpr ⟨by decide, q.steps.map Step.toJson, rfl, rfl⟩
  have hleaves : [target, selector].map Operation.leaf? =
      [some (1, "target"), some (1, "selector")] := rfl
  have hnodup : ([target, selector].map Operation.leaf?).Nodup := by
    rw [hleaves]
    decide
  obtain ⟨hoverwrites, horder⟩ := apply_overwrites hp hpatch
  refine ⟨hp, hpatch, hq, hoverwrites q hq, ?_⟩
  exact (horder [selector, target] (.swap _ _ _) hnodup q).mp hq

end Walkthrough.Patch
