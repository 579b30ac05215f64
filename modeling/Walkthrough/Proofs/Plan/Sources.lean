import Walkthrough.Proofs.Plan.Compile

/-! # Where compiled steps come from

A plan's steps are compiled one after the other: each becomes one primitive step, or four if it is a
login, all of them with its own index as their source. So compiling a plan in two parts gives the same
steps, but for their numbers. -/

namespace Walkthrough

variable {σ : Type}

/-! ## Carrying out by kind -/

namespace Stage

/-- How the actions of a kind are carried out, if the kind is known. -/
def handler? : String → Option (Stage σ → Table Json → Work σ (Option Extract))
  | "goto" => some fun stage payload => do goto stage payload; return none
  | "click" => some fun stage payload => do click stage payload; return none
  | "fill" => some fun stage payload => do fill stage payload; return none
  | "expect" => some fun stage payload => do expect stage payload; return none
  | "waitFor" => some fun stage payload => do waitFor stage payload; return none
  | "extractTextList" => some fun stage payload => do return some (← extract stage payload)
  | _ => none

/-- An action is carried out as its kind asks for, and one of an unknown kind is refused. -/
theorem act_eq (stage : Stage σ) (action : Action) :
    stage.act action = match (handler? action.kind : Option (Stage σ → Table Json → _)) with
      | some handle => handle stage action.payload
      | none => throw (.value (.unknownStep action.kind)) := by
  obtain ⟨kind, description, payload⟩ := action
  unfold act handler?
  dsimp only
  split
  case h_7 => simp [*]
  all_goals rfl

end Stage

namespace Step

/-- The kinds of the primitive steps that a step becomes, in their order. -/
def kinds (s : Step) : List String :=
  if s.tag = "login" then ["fill", "fill", "click", "waitFor"] else [s.tag]

theorem map_kind_of_ofStep {s : Step} {actions : List Action} (h : Action.ofStep s = .ok actions) :
    actions.map Action.kind = s.kinds := by
  cases s with
  | goto | expect | login | waitFor | extractTextList =>
      obtain rfl := Except.ok.inj h
      rfl
  | click | fill =>
      simp only [Action.ofStep] at h
      split at h
      · cases h
      · obtain rfl := Except.ok.inj h
        rfl

/-- Every kind that a step can come to is carried out. -/
theorem isSome_handler?_of_mem_kinds (s : Step) {kind : String} (h : kind ∈ s.kinds) :
    (Stage.handler? kind : Option (Stage σ → Table Json → Work σ (Option Extract))).isSome := by
  cases s with
  | goto | expect | waitFor | extractTextList | click | fill =>
      obtain rfl := List.mem_singleton.mp h
      rfl
  | login =>
      simp only [kinds, tag, if_true, List.mem_cons, List.not_mem_nil, or_false] at h
      rcases h with rfl | rfl | rfl | rfl <;> rfl

end Step

/-! ## Numbers and sources -/

namespace Primitive

/-- A primitive step that stands further on by some primitive steps and some steps of a plan. -/
def shift (steps primitives : Nat) (p : Primitive) : Primitive :=
  { p with index := p.index + primitives, source := p.source + steps }

theorem number_shift (start source : Nat) (steps primitives : Nat) (actions : List Action) :
    number (start + primitives) (source + steps) actions =
      (number start source actions).map (shift steps primitives) := by
  induction actions generalizing start with
  | nil => rfl
  | cons action rest ih =>
      have hrest := ih (start + 1)
      rw [Nat.add_right_comm] at hrest
      rw [number, number, List.map_cons, hrest]
      rfl

/-- Where compiling begins to count makes no difference but to the numbers. -/
theorem ofTagged_shift (source start : Nat) (steps primitives : Nat) (tagged : List (String × Step)) :
    ofTagged (source + steps) (start + primitives) tagged =
      (ofTagged source start tagged).map (List.map (shift steps primitives)) := by
  induction tagged generalizing source start with
  | nil => rfl
  | cons entry tagged ih =>
      obtain ⟨tag, step⟩ := entry
      rw [ofTagged, ofTagged]
      cases Action.ofTagged tag step with
      | error failure => rfl
      | ok actions =>
          have hrest := ih (source + 1) (start + actions.length)
          rw [Nat.add_right_comm source, Nat.add_right_comm start] at hrest
          simp only [hrest]
          cases ofTagged (source + 1) (start + actions.length) tagged with
          | error failure => rfl
          | ok more => simp [Except.map, number_shift]

theorem ofTagged_append_of_error {source start : Nat} {tagged : List (String × Step)}
    {failure : Failure} (h : ofTagged source start tagged = .error failure)
    (more : List (String × Step)) : ofTagged source start (tagged ++ more) = .error failure := by
  induction tagged generalizing source start with
  | nil => cases h
  | cons entry tagged ih =>
      obtain ⟨tag, step⟩ := entry
      rw [ofTagged] at h
      rw [List.cons_append, ofTagged]
      cases hactions : Action.ofTagged tag step with
      | error found =>
          rw [hactions] at h
          exact h
      | ok actions =>
          rw [hactions] at h
          dsimp only at h ⊢
          cases hrest : ofTagged (source + 1) (start + actions.length) tagged with
          | error found =>
              rw [hrest] at h
              obtain rfl : found = failure := Except.error.inj h
              rw [ih hrest]
          | ok rest =>
              rw [hrest] at h
              cases h

/-- The sources of what some steps come to lie among these steps. -/
theorem source_bounds_of_mem_ofTagged {source start : Nat} {tagged : List (String × Step)}
    {primitives : List Primitive} (h : ofTagged source start tagged = .ok primitives) {p : Primitive}
    (hp : p ∈ primitives) : source ≤ p.source ∧ p.source < source + tagged.length := by
  obtain ⟨n, entry, hsource, hentry, -⟩ := exists_source_of_mem_ofTagged h hp
  have hlt : n < tagged.length := (List.getElem?_eq_some_iff.mp hentry).1
  omega

/-- Sources never go back. -/
theorem pairwise_source_ofTagged {source start : Nat} {tagged : List (String × Step)}
    {primitives : List Primitive} (h : ofTagged source start tagged = .ok primitives) :
    (primitives.map Primitive.source).Pairwise (· ≤ ·) := by
  rw [List.pairwise_map]
  induction tagged generalizing source start primitives with
  | nil =>
      cases h
      exact .nil
  | cons entry tagged ih =>
      obtain ⟨actions, rest, -, hrest, rfl⟩ := ofTagged_cons_eq_ok_iff.mp h
      refine List.pairwise_append.mpr ⟨List.pairwise_of_forall_mem_list ?_, ih hrest, ?_⟩
      · intro p hp q hq
        rw [source_of_mem_number hp, source_of_mem_number hq]
      · intro p hp q hq
        have hbounds := source_bounds_of_mem_ofTagged hrest hq
        rw [source_of_mem_number hp]
        omega

/-- What comes from one of some steps is what this step comes to. -/
theorem filter_source_ofTagged {source start : Nat} {tagged : List (String × Step)}
    {primitives : List Primitive} (h : ofTagged source start tagged = .ok primitives) {n : Nat}
    {entry : String × Step} (hentry : tagged[n]? = some entry) :
    ∃ actions first, Action.ofTagged entry.1 entry.2 = .ok actions ∧
      primitives.filter (·.source = source + n) = number first (source + n) actions := by
  induction tagged generalizing source start primitives n with
  | nil => cases hentry
  | cons other tagged ih =>
      obtain ⟨actions, rest, hactions, hrest, rfl⟩ := ofTagged_cons_eq_ok_iff.mp h
      cases n with
      | zero =>
          obtain rfl : other = entry := by simpa using hentry
          have hown : (number start source actions).filter (·.source = source) =
              number start source actions :=
            List.filter_eq_self.mpr fun p hp => by simpa using source_of_mem_number hp
          have hothers : rest.filter (·.source = source) = [] :=
            List.filter_eq_nil_iff.mpr fun p hp => by
              have hbounds := source_bounds_of_mem_ofTagged hrest hp
              simp only [decide_eq_true_eq]
              omega
          refine ⟨actions, start, hactions, ?_⟩
          rw [Nat.add_zero, List.filter_append, hown, hothers, List.append_nil]
      | succ n =>
          obtain ⟨found, first, hfound, hfilter⟩ := ih hrest (by simpa using hentry)
          have hothers : (number start source actions).filter (·.source = source + (n + 1)) = [] :=
            List.filter_eq_nil_iff.mpr fun p hp => by
              have hsource := source_of_mem_number hp
              simp only [decide_eq_true_eq]
              omega
          rw [show source + 1 + n = source + (n + 1) by omega] at hfilter
          exact ⟨found, first, hfound, by rw [List.filter_append, hothers, hfilter, List.nil_append]⟩

theorem map_kind_number (start source : Nat) (actions : List Action) :
    (number start source actions).map (fun p => p.kind) = actions.map Action.kind := by
  induction actions generalizing start with
  | nil => rfl
  | cons action rest ih => rw [number, List.map_cons, List.map_cons, ih]

end Primitive

/-! ## Compiled plans -/

namespace Plan

/-- The same plan with other steps. -/
def withSteps (p : Plan) (steps : List Step) : Plan :=
  { p with steps := steps }

/-- Steps in two parts are compiled as each part is, the second one numbered on. -/
theorem compile_append (p : Plan) (before after : List Step) :
    (p.withSteps (before ++ after)).compile = (do
      let first ← (p.withSteps before).compile
      let second ← (p.withSteps after).compile
      return first ++ second.map (Primitive.shift before.length first.length)) := by
  simp only [compile, withSteps, List.map_append]
  cases hfirst : Primitive.ofTagged 0 0 (before.map fun step => (step.tag, step)) with
  | error failure => exact Primitive.ofTagged_append_of_error hfirst _
  | ok first =>
      rw [Primitive.ofTagged_append hfirst, List.length_map, Primitive.ofTagged_shift]
      cases Primitive.ofTagged 0 0 (after.map fun step => (step.tag, step)) <;> rfl

/-- Steps that are compiled as they are accepted are numbered on from zero, and name the steps of the plan
that they come from in order, each once, or four times if it is a login. All of them are of kinds that
are carried out, and steps in two parts are compiled as each part is, the second one numbered on. -/
theorem compile_structure (σ : Type) {v : Json} {p : Plan} (h : validate v = .ok p) :
    ∃ primitives, p.compile = .ok primitives ∧
      primitives.map Primitive.index = List.range primitives.length ∧
      (primitives.map Primitive.source).Pairwise (· ≤ ·) ∧
      (∀ q ∈ primitives, q.source < p.steps.length) ∧
      (∀ i s, p.steps[i]? = some s →
        (primitives.filter (·.source = i)).map (fun q => q.kind) = s.kinds) ∧
      (∀ q ∈ primitives, ∃ handle, Stage.handler? q.kind = some handle ∧
        ∀ stage : Stage σ, stage.act q.toAction = handle stage q.payload) ∧
      ∀ before after : List Step, (p.withSteps (before ++ after)).compile = (do
        let first ← (p.withSteps before).compile
        let second ← (p.withSteps after).compile
        return first ++ second.map (Primitive.shift before.length first.length)) := by
  obtain ⟨primitives, hcompile⟩ := (accepted_of_validate h).exists_ofTagged 0 0
  refine ⟨primitives, hcompile, map_index_compile hcompile,
    Primitive.pairwise_source_ofTagged hcompile, fun q hq => ?_, fun i s hs => ?_, fun q hq => ?_,
    p.compile_append⟩
  · simpa using (Primitive.source_bounds_of_mem_ofTagged hcompile hq).2
  · have hentry : (p.steps.map fun step => (step.tag, step))[i]? = some (s.tag, s) := by simp [hs]
    obtain ⟨actions, first, hactions, hfilter⟩ := Primitive.filter_source_ofTagged hcompile hentry
    rw [Nat.zero_add] at hfilter
    rw [hfilter, Primitive.map_kind_number]
    exact Step.map_kind_of_ofStep (by simpa [Action.ofTagged] using hactions)
  · obtain ⟨step, -, actions, hactions, haction⟩ := exists_of_mem_compile hcompile hq
    have hkind : q.kind ∈ step.kinds :=
      Step.map_kind_of_ofStep hactions ▸ List.mem_map_of_mem (f := Action.kind) haction
    obtain ⟨handle, hhandle⟩ := Option.isSome_iff_exists.mp (step.isSome_handler?_of_mem_kinds hkind)
    exact ⟨handle, hhandle, fun stage => by rw [stage.act_eq, hhandle]⟩

/-- A login between two other steps. -/
theorem compile_structure_login :
    let p : Plan := ⟨.str "1", .null, .null, [.goto (.str "https://example.com/"),
      .login (.str "ada") (.str "pw"), .click (.str "Help") .null]⟩
    validate p.toJson = .ok p ∧ ∃ primitives, p.compile = .ok primitives ∧
      primitives.map Primitive.source = [0, 1, 1, 1, 1, 2] ∧
      (primitives.filter (·.source = 1)).map (fun q => q.kind) =
        ["fill", "fill", "click", "waitFor"] := by
  intro p
  have hp : validate p.toJson = .ok p := by rfl
  obtain ⟨primitives, hcompile, -, -, -, hkinds, -⟩ := compile_structure Unit hp
  have hsources : primitives.map Primitive.source = [0, 1, 1, 1, 1, 2] := by
    cases hcompile
    rfl
  exact ⟨hp, primitives, hcompile, hsources, hkinds 1 _ rfl⟩

end Plan
end Walkthrough
