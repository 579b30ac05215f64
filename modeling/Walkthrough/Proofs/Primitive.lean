import Walkthrough.Primitive

/-! # Compiled steps

Compiled steps are numbered in order, and every step of a plan becomes one or more of them. -/

namespace Walkthrough

namespace Action

theorem ofStep_ne_nil {step : Step} {actions : List Action} (h : ofStep step = .ok actions) :
    actions ≠ [] := by
  rintro rfl
  cases step with
  | goto | expect | login | waitFor | extractTextList => cases h
  | click | fill =>
      simp only [ofStep] at h
      split at h <;> cases h

/-- What a step comes to is of its kind, but for a login, which goes to no page. -/
theorem kind_of_ofStep {step : Step} {actions : List Action} (h : ofStep step = .ok actions)
    {action : Action} (hmem : action ∈ actions) :
    action.kind = step.tag ∨ step.tag = "login" ∧ action.kind ≠ "goto" := by
  cases step with
  | goto | expect | waitFor | extractTextList =>
      obtain rfl := Except.ok.inj h
      exact .inl (congrArg kind (List.mem_singleton.mp hmem))
  | click | fill =>
      simp only [ofStep] at h
      split at h
      · cases h
      · obtain rfl := Except.ok.inj h
        exact .inl (congrArg kind (List.mem_singleton.mp hmem))
  | login username password =>
      obtain rfl := Except.ok.inj h
      refine .inr ⟨rfl, ?_⟩
      revert action
      simp [login]

theorem ofTagged_map {f : Step → Step} {g : Action → Action} (htag : ∀ s, (f s).tag = s.tag)
    (hstep : ∀ s, ofStep (f s) = (ofStep s).map (List.map g)) (tag : String) (step : Step) :
    ofTagged tag (f step) = (ofTagged tag step).map (List.map g) := by
  rw [ofTagged, ofTagged, htag]
  split
  · exact hstep step
  · split <;> rfl

theorem ofTagged_ne_nil {tag : String} {step : Step} {actions : List Action}
    (h : ofTagged tag step = .ok actions) : actions ≠ [] := by
  unfold ofTagged at h
  split at h
  · exact ofStep_ne_nil h
  · split at h <;> cases h

end Action

namespace Primitive

@[simp] theorem number_nil (start source : Nat) : number start source [] = [] := rfl

@[simp] theorem number_cons (start source : Nat) (action : Action) (rest : List Action) :
    number start source (action :: rest) =
      ⟨action, start, source⟩ :: number (start + 1) source rest :=
  rfl

@[simp] theorem length_number (start source : Nat) (actions : List Action) :
    (number start source actions).length = actions.length := by
  induction actions generalizing start with
  | nil => rfl
  | cons action rest ih => simp [ih]

theorem map_index_number (start source : Nat) (actions : List Action) :
    (number start source actions).map index = List.range' start actions.length := by
  induction actions generalizing start with
  | nil => rfl
  | cons action rest ih => simp [ih, List.range'_succ]

section

variable {source start : Nat} {tag : String} {step : Step} {tagged : List (String × Step)}

theorem ofTagged_cons_of_error {failure : Failure} (h : Action.ofTagged tag step = .error failure) :
    ofTagged source start ((tag, step) :: tagged) = .error failure := by
  rw [ofTagged, h]

theorem ofTagged_cons_of_ok {actions : List Action} (h : Action.ofTagged tag step = .ok actions) :
    ofTagged source start ((tag, step) :: tagged) =
      (ofTagged (source + 1) (start + actions.length) tagged).map
        (number start source actions ++ ·) := by
  cases hrest : ofTagged (source + 1) (start + actions.length) tagged <;>
    simp [ofTagged, h, hrest, Except.map]

theorem ofTagged_cons_eq_ok_iff {primitives : List Primitive} :
    ofTagged source start ((tag, step) :: tagged) = .ok primitives ↔
      ∃ actions rest, Action.ofTagged tag step = .ok actions ∧
        ofTagged (source + 1) (start + actions.length) tagged = .ok rest ∧
        primitives = number start source actions ++ rest := by
  cases hactions : Action.ofTagged tag step with
  | error failure => simp [ofTagged_cons_of_error hactions]
  | ok actions =>
      rw [ofTagged_cons_of_ok hactions]
      cases hrest : ofTagged (source + 1) (start + actions.length) tagged with
      | error failure => simp [hrest, Except.map]
      | ok rest => simp [hrest, Except.map, eq_comm]

end

theorem toAction_mem_of_mem_number {start source : Nat} {actions : List Action} {p : Primitive}
    (h : p ∈ number start source actions) : p.toAction ∈ actions := by
  induction actions generalizing start with
  | nil => cases h
  | cons action rest ih =>
      rcases List.mem_cons.mp h with rfl | hmem
      · exact List.mem_cons_self
      · exact List.mem_cons_of_mem action (ih hmem)

theorem exists_mem_number {start source : Nat} {actions : List Action} {action : Action}
    (h : action ∈ actions) : ∃ p ∈ number start source actions, p.toAction = action := by
  induction actions generalizing start with
  | nil => cases h
  | cons first rest ih =>
      rcases List.mem_cons.mp h with rfl | hmem
      · exact ⟨_, List.mem_cons_self, rfl⟩
      · obtain ⟨p, hp, heq⟩ : ∃ p ∈ number (start + 1) source rest, p.toAction = action := ih hmem
        exact ⟨p, List.mem_cons_of_mem _ hp, heq⟩

/-- What a step that was compiled comes to, some of the compiled steps do. -/
theorem exists_mem_of_ofTagged {source start : Nat} {tagged : List (String × Step)}
    {primitives : List Primitive} (h : ofTagged source start tagged = .ok primitives)
    {entry : String × Step} (hentry : entry ∈ tagged) :
    ∃ actions, Action.ofTagged entry.1 entry.2 = .ok actions ∧
      ∀ action ∈ actions, ∃ p ∈ primitives, p.toAction = action := by
  induction tagged generalizing source start primitives with
  | nil => cases hentry
  | cons first tagged ih =>
      obtain ⟨actions, rest, hactions, hrest, rfl⟩ := ofTagged_cons_eq_ok_iff.mp h
      rcases List.mem_cons.mp hentry with rfl | hmem
      · refine ⟨actions, hactions, fun action haction => ?_⟩
        obtain ⟨p, hp, heq⟩ : ∃ p ∈ number start source actions, p.toAction = action :=
          exists_mem_number haction
        exact ⟨p, List.mem_append_left rest hp, heq⟩
      · obtain ⟨found, hfound, hall⟩ := ih hrest hmem
        refine ⟨found, hfound, fun action haction => ?_⟩
        obtain ⟨p, hp, heq⟩ := hall action haction
        exact ⟨p, List.mem_append_right _ hp, heq⟩

/-- Steps that follow others are compiled as they would be in any case, and numbered on. -/
theorem ofTagged_append {source start : Nat} {tagged more : List (String × Step)}
    {primitives : List Primitive} (h : ofTagged source start tagged = .ok primitives) :
    ofTagged source start (tagged ++ more) =
      (ofTagged (source + tagged.length) (start + primitives.length) more).map (primitives ++ ·) := by
  induction tagged generalizing source start primitives with
  | nil =>
      cases h
      cases hmore : ofTagged source start more <;> simp [hmore, Except.map]
  | cons entry tagged ih =>
      obtain ⟨actions, rest, hactions, hrest, rfl⟩ := ofTagged_cons_eq_ok_iff.mp h
      have hsource : source + 1 + tagged.length = source + (entry :: tagged).length := by
        rw [List.length_cons]
        omega
      have hstart : start + actions.length + rest.length =
          start + (number start source actions ++ rest).length := by
        rw [List.length_append, length_number]
        omega
      rw [List.cons_append, ofTagged_cons_of_ok hactions, ih hrest, hsource, hstart]
      cases ofTagged (source + (entry :: tagged).length)
        (start + (number start source actions ++ rest).length) more <;> simp [Except.map]

theorem source_of_mem_number {start source : Nat} {actions : List Action} {p : Primitive}
    (h : p ∈ number start source actions) : p.source = source := by
  induction actions generalizing start with
  | nil => cases h
  | cons action rest ih =>
      rcases List.mem_cons.mp h with rfl | hmem
      · rfl
      · exact ih hmem

/-- A compiled step does what the step of its source comes to. -/
theorem exists_source_of_mem_ofTagged {source start : Nat} {tagged : List (String × Step)}
    {primitives : List Primitive} (h : ofTagged source start tagged = .ok primitives)
    {p : Primitive} (hp : p ∈ primitives) :
    ∃ n entry, p.source = source + n ∧ tagged[n]? = some entry ∧
      ∃ actions, Action.ofTagged entry.1 entry.2 = .ok actions ∧ p.toAction ∈ actions := by
  induction tagged generalizing source start primitives with
  | nil =>
      cases h
      cases hp
  | cons entry tagged ih =>
      obtain ⟨actions, rest, hactions, hrest, rfl⟩ := ofTagged_cons_eq_ok_iff.mp h
      rcases List.mem_append.mp hp with hmem | hmem
      · exact ⟨0, entry, source_of_mem_number hmem, rfl, actions, hactions,
          toAction_mem_of_mem_number hmem⟩
      · obtain ⟨n, other, hsource, hother, found⟩ := ih hrest hmem
        exact ⟨n + 1, other, by omega, hother, found⟩

/-- A compiled step with another action in its place. -/
def mapAction (g : Action → Action) (p : Primitive) : Primitive :=
  { p with toAction := g p.toAction }

theorem number_map (g : Action → Action) (start source : Nat) (actions : List Action) :
    number start source (actions.map g) = (number start source actions).map (mapAction g) := by
  induction actions generalizing start with
  | nil => rfl
  | cons action rest ih => simp [ih, mapAction]

/-- Where a change of steps comes to a change of the actions of each, it comes to this change of all
compiled steps. -/
theorem ofTagged_map {f : Step → Step} {g : Action → Action} (htag : ∀ s, (f s).tag = s.tag)
    (hstep : ∀ s, Action.ofStep (f s) = (Action.ofStep s).map (List.map g)) (source start : Nat)
    (tagged : List (String × Step)) :
    ofTagged source start (tagged.map fun entry => (entry.1, f entry.2)) =
      (ofTagged source start tagged).map (List.map (mapAction g)) := by
  induction tagged generalizing source start with
  | nil => rfl
  | cons entry tagged ih =>
      obtain ⟨tag, step⟩ := entry
      have hmap := Action.ofTagged_map htag hstep tag step
      rw [List.map_cons]
      cases hactions : Action.ofTagged tag step with
      | error failure =>
          rw [hactions] at hmap
          rw [ofTagged_cons_of_error hactions, ofTagged_cons_of_error hmap]
          rfl
      | ok actions =>
          rw [hactions] at hmap
          rw [ofTagged_cons_of_ok hactions, ofTagged_cons_of_ok hmap, List.length_map, ih]
          cases ofTagged (source + 1) (start + actions.length) tagged with
          | error failure => rfl
          | ok rest => simp [Except.map, number_map]

/-- Compiled steps count on from the start. -/
theorem map_index_ofTagged {source start : Nat} {tagged : List (String × Step)}
    {primitives : List Primitive} (h : ofTagged source start tagged = .ok primitives) :
    primitives.map index = List.range' start primitives.length := by
  induction tagged generalizing source start primitives with
  | nil =>
      cases h
      rfl
  | cons entry tagged ih =>
      obtain ⟨actions, rest, -, hrest, rfl⟩ := ofTagged_cons_eq_ok_iff.mp h
      rw [List.map_append, map_index_number, ih hrest, List.length_append, length_number,
        List.range'_append_1]

end Primitive

namespace Plan

theorem map_index_compile {p : Plan} {primitives : List Primitive}
    (h : p.compile = .ok primitives) :
    primitives.map Primitive.index = List.range primitives.length := by
  rw [List.range_eq_range']
  exact Primitive.map_index_ofTagged h

/-- A step of a compiled plan does what the plan's step of its source comes to. -/
theorem exists_source_of_mem_compile {p : Plan} {primitives : List Primitive}
    (h : p.compile = .ok primitives) {primitive : Primitive} (hmem : primitive ∈ primitives) :
    ∃ step, p.steps[primitive.source]? = some step ∧
      ∃ actions, Action.ofStep step = .ok actions ∧ primitive.toAction ∈ actions := by
  obtain ⟨n, entry, hsource, hentry, actions, hactions, haction⟩ :=
    Primitive.exists_source_of_mem_ofTagged h hmem
  rw [List.getElem?_map, Option.map_eq_some_iff] at hentry
  obtain ⟨step, hstep, rfl⟩ := hentry
  rw [Nat.zero_add] at hsource
  exact ⟨step, hsource ▸ hstep, actions, by simpa [Action.ofTagged] using hactions, haction⟩

/-- A step of a compiled plan does what one of the plan's steps comes to. -/
theorem exists_of_mem_compile {p : Plan} {primitives : List Primitive}
    (h : p.compile = .ok primitives) {primitive : Primitive} (hmem : primitive ∈ primitives) :
    ∃ step ∈ p.steps, ∃ actions, Action.ofStep step = .ok actions ∧ primitive.toAction ∈ actions := by
  obtain ⟨step, hstep, hactions⟩ := exists_source_of_mem_compile h hmem
  exact ⟨step, List.mem_of_getElem? hstep, hactions⟩

/-- A change of steps that comes to a change of the actions of each comes to it for a whole plan. -/
theorem compile_map {f : Step → Step} {g : Action → Action} (htag : ∀ s, (f s).tag = s.tag)
    (hstep : ∀ s, Action.ofStep (f s) = (Action.ofStep s).map (List.map g)) (p : Plan) :
    ({ p with steps := p.steps.map f } : Plan).compile =
      p.compile.map (List.map (Primitive.mapAction g)) := by
  rw [compile, compile, ← Primitive.ofTagged_map htag hstep]
  simp [Function.comp_def, htag]

theorem compile_ne_nil {p : Plan} {primitives : List Primitive} (hsteps : p.steps ≠ [])
    (h : p.compile = .ok primitives) : primitives ≠ [] := by
  obtain ⟨step, rest, hsteps⟩ := List.exists_cons_of_ne_nil hsteps
  rw [compile, hsteps, List.map_cons] at h
  obtain ⟨actions, more, hactions, -, rfl⟩ := Primitive.ofTagged_cons_eq_ok_iff.mp h
  intro hnil
  have hempty := congrArg List.length (List.append_eq_nil_iff.mp hnil).1
  rw [Primitive.length_number] at hempty
  exact Action.ofTagged_ne_nil hactions (List.length_eq_zero_iff.mp hempty)

end Plan
end Walkthrough
