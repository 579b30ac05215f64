import Walkthrough.Proofs.Plan.Document
import Walkthrough.Proofs.Primitive
import Walkthrough.Run.Step

/-! # Compiling accepted plans

The required fields of an accepted step hold values of their kinds, so an accepted plan compiles, and
its compiled steps have the values that they need. -/

namespace Walkthrough

namespace Step

/-- A required field of a step that was read holds a value of its kind. -/
theorem Reads.admits {raw : Json} {s : Step} (h : Reads raw s) (key : String) {kind : FieldKind}
    {v : Json} (hv : (key, v) ∈ s.fields) (hkind : (key, kind) ∈ (shape s.tag).fields)
    (hrequired : key ∈ (shape s.tag).required) : kind.Admits v := by
  obtain ⟨ms, hms, hc, -⟩ := h.toJson
  obtain rfl : s.members = ms := Json.obj.inj hms
  obtain ⟨w, hw⟩ := hc.complete key hrequired
  -- No key comes twice among the tag and the fields, so what is found is the field's value.
  have hfound := Table.get?_of_mem s.nodup_keys_entries
    (s.members_sublist_entries.subset (Table.mem_of_get? hw))
  have hsame := Table.get?_of_mem s.nodup_keys_entries (List.mem_cons_of_mem _ hv)
  obtain rfl : w = v := Option.some.inj (hfound.symm.trans hsame)
  exact hc.admitted (key, kind) hkind w hw

theorem Reads.exists_ofStep {raw : Json} {s : Step} (h : Reads raw s) :
    ∃ actions, Action.ofStep s = .ok actions := by
  cases s with
  | goto | expect | login | waitFor | extractTextList => exact ⟨_, rfl⟩
  | click target selector =>
      have hadmits : FieldKind.text.Admits target :=
        h.admits "target" (by simp [fields]) (by simp [shape, tag]) (by simp [shape, tag])
      obtain ⟨t, rfl, -⟩ := hadmits
      exact ⟨_, rfl⟩
  | fill field value selector =>
      have hadmits : FieldKind.text.Admits field :=
        h.admits "field" (by simp [fields]) (by simp [shape, tag]) (by simp [shape, tag])
      obtain ⟨t, rfl, -⟩ := hadmits
      exact ⟨_, rfl⟩

/-- What fields are filled with, for a step that was read, is a text. -/
theorem Reads.exists_value {raw : Json} {s : Step} (h : Reads raw s) {actions : List Action}
    (hactions : Action.ofStep s = .ok actions) {action : Action} (hmem : action ∈ actions)
    (hkind : action.kind = "fill") : ∃ t, Stage.ensureText action.payload "value" = .ok t := by
  have hvalue : ∀ v, FieldKind.text.Admits v → ∀ field selector,
      ∃ t, Stage.ensureText [("field", field), ("value", v), ("selector", selector)] "value" =
        .ok t := by
    rintro v ⟨t, rfl, ht⟩ field selector
    exact ⟨t, by simp [Stage.ensureText, Table.get?_cons, ht]⟩
  rcases Action.kind_of_ofStep hactions hmem with htag | ⟨htag, -⟩
  · rw [hkind] at htag
    cases s with
    | fill field value selector =>
        have hadmits : FieldKind.text.Admits value :=
          h.admits "value" (by simp [fields]) (by simp [shape, tag]) (by simp [shape, tag])
        simp only [Action.ofStep] at hactions
        split at hactions
        · cases hactions
        · obtain rfl := Except.ok.inj hactions
          rw [show action.payload = _ from congrArg Action.payload (List.mem_singleton.mp hmem)]
          exact hvalue value hadmits _ _
    | goto | click | expect | login | waitFor | extractTextList => simp [tag] at htag
  · cases s with
    | login username password =>
        have husername : FieldKind.text.Admits username :=
          h.admits "username" (by simp [fields]) (by simp [shape, tag]) (by simp [shape, tag])
        have hpassword : FieldKind.text.Admits password :=
          h.admits "password" (by simp [fields]) (by simp [shape, tag]) (by simp [shape, tag])
        obtain rfl := Except.ok.inj hactions
        simp only [Action.login, List.mem_cons, List.not_mem_nil, or_false] at hmem
        rcases hmem with rfl | rfl | rfl | rfl
        · exact hvalue username husername _ _
        · exact hvalue password hpassword _ _
        · simp at hkind
        · simp at hkind
    | goto | click | expect | fill | waitFor | extractTextList => simp [tag] at htag

end Step

namespace Primitive

theorem exists_ofTagged {tagged : List (String × Step)}
    (h : ∀ entry ∈ tagged, ∃ actions, Action.ofTagged entry.1 entry.2 = .ok actions)
    (source start : Nat) : ∃ primitives, ofTagged source start tagged = .ok primitives := by
  induction tagged generalizing source start with
  | nil => exact ⟨[], rfl⟩
  | cons entry tagged ih =>
      obtain ⟨actions, hactions⟩ := h entry (by simp)
      obtain ⟨rest, hrest⟩ := ih (fun other hother => h other (by simp [hother])) (source + 1)
        (start + actions.length)
      exact ⟨_, ofTagged_cons_eq_ok_iff.mpr ⟨actions, rest, hactions, hrest, rfl⟩⟩

end Primitive

namespace Plan

variable {p : Plan} {primitives : List Primitive}

theorem Accepted.exists_ofTagged (hp : p.Accepted) (source start : Nat) :
    ∃ primitives, Primitive.ofTagged source start (p.steps.map fun step => (step.tag, step)) =
      .ok primitives := by
  refine Primitive.exists_ofTagged (fun entry hentry => ?_) source start
  obtain ⟨step, hstep, rfl⟩ := List.mem_map.mp hentry
  simpa [Action.ofTagged] using (hp.reads step hstep).exists_ofStep

/-- A field of an accepted plan is filled with a text. -/
theorem Accepted.exists_value (hp : p.Accepted) (h : p.compile = .ok primitives)
    {primitive : Primitive} (hmem : primitive ∈ primitives) (hkind : primitive.kind = "fill") :
    ∃ s, Stage.ensureText primitive.payload "value" = .ok s := by
  obtain ⟨step, hstep, actions, hactions, haction⟩ := exists_of_mem_compile h hmem
  exact (hp.reads step hstep).exists_value hactions haction hkind

end Plan
end Walkthrough
