import Walkthrough.Proofs.Patch.Intent
import Walkthrough.Proofs.Plan.Compile
import Walkthrough.Proofs.Plan.Language
import Walkthrough.Proofs.Plan.Load
import Walkthrough.Proofs.Secret.Redaction

/-! # Redacted plans

A plan with the names of its placeholders hidden is accepted as the plan was, and differs from it in
nothing but what is filled in. It is compiled as the plan is, and read back from a file that holds it. -/

namespace Walkthrough

/-! ## Values -/

namespace Secret

/-- No placeholder stands in a text. -/
def IsHidden (s : String) : Prop :=
  ∀ name, IsName name → ¬ placeholder name <:+: s.toList

theorem isHidden_redact (s : String) : IsHidden (redact s) := by
  rw [IsHidden, redact_eq, String.toList_ofList]
  exact (plain_iff _).mp (plain_redactChars _)

theorem redactChars_ne_nil {cs : List Char} (h : cs ≠ []) : redactChars cs ≠ [] := by
  cases cs using readingInduction with
  | nil => exact absurd rfl h
  | char c cs hchar _ => simp [redactChars_char hchar]
  | passing name rest hname _ =>
      rw [redactChars_placeholder hname]
      simp [hidden, placeholder_eq]

theorem redact_ne_empty {s : String} (h : s ≠ "") : redact s ≠ "" := by
  rw [redact_eq, ne_eq, ← String.toList_inj, String.toList_ofList]
  exact redactChars_ne_nil (by simpa using h)

end Secret

/-- A redacted text is a text. -/
theorem FieldKind.Admits.redact {v : Json} (h : text.Admits v) :
    text.Admits (Secret.redactValue v) := by
  obtain ⟨s, rfl, hs⟩ := h
  exact ⟨Secret.redact s, rfl, Secret.redact_ne_empty hs⟩

/-! ## Steps -/

namespace Step

/-- The fields with what is filled in, in which there may be placeholders. -/
def filledFields : List String :=
  ["value", "username", "password"]

@[simp] theorem tag_redact (s : Step) : s.redact.tag = s.tag := by
  cases s <;> rfl

/-- Redacting a step changes the fields with what is filled in, and no others. -/
theorem fields_redact (s : Step) :
    s.redact.fields = s.fields.map fun field =>
      (field.1, if field.1 ∈ filledFields then Secret.redactValue field.2 else field.2) := by
  cases s <;> rfl

theorem reads_fill_iff {field value selector : Json} :
    Reads (Step.fill field value selector).toJson (.fill field value selector) ↔
      FieldKind.text.Admits field ∧ FieldKind.text.Admits value ∧
        (selector.isSet → FieldKind.text.Admits selector) := by
  constructor
  · intro h
    refine ⟨h.admits "field" (by simp [fields]) (by simp [shape, tag]) (by simp [shape, tag]),
      h.admits "value" (by simp [fields]) (by simp [shape, tag]) (by simp [shape, tag]), fun hset => ?_⟩
    have hmem : ("selector", selector) ∈ (Step.fill field value selector).members := by
      simp [members, fields, hset]
    exact (conforms_of_reads h).admitted ("selector", .text) (by simp [shape, tag]) selector
      (Table.get?_of_mem (nodup_keys_members _) hmem)
  · rintro ⟨⟨f, rfl, hf⟩, ⟨t, rfl, ht⟩, hselector⟩
    have hshown : selector = .null ∨ ∃ s, selector = .str s ∧ s ≠ "" := by
      cases selector with
      | null => exact .inl rfl
      | _ => exact .inr (hselector rfl)
    rcases hshown with rfl | ⟨s, rfl, hs⟩
    all_goals
      refine ⟨_, rfl, (conforms_iff_form (tag_mem_tags _)).mpr ⟨rfl, ?_, ?_, ?_⟩, rfl⟩
      · simp [tag, fields, Json.isSet, Table.get?_cons, Json.IsText, hf, ht]
      · simp_all [tag, fields, Json.isSet, Table.get?_cons, Json.IsText]
      · intro key v hv
        have hmem := Table.mem_of_get? hv
        simp [tag, fields, Json.isSet] at hmem
        grind

theorem reads_login_iff {username password : Json} :
    Reads (Step.login username password).toJson (.login username password) ↔
      FieldKind.text.Admits username ∧ FieldKind.text.Admits password := by
  constructor
  · intro h
    exact ⟨h.admits "username" (by simp [fields]) (by simp [shape, tag]) (by simp [shape, tag]),
      h.admits "password" (by simp [fields]) (by simp [shape, tag]) (by simp [shape, tag])⟩
  · rintro ⟨⟨u, rfl, hu⟩, ⟨w, rfl, hw⟩⟩
    refine ⟨_, rfl, (conforms_iff_form (tag_mem_tags _)).mpr ⟨rfl, ?_, by simp, ?_⟩, rfl⟩
    · simp [tag, fields, Json.isSet, Table.get?_cons, Json.IsText, hu, hw]
    · intro key v hv
      have hmem := Table.mem_of_get? hv
      simp [tag, fields, Json.isSet] at hmem
      rcases hmem with ⟨rfl, -⟩ | ⟨rfl, -⟩ | ⟨rfl, -⟩ <;> simp

/-- A step that is accepted is accepted when it is redacted. -/
theorem Reads.redact {s : Step} (h : Reads s.toJson s) : Reads s.redact.toJson s.redact := by
  cases s with
  | fill field value selector =>
      obtain ⟨hfield, hvalue, hselector⟩ := reads_fill_iff.mp h
      exact reads_fill_iff.mpr ⟨hfield, hvalue.redact, hselector⟩
  | login username password =>
      obtain ⟨husername, hpassword⟩ := reads_login_iff.mp h
      exact reads_login_iff.mpr ⟨husername.redact, hpassword.redact⟩
  | goto | click | expect | waitFor | extractTextList => exact h

/-- What is filled in by a redacted step is a text without placeholders. -/
theorem Reads.isHidden {s : Step} (h : Reads s.toJson s) {key : String} {v : Json}
    (hmem : (key, v) ∈ s.redact.fields) (hkey : key ∈ filledFields) :
    ∃ t, v = .str t ∧ Secret.IsHidden t := by
  have hredacted : ∀ w, FieldKind.text.Admits w →
      ∃ t, Secret.redactValue w = .str t ∧ Secret.IsHidden t := by
    rintro w ⟨t, rfl, -⟩
    exact ⟨_, rfl, Secret.isHidden_redact t⟩
  cases s with
  | fill field value selector =>
      obtain ⟨-, hvalue, -⟩ := reads_fill_iff.mp h
      simp only [Step.redact, fields, List.mem_cons, Prod.mk.injEq, List.not_mem_nil, or_false] at hmem
      rcases hmem with ⟨rfl, -⟩ | ⟨rfl, rfl⟩ | ⟨rfl, -⟩
      · simp [filledFields] at hkey
      · exact hredacted value hvalue
      · simp [filledFields] at hkey
  | login username password =>
      obtain ⟨husername, hpassword⟩ := reads_login_iff.mp h
      simp only [Step.redact, fields, List.mem_cons, Prod.mk.injEq, List.not_mem_nil, or_false] at hmem
      rcases hmem with ⟨rfl, rfl⟩ | ⟨rfl, rfl⟩
      · exact hredacted username husername
      · exact hredacted password hpassword
  | goto | click | expect | waitFor | extractTextList =>
      revert key
      simp [Step.redact, fields, filledFields]

/-- A step that differs from another one in what is filled in alone, where it has no placeholders. -/
structure Redacts (s t : Step) : Prop where
  tag : t.tag = s.tag
  fields : t.fields = s.fields.map fun field =>
    (field.1, if field.1 ∈ filledFields then Secret.redactValue field.2 else field.2)
  isHidden : ∀ key ∈ filledFields, ∀ v, (key, v) ∈ t.fields → ∃ text, v = .str text ∧
    Secret.IsHidden text

theorem Reads.redacts {s : Step} (h : Reads s.toJson s) : s.Redacts s.redact :=
  ⟨s.tag_redact, s.fields_redact, fun _ hkey _ hmem => h.isHidden hmem hkey⟩

end Step

/-! ## Actions -/

namespace Action

/-- An action with the names of placeholders hidden in what it fills in. -/
def redact (action : Action) : Action :=
  if action.kind = "fill" then
    { action with payload := action.payload.map fun argument =>
      (argument.1, if argument.1 = "value" then Secret.redactValue argument.2 else argument.2) }
  else action

theorem ofStep_redact (s : Step) : ofStep s.redact = (ofStep s).map (List.map redact) := by
  cases s with
  | goto | expect | waitFor | extractTextList | login => rfl
  | click target selector =>
      simp only [Step.redact, ofStep]
      cases stripped target <;> rfl
  | fill field value selector =>
      simp only [Step.redact, ofStep]
      cases stripped field <;> rfl

end Action

/-! ## Plans -/

namespace Plan

variable {p : Plan}

theorem Accepted.redact (hp : p.Accepted) : p.redact.Accepted := by
  obtain ⟨hversion, hname, hbaseUrl, hsteps, hreads⟩ := accepted_iff.mp hp
  refine accepted_iff.mpr ⟨hversion, hname, hbaseUrl, by simpa [Plan.redact] using hsteps, ?_⟩
  intro s hs
  obtain ⟨t, ht, rfl⟩ := List.mem_map.mp hs
  exact (hreads t ht).redact

/-- A redacted plan is compiled as the plan, but for what is filled in. -/
theorem compile_redact (p : Plan) :
    p.redact.compile = p.compile.map (List.map (Primitive.mapAction Action.redact)) :=
  compile_map Step.tag_redact Action.ofStep_redact p

/-- A plan that says the same as another one, but for the names of placeholders in what is filled in. -/
structure Redacts (p q : Plan) : Prop where
  version : q.version = p.version
  name : q.name = p.name
  baseUrl : q.baseUrl = p.baseUrl
  steps : List.Forall₂ Step.Redacts p.steps q.steps
  compiles : ∃ primitives, p.compile = .ok primitives ∧
    q.compile = .ok (primitives.map (Primitive.mapAction Action.redact))

theorem Accepted.redacts (hp : p.Accepted) : p.Redacts p.redact where
  version := rfl
  name := rfl
  baseUrl := rfl
  steps := by
    rw [Plan.redact, List.forall₂_map_right_iff, List.forall₂_same]
    exact fun s hs => (hp.reads s hs).redacts
  compiles := by
    obtain ⟨primitives, hcompile⟩ := hp.exists_ofTagged 0 0
    refine ⟨primitives, hcompile, ?_⟩
    rw [compile_redact, show p.compile = .ok primitives from hcompile]
    rfl

/-- Redacting touches no number. -/
theorem Accepted.isOverlong_redact (hp : p.Accepted) :
    p.redact.toJson.isOverlong = p.toJson.isOverlong := by
  have hlimit (s : Step) : s.redact.limit = s.limit := by cases s <;> rfl
  rw [hp.redact.isOverlong_eq, hp.isOverlong_eq]
  simp [Plan.redact, List.any_map, Function.comp_def, hlimit]

/-- An accepted plan is read back from its text. -/
theorem Accepted.parse_of_document (hp : p.Accepted) {s : String} (h : p.toJson.document = .ok s) :
    parse s = .ok p := by
  rw [parse, Json.parse_document hp.plain h]
  exact hp

/-- An accepted plan is loaded from the file in which its text was written. -/
theorem Accepted.load_of_read (hp : p.Accepted) {s : String} (h : p.toJson.document = .ok s)
    {files : Files} {path : Path} (hread : files.read path = .ok (.text s)) :
    load files path = .ok p := by
  rw [load_of_text hread (Json.read_document hp.plain h)]
  exact hp.parse_of_document h

end Plan
end Walkthrough
