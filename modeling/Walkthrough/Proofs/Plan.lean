import Walkthrough.Proofs.Entrywise
import Walkthrough.Proofs.Grammar

/-! # Accepted plans

What the grammar accepts is read into a plan, field by field. The JSON object of the plan holds the
same members, each float with a whole value replaced by that number, and is accepted again as the
same plan. -/

namespace Walkthrough

open Schema (PathPart)

/-! ## Reading steps -/

namespace Step

/-- What a field of a step is read as: its settled value, or in place of an absent one the empty text
or no value, as the field is required or not. -/
def reading (tag : String) (members : Table Json) (key : String) : Json :=
  ((Table.get? members key).map Json.settle).getD
    (if key ∈ (shape tag).required then .str "" else .null)

/-- The members of a step's JSON object. -/
def members (s : Step) : Table Json :=
  ("type", .str s.tag) :: s.fields.filter fun field => field.2.isSet

theorem toJson_eq (s : Step) : s.toJson = .obj s.members :=
  rfl

theorem tag_mem_tags (s : Step) : s.tag ∈ tags := by
  cases s <;> simp [tag, tags]

/-- The step that an object is read as has the object's tag and what it reads for each field. -/
theorem ofMembers?_spec {tag : String} (hknown : tag ∈ tags) (ms : Table Json) :
    ∃ s, ofMembers? tag ms = some s ∧ s.tag = tag ∧
      s.fields = (fieldNames tag).map fun key => (key, reading tag ms key) := by
  simp only [tags, List.mem_cons, List.not_mem_nil, or_false] at hknown
  rcases hknown with rfl | rfl | rfl | rfl | rfl | rfl | rfl <;> exact ⟨_, rfl, rfl, rfl⟩

/-- A step is known by its tag and its fields. -/
theorem ext_fields {s t : Step} (htag : s.tag = t.tag) (hfields : s.fields = t.fields) : s = t := by
  cases s <;> cases t <;> simp_all [tag, fields]

theorem ofMembers?_congr {tag : String} {ms ms' : Table Json}
    (h : ∀ key, Table.get? ms key = Table.get? ms' key) : ofMembers? tag ms = ofMembers? tag ms' := by
  have htext : text ms = text ms' := funext fun key => by simp [text, h]
  have hoptional : optional ms = optional ms' := funext fun key => by simp [optional, h]
  simp only [ofMembers?, htext, hoptional]

/-- Conforming depends on what is under each key, and outlasts settling. -/
theorem Conforms.of_settled {tag : String} {ms ms' : Table Json} (hc : Conforms tag ms)
    (h : ∀ key, Table.get? ms' key = Table.get? ms key ∨
      Table.get? ms' key = (Table.get? ms key).map Json.settle) : Conforms tag ms' := by
  have hsome : ∀ key v, Table.get? ms' key = some v →
      ∃ w, Table.get? ms key = some w ∧ (v = w ∨ v = w.settle) := by
    intro key v hv
    rcases h key with hkey | hkey
    · exact ⟨v, hkey ▸ hv, .inl rfl⟩
    · rw [hkey, Option.map_eq_some_iff] at hv
      obtain ⟨w, hw, rfl⟩ := hv
      exact ⟨w, hw, .inr rfl⟩
  have hhas : ∀ key, Table.has ms' key = Table.has ms key := by
    intro key
    rcases h key with hkey | hkey <;> simp [Table.has_eq_isSome, hkey]
  refine ⟨hc.known, ?_, ?_, ?_, ?_, ?_⟩
  · rcases h "type" with hkey | hkey <;> simp [hkey, hc.tagged]
  · intro field hfield v hv
    obtain ⟨w, hw, rfl | rfl⟩ := hsome _ v hv
    · exact hc.admitted field hfield _ hw
    · exact (hc.admitted field hfield w hw).settle
  · intro key hkey
    have := hc.complete key hkey
    rw [← Option.isSome_iff_exists, ← Table.has_eq_isSome] at this ⊢
    rw [hhas, this]
  · intro key v hv
    obtain ⟨w, hw, -⟩ := hsome key v hv
    exact hc.exclusive key w hw
  · rw [show Table.has ms' = Table.has ms from funext hhas]
    exact hc.condition

/-- The object of a step that was read from a conforming one has the same members, settled. -/
theorem get?_members {tag : String} {ms : Table Json} {s : Step} (hc : Conforms tag ms)
    (hread : ofMembers? tag ms = some s) (key : String) :
    Table.get? s.members key = (Table.get? ms key).map Json.settle := by
  obtain ⟨s', hs', htag, hfields⟩ := ofMembers?_spec hc.known ms
  obtain rfl : s' = s := Option.some.inj (hs'.symm.trans hread)
  rw [members, htag, hfields]
  by_cases htype : key = "type"
  · subst htype
    simp [hc.tagged]
  rw [Table.get?_cons_of_ne (Ne.symm htype),
    Table.get?_filter_map (fieldNames tag) (reading tag ms) Json.isSet key]
  cases hmember : Table.get? ms key with
  | none =>
      have hrequired : key ∉ (shape tag).required := by
        intro hkey
        obtain ⟨v, hv⟩ := hc.complete key hkey
        simp [hmember] at hv
      simp [reading, hmember, hrequired, Json.isSet]
  | some v =>
      have hkey : key ∈ fieldNames tag := by
        simpa [htype] using hc.exclusive key v hmember
      obtain ⟨field, hfield, rfl⟩ := List.mem_map.mp hkey
      have hset := (hc.admitted field hfield v hmember).isSet
      simp [reading, hmember, hkey, hset]

/-- A JSON value that conforms to the grammar of steps and is read as a step. -/
def Reads (v : Json) (s : Step) : Prop :=
  ∃ ms, v = .obj ms ∧ Conforms s.tag ms ∧ ofMembers? s.tag ms = some s

theorem reads_iff_ofJson {ms : Table Json} {tag : String} (hc : Conforms tag ms) (s : Step) :
    ofJson (.obj ms) = .ok s ↔ Reads (.obj ms) s := by
  obtain ⟨t, ht, htag, -⟩ := ofMembers?_spec hc.known ms
  have hread : ofJson (.obj ms) = .ok t := by simp [ofJson, hc.tagged, ht]
  rw [hread]
  constructor
  · intro h
    obtain rfl : t = s := Except.ok.inj h
    exact ⟨ms, rfl, htag ▸ hc, htag ▸ ht⟩
  · rintro ⟨ms', hms, hc', hs⟩
    obtain rfl : ms = ms' := Json.obj.inj hms
    have hsame : s.tag = tag := by
      have h := hc'.tagged
      rw [hc.tagged] at h
      exact (Json.str.inj (Option.some.inj h)).symm
    rw [hsame, ht] at hs
    rw [Option.some.inj hs]

/-- The values that are read as steps are the objects that conform. -/
theorem exists_reads_iff {v : Json} :
    (∃ s, Reads v s) ↔ ∃ tag ms, v = .obj ms ∧ Conforms tag ms := by
  constructor
  · rintro ⟨s, ms, rfl, hc, -⟩
    exact ⟨s.tag, ms, rfl, hc⟩
  · rintro ⟨tag, ms, rfl, hc⟩
    obtain ⟨s, hs, rfl, -⟩ := ofMembers?_spec hc.known ms
    exact ⟨s, ms, rfl, hc, hs⟩

theorem Reads.get?_members {ms : Table Json} {s : Step} (h : Reads (.obj ms) s) (key : String) :
    Table.get? s.members key = (Table.get? ms key).map Json.settle := by
  obtain ⟨ms', hms, hc, hs⟩ := h
  obtain rfl : ms = ms' := Json.obj.inj hms
  exact Step.get?_members hc hs key

/-- A step is read from an object exactly when it is read from any with the same members. -/
theorem reads_congr {ms ms' : Table Json} {s : Step}
    (h : ∀ key, Table.get? ms key = Table.get? ms' key) (hread : Reads (.obj ms) s) :
    Reads (.obj ms') s := by
  obtain ⟨_, hms, hc, hs⟩ := hread
  obtain rfl := Json.obj.inj hms
  exact ⟨ms', rfl, hc.of_settled fun key => .inl (h key).symm, ofMembers?_congr h ▸ hs⟩

/-- Reading a step back from its own object gives that step. -/
theorem Reads.toJson {v : Json} {s : Step} (h : Reads v s) : Reads s.toJson s := by
  obtain ⟨ms, rfl, hc, hs⟩ := h
  have hget := Step.get?_members hc hs
  obtain ⟨t, ht, htag, hfields⟩ := ofMembers?_spec hc.known s.members
  obtain ⟨t', ht', htag', hfields'⟩ := ofMembers?_spec hc.known ms
  obtain rfl : t' = s := Option.some.inj (ht'.symm.trans hs)
  have hsame : t = t' := by
    refine ext_fields (htag.trans htag'.symm) ?_
    rw [hfields, hfields']
    apply List.map_congr_left
    intro key _
    simp [reading, hget, Option.map_map, Function.comp_def]
  exact ⟨t'.members, rfl, hc.of_settled fun key => .inr (hget key), hsame ▸ ht⟩

/-- All members of a step that was read are settled. -/
theorem Reads.get?_settled {v : Json} {s : Step} (h : Reads v s) {key : String} {w : Json}
    (hw : Table.get? s.members key = some w) : w.settle = w := by
  obtain ⟨ms, rfl, hc, hs⟩ := h
  rw [Step.get?_members hc hs, Option.map_eq_some_iff] at hw
  obtain ⟨v, -, rfl⟩ := hw
  exact Json.settle_settle v

end Step

/-! ## Accepting plans -/

namespace Plan

/-- The members of a plan's object, with its steps. -/
structure Conforms (members : Table Json) (steps : List Json) : Prop where
  version : Table.get? members "version" = some (.str "1")
  name : ∀ v, Table.get? members "name" = some v → FieldKind.text.Admits v
  baseUrl : ∀ v, Table.get? members "baseUrl" = some v → FieldKind.url.Admits v
  listed : Table.get? members "steps" = some (.arr steps)
  nonempty : steps ≠ []

/-- An object with a known tag. -/
def Tagged (v : Json) (tag : String) (members : Table Json) : Prop :=
  v = .obj members ∧ tag ∈ Step.tags ∧ Table.get? members "type" = some (.str tag)

/-- The schema of steps of which only the tag is looked at. -/
def taggedSchema : Schema :=
  .ofRules [
    .kind .object,
    .properties [("type", .ofRules [.oneOf Step.tags])],
    .required ["type"]]

theorem check_taggedSchema_eq_nil_iff {path : List PathPart} {v : Json} :
    taggedSchema.check path v = .ok [] ↔ ∃ tag ms, Tagged v tag ms := by
  simp only [taggedSchema, Schema.check_object_eq_nil_iff, List.forall_mem_singleton,
    Schema.check_one_eq_nil_iff, Schema.checkRule_oneOf_eq_nil_iff]
  constructor
  · rintro ⟨ms, rfl, htag, w, hw⟩
    obtain ⟨tag, htag, rfl⟩ := htag w hw
    exact ⟨tag, ms, rfl, htag, hw⟩
  · rintro ⟨tag, ms, rfl, htag, hw⟩
    refine ⟨ms, rfl, ?_, _, hw⟩
    intro w hw'
    rw [hw] at hw'
    exact ⟨tag, htag, (Option.some.inj hw').symm⟩

theorem check_stepsSchema_eq_nil_iff {path : List PathPart} {v : Json} :
    Schema.check path v (.ofRules [.kind .array, .minItems, .items taggedSchema]) = .ok [] ↔
      ∃ steps, v = .arr steps ∧ steps ≠ [] ∧ ∀ step ∈ steps, ∃ tag ms, Tagged step tag ms := by
  rw [Schema.check_array_eq_nil_iff fun _ _ => check_taggedSchema_eq_nil_iff]
  simp only [Schema.checkRule_minItems_eq_nil_iff, ne_eq, Json.arr.injEq]

/-- The first pass admits a plan whose top level conforms and whose steps have known tags. -/
theorem check_planSchema_eq_nil_iff {v : Json} :
    planSchema.check [] v = .ok [] ↔ ∃ members steps, v = .obj members ∧
      Conforms members steps ∧ ∀ step ∈ steps, ∃ tag ms, Tagged step tag ms := by
  have hschema : planSchema = .ofRules [
      .kind .object,
      .properties [("version", .ofRules [.constant "1"]), ("name", FieldKind.text.schema),
        ("baseUrl", FieldKind.url.schema),
        ("steps", .ofRules [.kind .array, .minItems, .items taggedSchema])],
      .required ["version", "steps"]] := rfl
  simp only [hschema, Schema.check_object_eq_nil_iff, List.forall_mem_cons, List.not_mem_nil,
    Schema.check_one_eq_nil_iff, Schema.checkRule_constant_eq_nil_iff,
    FieldKind.check_schema_eq_nil_iff, check_stepsSchema_eq_nil_iff]
  constructor
  · rintro ⟨members, rfl, ⟨hversion, hname, hbaseUrl, hsteps, -⟩, ⟨version, hv⟩, ⟨list, hl⟩, -⟩
    obtain ⟨steps, rfl, hne, heach⟩ := hsteps list hl
    rw [hversion version hv] at hv
    exact ⟨members, steps, rfl, ⟨hv, hname, hbaseUrl, hl, hne⟩, heach⟩
  · rintro ⟨members, steps, rfl, hc, heach⟩
    refine ⟨members, rfl, ⟨?_, hc.name, hc.baseUrl, ?_, by simp⟩, ⟨_, hc.version⟩,
      ⟨_, hc.listed⟩, by simp⟩
    · intro w hw
      rw [hc.version] at hw
      exact (Option.some.inj hw).symm
    · intro w hw
      rw [hc.listed] at hw
      exact ⟨steps, (Option.some.inj hw).symm, hc.nonempty, heach⟩

@[simp] theorem checkSteps_nil (start : Nat) : checkSteps start [] = .ok () := rfl

theorem checkSteps_cons_of_error {start : Nat} {v : Json} {failure : Failure}
    (h : checkStep start v = .error failure) (rest : List Json) :
    checkSteps start (v :: rest) = .error failure := by
  rw [checkSteps, h]

theorem checkSteps_cons_of_ok {start : Nat} {v : Json} (h : checkStep start v = .ok ())
    (rest : List Json) : checkSteps start (v :: rest) = checkSteps (start + 1) rest := by
  rw [checkSteps, h]

theorem checkSteps_eq_ok_iff {start : Nat} {steps : List Json}
    (htagged : ∀ step ∈ steps, ∃ tag ms, Tagged step tag ms) :
    checkSteps start steps = .ok () ↔ ∀ step ∈ steps, ∃ s, Step.Reads step s := by
  simp only [Step.exists_reads_iff]
  induction steps generalizing start with
  | nil => simp
  | cons step steps ih =>
      obtain ⟨tag, ms, rfl, hknown, htag⟩ := htagged step (by simp)
      have hstep : checkStep start (.obj ms) = .ok () ↔
          ∃ tag ms', Json.obj ms = .obj ms' ∧ Step.Conforms tag ms' := by
        rw [checkStep_eq_ok_iff hknown htag]
        constructor
        · intro hc
          exact ⟨tag, ms, rfl, hc⟩
        · rintro ⟨tag', ms', hms, hc⟩
          obtain rfl := Json.obj.inj hms
          have hsame := hc.tagged
          rw [htag] at hsame
          obtain rfl := Json.str.inj (Option.some.inj hsame)
          exact hc
      specialize @ih (start + 1) fun step hstep => htagged step (by simp [hstep])
      rw [List.forall_mem_cons, ← hstep, ← ih]
      cases h : checkStep start (.obj ms) with
      | error failure => simp [checkSteps_cons_of_error h]
      | ok _ => simp [checkSteps_cons_of_ok h]

theorem checkSteps_append {start : Nat} {before rest : List Json}
    (h : checkSteps start before = .ok ()) :
    checkSteps start (before ++ rest) = checkSteps (start + before.length) rest := by
  induction before generalizing start with
  | nil => simp
  | cons v before ih =>
      cases hv : checkStep start v with
      | error failure =>
          rw [checkSteps_cons_of_error hv] at h
          cases h
      | ok _ =>
          rw [checkSteps_cons_of_ok hv] at h
          rw [List.cons_append, checkSteps_cons_of_ok hv, ih h, List.length_cons]
          simp [Nat.add_assoc, Nat.add_comm 1]

/-- Steps are refused for the first of them that is. -/
theorem checkSteps_eq_error_iff {start : Nat} {steps : List Json} {failure : Failure} :
    checkSteps start steps = .error failure ↔ ∃ before v after, steps = before ++ v :: after ∧
      checkSteps start before = .ok () ∧
      checkStep (start + before.length) v = .error failure := by
  constructor
  · intro h
    induction steps generalizing start with
    | nil => cases h
    | cons v steps ih =>
        cases hv : checkStep start v with
        | error found =>
            obtain rfl : found = failure :=
              Except.error.inj ((checkSteps_cons_of_error hv steps).symm.trans h)
            exact ⟨[], v, steps, rfl, rfl, by simpa using hv⟩
        | ok _ =>
            rw [checkSteps_cons_of_ok hv] at h
            obtain ⟨before, w, after, rfl, hbefore, hw⟩ := ih h
            refine ⟨v :: before, w, after, rfl, (checkSteps_cons_of_ok hv before).trans hbefore, ?_⟩
            simpa [Nat.add_assoc, Nat.add_comm 1] using hw
  · rintro ⟨before, v, after, rfl, hbefore, hv⟩
    rw [checkSteps_append hbefore, checkSteps_cons_of_error hv]

theorem mapM_ofJson_eq_ok_iff {steps : List Json} {read : List Step}
    (hc : ∀ step ∈ steps, ∃ s, Step.Reads step s) :
    steps.mapM Step.ofJson = .ok read ↔ List.Forall₂ Step.Reads steps read := by
  rw [mapM_eq_ok_iff]
  induction steps generalizing read with
  | nil => simp
  | cons step steps ih =>
      obtain ⟨tag, ms, rfl, hstep⟩ := Step.exists_reads_iff.mp (hc step (by simp))
      simp only [List.forall₂_cons_left_iff, Step.reads_iff_ofJson hstep,
        ih fun step hstep => hc step (by simp [hstep])]

/-- Past the first pass a plan is accepted as soon as its steps are. -/
theorem validate_of_conforms {members : Table Json} {steps : List Json}
    (hc : Conforms members steps) (htagged : ∀ step ∈ steps, ∃ tag ms, Tagged step tag ms) :
    validate (.obj members) =
      match checkSteps 0 steps with
      | .error failure => .error failure
      | .ok () => ofJson (.obj members) := by
  have hconform : conform [] planSchema (.obj members) = .ok () :=
    conform_eq_ok_iff.mpr (check_planSchema_eq_nil_iff.mpr ⟨members, steps, rfl, hc, htagged⟩)
  cases hsteps : checkSteps 0 steps with
  | ok _ => simp only [validate, hconform, Json.member?, hc.listed, hsteps]
  | error failure => simp only [validate, hconform, Json.member?, hc.listed, hsteps]

theorem ofJson_eq_ok_iff {members : Table Json} {steps : List Json} (hc : Conforms members steps)
    {p : Plan} :
    ofJson (.obj members) = .ok p ↔ steps.mapM Step.ofJson = .ok p.steps ∧
      p.version = .str "1" ∧ p.name = (Table.get? members "name").getD .null ∧
      p.baseUrl = (Table.get? members "baseUrl").getD .null := by
  obtain ⟨version, name, baseUrl, read⟩ := p
  cases h : steps.mapM Step.ofJson with
  | error failure =>
      simp [ofJson, Json.required, Json.elements, hc.version, hc.listed, h, bind, Except.bind]
  | ok found =>
      simp only [ofJson, Json.required, Json.optional, Json.member?, Json.elements, hc.version,
        hc.listed, h, bind, Except.bind, pure, Except.pure, Except.ok.injEq, mk.injEq]
      tauto

/-- What acceptance comes to: the top level conforms, each step is read from a conforming object,
and the plan takes over its version, name and base URL as they are. -/
theorem validate_eq_ok_iff {v : Json} {p : Plan} :
    validate v = .ok p ↔ ∃ members steps, v = .obj members ∧ Conforms members steps ∧
      List.Forall₂ Step.Reads steps p.steps ∧ p.version = .str "1" ∧
      p.name = (Table.get? members "name").getD .null ∧
      p.baseUrl = (Table.get? members "baseUrl").getD .null := by
  constructor
  · intro h
    unfold validate at h
    split at h
    · cases h
    rename_i hconform
    obtain ⟨members, steps, rfl, hc, htagged⟩ :=
      check_planSchema_eq_nil_iff.mp (conform_eq_ok_iff.mp hconform)
    simp only [Json.member?, hc.listed] at h
    split at h
    · cases h
    rename_i hsteps
    have hsteps := (checkSteps_eq_ok_iff htagged).mp hsteps
    have hp := (ofJson_eq_ok_iff hc).mp h
    rw [mapM_ofJson_eq_ok_iff hsteps] at hp
    exact ⟨members, steps, rfl, hc, hp⟩
  · rintro ⟨members, steps, rfl, hc, hreads, htop⟩
    have hsteps : ∀ step ∈ steps, ∃ s, Step.Reads step s := by
      intro step hstep
      obtain ⟨s, -, hs⟩ := exists_of_mem_left hreads hstep
      exact ⟨s, hs⟩
    have htagged : ∀ step ∈ steps, ∃ tag ms, Tagged step tag ms := by
      intro step hstep
      obtain ⟨tag, ms, rfl, hs⟩ := Step.exists_reads_iff.mp (hsteps step hstep)
      exact ⟨tag, ms, rfl, hs.known, hs.tagged⟩
    rw [validate_of_conforms hc htagged]
    simp only [(checkSteps_eq_ok_iff htagged).mpr hsteps]
    exact (ofJson_eq_ok_iff hc).mpr ⟨(mapM_ofJson_eq_ok_iff hsteps).mpr hreads, htop⟩

/-- The members of a plan's JSON object. -/
def members (p : Plan) : Table Json :=
  [("version", p.version)] ++ (if p.name.isSet then [("name", p.name)] else []) ++
    (if p.baseUrl.isSet then [("baseUrl", p.baseUrl)] else []) ++
    [("steps", .arr (p.steps.map Step.toJson))]

theorem toJson_eq (p : Plan) : p.toJson = .obj p.members :=
  rfl

/-- A plan that the grammar accepts in the form of its own JSON object. -/
def Accepted (p : Plan) : Prop :=
  validate p.toJson = .ok p

theorem get?_members_version (p : Plan) : Table.get? p.members "version" = some p.version := by
  simp [members]

theorem get?_members_name (p : Plan) :
    Table.get? p.members "name" = if p.name.isSet then some p.name else none := by
  by_cases hn : p.name.isSet <;> by_cases hb : p.baseUrl.isSet <;>
    simp [members, hn, hb, Table.get?_cons]

theorem get?_members_baseUrl (p : Plan) :
    Table.get? p.members "baseUrl" = if p.baseUrl.isSet then some p.baseUrl else none := by
  by_cases hn : p.name.isSet <;> by_cases hb : p.baseUrl.isSet <;>
    simp [members, hn, hb, Table.get?_cons]

theorem get?_members_steps (p : Plan) :
    Table.get? p.members "steps" = some (.arr (p.steps.map Step.toJson)) := by
  by_cases hn : p.name.isSet <;> by_cases hb : p.baseUrl.isSet <;>
    simp [members, hn, hb, Table.get?_cons]

/-- A plan that was accepted in any form is accepted in its own. -/
theorem accepted_of_validate {v : Json} {p : Plan} (h : validate v = .ok p) : p.Accepted := by
  obtain ⟨ms, steps, rfl, hc, hreads, hversion, hname, hbaseUrl⟩ := validate_eq_ok_iff.mp h
  have hoptional : ∀ key w, (∀ v, Table.get? ms key = some v → v.isSet) →
      w = (Table.get? ms key).getD .null →
      (if w.isSet then some w else none) = Table.get? ms key := by
    rintro key w hset rfl
    cases hkey : Table.get? ms key with
    | none => rfl
    | some v => simp [hset v hkey]
  have hname' := hoptional "name" p.name (fun v hv => (hc.name v hv).isSet) hname
  have hbaseUrl' := hoptional "baseUrl" p.baseUrl (fun v hv => (hc.baseUrl v hv).isSet) hbaseUrl
  rw [← get?_members_name] at hname'
  rw [← get?_members_baseUrl] at hbaseUrl'
  refine validate_eq_ok_iff.mpr ⟨p.members, p.steps.map Step.toJson, rfl, ?_, ?_, hversion, ?_, ?_⟩
  · refine ⟨?_, ?_, ?_, get?_members_steps p, ?_⟩
    · rw [get?_members_version, hversion]
    · rw [hname']
      exact hc.name
    · rw [hbaseUrl']
      exact hc.baseUrl
    · intro hnil
      have hlength := hreads.length_eq
      rw [List.map_eq_nil_iff] at hnil
      rw [hnil] at hlength
      exact hc.nonempty (List.length_eq_zero_iff.mp hlength)
  · rw [List.forall₂_map_left_iff, List.forall₂_same]
    intro s hs
    obtain ⟨v, -, hv⟩ := exists_of_mem_right hreads hs
    exact hv.toJson
  · rw [hname', hname]
  · rw [hbaseUrl', hbaseUrl]

theorem Accepted.nonempty {p : Plan} (hp : p.Accepted) : p.steps ≠ [] := by
  obtain ⟨ms, old, hms, hc, -⟩ := validate_eq_ok_iff.mp hp
  obtain rfl : p.members = ms := Json.obj.inj hms
  have hlisted := hc.listed
  rw [get?_members_steps] at hlisted
  obtain rfl := Json.arr.inj (Option.some.inj hlisted)
  simpa using hc.nonempty

/-- Each step of an accepted plan reads back from its own object. -/
theorem Accepted.reads {p : Plan} (hp : p.Accepted) : ∀ s ∈ p.steps, Step.Reads s.toJson s := by
  obtain ⟨ms, old, hms, hc, hreads, -⟩ := validate_eq_ok_iff.mp hp
  obtain rfl : p.members = ms := Json.obj.inj hms
  have hlisted := hc.listed
  rw [get?_members_steps] at hlisted
  obtain rfl := Json.arr.inj (Option.some.inj hlisted)
  rwa [List.forall₂_map_left_iff, List.forall₂_same] at hreads

/-- A plan is accepted if and only if its version is known, its name and base URL are not set or are of
their kinds, and it has steps that all read back from their own objects. -/
theorem accepted_iff {p : Plan} :
    p.Accepted ↔ p.version = .str "1" ∧ (p.name.isSet → FieldKind.text.Admits p.name) ∧
      (p.baseUrl.isSet → FieldKind.url.Admits p.baseUrl) ∧ p.steps ≠ [] ∧
      ∀ s ∈ p.steps, Step.Reads s.toJson s := by
  have hunset : ∀ v : Json, v.isSet = false → v = .null := by
    intro v hv
    cases v <;> simp_all [Json.isSet]
  constructor
  · intro hp
    obtain ⟨ms, old, hms, hc, -, hversion, -⟩ := validate_eq_ok_iff.mp hp
    obtain rfl : p.members = ms := Json.obj.inj hms
    refine ⟨hversion, fun hset => hc.name _ ?_, fun hset => hc.baseUrl _ ?_, hp.nonempty, hp.reads⟩
    · rw [get?_members_name, if_pos hset]
    · rw [get?_members_baseUrl, if_pos hset]
  · rintro ⟨hversion, hname, hbaseUrl, hsteps, hreads⟩
    have hread : ∀ v : Json, v = (if v.isSet then some v else none).getD .null := by
      intro v
      cases hset : v.isSet
      · simpa using hunset v hset
      · simp
    refine validate_eq_ok_iff.mpr ⟨p.members, p.steps.map Step.toJson, rfl,
      ⟨?_, fun v hv => ?_, fun v hv => ?_, get?_members_steps p, by simpa using hsteps⟩, ?_, hversion,
      ?_, ?_⟩
    · rw [get?_members_version, hversion]
    · rw [get?_members_name, Option.ite_none_right_eq_some] at hv
      exact Option.some.inj hv.2 ▸ hname hv.1
    · rw [get?_members_baseUrl, Option.ite_none_right_eq_some] at hv
      exact Option.some.inj hv.2 ▸ hbaseUrl hv.1
    · rwa [List.forall₂_map_left_iff, List.forall₂_same]
    · rw [get?_members_name]
      exact hread _
    · rw [get?_members_baseUrl]
      exact hread _

/-- Plans that differ in their steps alone have the same other members. -/
theorem member?_toJson_congr {p q : Plan} (hversion : q.version = p.version)
    (hname : q.name = p.name) (hbaseUrl : q.baseUrl = p.baseUrl) {key : String}
    (hkey : key ≠ "steps") : q.toJson.member? key = p.toJson.member? key := by
  simp only [toJson_eq, Json.member?, members, hversion, hname, hbaseUrl]
  by_cases hn : p.name.isSet <;> by_cases hb : p.baseUrl.isSet <;>
    simp [hn, hb, Table.get?_cons, Ne.symm hkey]

end Plan
end Walkthrough
