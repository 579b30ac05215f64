import Walkthrough.Plan.Grammar
import Walkthrough.Proofs.Schema

/-! # The plan grammar

The grammar of plans, read off a table of fields instead of the schemas. A plan is accepted when its
top level and each of its steps conform, and what is accepted reads back as itself. -/

namespace Walkthrough

open Schema (PathPart)

/-! ## Fields -/

/-- What a field holds: a text, an absolute URL, or a whole number from one up to a bound. -/
inductive FieldKind where
  | text
  | url
  | whole (most : Option Int)

namespace FieldKind

/-- The values of a kind. A float with a whole value is as good as that number. -/
def Admits : FieldKind → Json → Prop
  | .text, v => ∃ s, v = .str s ∧ s ≠ ""
  | .url, v => ∃ s, v = .str s ∧ s ≠ "" ∧ Url.isAbsolute s = .ok true
  | .whole most, v => ∃ n, v.settle = .int n ∧ 1 ≤ n ∧ ∀ bound ∈ most, n ≤ bound

/-- The schema of a kind. -/
def schema : FieldKind → Schema
  | .text => Plan.textSchema
  | .url => Plan.urlSchema
  | .whole (some bound) => Plan.timeoutSchema bound
  | .whole none => .ofRules [.kind .integer, .minimum 1]

theorem Admits.isSet {kind : FieldKind} {v : Json} (h : kind.Admits v) : v.isSet := by
  cases kind with
  | text => obtain ⟨s, rfl, -⟩ := h; rfl
  | url => obtain ⟨s, rfl, -⟩ := h; rfl
  | whole most =>
      obtain ⟨n, hn, -⟩ := h
      rw [← Json.isSet_settle, hn]
      rfl

theorem Admits.settle {kind : FieldKind} {v : Json} (h : kind.Admits v) :
    kind.Admits v.settle := by
  cases kind with
  | text => obtain ⟨s, rfl, hs⟩ := h; exact ⟨s, rfl, hs⟩
  | url => obtain ⟨s, rfl, hs⟩ := h; exact ⟨s, rfl, hs⟩
  | whole most =>
      obtain ⟨n, hn, hbounds⟩ := h
      exact ⟨n, by rw [Json.settle_settle, hn], hbounds⟩

theorem check_textSchema_eq_nil_iff {path : List PathPart} {v : Json} :
    text.schema.check path v = .ok [] ↔ text.Admits v := by
  rw [schema, Plan.textSchema, Schema.check_string_eq_nil_iff]
  refine exists_congr fun s => and_congr_right fun _ => ?_
  rw [Schema.checkRule_minLength_eq_nil_iff]
  simp

theorem check_urlSchema_eq_nil_iff {path : List PathPart} {v : Json} :
    url.schema.check path v = .ok [] ↔ url.Admits v := by
  simp only [schema, Plan.urlSchema, Schema.check_ofRules, Schema.checkRules_cons_eq_nil_iff,
    Schema.checkRule_kind_eq_nil_iff, Schema.checkRule_minLength_eq_nil_iff,
    Schema.checkRule_absoluteUrl_eq_nil_iff, Schema.checkRules_nil, Schema.string_admits_iff, Admits]
  constructor
  · rintro ⟨⟨s, rfl⟩, hs, hurl, -⟩
    exact ⟨s, rfl, by simpa using hs, hurl s rfl⟩
  · rintro ⟨s, rfl, hs, hurl⟩
    refine ⟨⟨s, rfl⟩, by simpa using hs, ?_, trivial⟩
    rintro t ht
    obtain rfl := Json.str.inj ht
    exact hurl

theorem check_timeoutSchema_eq_nil_iff {path : List PathPart} {v : Json} {bound : Int} :
    (whole (some bound)).schema.check path v = .ok [] ↔ (whole (some bound)).Admits v := by
  simp only [schema, Plan.timeoutSchema, Schema.check_ofRules, Schema.checkRules_cons_eq_nil_iff,
    Schema.checkRule_kind_eq_nil_iff, Schema.checkRule_minimum_eq_nil_iff,
    Schema.checkRule_maximum_eq_nil_iff, Schema.checkRules_nil, Schema.integer_admits_iff, Admits]
  rw [← exists_and_right]
  refine exists_congr fun n => and_congr_right fun hn => ?_
  rw [Schema.isBelow_of_settle hn, Schema.isAbove_of_settle hn]
  simp

/-- The schema of a kind admits exactly the values of the kind. -/
theorem check_schema_eq_nil_iff {path : List PathPart} {v : Json} (kind : FieldKind) :
    kind.schema.check path v = .ok [] ↔ kind.Admits v := by
  cases kind with
  | text => exact check_textSchema_eq_nil_iff
  | url => exact check_urlSchema_eq_nil_iff
  | whole most =>
      cases most with
      | some bound => exact check_timeoutSchema_eq_nil_iff
      | none =>
          rw [schema, Schema.check_integer_eq_nil_iff]
          simp [Admits]

/-- Checking a field faults exactly on a URL that cannot be split. -/
theorem check_schema_eq_error_iff {path : List PathPart} {v : Json} {fault : Url.Fault}
    (kind : FieldKind) :
    kind.schema.check path v = .error fault ↔
      kind = .url ∧ ∃ s, v = .str s ∧ Url.split s = .error fault := by
  cases kind with
  | url =>
      cases v with
      | str s =>
          cases h : Url.isAbsolute s with
          | error f =>
              simp [schema, Plan.urlSchema, Schema.check_ofRules, Schema.checkRules_cons,
                Schema.checkRule, Schema.urlConforms, h, Schema.Check.join,
                ← Url.isAbsolute_eq_error_iff]
          | ok absolute =>
              simp [schema, Plan.urlSchema, Schema.check_ofRules, Schema.checkRules_cons,
                Schema.checkRule, Schema.urlConforms, h, Schema.Check.join,
                ← Url.isAbsolute_eq_error_iff]
      | _ =>
          simp [schema, Plan.urlSchema, Schema.check_ofRules, Schema.checkRules_cons,
            Schema.checkRule, Schema.urlConforms, Schema.Check.join]
  | text =>
      obtain ⟨found, hfound⟩ := Schema.check_isOk Plan.textSchema rfl path v
      simp [schema, hfound]
  | whole most =>
      have hplain : Schema.usesUrls (whole most).schema = false := by cases most <;> rfl
      obtain ⟨found, hfound⟩ := Schema.check_isOk _ hplain path v
      simp [hfound]

end FieldKind

/-! ## Steps -/

namespace Step

/-- The fields of the steps with a tag, and which of them have to be there. -/
structure Shape where
  fields : List (String × FieldKind)
  required : List String

/-- The shape of the steps with a tag. -/
def shape : String → Shape
  | "goto" => ⟨[("url", .url)], ["url"]⟩
  | "click" => ⟨[("target", .text), ("selector", .text)], ["target"]⟩
  | "fill" => ⟨[("field", .text), ("value", .text), ("selector", .text)], ["field", "value"]⟩
  | "expect" =>
    ⟨[("textVisible", .text), ("urlIncludes", .text), ("elementVisible", .text),
      ("timeoutMs", .whole (some 60000))], []⟩
  | "login" => ⟨[("username", .text), ("password", .text)], ["username", "password"]⟩
  | "waitFor" =>
    ⟨[("textVisible", .text), ("selector", .text), ("timeoutMs", .whole (some 120000))], []⟩
  | "extractTextList" =>
    ⟨[("selector", .text), ("outputKey", .text), ("limit", .whole none)],
      ["selector", "outputKey"]⟩
  | _ => ⟨[], []⟩

/-- The names of the fields of the steps with a tag. -/
def fieldNames (tag : String) : List String :=
  (shape tag).fields.map (·.1)

/-- The members of a step with a tag: fields of their kinds and no others, all required ones, and
exactly one condition if the tag asks for conditions. -/
structure Conforms (tag : String) (members : Table Json) : Prop where
  known : tag ∈ tags
  tagged : Table.get? members "type" = some (.str tag)
  admitted : ∀ field ∈ (shape tag).fields, ∀ v,
    Table.get? members field.1 = some v → field.2.Admits v
  complete : ∀ key ∈ (shape tag).required, ∃ v, Table.get? members key = some v
  exclusive : ∀ key v, Table.get? members key = some v → key ∈ "type" :: fieldNames tag
  condition : Plan.conditionKeys tag = [] ∨
    ∃ key, (Plan.conditionKeys tag).filter (Table.has members) = [key]

theorem stepSchema_eq {tag : String} (h : tag ∈ tags) :
    Plan.stepSchema tag = Plan.stepSchemaOf tag
      ((shape tag).fields.map fun field => (field.1, field.2.schema)) (shape tag).required := by
  simp only [tags, List.mem_cons, List.not_mem_nil, or_false] at h
  rcases h with rfl | rfl | rfl | rfl | rfl | rfl | rfl <;> rfl

/-- A condition is a field that holds a text or a whole number. -/
theorem conditionKeys_subset {tag key : String} (h : key ∈ Plan.conditionKeys tag) :
    key ∈ fieldNames tag := by
  unfold Plan.conditionKeys at h
  split at h
  · revert key
    decide
  · revert key
    decide
  · cases h

/-- The schema of a step's tag, read off the shape of its steps. -/
theorem check_stepSchema_eq_nil_iff {path : List PathPart} {tag : String} {members : Table Json}
    (hknown : tag ∈ tags) (htagged : Table.get? members "type" = some (.str tag)) :
    (Plan.stepSchema tag).check path (.obj members) = .ok [] ↔
      (∀ field ∈ (shape tag).fields, ∀ v,
        Table.get? members field.1 = some v → field.2.Admits v) ∧
      (∀ key ∈ (shape tag).required, ∃ v, Table.get? members key = some v) ∧
      ∀ key v, Table.get? members key = some v → key ∈ "type" :: fieldNames tag := by
  have htype : ∀ path, Schema.check path (.str tag) (.ofRules [.constant tag]) = .ok [] := by
    intro path
    rw [Schema.check_ofRules, Schema.checkRules_cons_eq_nil_iff,
      Schema.checkRule_constant_eq_nil_iff]
    exact ⟨rfl, rfl⟩
  rw [stepSchema_eq hknown, Plan.stepSchemaOf, Schema.check_ofRules]
  simp only [Schema.checkRules_cons_eq_nil_iff, Schema.checkRule_kind_eq_nil_iff,
    Schema.checkRule_properties_eq_nil_iff, Schema.checkRule_required_eq_nil_iff,
    Schema.checkRule_noOthers_eq_nil_iff, Schema.checkRules_nil, List.map_map,
    Function.comp_def, Json.obj.injEq, forall_eq', List.forall_mem_cons, List.forall_mem_map,
    FieldKind.check_schema_eq_nil_iff, htagged, Option.some.injEq, htype, Kind.admits,
    exists_eq', fieldNames, and_true, true_and]

/-- Among conforming fields, those with a value are those that are there. -/
theorem any_isSet_eq_has {tag : String} {members : Table Json}
    (hadmitted : ∀ field ∈ (shape tag).fields, ∀ v,
      Table.get? members field.1 = some v → field.2.Admits v) {key : String}
    (hkey : key ∈ fieldNames tag) :
    (Table.get? members key).any Json.isSet = Table.has members key := by
  obtain ⟨field, hfield, rfl⟩ := List.mem_map.mp hkey
  rw [Table.has_eq_isSome]
  cases h : Table.get? members field.1 with
  | none => rfl
  | some v => simp [(hadmitted field hfield v h).isSet]

theorem hasOneCondition_iff {tag : String} {members : Table Json}
    (hadmitted : ∀ field ∈ (shape tag).fields, ∀ v,
      Table.get? members field.1 = some v → field.2.Admits v) :
    Plan.hasOneCondition (Plan.conditionKeys tag) members ↔ Plan.conditionKeys tag = [] ∨
      ∃ key, (Plan.conditionKeys tag).filter (Table.has members) = [key] := by
  have hfilter : (Plan.conditionKeys tag).filter
        (fun key => (Table.get? members key).any Json.isSet) =
      (Plan.conditionKeys tag).filter (Table.has members) :=
    List.filter_congr fun key hkey => any_isSet_eq_has hadmitted (conditionKeys_subset hkey)
  simp [Plan.hasOneCondition, hfilter, List.length_eq_one_iff]

end Step

namespace Plan

theorem conform_eq_ok_iff {path : List PathPart} {schema : Schema} {v : Json} :
    conform path schema v = .ok () ↔ schema.check [] v = .ok [] := by
  rw [← Schema.firstViolation?_eq_none_iff]
  cases h : schema.firstViolation? v with
  | error fault => simp [conform, h]
  | ok found => cases found <;> simp [conform, h]

theorem conform_eq_urlFault_iff {path : List PathPart} {schema : Schema} {v : Json}
    {fault : Url.Fault} :
    conform path schema v = .error (.value (.url fault)) ↔
      schema.check [] v = .error fault := by
  rw [← Schema.firstViolation?_eq_error_iff]
  cases h : schema.firstViolation? v with
  | error fault => simp [conform, h]
  | ok found => cases found <;> simp [conform, h]

/-- A value that is not accepted breaks the grammar, or holds a URL that cannot be split. -/
theorem conform_eq_error {path : List PathPart} {schema : Schema} {v : Json} {failure : Failure}
    (h : conform path schema v = .error failure) :
    (∃ place fault, failure = .grammar place fault) ∨ ∃ fault, failure = .value (.url fault) := by
  unfold conform at h
  split at h
  · cases h
    exact .inr ⟨_, rfl⟩
  · cases h
  · cases h
    exact .inl ⟨_, _, rfl⟩

@[simp] theorem stepTag_obj {members : Table Json} {tag : String}
    (h : Table.get? members "type" = some (.str tag)) : stepTag (.obj members) = tag := by
  simp [stepTag, Json.member?, h, Json.str?]

/-- A step with a known tag is accepted when its members conform. -/
theorem checkStep_eq_ok_iff {index : Nat} {tag : String} {members : Table Json}
    (hknown : tag ∈ Step.tags) (htagged : Table.get? members "type" = some (.str tag)) :
    checkStep index (.obj members) = .ok () ↔ Step.Conforms tag members := by
  have hschema := @Step.check_stepSchema_eq_nil_iff [] _ _ hknown htagged
  constructor
  · intro h
    simp only [checkStep, stepTag_obj htagged] at h
    split at h
    · cases h
    · rename_i hconform
      obtain ⟨hadmitted, hcomplete, hexclusive⟩ := hschema.mp (conform_eq_ok_iff.mp hconform)
      split at h
      · rename_i hone
        exact ⟨hknown, htagged, hadmitted, hcomplete, hexclusive,
          (Step.hasOneCondition_iff hadmitted).mp hone⟩
      · cases h
  · intro h
    have hconform : conform [.key "steps", .index index] (stepSchema tag) (.obj members) = .ok () :=
      conform_eq_ok_iff.mpr (hschema.mpr ⟨h.admitted, h.complete, h.exclusive⟩)
    simp [checkStep, stepTag_obj htagged, hconform,
      (Step.hasOneCondition_iff h.admitted).mpr h.condition]

theorem checkStep_eq_error {index : Nat} {v : Json} {failure : Failure}
    (h : checkStep index v = .error failure) :
    (∃ place fault, failure = .grammar place fault) ∨ ∃ fault, failure = .value (.url fault) := by
  unfold checkStep at h
  dsimp only at h
  split at h
  · rename_i hconform
    cases h
    exact conform_eq_error hconform
  · split at h
    · split at h
      · cases h
      · cases h
        exact .inl ⟨_, _, rfl⟩
    · cases h

/-- Checking a step faults exactly on the page it goes to. -/
theorem checkStep_eq_urlFault_iff {index : Nat} {tag : String} {members : Table Json}
    {fault : Url.Fault} (hknown : tag ∈ Step.tags)
    (htagged : Table.get? members "type" = some (.str tag)) :
    checkStep index (.obj members) = .error (.value (.url fault)) ↔
      tag = "goto" ∧ ∃ s, Table.get? members "url" = some (.str s) ∧
        Url.split s = .error fault := by
  have hcheck : checkStep index (.obj members) = .error (.value (.url fault)) ↔
      (stepSchema tag).check [] (.obj members) = .error fault := by
    rw [← @conform_eq_urlFault_iff [.key "steps", .index index]]
    simp only [checkStep, stepTag_obj htagged]
    split
    · rename_i hconform
      simp [hconform]
    · rename_i hconform
      rw [hconform]
      split <;> simp
  rw [hcheck]
  by_cases hgoto : tag = "goto"
  · subst hgoto
    have htype : ∀ path, Schema.check path (.str "goto") (.ofRules [.constant "goto"]) = .ok [] :=
      fun _ => rfl
    have hurl : ∀ path v, Schema.check path v urlSchema = .error fault ↔
        ∃ s, v = .str s ∧ Url.split s = .error fault := by
      intro path v
      simpa [FieldKind.schema] using
        @FieldKind.check_schema_eq_error_iff path v fault .url
    cases hmember : Table.get? members "url" with
    | none =>
        simp [stepSchema, stepSchemaOf, Schema.check_ofRules, Schema.checkRules_cons,
          Schema.checkRule, Schema.checkFields_cons, hmember, htagged, htype,
          Schema.Check.join_eq_error_iff]
    | some v =>
        simp [stepSchema, stepSchemaOf, Schema.check_ofRules, Schema.checkRules_cons,
          Schema.checkRule, Schema.checkFields_cons, hmember, htagged, htype,
          Schema.Check.join_eq_error_iff, hurl]
  · have hplain : Schema.usesUrls (stepSchema tag) = false := by
      simp only [Step.tags, List.mem_cons, List.not_mem_nil, or_false] at hknown
      rcases hknown with rfl | rfl | rfl | rfl | rfl | rfl | rfl <;> revert hgoto <;> decide
    obtain ⟨found, hfound⟩ := Schema.check_isOk _ hplain [] (.obj members)
    simp [hfound, hgoto]

end Plan
end Walkthrough
