import Walkthrough.Patch
import Walkthrough.Proofs.Plan

/-! # Reading patches

A patch is read from a JSON value that follows its schema; any other value is refused. -/

namespace Walkthrough

open Schema (PathPart)

namespace Patch

/-- What an operation may write: texts, and whole numbers that are not negative. -/
def Writable (v : Json) : Prop :=
  (∃ s, v = .str s) ∨ ∃ n : Int, 0 ≤ n ∧ v.settle = .int n

/-- A JSON value that follows the schema of operations and is read as an operation. -/
def Operation.Reads (v : Json) (o : Operation) : Prop :=
  ∃ ms op path value, v = .obj ms ∧
    (Table.get? ms "op" = some (.str op) ∧ op ∈ ops) ∧
    (Table.get? ms "path" = some (.str path) ∧ (address? path).isSome) ∧
    (Table.get? ms "value" = some value ∧ Writable value) ∧
    o = ⟨.str op, .str path, value.settle⟩

/-- A JSON value that follows the schema of patches and is read as a patch. -/
def Reads (v : Json) (patch : Patch) : Prop :=
  ∃ ms reason items, v = .obj ms ∧
    (Table.get? ms "reason" = some (.str reason) ∧ reason ≠ "") ∧
    (Table.get? ms "operations" = some (.arr items) ∧ items.length ≤ operationLimit) ∧
    List.Forall₂ Operation.Reads items patch.operations ∧ patch.reason = .str reason

/-- The schema of written values. -/
def valueSchema : Schema :=
  .ofRules [.anyOf [.ofRules [.kind .string], .ofRules [.kind .integer, .minimum 0]]]

/-- The schema of operations. -/
def operationSchema : Schema :=
  .ofRules [
    .kind .object,
    .properties [
      ("op", .ofRules [.oneOf ops]),
      ("path", .ofRules [.kind .string, .matching pathForm]),
      ("value", valueSchema)],
    .required ["op", "path", "value"]]

theorem schema_eq : schema = .ofRules [
    .kind .object,
    .properties [
      ("reason", FieldKind.text.schema),
      ("operations",
        .ofRules [.kind .array, .maxItems operationLimit, .items operationSchema])],
    .required ["reason", "operations"]] :=
  rfl

theorem check_valueSchema_eq_nil_iff {path : List PathPart} {v : Json} :
    valueSchema.check path v = .ok [] ↔ Writable v := by
  rw [valueSchema, Schema.check_one_eq_nil_iff, Schema.checkRule_anyOf_eq_nil_iff rfl]
  simp only [List.mem_cons, List.not_mem_nil, or_false, exists_eq_or_imp, exists_eq_left,
    Schema.check_one_eq_nil_iff, Schema.checkRule_kind_eq_nil_iff, Schema.string_admits_iff,
    Schema.check_integer_eq_nil_iff, Writable]
  exact or_congr_right (exists_congr fun n => and_comm)

theorem check_pathSchema_eq_nil_iff {path : List PathPart} {v : Json} :
    Schema.check path v (.ofRules [.kind .string, .matching pathForm]) = .ok [] ↔
      ∃ s, v = .str s ∧ (address? s).isSome := by
  rw [Schema.check_string_eq_nil_iff]
  refine exists_congr fun s => and_congr_right fun _ => ?_
  rw [Schema.checkRule_matching_eq_nil_iff]
  constructor
  · intro h
    exact h s rfl
  · rintro h t ht
    obtain rfl := Json.str.inj ht
    exact h

theorem check_operationSchema_eq_nil_iff {path : List PathPart} {v : Json} :
    operationSchema.check path v = .ok [] ↔ ∃ o, Operation.Reads v o := by
  simp only [operationSchema, Schema.check_object_eq_nil_iff, List.forall_mem_cons,
    List.not_mem_nil, Schema.check_one_eq_nil_iff, Schema.checkRule_oneOf_eq_nil_iff,
    check_pathSchema_eq_nil_iff, check_valueSchema_eq_nil_iff]
  constructor
  · rintro ⟨ms, rfl, ⟨hop, hpath, hvalue, -⟩, ⟨op, ho⟩, ⟨p, hp⟩, ⟨value, hv⟩, -⟩
    obtain ⟨op, hmem, rfl⟩ := hop op ho
    obtain ⟨p, rfl, haddress⟩ := hpath p hp
    exact ⟨_, ms, op, p, value, rfl, ⟨ho, hmem⟩, ⟨hp, haddress⟩, ⟨hv, hvalue value hv⟩, rfl⟩
  · rintro ⟨o, ms, op, p, value, rfl, ⟨ho, hmem⟩, ⟨hp, haddress⟩, ⟨hv, hvalue⟩, -⟩
    refine ⟨ms, rfl, ?_, ⟨_, ho⟩, ⟨_, hp⟩, ⟨_, hv⟩, by simp⟩
    simp only [ho, hp, hv, Option.some.injEq, forall_eq', Json.str.injEq, exists_eq_left',
      exists_eq_right', haddress, hvalue, hmem, true_and]
    simp

theorem Operation.ofJson_eq_ok_iff {v : Json} (h : ∃ o, Operation.Reads v o) {o : Operation} :
    Operation.ofJson Json.settle v = .ok o ↔ Operation.Reads v o := by
  obtain ⟨_, ms, op, path, value, rfl, ⟨hop, hmem⟩, ⟨hpath, haddress⟩, ⟨hvalue, hwritable⟩, rfl⟩ := h
  have hread : Operation.ofJson Json.settle (.obj ms) = .ok ⟨.str op, .str path, value.settle⟩ := by
    simp [Operation.ofJson, Json.required, hop, hpath, hvalue, bind, Except.bind, pure, Except.pure]
  rw [hread]
  constructor
  · intro ho
    obtain rfl := Except.ok.inj ho
    exact ⟨ms, op, path, value, rfl, ⟨hop, hmem⟩, ⟨hpath, haddress⟩, ⟨hvalue, hwritable⟩, rfl⟩
  · rintro ⟨ms', op', path', value', hms, ⟨hop', -⟩, ⟨hpath', -⟩, ⟨hvalue', -⟩, rfl⟩
    obtain rfl := Json.obj.inj hms
    simp_all

theorem mapM_ofJson_eq_ok_iff {items : List Json} (h : ∀ v ∈ items, ∃ o, Operation.Reads v o)
    {operations : List Operation} :
    items.mapM (Operation.ofJson Json.settle) = .ok operations ↔
      List.Forall₂ Operation.Reads items operations := by
  rw [mapM_eq_ok_iff]
  induction items generalizing operations with
  | nil => simp
  | cons v items ih =>
      simp only [List.forall₂_cons_left_iff, Operation.ofJson_eq_ok_iff (h v (by simp)),
        ih fun w hw => h w (by simp [hw])]

theorem check_operationsSchema_eq_nil_iff {path : List PathPart} {v : Json} :
    Schema.check path v
        (.ofRules [.kind .array, .maxItems operationLimit, .items operationSchema]) = .ok [] ↔
      ∃ items, v = .arr items ∧ items.length ≤ operationLimit ∧
        ∀ item ∈ items, ∃ o, Operation.Reads item o := by
  rw [Schema.check_array_eq_nil_iff fun _ _ => check_operationSchema_eq_nil_iff]
  simp only [Schema.checkRule_maxItems_eq_nil_iff, Json.arr.injEq, forall_eq']

theorem check_schema_eq_nil_iff {v : Json} :
    schema.check [] v = .ok [] ↔ ∃ ms reason items, v = .obj ms ∧
      (Table.get? ms "reason" = some (.str reason) ∧ reason ≠ "") ∧
      (Table.get? ms "operations" = some (.arr items) ∧ items.length ≤ operationLimit) ∧
      ∀ item ∈ items, ∃ o, Operation.Reads item o := by
  simp only [schema_eq, Schema.check_object_eq_nil_iff, List.forall_mem_cons, List.not_mem_nil,
    FieldKind.check_schema_eq_nil_iff, check_operationsSchema_eq_nil_iff]
  constructor
  · rintro ⟨ms, rfl, ⟨hreason, hoperations, -⟩, ⟨r, hr⟩, ⟨l, hl⟩, -⟩
    obtain ⟨reason, rfl, hne⟩ := hreason r hr
    obtain ⟨items, rfl, hlength, heach⟩ := hoperations l hl
    exact ⟨ms, reason, items, rfl, ⟨hr, hne⟩, ⟨hl, hlength⟩, heach⟩
  · rintro ⟨ms, reason, items, rfl, ⟨hr, hne⟩, ⟨hl, hlength⟩, heach⟩
    refine ⟨ms, rfl, ⟨?_, ?_, by simp⟩, ⟨_, hr⟩, ⟨_, hl⟩, by simp⟩
    · intro w hw
      rw [hr] at hw
      exact ⟨reason, (Option.some.inj hw).symm, hne⟩
    · intro w hw
      rw [hl] at hw
      exact ⟨items, (Option.some.inj hw).symm, hlength, heach⟩

theorem ofJson_eq_ok_iff {ms : Table Json} {reason : String} {items : List Json} {patch : Patch}
    (hr : Table.get? ms "reason" = some (.str reason))
    (hl : Table.get? ms "operations" = some (.arr items))
    (heach : ∀ item ∈ items, ∃ o, Operation.Reads item o) :
    ofJson Json.settle (.obj ms) = .ok patch ↔
      List.Forall₂ Operation.Reads items patch.operations ∧ patch.reason = .str reason := by
  obtain ⟨patchReason, operations⟩ := patch
  rw [← mapM_ofJson_eq_ok_iff heach]
  cases h : items.mapM (Operation.ofJson Json.settle) with
  | error failure => simp [ofJson, Json.required, Json.elements, hr, hl, h, bind, Except.bind]
  | ok found =>
      simp only [ofJson, Json.required, Json.elements, hr, hl, h, bind, Except.bind, pure,
        Except.pure, Except.ok.injEq, mk.injEq]
      tauto

/-- What reading a patch comes to. -/
theorem parse_eq_ok_iff {v : Json} {patch : Patch} : parse v = .ok patch ↔ Reads v patch := by
  constructor
  · intro h
    unfold parse at h
    split at h
    · cases h
    · cases h
    · rename_i hnone
      obtain ⟨ms, reason, items, rfl, hr, hl, heach⟩ :=
        check_schema_eq_nil_iff.mp (Schema.firstViolation?_eq_none_iff.mp hnone)
      exact ⟨ms, reason, items, rfl, hr, hl, (ofJson_eq_ok_iff hr.1 hl.1 heach).mp h⟩
  · rintro ⟨ms, reason, items, rfl, hr, hl, hitems, hreason⟩
    have heach : ∀ item ∈ items, ∃ o, Operation.Reads item o := by
      intro item hitem
      obtain ⟨o, -, ho⟩ := exists_of_mem_left hitems hitem
      exact ⟨o, ho⟩
    have hnone : schema.firstViolation? (.obj ms) = .ok none :=
      Schema.firstViolation?_eq_none_iff.mpr
        (check_schema_eq_nil_iff.mpr ⟨ms, reason, items, rfl, hr, hl, heach⟩)
    rw [parse, hnone]
    exact (ofJson_eq_ok_iff hr.1 hl.1 heach).mpr ⟨hitems, hreason⟩

/-- No rule about URLs stands in the schema of patches, so a value that is not read is refused. -/
theorem parse_eq_error {v : Json} {failure : Failure} (h : parse v = .error failure) :
    ∃ fault, failure = .patchRejected fault := by
  obtain ⟨found, hfound⟩ := Schema.check_isOk schema rfl [] v
  unfold parse at h
  split at h
  · rename_i hfault
    rw [Schema.firstViolation?_eq_error_iff, hfound] at hfault
    cases hfault
  · cases h
    exact ⟨_, rfl⟩
  · rename_i hnone
    obtain ⟨ms, reason, items, rfl, hr, hl, heach⟩ :=
      check_schema_eq_nil_iff.mp (Schema.firstViolation?_eq_none_iff.mp hnone)
    obtain ⟨operations, hoperations⟩ := exists_forall₂ heach
    have hok : parse (.obj ms) = .ok ⟨.str reason, operations⟩ :=
      parse_eq_ok_iff.mpr ⟨ms, reason, items, rfl, hr, hl, hoperations, rfl⟩
    simp only [parse, hnone] at hok
    rw [hok] at h
    cases h

end Patch
end Walkthrough
