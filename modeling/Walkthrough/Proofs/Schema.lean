import Walkthrough.Proofs.Json
import Walkthrough.Proofs.Table
import Walkthrough.Schema.Relevance

/-! # What schemas admit

A check has three outcomes: no violation, some violations, or a fault in splitting a URL. Each rule
is read here as a condition on values, and only rules about URLs can fault. -/

namespace Walkthrough

theorem Url.isAbsolute_eq_error_iff {s : String} {fault : Url.Fault} :
    Url.isAbsolute s = .error fault ↔ Url.split s = .error fault := by
  cases h : Url.split s <;> simp [Url.isAbsolute, h, bind, Except.bind, pure, Except.pure]

namespace Schema

/-! ## Joining checks -/

/-- The violations of two checks, or the first fault. -/
def Check.join (c d : Check) : Check :=
  match c with
  | .error fault => .error fault
  | .ok found =>
    match d with
    | .error fault => .error fault
    | .ok more => .ok (found ++ more)

theorem Check.join_eq_nil_iff {c d : Check} : c.join d = .ok [] ↔ c = .ok [] ∧ d = .ok [] := by
  cases c <;> cases d <;> simp [join]

theorem Check.join_eq_error_iff {c d : Check} {fault : Url.Fault} :
    c.join d = .error fault ↔ c = .error fault ∨ (∃ found, c = .ok found) ∧ d = .error fault := by
  cases c <;> cases d <;> simp [join]

section Equations

variable (path : List PathPart) (v : Json) (ofKind : Bool)

theorem check_ofRules (rules : List Rule) :
    check path v (.ofRules rules) =
      checkRules path v ((kind? (.ofRules rules)).any (·.admits v)) rules :=
  rfl

@[simp] theorem checkRules_nil : checkRules path v ofKind [] = .ok [] :=
  rfl

theorem checkRules_cons (rule : Rule) (rest : List Rule) :
    checkRules path v ofKind (rule :: rest) =
      (checkRule path v ofKind rule).join (checkRules path v ofKind rest) :=
  rfl

@[simp] theorem checkFields_nil (members : Table Json) : checkFields path members [] = .ok [] :=
  rfl

theorem checkFields_cons (members : Table Json) (key : String) (schema : Schema)
    (rest : List (String × Schema)) :
    checkFields path members ((key, schema) :: rest) =
      Check.join (match Table.get? members key with
        | some w => check (path ++ [PathPart.key key]) w schema
        | none => .ok []) (checkFields path members rest) :=
  rfl

theorem checkEach_cons (f : Nat → Json → Check) (i : Nat) (rest : List Json) :
    checkEach f i (v :: rest) = (f i v).join (checkEach f (i + 1) rest) :=
  rfl

end Equations

/-! ## Rules as conditions -/

section Rules

variable {path : List PathPart} {v : Json} {ofKind : Bool}

attribute [local simp] checkRule

theorem checkRules_cons_eq_nil_iff {rule : Rule} {rest : List Rule} :
    checkRules path v ofKind (rule :: rest) = .ok [] ↔
      checkRule path v ofKind rule = .ok [] ∧ checkRules path v ofKind rest = .ok [] := by
  rw [checkRules_cons, Check.join_eq_nil_iff]

theorem checkFields_eq_nil_iff {members : Table Json} {fields : List (String × Schema)} :
    checkFields path members fields = .ok [] ↔
      ∀ field ∈ fields, ∀ w, Table.get? members field.1 = some w →
        check (path ++ [PathPart.key field.1]) w field.2 = .ok [] := by
  induction fields with
  | nil => simp
  | cons field fields ih =>
      obtain ⟨key, schema⟩ := field
      rw [checkFields_cons, Check.join_eq_nil_iff, ih, List.forall_mem_cons]
      cases Table.get? members key <;> simp

theorem checkEach_eq_nil_iff {f : Nat → Json → Check} {start : Nat} {items : List Json} :
    checkEach f start items = .ok [] ↔
      ∀ i item, items[i]? = some item → f (start + i) item = .ok [] := by
  induction items generalizing start with
  | nil => simp [checkEach]
  | cons item items ih =>
      rw [checkEach_cons, Check.join_eq_nil_iff, ih]
      constructor
      · rintro ⟨hfirst, hrest⟩ i x hx
        cases i with
        | zero =>
            obtain rfl : item = x := by simpa using hx
            simpa using hfirst
        | succ i =>
            have h := hrest i x (by simpa using hx)
            rwa [show start + 1 + i = start + (i + 1) by omega] at h
      · intro h
        refine ⟨by simpa using h 0 item rfl, fun i x hx => ?_⟩
        rw [show start + 1 + i = start + (i + 1) by omega]
        exact h (i + 1) x (by simpa using hx)

theorem checkRule_kind_eq_nil_iff {k : Kind} :
    checkRule path v ofKind (.kind k) = .ok [] ↔ k.admits v := by
  by_cases h : k.admits v <;> simp [h]

theorem checkRule_constant_eq_nil_iff {s : String} :
    checkRule path v ofKind (.constant s) = .ok [] ↔ v = .str s := by
  by_cases h : v.str? = some s
  · simp [Json.str?_eq_some_iff.mp h, Json.str?]
  · have hv : v ≠ .str s := fun hv => h (Json.str?_eq_some_iff.mpr hv)
    simp [h, hv]

theorem checkRule_oneOf_eq_nil_iff {options : List String} :
    checkRule path v ofKind (.oneOf options) = .ok [] ↔ ∃ s ∈ options, v = .str s := by
  cases v with
  | str s => by_cases h : s ∈ options <;> simp [Json.str?, h]
  | _ => simp [Json.str?]

theorem checkRule_minLength_eq_nil_iff :
    checkRule path v ofKind .minLength = .ok [] ↔ v ≠ .str "" := by
  cases v with
  | str s => by_cases h : s = "" <;> simp [isEmptyText, h]
  | _ => simp [isEmptyText]

theorem checkRule_absoluteUrl_eq_nil_iff :
    checkRule path v ofKind .absoluteUrl = .ok [] ↔
      ∀ s, v = .str s → Url.isAbsolute s = .ok true := by
  cases v with
  | str s =>
      cases h : Url.isAbsolute s with
      | error fault => simp [urlConforms, h]
      | ok absolute => cases absolute <;> simp [urlConforms, h]
  | _ => simp [urlConforms]

theorem checkRule_matching_eq_nil_iff {form : Form} :
    checkRule path v ofKind (.matching form) = .ok [] ↔ ∀ s, v = .str s → form.accepts s := by
  cases v with
  | str s => by_cases h : form.accepts s <;> simp [Json.str?, h]
  | _ => simp [Json.str?]

theorem checkRule_minimum_eq_nil_iff {bound : Int} :
    checkRule path v ofKind (.minimum bound) = .ok [] ↔ isBelow v bound = false := by
  cases h : isBelow v bound <;> simp [h]

theorem checkRule_maximum_eq_nil_iff {bound : Int} :
    checkRule path v ofKind (.maximum bound) = .ok [] ↔ isAbove v bound = false := by
  cases h : isAbove v bound <;> simp [h]

theorem checkRule_minItems_eq_nil_iff :
    checkRule path v ofKind .minItems = .ok [] ↔ v ≠ .arr [] := by
  cases v with
  | arr items => cases items <;> simp
  | _ => simp

theorem checkRule_maxItems_eq_nil_iff {n : Nat} :
    checkRule path v ofKind (.maxItems n) = .ok [] ↔
      ∀ items, v = .arr items → items.length ≤ n := by
  cases v with
  | arr items => by_cases h : n < items.length <;> simp [h, Nat.le_of_not_lt]
  | _ => simp

theorem checkRule_items_eq_nil_iff {each : Schema} :
    checkRule path v ofKind (.items each) = .ok [] ↔
      ∀ items, v = .arr items → ∀ (i : Nat) (item : Json), items[i]? = some item →
        check (path ++ [PathPart.index i]) item each = .ok [] := by
  cases v with
  | arr items => simp [checkEach_eq_nil_iff]
  | _ => simp

theorem checkRule_properties_eq_nil_iff {fields : List (String × Schema)} :
    checkRule path v ofKind (.properties fields) = .ok [] ↔
      ∀ members, v = .obj members → ∀ field ∈ fields, ∀ w,
        Table.get? members field.1 = some w →
        check (path ++ [PathPart.key field.1]) w field.2 = .ok [] := by
  cases v with
  | obj members => simp [checkFields_eq_nil_iff]
  | _ => simp

theorem checkRule_required_eq_nil_iff {keys : List String} :
    checkRule path v ofKind (.required keys) = .ok [] ↔
      ∀ members, v = .obj members → ∀ key ∈ keys, ∃ w, Table.get? members key = some w := by
  cases v with
  | obj members =>
      simp [List.filter_eq_nil_iff, Table.has_eq_isSome,
        ← Option.ne_none_iff_exists']
  | _ => simp

theorem checkRule_noOthers_eq_nil_iff {keys : List String} :
    checkRule path v ofKind (.noOthers keys) = .ok [] ↔
      ∀ members, v = .obj members → ∀ key w, Table.get? members key = some w → key ∈ keys := by
  cases v with
  | obj members =>
      have hothers : (∀ key ∈ Table.keys members, key ∈ keys) ↔
          ∀ key w, Table.get? members key = some w → key ∈ keys := by
        simp [Table.mem_keys_iff]
      simp [List.filter_eq_nil_iff, hothers]
  | _ => simp

theorem string_admits_iff : Kind.string.admits v ↔ ∃ s, v = .str s := by
  cases v <;> simp [Kind.admits]

theorem object_admits_iff : Kind.object.admits v ↔ ∃ members, v = .obj members := by
  cases v <;> simp [Kind.admits]

theorem array_admits_iff : Kind.array.admits v ↔ ∃ items, v = .arr items := by
  cases v <;> simp [Kind.admits]

theorem integer_admits_iff : Kind.integer.admits v ↔ ∃ n, v.settle = .int n := by
  cases v with
  | float x => cases h : x.toInt? <;> simp [Kind.admits, Json.settle_float, h]
  | _ => simp [Kind.admits, Json.settle]

end Rules

/-! ## Common schemas -/

section Schemas

variable {path : List PathPart} {v : Json}

theorem isBelow_of_settle {n : Int} (h : v.settle = .int n) (bound : Int) :
    isBelow v bound = decide (n < bound) := by
  rcases Json.settle_eq_int_iff.mp h with rfl | ⟨x, rfl, hx⟩
  · rfl
  · exact Binary64.ltInt_of_toInt? hx bound

theorem isAbove_of_settle {n : Int} (h : v.settle = .int n) (bound : Int) :
    isAbove v bound = decide (bound < n) := by
  rcases Json.settle_eq_int_iff.mp h with rfl | ⟨x, rfl, hx⟩
  · rfl
  · exact Binary64.gtInt_of_toInt? hx bound

theorem check_one_eq_nil_iff {rule : Rule} :
    check path v (.ofRules [rule]) = .ok [] ↔
      checkRule path v ((kind? (.ofRules [rule])).any (·.admits v)) rule = .ok [] := by
  rw [check_ofRules, checkRules_cons_eq_nil_iff, checkRules_nil]
  exact and_iff_left rfl

/-- The texts that pass another rule. -/
theorem check_string_eq_nil_iff {rule : Rule} :
    check path v (.ofRules [.kind .string, rule]) = .ok [] ↔
      ∃ s, v = .str s ∧ checkRule path (.str s) true rule = .ok [] := by
  simp only [check_ofRules, checkRules_cons_eq_nil_iff, checkRule_kind_eq_nil_iff, checkRules_nil,
    string_admits_iff, and_true]
  constructor
  · rintro ⟨⟨s, rfl⟩, hrule⟩
    exact ⟨s, rfl, hrule⟩
  · rintro ⟨s, rfl, hrule⟩
    exact ⟨⟨s, rfl⟩, hrule⟩

/-- The whole numbers from a bound on. -/
theorem check_integer_eq_nil_iff {low : Int} :
    check path v (.ofRules [.kind .integer, .minimum low]) = .ok [] ↔
      ∃ n, v.settle = .int n ∧ low ≤ n := by
  simp only [check_ofRules, checkRules_cons_eq_nil_iff, checkRule_kind_eq_nil_iff,
    checkRule_minimum_eq_nil_iff, checkRules_nil, integer_admits_iff, and_true]
  rw [← exists_and_right]
  refine exists_congr fun n => and_congr_right fun hn => ?_
  rw [isBelow_of_settle hn]
  simp

/-- The lists that pass another rule and hold what another schema admits. -/
theorem check_array_eq_nil_iff {rule : Rule} {each : Schema} {P : Json → Prop}
    (heach : ∀ path item, check path item each = .ok [] ↔ P item) :
    check path v (.ofRules [.kind .array, rule, .items each]) = .ok [] ↔
      ∃ items, v = .arr items ∧ checkRule path (.arr items) true rule = .ok [] ∧
        ∀ item ∈ items, P item := by
  simp only [check_ofRules, checkRules_cons_eq_nil_iff, checkRule_kind_eq_nil_iff,
    checkRule_items_eq_nil_iff, checkRules_nil, array_admits_iff, heach, and_true]
  constructor
  · rintro ⟨⟨items, rfl⟩, hrule, hitems⟩
    refine ⟨items, rfl, hrule, fun item hitem => ?_⟩
    obtain ⟨i, hi⟩ := List.mem_iff_getElem?.mp hitem
    exact hitems items rfl i item hi
  · rintro ⟨items, rfl, hrule, hitems⟩
    refine ⟨⟨items, rfl⟩, hrule, ?_⟩
    rintro items' hsame i item hitem
    obtain rfl := Json.arr.inj hsame
    exact hitems item (List.mem_of_getElem? hitem)

/-- The objects whose members are admitted where they are there, with some that have to be. -/
theorem check_object_eq_nil_iff {fields : List (String × Schema)} {keys : List String} :
    check path v (.ofRules [.kind .object, .properties fields, .required keys]) = .ok [] ↔
      ∃ members, v = .obj members ∧
        (∀ field ∈ fields, ∀ w, Table.get? members field.1 = some w →
          check (path ++ [PathPart.key field.1]) w field.2 = .ok []) ∧
        ∀ key ∈ keys, ∃ w, Table.get? members key = some w := by
  simp only [check_ofRules path v, checkRules_cons_eq_nil_iff, checkRule_kind_eq_nil_iff,
    checkRule_properties_eq_nil_iff, checkRule_required_eq_nil_iff, checkRules_nil,
    object_admits_iff, and_true]
  constructor
  · rintro ⟨⟨members, rfl⟩, hfields, hkeys⟩
    exact ⟨members, rfl, hfields members rfl, hkeys members rfl⟩
  · rintro ⟨members, rfl, hfields, hkeys⟩
    refine ⟨⟨members, rfl⟩, ?_, ?_⟩
    · rintro members' hsame
      obtain rfl := Json.obj.inj hsame
      exact hfields
    · rintro members' hsame
      obtain rfl := Json.obj.inj hsame
      exact hkeys

end Schemas

/-! ## Faults -/

mutual

/-- Whether a rule about URLs stands anywhere in a schema. -/
def usesUrls : Schema → Bool
  | .ofRules rules => rulesUseUrls rules

/-- Whether one of some rules is about URLs. -/
def rulesUseUrls : List Rule → Bool
  | [] => false
  | rule :: rest => ruleUsesUrls rule || rulesUseUrls rest

/-- Whether a rule, or a schema inside it, is about URLs. -/
def ruleUsesUrls : Rule → Bool
  | .absoluteUrl => true
  | .items each => usesUrls each
  | .properties fields => fieldsUseUrls fields
  | .anyOf options => optionsUseUrls options
  | _ => false

/-- Whether the schema of a field is about URLs. -/
def fieldsUseUrls : List (String × Schema) → Bool
  | [] => false
  | (_, schema) :: rest => usesUrls schema || fieldsUseUrls rest

/-- Whether one of some schemas is about URLs. -/
def optionsUseUrls : List Schema → Bool
  | [] => false
  | schema :: rest => usesUrls schema || optionsUseUrls rest

end

theorem Check.join_isOk {c d : Check} (hc : ∃ found, c = .ok found)
    (hd : ∃ found, d = .ok found) : ∃ found, c.join d = .ok found := by
  obtain ⟨found, rfl⟩ := hc
  obtain ⟨more, rfl⟩ := hd
  exact ⟨found ++ more, rfl⟩

theorem checkEach_isOk {f : Nat → Json → Check} (h : ∀ i item, ∃ found, f i item = .ok found)
    (start : Nat) (items : List Json) : ∃ found, checkEach f start items = .ok found := by
  induction items generalizing start with
  | nil => exact ⟨[], rfl⟩
  | cons item items ih =>
      rw [checkEach_cons]
      exact Check.join_isOk (h start item) (ih (start + 1))

mutual

/-- Only rules about URLs can fault. -/
theorem check_isOk (schema : Schema) (h : usesUrls schema = false) (path : List PathPart)
    (v : Json) : ∃ found, check path v schema = .ok found := by
  cases schema with
  | ofRules rules => exact checkRules_isOk rules (by simpa [usesUrls] using h) path v _

theorem checkRules_isOk (rules : List Rule) (h : rulesUseUrls rules = false)
    (path : List PathPart) (v : Json) (ofKind : Bool) :
    ∃ found, checkRules path v ofKind rules = .ok found := by
  cases rules with
  | nil => exact ⟨[], rfl⟩
  | cons rule rest =>
      obtain ⟨hrule, hrest⟩ : ruleUsesUrls rule = false ∧ rulesUseUrls rest = false := by
        simpa [rulesUseUrls] using h
      rw [checkRules_cons]
      exact Check.join_isOk (checkRule_isOk rule hrule path v ofKind)
        (checkRules_isOk rest hrest path v ofKind)

theorem checkRule_isOk (rule : Rule) (h : ruleUsesUrls rule = false) (path : List PathPart)
    (v : Json) (ofKind : Bool) : ∃ found, checkRule path v ofKind rule = .ok found := by
  cases rule with
  | absoluteUrl => simp [ruleUsesUrls] at h
  | minItems =>
      simp only [checkRule]
      split <;> exact ⟨_, rfl⟩
  | maxItems n =>
      simp only [checkRule]
      split <;> exact ⟨_, rfl⟩
  | items each =>
      simp only [checkRule]
      split
      · exact checkEach_isOk
          (fun i item => check_isOk each (by simpa [ruleUsesUrls] using h) _ item) 0 _
      · exact ⟨_, rfl⟩
  | properties fields =>
      simp only [checkRule]
      split
      · exact checkFields_isOk fields (by simpa [ruleUsesUrls] using h) path _
      · exact ⟨_, rfl⟩
  | required keys =>
      simp only [checkRule]
      split <;> exact ⟨_, rfl⟩
  | noOthers keys =>
      simp only [checkRule]
      split <;> exact ⟨_, rfl⟩
  | anyOf options =>
      obtain ⟨answer, hanswer⟩ :=
        checkOptions_isOk options (by simpa [ruleUsesUrls] using h) path v
      simp only [checkRule, hanswer]
      cases answer <;> exact ⟨_, rfl⟩
  | _ => exact ⟨_, rfl⟩

theorem checkFields_isOk (fields : List (String × Schema)) (h : fieldsUseUrls fields = false)
    (path : List PathPart) (members : Table Json) :
    ∃ found, checkFields path members fields = .ok found := by
  cases fields with
  | nil => exact ⟨[], rfl⟩
  | cons field rest =>
      obtain ⟨key, schema⟩ := field
      obtain ⟨hschema, hrest⟩ : usesUrls schema = false ∧ fieldsUseUrls rest = false := by
        simpa [fieldsUseUrls] using h
      rw [checkFields_cons]
      refine Check.join_isOk ?_ (checkFields_isOk rest hrest path members)
      split
      · exact check_isOk schema hschema _ _
      · exact ⟨[], rfl⟩

theorem checkOptions_isOk (options : List Schema) (h : optionsUseUrls options = false)
    (path : List PathPart) (v : Json) : ∃ answer, checkOptions path v options = .ok answer := by
  cases options with
  | nil => exact ⟨_, rfl⟩
  | cons schema rest =>
      obtain ⟨hschema, hrest⟩ : usesUrls schema = false ∧ optionsUseUrls rest = false := by
        simpa [optionsUseUrls] using h
      obtain ⟨found, hfound⟩ := check_isOk schema hschema path v
      obtain ⟨answer, hanswer⟩ := checkOptions_isOk rest hrest path v
      cases found with
      | nil => exact ⟨none, by simp [checkOptions, hfound]⟩
      | cons x xs =>
          cases answer with
          | none => exact ⟨none, by simp [checkOptions, hfound, hanswer]⟩
          | some more => exact ⟨some (x :: xs ++ more), by simp [checkOptions, hfound, hanswer]⟩

end

/-- A value passes a choice without URLs when one of the options admits it. -/
theorem checkRule_anyOf_eq_nil_iff {path : List PathPart} {v : Json} {ofKind : Bool}
    {options : List Schema} (h : optionsUseUrls options = false) :
    checkRule path v ofKind (.anyOf options) = .ok [] ↔
      ∃ option ∈ options, check path v option = .ok [] := by
  have hnone : checkRule path v ofKind (.anyOf options) = .ok [] ↔
      checkOptions path v options = .ok none := by
    obtain ⟨answer, hanswer⟩ := checkOptions_isOk options h path v
    cases answer <;> simp [checkRule, hanswer]
  rw [hnone]
  clear hnone
  induction options with
  | nil => simp [checkOptions]
  | cons schema rest ih =>
      obtain ⟨hschema, hrest⟩ : usesUrls schema = false ∧ optionsUseUrls rest = false := by
        simpa [optionsUseUrls] using h
      obtain ⟨found, hfound⟩ := check_isOk schema hschema path v
      obtain ⟨answer, hanswer⟩ := checkOptions_isOk rest hrest path v
      specialize ih hrest
      rw [hanswer] at ih
      cases found <;> cases answer <;> simp_all [checkOptions]

/-! ## The violation to report -/

theorem mostRelevant?_eq_none_iff {found : List Violation} :
    mostRelevant? found = none ↔ found = [] := by
  cases found <;> simp [mostRelevant?]

theorem firstViolation?_eq_none_iff {schema : Schema} {v : Json} :
    schema.firstViolation? v = .ok none ↔ check [] v schema = .ok [] := by
  cases h : check [] v schema <;> simp [firstViolation?, violations, h, mostRelevant?_eq_none_iff]

theorem firstViolation?_eq_error_iff {schema : Schema} {v : Json} {fault : Url.Fault} :
    schema.firstViolation? v = .error fault ↔ check [] v schema = .error fault := by
  cases h : check [] v schema <;> simp [firstViolation?, violations, h]

end Schema
end Walkthrough
