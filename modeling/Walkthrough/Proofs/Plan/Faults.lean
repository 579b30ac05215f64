import Walkthrough.Proofs.Plan

/-! # Values that no plan is read from

A value is no plan because it breaks the grammar, or because a URL in it cannot be split. The latter is
found out first where it is the base URL, and else at the first step that does not conform. -/

namespace Walkthrough

open Schema (PathPart)

/-! ## Checks that fault -/

namespace Schema

variable {path : List PathPart} {v : Json} {ofKind : Bool} {fault : Url.Fault}

/-- Among fields of which only one is about URLs, it is this one whose check faults. -/
theorem checkFields_eq_error_iff {members : Table Json} {before after : List (String × Schema)}
    {key : String} {schema : Schema} (hbefore : fieldsUseUrls before = false)
    (hafter : fieldsUseUrls after = false) :
    checkFields path members (before ++ (key, schema) :: after) = .error fault ↔
      ∃ w, Table.get? members key = some w ∧
        check (path ++ [PathPart.key key]) w schema = .error fault := by
  induction before with
  | nil =>
      obtain ⟨found, hfound⟩ := checkFields_isOk after hafter path members
      rw [List.nil_append, checkFields_cons, hfound, Check.join_eq_error_iff]
      cases Table.get? members key <;> simp
  | cons field before ih =>
      obtain ⟨name, plain⟩ := field
      obtain ⟨hplain, hbefore⟩ : usesUrls plain = false ∧ fieldsUseUrls before = false := by
        simpa [fieldsUseUrls] using hbefore
      rw [List.cons_append, checkFields_cons, Check.join_eq_error_iff, ih hbefore]
      cases Table.get? members name with
      | none => simp
      | some w =>
          obtain ⟨found, hfound⟩ := check_isOk plain hplain (path ++ [PathPart.key name]) w
          simp [hfound]

end Schema

namespace Plan

/-- A value whose base URL cannot be split, or whose first step that does not conform goes to a URL that
cannot be split. -/
inductive Unsplittable (v : Json) (fault : Url.Fault) : Prop
  | base {members : Table Json} {s : String} (object : v = .obj members)
      (base : Table.get? members "baseUrl" = some (.str s)) (fails : Url.split s = .error fault)
  | goto {members ms : Table Json} {before after : List Json} {s : String}
      (object : v = .obj members) (conforms : Conforms members (before ++ .obj ms :: after))
      (tagged : ∀ step ∈ before ++ .obj ms :: after, ∃ tag found, Tagged step tag found)
      (earlier : ∀ step ∈ before, ∃ found, Step.Reads step found)
      (kind : Table.get? ms "type" = some (.str "goto")) (url : Table.get? ms "url" = some (.str s))
      (fails : Url.split s = .error fault)


/-- The first pass faults exactly on a base URL. -/
theorem check_planSchema_eq_error_iff {v : Json} {fault : Url.Fault} :
    planSchema.check [] v = .error fault ↔ ∃ members s, v = .obj members ∧
      Table.get? members "baseUrl" = some (.str s) ∧ Url.split s = .error fault := by
  cases v with
  | obj members =>
      have hfields := @Schema.checkFields_eq_error_iff [] fault members
        [("version", .ofRules [.constant "1"]), ("name", textSchema)]
        [("steps", .ofRules [.kind .array, .minItems, .items taggedSchema])] "baseUrl" urlSchema
        rfl rfl
      have hurl : ∀ path v, Schema.check path v urlSchema = .error fault ↔
          ∃ s, v = .str s ∧ Url.split s = .error fault := by
        intro path v
        simpa [FieldKind.schema] using @FieldKind.check_schema_eq_error_iff path v fault .url
      simp only [hurl] at hfields
      have hcheck : planSchema.check [] (.obj members) = .error fault ↔
          Schema.checkFields [] members [("version", .ofRules [.constant "1"]), ("name", textSchema),
            ("baseUrl", urlSchema),
            ("steps", .ofRules [.kind .array, .minItems, .items taggedSchema])] = .error fault := by
        rw [planSchema, Schema.check_ofRules]
        simp only [Schema.checkRules_cons, Schema.checkRules_nil, Schema.Check.join_eq_error_iff]
        simp [Schema.checkRule, taggedSchema]
      rw [hcheck]
      exact hfields.trans (by simp)
  | _ => simp [planSchema, Schema.check_ofRules, Schema.checkRules_cons, Schema.checkRule,
      Schema.Check.join_eq_error_iff]

/-- Past both passes a plan is read. -/
theorem exists_ofJson {members : Table Json} {steps : List Json} (hc : Conforms members steps)
    (hsteps : ∀ step ∈ steps, ∃ s, Step.Reads step s) : ∃ p, ofJson (.obj members) = .ok p := by
  obtain ⟨read, hread⟩ := exists_forall₂ hsteps
  exact ⟨⟨.str "1", (Table.get? members "name").getD .null,
    (Table.get? members "baseUrl").getD .null, read⟩,
    (ofJson_eq_ok_iff hc).mpr ⟨(mapM_ofJson_eq_ok_iff hsteps).mpr hread, rfl, rfl, rfl⟩⟩

/-- No plan is read from a value that breaks the grammar or holds a URL that cannot be split. -/
theorem validate_eq_error {v : Json} {failure : Failure} (h : validate v = .error failure) :
    (∃ path fault, failure = .grammar path fault) ∨ ∃ fault, failure = .value (.url fault) := by
  cases hconform : conform [] planSchema v with
  | error found =>
      simp only [validate, hconform] at h
      exact Except.error.inj h ▸ conform_eq_error hconform
  | ok _ =>
      obtain ⟨members, steps, rfl, hc, htagged⟩ :=
        check_planSchema_eq_nil_iff.mp (conform_eq_ok_iff.mp hconform)
      rw [validate_of_conforms hc htagged] at h
      cases hsteps : checkSteps 0 steps with
      | error found =>
          rw [hsteps] at h
          obtain ⟨before, step, after, -, -, hstep⟩ := checkSteps_eq_error_iff.mp hsteps
          exact Except.error.inj h ▸ checkStep_eq_error hstep
      | ok _ =>
          obtain ⟨p, hp⟩ := exists_ofJson hc ((checkSteps_eq_ok_iff htagged).mp hsteps)
          rw [hsteps] at h
          cases hp.symm.trans h

/-- Of the URLs in a value, these are the ones that stop it from being looked at any further. -/
theorem validate_eq_urlFault_iff {v : Json} {fault : Url.Fault} :
    validate v = .error (.value (.url fault)) ↔ Unsplittable v fault := by
  constructor
  · intro h
    cases hconform : conform [] planSchema v with
    | error found =>
        simp only [validate, hconform] at h
        obtain rfl := Except.error.inj h
        obtain ⟨members, s, rfl, hbase, hfails⟩ :=
          check_planSchema_eq_error_iff.mp (conform_eq_urlFault_iff.mp hconform)
        exact .base rfl hbase hfails
    | ok _ =>
        obtain ⟨members, steps, rfl, hc, htagged⟩ :=
          check_planSchema_eq_nil_iff.mp (conform_eq_ok_iff.mp hconform)
        rw [validate_of_conforms hc htagged] at h
        cases hsteps : checkSteps 0 steps with
        | error found =>
            rw [hsteps] at h
            obtain rfl := Except.error.inj h
            obtain ⟨before, step, after, rfl, hbefore, hstep⟩ := checkSteps_eq_error_iff.mp hsteps
            obtain ⟨tag, ms, rfl, hknown, htag⟩ := htagged step (by simp)
            obtain ⟨rfl, s, hurl, hfails⟩ := (checkStep_eq_urlFault_iff hknown htag).mp hstep
            refine .goto rfl hc htagged ?_ htag hurl hfails
            exact (checkSteps_eq_ok_iff fun step hmem => htagged step (by simp [hmem])).mp hbefore
        | ok _ =>
            obtain ⟨p, hp⟩ := exists_ofJson hc ((checkSteps_eq_ok_iff htagged).mp hsteps)
            rw [hsteps] at h
            cases hp.symm.trans h
  · intro h
    cases h with
    | @base members s object base fails =>
        obtain rfl := object
        have hconform : conform [] planSchema (.obj members) = .error (.value (.url fault)) :=
          conform_eq_urlFault_iff.mpr (check_planSchema_eq_error_iff.mpr ⟨_, _, rfl, base, fails⟩)
        simp only [validate, hconform]
    | @goto members ms before after s object conforms tagged earlier kind url fails =>
        obtain rfl := object
        have hbefore : checkSteps 0 before = .ok () :=
          (checkSteps_eq_ok_iff fun step hmem => tagged step (by simp [hmem])).mpr earlier
        have hstep : checkStep (0 + before.length) (.obj ms) = .error (.value (.url fault)) :=
          (checkStep_eq_urlFault_iff (by decide) kind).mpr ⟨rfl, s, url, fails⟩
        rw [validate_of_conforms conforms tagged,
          checkSteps_eq_error_iff.mpr ⟨before, .obj ms, after, rfl, hbefore, hstep⟩]

end Plan
end Walkthrough
