import Walkthrough.Proofs.Plan.Faults
import Walkthrough.Proofs.Plan.Language
import Walkthrough.Proofs.Schema.Relevance

/-! # Which step is reported

Values are looked at twice: first every step is known by its tag alone, and then one step after the other
is checked as a whole. So the first step that does not conform is reported where all steps have known
tags. Where some have not, one of those is reported, whatever is wrong with the steps before it. -/

namespace Walkthrough

open Schema (PathPart Violation)

/-! ## Violations in place -/

/-- Whether a rule is about a value itself, and not about what is inside it. -/
def Rule.isLeaf : Rule → Bool
  | .items _ | .properties _ | .anyOf _ => false
  | _ => true

namespace Schema

/-- A check whose violations stand at one place and list no options. -/
def AtPlace (place : List PathPart) (c : Check) : Prop :=
  ∀ found, c = .ok found → ∀ x ∈ found, x.path = place ∧ x.options = []

section AtPlace

variable {place : List PathPart} {breach : Breach} {ofKind : Bool}

theorem atPlace_error (fault : Url.Fault) : AtPlace place (.error fault) := by
  intro found h
  cases h

theorem atPlace_ok {found : List Violation} (h : ∀ x ∈ found, x.path = place ∧ x.options = []) :
    AtPlace place (.ok found) := by
  intro same hsame
  obtain rfl := Except.ok.inj hsame
  exact h

theorem atPlace_nil : AtPlace place (.ok []) :=
  atPlace_ok (by simp)

theorem atPlace_singleton : AtPlace place (.ok [.mk place breach ofKind []]) :=
  atPlace_ok (by simp [Violation.path, Violation.options])

theorem atPlace_if {p : Prop} [Decidable p] :
    AtPlace place (.ok (if p then [.mk place breach ofKind []] else [])) := by
  split
  · exact atPlace_singleton
  · exact atPlace_nil

theorem atPlace_unless {p : Prop} [Decidable p] :
    AtPlace place (.ok (if p then [] else [.mk place breach ofKind []])) := by
  split
  · exact atPlace_nil
  · exact atPlace_singleton

theorem AtPlace.join {c d : Check} (hc : AtPlace place c) (hd : AtPlace place d) :
    AtPlace place (c.join d) := by
  cases c with
  | error fault => exact atPlace_error fault
  | ok found =>
      cases d with
      | error fault => exact atPlace_error fault
      | ok more =>
          refine atPlace_ok fun x hx => ?_
          rcases List.mem_append.mp hx with hmem | hmem
          · exact hc found rfl x hmem
          · exact hd more rfl x hmem

/-- What rules about a value itself have against it stands at its place. -/
theorem atPlace_checkRule {rule : Rule} (h : rule.isLeaf) (v : Json) :
    AtPlace place (checkRule place v ofKind rule) := by
  cases rule with
  | items | properties | anyOf => cases h
  | kind | constant | oneOf | matching => exact atPlace_unless
  | minLength | minimum | maximum => exact atPlace_if
  | absoluteUrl =>
      simp only [checkRule]
      split
      · exact atPlace_error _
      · exact atPlace_unless
  | minItems =>
      simp only [checkRule]
      split
      · exact atPlace_singleton
      · exact atPlace_nil
  | maxItems n =>
      simp only [checkRule]
      split
      · exact atPlace_if
      · exact atPlace_nil
  | required keys =>
      simp only [checkRule]
      split
      · refine atPlace_ok fun x hx => ?_
        obtain ⟨key, -, rfl⟩ := List.mem_map.mp hx
        exact ⟨rfl, rfl⟩
      · exact atPlace_nil
  | noOthers keys =>
      simp only [checkRule]
      split
      · exact atPlace_unless
      · exact atPlace_nil

theorem atPlace_checkRules {rules : List Rule} (h : ∀ rule ∈ rules, rule.isLeaf) (v : Json) :
    AtPlace place (checkRules place v ofKind rules) := by
  induction rules with
  | nil => exact atPlace_nil
  | cons rule rest ih =>
      rw [checkRules_cons]
      exact (atPlace_checkRule (h rule List.mem_cons_self) v).join
        (ih fun other hother => h other (List.mem_cons_of_mem rule hother))

end AtPlace

end Schema

/-! ## Steps by their tags -/

namespace Step

/-- Where a value goes wrong that is no object with a known tag: at its tag, or as a whole. -/
def misfit : Json → Option (List PathPart)
  | .obj members =>
    match Table.get? members "type" with
    | some tag => if tag.str?.any tags.contains then none else some [.key "type"]
    | none => some []
  | _ => some []

end Step

namespace Plan

theorem misfit_eq_none_iff {v : Json} :
    Step.misfit v = none ↔ ∃ tag ms, Tagged v tag ms := by
  cases v with
  | obj members =>
      cases htype : Table.get? members "type" with
      | none => simp [Step.misfit, htype, Tagged]
      | some tag =>
          cases tag with
          | str s => simp [Step.misfit, htype, Tagged, Json.str?]
          | _ => simp [Step.misfit, htype, Tagged, Json.str?]
  | _ => simp [Step.misfit, Tagged]

/-- What the first pass has against a step: nothing, or one violation at its tag or as a whole. -/
theorem exists_check_taggedSchema (path : List PathPart) (v : Json) :
    ∃ found, taggedSchema.check path v = .ok found ∧
      found.map Violation.path = (Step.misfit v).toList.map (path ++ ·) ∧
      ∀ x ∈ found, x.options = [] := by
  cases v with
  | obj members =>
      cases htype : Table.get? members "type" with
      | none =>
          refine ⟨[.mk path (.missing "type") true []], ?_, ?_, ?_⟩
          · simp [taggedSchema, Schema.check_ofRules, Schema.checkRules_cons, Schema.checkRule,
              Schema.checkFields_cons, htype, Table.has_eq_isSome, Schema.kind?, Kind.admits,
              Schema.Check.join]
          · simp [Step.misfit, htype, Violation.path]
          · simp [Violation.options]
      | some tag =>
          have hcheck : taggedSchema.check path (.obj members) =
              .ok (if tag.str?.any Step.tags.contains then []
                else [.mk (path ++ [.key "type"]) (.oneOf tag Step.tags) false []]) := by
            simp [taggedSchema, Schema.check_ofRules, Schema.checkRules_cons, Schema.checkRule,
              Schema.checkFields_cons, htype, Table.has_eq_isSome, Schema.kind?, Kind.admits,
              Schema.Check.join]
          refine ⟨_, hcheck, ?_, ?_⟩
          · by_cases hknown : tag.str?.any Step.tags.contains
            · simp [Step.misfit, htype, hknown]
            · simp [Step.misfit, htype, hknown, Violation.path]
          · by_cases hknown : tag.str?.any Step.tags.contains
            · simp [hknown]
            · simp [hknown, Violation.options]
  | null | bool | int | float | str | arr =>
      exact ⟨[.mk path (.kind _ .object) false []], rfl, by simp [Step.misfit, Violation.path],
        by simp [Violation.options]⟩

/-- What the first pass has against a list of steps: what it has against each of them. -/
theorem exists_checkEach_taggedSchema (path : List PathPart) (start : Nat) (steps : List Json) :
    ∃ found, Schema.checkEach
        (fun i step => taggedSchema.check (path ++ [PathPart.index i]) step) start steps = .ok found ∧
      (∀ place, place ∈ found.map Violation.path ↔ ∃ i step rest, steps[i]? = some step ∧
        Step.misfit step = some rest ∧ place = path ++ .index (start + i) :: rest) ∧
      ∀ x ∈ found, x.options = [] := by
  induction steps generalizing start with
  | nil => exact ⟨[], rfl, by simp, by simp⟩
  | cons step steps ih =>
      obtain ⟨found, hfound, hpaths, hplain⟩ :=
        exists_check_taggedSchema (path ++ [.index start]) step
      obtain ⟨more, hmore, hplaces, hmoreplain⟩ := ih (start + 1)
      refine ⟨found ++ more, ?_, fun place => ?_, fun x hx => ?_⟩
      · rw [Schema.checkEach_cons, hfound, hmore]
        rfl
      · rw [List.map_append, List.mem_append, hpaths, hplaces]
        constructor
        · rintro (hmem | ⟨i, s, rest, hs, hmisfit, rfl⟩)
          · obtain ⟨rest, hrest, rfl⟩ := List.mem_map.mp hmem
            refine ⟨0, step, rest, rfl, Option.mem_toList.mp hrest, ?_⟩
            rw [List.append_assoc]
            rfl
          · refine ⟨i + 1, s, rest, by simpa using hs, hmisfit, ?_⟩
            rw [Nat.add_assoc, Nat.add_comm 1]
        · rintro ⟨i, s, rest, hs, hmisfit, rfl⟩
          cases i with
          | zero =>
              obtain rfl : step = s := by simpa using hs
              refine .inl (List.mem_map.mpr ⟨rest, Option.mem_toList.mpr hmisfit, ?_⟩)
              rw [List.append_assoc]
              rfl
          | succ i =>
              refine .inr ⟨i, s, rest, by simpa using hs, hmisfit, ?_⟩
              rw [Nat.add_assoc, Nat.add_comm 1]
      · rcases List.mem_append.mp hx with hmem | hmem
        · exact hplain x hmem
        · exact hmoreplain x hmem

/-! ## Misfits among steps -/

/-- A check that finds fault with parts of the listed steps where a condition says so, and that offers no
options. -/
def Finds (c : Schema.Check) (p : Nat → List PathPart → Prop) : Prop :=
  ∀ found, c = .ok found → (∀ x ∈ found, x.options = []) ∧
    ∀ i rest, .key "steps" :: .index i :: rest ∈ found.map Violation.path ↔ p i rest

section Finds

variable {c d : Schema.Check} {p q : Nat → List PathPart → Prop}

theorem Finds.join (hc : Finds c p) (hd : Finds d q) :
    Finds (c.join d) (fun i rest => p i rest ∨ q i rest) := by
  intro all hall
  cases c with
  | error fault => cases hall
  | ok found =>
      cases d with
      | error fault => cases hall
      | ok more =>
          obtain rfl : found ++ more = all := Except.ok.inj hall
          obtain ⟨hplain, hfound⟩ := hc found rfl
          obtain ⟨hmoreplain, hmore⟩ := hd more rfl
          refine ⟨fun x hx => ?_, fun i rest => ?_⟩
          · rcases List.mem_append.mp hx with hmem | hmem
            · exact hplain x hmem
            · exact hmoreplain x hmem
          · rw [List.map_append, List.mem_append, hfound, hmore]

theorem Finds.congr (h : Finds c p) (hpq : ∀ i rest, p i rest ↔ q i rest) : Finds c q := by
  intro found hfound
  obtain ⟨hplain, hplaces⟩ := h found hfound
  exact ⟨hplain, fun i rest => (hplaces i rest).trans (hpq i rest)⟩

/-- What stands in another place is no fault of a listed step. -/
theorem finds_of_atPlace {place : List PathPart} (h : Schema.AtPlace place c)
    (hplace : ∀ i rest, place ≠ .key "steps" :: .index i :: rest) : Finds c fun _ _ => False := by
  intro found hfound
  refine ⟨fun x hx => (h found hfound x hx).2, fun i rest => iff_false_intro fun hmem => ?_⟩
  obtain ⟨x, hx, hpath⟩ := List.mem_map.mp hmem
  exact hplace i rest ((h found hfound x hx).1.symm.trans hpath)

theorem finds_nil : Finds (.ok []) fun _ _ => False :=
  finds_of_atPlace (@Schema.atPlace_nil []) (by simp)

end Finds

/-- A listed step that is no object with a known tag, and where in it that shows. -/
def Misfits (listed : Option Json) (i : Nat) (rest : List PathPart) : Prop :=
  ∃ steps step, listed = some (.arr steps) ∧ steps[i]? = some step ∧ Step.misfit step = some rest

theorem finds_items (v : Json) (ofKind : Bool) :
    Finds (Schema.checkRule [.key "steps"] v ofKind (.items taggedSchema)) (Misfits (some v)) := by
  cases v with
  | arr steps =>
      intro found hfound
      obtain ⟨all, hall, hplaces, hplain⟩ := exists_checkEach_taggedSchema [.key "steps"] 0 steps
      obtain rfl : all = found := Except.ok.inj (hall.symm.trans hfound)
      refine ⟨hplain, fun i rest => ?_⟩
      rw [hplaces]
      simp [Misfits]
  | _ =>
      intro found hfound
      obtain rfl : [] = found := Except.ok.inj hfound
      simp [Misfits]

theorem finds_steps (v : Json) : Finds (Schema.check [.key "steps"] v
    (.ofRules [.kind .array, .minItems, .items taggedSchema])) (Misfits (some v)) := by
  have hself : ∀ rule : Rule, rule.isLeaf → ∀ ofKind,
      Finds (Schema.checkRule [.key "steps"] v ofKind rule) fun _ _ => False :=
    fun rule h ofKind => finds_of_atPlace (Schema.atPlace_checkRule h v) (by simp)
  rw [Schema.check_ofRules, Schema.checkRules_cons, Schema.checkRules_cons, Schema.checkRules_cons]
  exact ((hself _ rfl _).join ((hself _ rfl _).join ((finds_items v _).join finds_nil))).congr
    (by simp)

/-- A field of a plan that only itself can be at fault is no listed step. -/
theorem finds_field (members : Table Json) (key : String) (rules : List Rule) (hkey : key ≠ "steps")
    (h : ∀ rule ∈ rules, rule.isLeaf) :
    Finds (match Table.get? members key with
      | some v => Schema.check ([] ++ [.key key]) v (.ofRules rules)
      | none => .ok []) fun _ _ => False := by
  have hplace : ∀ i rest, [] ++ [PathPart.key key] ≠ .key "steps" :: .index i :: rest := by
    intro i rest hsame
    cases hsame
  cases Table.get? members key with
  | none => exact finds_nil
  | some v => exact finds_of_atPlace (Schema.atPlace_checkRules h v) hplace

/-- The first pass finds fault with the listed steps that do not fit. -/
theorem finds_planSchema (v : Json) :
    Finds (planSchema.check [] v) (Misfits (v.member? "steps")) := by
  have hself : ∀ rule : Rule, rule.isLeaf → ∀ ofKind,
      Finds (Schema.checkRule [] v ofKind rule) fun _ _ => False :=
    fun rule h ofKind => finds_of_atPlace (Schema.atPlace_checkRule h _) (by simp)
  cases v with
  | obj members =>
      have hsteps : Finds (match Table.get? members "steps" with
          | some v => Schema.check ([] ++ [.key "steps"]) v
              (.ofRules [.kind .array, .minItems, .items taggedSchema])
          | none => .ok []) (Misfits (Table.get? members "steps")) := by
        cases Table.get? members "steps" with
        | none => exact finds_nil.congr (by simp [Misfits])
        | some v => exact finds_steps v
      have hversion := finds_field members "version" [.constant "1"] (by simp) (by simp [Rule.isLeaf])
      have hname := finds_field members "name" [.kind .string, .minLength] (by simp)
        (by simp [Rule.isLeaf])
      have hbaseUrl := finds_field members "baseUrl" [.kind .string, .minLength, .absoluteUrl]
        (by simp) (by simp [Rule.isLeaf])
      have hfields := hversion.join (hname.join (hbaseUrl.join (hsteps.join finds_nil)))
      have hall := (hself (.kind .object) rfl true).join
        (hfields.join ((hself (.required ["version", "steps"]) rfl true).join finds_nil))
      exact Finds.congr (c := planSchema.check [] (.obj members)) hall (by simp [Json.member?])
  | _ =>
      have hall := (hself (.kind .object) rfl false).join
        (finds_nil.join ((hself (.required ["version", "steps"]) rfl false).join finds_nil))
      exact Finds.congr (c := planSchema.check [] _) hall (by simp [Json.member?, Misfits])

/-! ## The reported step -/

theorem conform_eq_grammar {path place : List PathPart} {schema : Schema} {v : Json}
    {fault : GrammarFault} (h : conform path schema v = .error (.grammar place fault)) :
    ∃ found x, schema.check [] v = .ok found ∧ Schema.mostRelevant? found = some x ∧
      place = path ++ x.path := by
  cases hcheck : schema.check [] v with
  | error fault => simp [conform, Schema.firstViolation?, Schema.violations, hcheck] at h
  | ok found =>
      cases hbest : Schema.mostRelevant? found with
      | none => simp [conform, Schema.firstViolation?, Schema.violations, hcheck, hbest] at h
      | some x =>
          refine ⟨found, x, rfl, hbest, ?_⟩
          simp only [conform, Schema.firstViolation?, Schema.violations, hcheck, hbest] at h
          cases h
          rfl

/-- What is wrong with a step is reported under its index. -/
theorem checkStep_eq_grammar {index : Nat} {v : Json} {place : List PathPart} {fault : GrammarFault}
    (h : checkStep index v = .error (.grammar place fault)) :
    ∃ rest, place = .key "steps" :: .index index :: rest := by
  unfold checkStep at h
  dsimp only at h
  split at h
  · rename_i hconform
    cases h
    obtain ⟨found, x, -, -, hplace⟩ := conform_eq_grammar hconform
    exact ⟨x.path, hplace⟩
  · split at h
    · split at h
      · cases h
      · cases h
        exact ⟨[], rfl⟩
    · cases h

/-- A plan of one step. -/
def single (step : Json) : Json :=
  .obj [("version", .str "1"), ("steps", .arr [step])]

theorem exists_validate_single_iff {step : Json} :
    (∃ p, validate (single step) = .ok p) ↔ ∃ s, Step.Reads step s := by
  rw [exists_validate_iff, ← Step.inLanguage_iff_exists_reads]
  constructor
  · rintro ⟨ms, steps, hms, -, -, -, hlisted, -, hsteps⟩
    obtain rfl := Json.obj.inj hms
    obtain rfl : [step] = steps := Json.arr.inj (Option.some.inj hlisted)
    exact hsteps step List.mem_cons_self
  · intro hstep
    refine ⟨_, [step], rfl, rfl, ?_, ?_, rfl, by simp, by simpa using hstep⟩
    · intro name hname
      cases hname
    · intro url hurl
      cases hurl

/-- Whichever step is reported in the first pass, it is one of those that go wrong nearest to their
outside, and the last one of these. -/
theorem misfit_of_conform {v : Json} {i : Nat} {rest : List PathPart} {fault : GrammarFault}
    (h : conform [] planSchema v = .error (.grammar (.key "steps" :: .index i :: rest) fault)) :
    Misfits (v.member? "steps") i rest ∧ ∀ j other, Misfits (v.member? "steps") j other →
      rest.length < other.length ∨ rest.length = other.length ∧ j ≤ i := by
  obtain ⟨found, x, hcheck, hbest, hplace⟩ := conform_eq_grammar h
  obtain ⟨hplain, hplaces⟩ := finds_planSchema v found hcheck
  obtain ⟨hmem, hgreatest⟩ := Schema.mostRelevant?_of_plain hplain hbest
  rw [List.nil_append] at hplace
  refine ⟨(hplaces i rest).mp (List.mem_map.mpr ⟨x, hmem, hplace.symm⟩), fun j other hother => ?_⟩
  obtain ⟨y, hy, hpath⟩ := List.mem_map.mp ((hplaces j other).mpr hother)
  have hle := hgreatest y hy
  rcases Nat.lt_trichotomy rest.length other.length with hshorter | hsame | hlonger
  · exact .inl hshorter
  · refine .inr ⟨hsame, Nat.le_of_not_lt fun hlater => hle ?_⟩
    refine Violation.compare_of_later ?_ ?_
    · simp [hpath, ← hplace, hsame]
    · rw [hpath, ← hplace]
      simp [Schema.comparePaths, Schema.PathPart.compare, compareOfLessAndEq,
        Nat.compare_eq_gt.mpr hlater]
  · refine absurd (Violation.compare_of_shorter ?_) hle
    simpa [hpath, ← hplace] using hlonger

/-- Why a step is the one reported. Where all steps have known tags, it is the first that is no step.
Where some have not, it is one of these, whatever is wrong with the steps before it: of those that go
wrong nearest to their outside, it is the last. -/
inductive Blames (v : Json) (i : Nat) (rest : List PathPart) : Prop
  | first {steps : List Json} {step : Json} (listed : v.member? "steps" = some (.arr steps))
      (fit : ∀ j other, ¬Misfits (v.member? "steps") j other) (at_index : steps[i]? = some step)
      (refused : ¬∃ p, validate (single step) = .ok p)
      (earlier : ∀ j s, j < i → steps[j]? = some s → ∃ p, validate (single s) = .ok p)
  | misfit (misfits : Misfits (v.member? "steps") i rest)
      (last : ∀ j other, Misfits (v.member? "steps") j other →
        rest.length < other.length ∨ rest.length = other.length ∧ j ≤ i)

/-- The second pass reports the first step that is no step. -/
theorem blames_of_checkSteps {members : Table Json} {steps : List Json} {i : Nat}
    {rest : List PathPart} {fault : GrammarFault} (hc : Conforms members steps)
    (htagged : ∀ step ∈ steps, ∃ tag ms, Tagged step tag ms)
    (h : checkSteps 0 steps = .error (.grammar (.key "steps" :: .index i :: rest) fault)) :
    Blames (.obj members) i rest := by
  obtain ⟨before, step, after, rfl, hbefore, hstep⟩ := checkSteps_eq_error_iff.mp h
  rw [Nat.zero_add] at hstep
  obtain ⟨other, hplace⟩ := checkStep_eq_grammar hstep
  obtain rfl : i = before.length := by
    injection hplace with _ htail
    injection htail with hindex _
    exact PathPart.index.inj hindex
  have hearlier := (checkSteps_eq_ok_iff fun s hs => htagged s (by simp [hs])).mp hbefore
  have hat : (before ++ step :: after)[before.length]? = some step := by simp
  refine .first hc.listed ?_ hat ?_ ?_
  · rintro j other ⟨listed, s, hlisted, hs, hmisfit⟩
    obtain rfl : before ++ step :: after = listed :=
      Json.arr.inj (Option.some.inj (hc.listed.symm.trans hlisted))
    rw [misfit_eq_none_iff.mpr (htagged s (List.mem_of_getElem? hs))] at hmisfit
    cases hmisfit
  · rw [exists_validate_single_iff]
    intro hreads
    have hok : checkSteps before.length [step] = .ok () :=
      (checkSteps_eq_ok_iff (by simpa using htagged step (by simp))).mpr (by simpa using hreads)
    rw [checkSteps_cons_of_error hstep] at hok
    cases hok
  · intro j s hj hs
    rw [exists_validate_single_iff]
    rw [List.getElem?_append_left hj] at hs
    exact hearlier s (List.mem_of_getElem? hs)

/-- A step that is reported is the first that is no step, or one with no known tag. -/
theorem reported_step {v : Json} {i : Nat} {rest : List PathPart} {fault : GrammarFault}
    (h : validate v = .error (.grammar (.key "steps" :: .index i :: rest) fault)) :
    Blames v i rest := by
  cases hconform : conform [] planSchema v with
  | error failure =>
      simp only [validate, hconform] at h
      obtain rfl := Except.error.inj h
      obtain ⟨hmisfits, hlast⟩ := misfit_of_conform hconform
      exact .misfit hmisfits hlast
  | ok _ =>
      obtain ⟨members, steps, rfl, hc, htagged⟩ :=
        check_planSchema_eq_nil_iff.mp (conform_eq_ok_iff.mp hconform)
      rw [validate_of_conforms hc htagged] at h
      cases hsteps : checkSteps 0 steps with
      | ok _ =>
          obtain ⟨p, hp⟩ := exists_ofJson hc ((checkSteps_eq_ok_iff htagged).mp hsteps)
          rw [hsteps] at h
          cases hp.symm.trans h
      | error failure =>
          rw [hsteps] at h
          exact blames_of_checkSteps hc htagged (Except.error.inj h ▸ hsteps)

/-- A step without its page, and after it one with an unknown tag. -/
def unknownAfterIncomplete : Json :=
  .obj [("version", .str "1"),
    ("steps", .arr [.obj [("type", .str "goto")], .obj [("type", .str "bogus")]])]

theorem reported_step_unknown :
    validate unknownAfterIncomplete = .error (.grammar [.key "steps", .index 1, .key "type"]
      (.breach (.oneOf (.str "bogus") Step.tags))) ∧
    Blames unknownAfterIncomplete 1 [.key "type"] :=
  ⟨rfl, @reported_step unknownAfterIncomplete 1 [.key "type"]
    (.breach (.oneOf (.str "bogus") Step.tags)) rfl⟩

/-- The step that is reported can have one before it that is no step either. -/
theorem later_step_reported :
    ∃ v i rest fault, validate v = .error (.grammar (.key "steps" :: .index i :: rest) fault) ∧
      ∃ steps j s, v.member? "steps" = some (.arr steps) ∧ j < i ∧ steps[j]? = some s ∧
        ¬∃ p, validate (single s) = .ok p := by
  refine ⟨unknownAfterIncomplete, 1, [.key "type"], .breach (.oneOf (.str "bogus") Step.tags), rfl,
    _, 0, .obj [("type", .str "goto")], rfl, by decide, rfl, ?_⟩
  rintro ⟨p, hp⟩
  have hrefused : validate (single (.obj [("type", .str "goto")])) =
      .error (.grammar [.key "steps", .index 0] (.breach (.missing "url"))) := rfl
  cases hrefused.symm.trans hp

end Plan
end Walkthrough
