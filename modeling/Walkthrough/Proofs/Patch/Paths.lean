import Walkthrough.Proofs.Patch.Refusal
import Walkthrough.Proofs.Plan.Faults
import Walkthrough.Proofs.Plan.Language
import Mathlib.Data.List.Infix
import Mathlib.Data.List.TakeWhile

/-! # The allow-list of patches

Paths are written out here character by character, and with them the values that are read as patches.
Beyond the paths that one would write, digits of other scripts and a line feed at the end pass. -/

namespace Walkthrough.Patch

/-! ## Paths -/

/-- A path to a field of a step, as it is taken. -/
structure IsPath (path : String) (digits : List Char) (field : String) : Prop where
  some_digits : digits ≠ []
  decimal : ∀ c ∈ digits, Text.isDecimal c
  listed : field ∈ fields
  spelled : ∃ ending ∈ ["", "\n"],
    path.toList = "/steps/".toList ++ digits ++ '/' :: (field.toList ++ ending.toList)

/-- A path in its entirety: a step by ASCII digits, and a field. -/
def IsPlainPath (path : String) : Prop :=
  ∃ digits field, digits ≠ [] ∧ (∀ c ∈ digits, c.isDigit) ∧ field ∈ fields ∧
    path = "/steps/" ++ String.ofList digits ++ "/" ++ field

theorem digitValue?_of_isDigit {c : Char} (h : c.isDigit) :
    Text.digitValue? c = some (c.toNat - 48) := by
  have hrange : 48 ≤ c.toNat ∧ c.toNat ≤ 57 := by
    simp only [Char.isDigit, Bool.and_eq_true, decide_eq_true_eq, ge_iff_le,
      UInt32.le_iff_toNat_le] at h
    exact h
  rw [Text.digitValue?, Text.digitZeros, List.find?_cons_of_pos, Option.map_some]
  simp only [Bool.and_eq_true, decide_eq_true_eq]
  omega

theorem isDecimal_of_isDigit {c : Char} (h : c.isDigit) : Text.isDecimal c := by
  rw [Text.isDecimal, digitValue?_of_isDigit h, Option.isSome_some]

/-- Digits end at a slash. -/
theorem takeWhile_digits {digits rest : List Char} (h : ∀ c ∈ digits, Text.isDecimal c) :
    (digits ++ '/' :: rest).takeWhile Text.isDecimal = digits := by
  rw [List.takeWhile_append_of_pos h, List.takeWhile_cons_of_neg (by decide), List.append_nil]

/-- The name at the end of a path, where a line feed may follow. -/
def nameOf (rest : List Char) : String :=
  String.ofList (if rest.getLast? = some '\n' then rest.dropLast else rest)

/-- No field ends in a line feed. -/
theorem nameOf_append {field ending : String} (h : field ∈ fields) (hending : ending ∈ ["", "\n"]) :
    nameOf (field.toList ++ ending.toList) = field := by
  have hall : ∀ field ∈ fields, ∀ ending ∈ ["", "\n"],
      nameOf (field.toList ++ ending.toList) = field := by decide
  exact hall field h ending hending

theorem exists_ending (rest : List Char) :
    ∃ ending ∈ ["", "\n"], rest = (nameOf rest).toList ++ ending.toList := by
  by_cases h : rest.getLast? = some '\n'
  · refine ⟨"\n", by simp, ?_⟩
    rw [nameOf, if_pos h, String.toList_ofList]
    exact (List.dropLast_append_getLast? _ h).symm
  · refine ⟨"", by simp, ?_⟩
    rw [nameOf, if_neg h, String.toList_ofList]
    exact (List.append_nil rest).symm

/-- The paths that lead somewhere, written out. -/
theorem address?_eq_some_iff {path : String} {digits : List Char} {field : String} :
    address? path = some (digits, field) ↔ IsPath path digits field := by
  constructor
  · intro h
    unfold address? at h
    dsimp only at h
    split at h
    swap
    · cases h
    rename_i hopening
    obtain ⟨body, hbody⟩ := List.isPrefixOf_iff_prefix.mp hopening
    rw [← hbody, List.drop_left] at h
    split at h
    swap
    · cases h
    rename_i rest hrest
    have hname : String.ofList (if rest.getLast? = some '\n' then rest.dropLast else rest) =
      nameOf rest := rfl
    rw [hname, Option.ite_none_left_eq_some] at h
    obtain ⟨hallowed, hfound⟩ := h
    obtain ⟨rfl, rfl⟩ := Prod.mk.inj (Option.some.inj hfound)
    obtain ⟨ending, hending, hspelled⟩ := exists_ending rest
    simp only [Bool.or_eq_true, not_or, List.isEmpty_iff, Bool.not_eq_true', Bool.not_eq_false,
      List.contains_iff_mem] at hallowed
    refine ⟨hallowed.1, fun c hc => List.mem_takeWhile_imp hc, hallowed.2, ending, hending, ?_⟩
    have hsplit := List.prefix_append_drop (List.takeWhile_prefix Text.isDecimal (l := body))
    rw [← hbody, List.append_assoc, ← hspelled, ← hrest, ← hsplit]
  · intro h
    obtain ⟨ending, hending, hpath⟩ := h.spelled
    have hdigits := @takeWhile_digits digits (field.toList ++ ending.toList) h.decimal
    have hname := nameOf_append h.listed hending
    unfold nameOf at hname
    unfold address?
    dsimp only
    rw [hpath, List.append_assoc, if_pos (by simp), List.drop_left, hdigits, List.drop_left]
    simp only
    rw [hname, if_neg]
    simp [h.some_digits, h.listed]

theorem isSome_address?_iff {path : String} :
    (address? path).isSome ↔ ∃ digits field, IsPath path digits field := by
  rw [Option.isSome_iff_exists]
  constructor
  · rintro ⟨⟨digits, field⟩, h⟩
    exact ⟨digits, field, address?_eq_some_iff.mp h⟩
  · rintro ⟨digits, field, h⟩
    exact ⟨(digits, field), address?_eq_some_iff.mpr h⟩

/-- Of the paths that are taken, the plain ones are those with ASCII digits and without a line feed at
the end. -/
theorem isPlainPath_iff {path : String} :
    IsPlainPath path ↔ path.toList.getLast? ≠ some '\n' ∧
      ∃ digits field, IsPath path digits field ∧ ∀ c ∈ digits, c.isDigit := by
  constructor
  · rintro ⟨digits, field, hne, hdigits, hfield, rfl⟩
    have hlast : ∀ field ∈ fields, ('/' :: field.toList).getLast? ≠ some '\n' := by decide
    have hspelled : ("/steps/" ++ String.ofList digits ++ "/" ++ field).toList =
        "/steps/".toList ++ digits ++ '/' :: field.toList := by simp
    refine ⟨?_, digits, field, ⟨hne, fun c hc => isDecimal_of_isDigit (hdigits c hc), hfield, "",
      by simp, ?_⟩, hdigits⟩
    · rw [hspelled, List.getLast?_append_of_ne_nil _ (List.cons_ne_nil _ _)]
      exact hlast field hfield
    · rw [hspelled]
      simp
  · rintro ⟨hlast, digits, field, h, hdigits⟩
    obtain ⟨ending, hending, hspelled⟩ := h.spelled
    rcases List.mem_pair.mp hending with rfl | rfl
    · refine ⟨digits, field, h.some_digits, hdigits, h.listed, String.toList_inj.mp ?_⟩
      rw [hspelled]
      simp
    · refine absurd ?_ hlast
      rw [hspelled, ← List.cons_append, ← List.append_assoc]
      exact List.getLast?_concat

/-! ## Patches -/

/-- A value that may be written, and what is written for it. -/
def Writes (v written : Json) : Prop :=
  (∃ s, v = .str s ∧ written = .str s) ∨ ∃ n : Int, v.IsWhole n ∧ 0 ≤ n ∧ written = .int n

/-- An object that spells an operation, whatever else it holds. -/
def Operation.Spells (v : Json) (o : Operation) : Prop :=
  ∃ ms op path digits field value, v = .obj ms ∧
    (Table.get? ms "op" = some (.str op) ∧ (op = "replace" ∨ op = "add")) ∧
    (Table.get? ms "path" = some (.str path) ∧ IsPath path digits field) ∧
    (Table.get? ms "value" = some value ∧ Writes value o.value) ∧
    o.op = .str op ∧ o.path = .str path

/-- An object that spells a patch, whatever else it holds. -/
def Spells (v : Json) (patch : Patch) : Prop :=
  ∃ ms reason items, v = .obj ms ∧
    (Table.get? ms "reason" = some (.str reason) ∧ reason ≠ "") ∧
    (Table.get? ms "operations" = some (.arr items) ∧ items.length ≤ 8) ∧
    List.Forall₂ Operation.Spells items patch.operations ∧ patch.reason = .str reason

theorem writes_iff {v written : Json} : Writes v written ↔ Writable v ∧ written = v.settle := by
  constructor
  · rintro (⟨s, rfl, rfl⟩ | ⟨n, hwhole, hn, rfl⟩)
    · exact ⟨.inl ⟨s, rfl⟩, rfl⟩
    · have hsettle := Json.settle_eq_int_iff_isWhole.mpr hwhole
      exact ⟨.inr ⟨n, hn, hsettle⟩, hsettle.symm⟩
  · rintro ⟨⟨s, rfl⟩ | ⟨n, hn, hsettle⟩, rfl⟩
    · exact .inl ⟨s, rfl, rfl⟩
    · exact .inr ⟨n, Json.settle_eq_int_iff_isWhole.mp hsettle, hn, hsettle⟩

theorem Operation.reads_iff_spells {v : Json} {o : Operation} :
    Operation.Reads v o ↔ Operation.Spells v o := by
  constructor
  · rintro ⟨ms, op, path, value, rfl, ⟨hop, hknown⟩, ⟨hpath, haddress⟩, ⟨hvalue, hwritable⟩, rfl⟩
    obtain ⟨digits, field, h⟩ := isSome_address?_iff.mp haddress
    exact ⟨ms, op, path, digits, field, value, rfl, ⟨hop, by simpa [ops] using hknown⟩, ⟨hpath, h⟩,
      ⟨hvalue, writes_iff.mpr ⟨hwritable, rfl⟩⟩, rfl, rfl⟩
  · rintro ⟨ms, op, path, digits, field, value, rfl, ⟨hop, hknown⟩, ⟨hpath, h⟩, ⟨hvalue, hwrites⟩,
      hsameOp, hsamePath⟩
    obtain ⟨hwritable, hwritten⟩ := writes_iff.mp hwrites
    obtain ⟨_, _, _⟩ := o
    obtain rfl := hsameOp
    obtain rfl := hsamePath
    obtain rfl := hwritten
    exact ⟨ms, op, path, value, rfl, ⟨hop, by simpa [ops] using hknown⟩,
      ⟨hpath, isSome_address?_iff.mpr ⟨digits, field, h⟩⟩, ⟨hvalue, hwritable⟩, rfl⟩

theorem parse_eq_ok_iff_spells {v : Json} {patch : Patch} :
    parse v = .ok patch ↔ Spells v patch := by
  have hsame : Operation.Reads = Operation.Spells := by
    funext v o
    exact propext Operation.reads_iff_spells
  rw [parse_eq_ok_iff, Reads, hsame]
  exact Iff.rfl

theorem refused_iff {v : Json} :
    (∃ fault, parse v = .error (.patchRejected fault)) ↔ ∀ patch, ¬ Spells v patch := by
  constructor
  · rintro ⟨fault, hfault⟩ patch hspells
    rw [parse_eq_ok_iff_spells.mpr hspells] at hfault
    cases hfault
  · intro h
    cases hparse : parse v with
    | ok patch => exact absurd (parse_eq_ok_iff_spells.mp hparse) (h patch)
    | error failure =>
        obtain ⟨fault, rfl⟩ := parse_eq_error hparse
        exact ⟨fault, rfl⟩

/-! ## Patches that were not read -/

theorem overwrite_eq_unknownPath_iff {steps : List Json} {o : Operation} {path : String} :
    overwrite steps o = .error (.patchRejected (.unknownPath path)) ↔
      (∃ op ∈ ops, o.op = .str op) ∧ o.path = .str path ∧
        ∀ digits field, ¬ IsPath path digits field := by
  have hnone : address? path = none ↔ ∀ digits field, ¬ IsPath path digits field := by
    rw [← Option.not_isSome_iff_eq_none, isSome_address?_iff]
    simp only [not_exists]
  rw [← any_contains_iff, ← hnone]
  constructor
  · intro h
    unfold overwrite at h
    split at h
    · cases h
    rename_i hknown
    split at h
    swap
    · cases h
    rename_i found hpath
    split at h
    · rename_i haddress
      cases h
      exact ⟨by simpa using hknown, hpath, haddress⟩
    · split at h
      · rename_i hindex
        unfold indexOf at hindex
        split at hindex
        · cases hindex
          cases h
        · cases hindex
      · split at h
        · cases h
        · cases h
  · rintro ⟨hknown, hpath, haddress⟩
    simp [overwrite, hknown, hpath, haddress]

/-- Operations are not carried out from the first one on that cannot be. -/
theorem overwriteAll_eq_error_iff {steps : List Json} {operations : List Operation}
    {failure : Failure} :
    overwriteAll steps operations = .error failure ↔ ∃ before o after mid,
      operations = before ++ o :: after ∧ overwriteAll steps before = .ok mid ∧
        overwrite mid o = .error failure := by
  constructor
  · intro h
    induction operations generalizing steps with
    | nil => cases h
    | cons o rest ih =>
        unfold overwriteAll at h
        split at h
        · rename_i hfailure
          exact ⟨[], o, rest, steps, rfl, rfl, hfailure.trans (congrArg _ (Except.error.inj h))⟩
        · rename_i mid hmid
          obtain ⟨before, o', after, last, rfl, hbefore, hfailure⟩ := ih h
          exact ⟨o :: before, o', after, last, rfl,
            overwriteAll_cons_eq_ok_iff.mpr ⟨mid, hmid, hbefore⟩, hfailure⟩
  · rintro ⟨before, o, after, mid, rfl, hbefore, hfailure⟩
    rw [overwriteAll_append hbefore]
    simp [overwriteAll, hfailure]

/-- A patch is refused for a path exactly if the first operation that is not carried out is a known one
with a path that leads nowhere. -/
theorem apply_eq_unknownPath_iff {p : Plan} {patch : Patch} {path : String} :
    patch.apply p = .error (.patchRejected (.unknownPath path)) ↔
      patch.operations.length ≤ 8 ∧ ∃ before o after steps,
        patch.operations = before ++ o :: after ∧
        overwriteAll (p.steps.map Step.toJson) before = .ok steps ∧
        (∃ op ∈ ops, o.op = .str op) ∧ o.path = .str path ∧
        ∀ digits field, ¬ IsPath path digits field := by
  have hfirst := @overwriteAll_eq_error_iff (p.steps.map Step.toJson) patch.operations
    (.patchRejected (.unknownPath path))
  simp only [overwrite_eq_unknownPath_iff] at hfirst
  rw [← hfirst]
  unfold apply
  dsimp only
  split
  · rename_i hcount
    have hlimit : ¬ patch.operations.length ≤ 8 := Nat.not_le.mpr hcount
    simp [hlimit]
  · rename_i hcount
    have hlimit : patch.operations.length ≤ 8 := Nat.not_lt.mp hcount
    cases hsteps : overwriteAll (p.steps.map Step.toJson) patch.operations with
    | error failure => simp [hlimit]
    | ok steps =>
        simp only [reduceCtorEq, and_false, iff_false]
        -- what is told of the patched plan is never about a path
        split
        · simp
        · simp
        · rename_i failure hne hvalidate
          intro h
          rw [Except.error.inj h] at hvalidate
          rcases Plan.validate_eq_error hvalidate with ⟨place, fault, hfault⟩ | ⟨fault, hfault⟩
          · cases hfault
          · cases hfault

/-- A patch that is applied has only paths that lead somewhere. -/
theorem isPath_of_apply {p q : Plan} {patch : Patch} (h : patch.apply p = .ok q) :
    ∀ o ∈ patch.operations, ∃ path digits field, o.path = .str path ∧ IsPath path digits field := by
  intro o ho
  obtain ⟨-, steps, hsteps, -⟩ := apply_eq_ok_iff_validate.mp h
  obtain ⟨index, field, htargets, -⟩ := overwriteAll_isOk_iff.mp ⟨steps, hsteps⟩ o ho
  obtain ⟨-, path, digits, hpath, haddress, -, -⟩ := htargets
  exact ⟨path, digits, field, hpath, address?_eq_some_iff.mp haddress⟩

/-- The allow-list. What is read as a patch is what spells one, all else is refused, and a patch that was
not read is refused for the very paths that reading refuses. Plain paths are not the only ones on it. -/
theorem allowed_exactly (v : Json) (p : Plan) (patch : Patch) (path : String) :
    (parse v = .ok patch ↔ Spells v patch) ∧
    ((∃ fault, parse v = .error (.patchRejected fault)) ↔ ∀ found, ¬ Spells v found) ∧
    ((∃ q, patch.apply p = .ok q) → ∀ o ∈ patch.operations,
      ∃ path digits field, o.path = .str path ∧ IsPath path digits field) ∧
    (patch.apply p = .error (.patchRejected (.unknownPath path)) ↔
      patch.operations.length ≤ 8 ∧ ∃ before o after steps,
        patch.operations = before ++ o :: after ∧
        overwriteAll (p.steps.map Step.toJson) before = .ok steps ∧
        (∃ op ∈ ops, o.op = .str op) ∧ o.path = .str path ∧
        ∀ digits field, ¬ IsPath path digits field) ∧
    (IsPlainPath path ↔ path.toList.getLast? ≠ some '\n' ∧
      ∃ digits field, IsPath path digits field ∧ ∀ c ∈ digits, c.isDigit) :=
  ⟨parse_eq_ok_iff_spells, refused_iff, fun ⟨_, hq⟩ => isPath_of_apply hq, apply_eq_unknownPath_iff,
    isPlainPath_iff⟩

/-- A patch that was not read may address a step by a digit of another script. -/
theorem allowed_exactly_digit :
    let p : Plan := ⟨.str "1", .null, .null, [.click (.str "Go") .null]⟩
    let patch : Patch :=
      ⟨.str "moved", [⟨.str "replace", .str "/steps/\u0660/target", .str "Help"⟩]⟩
    (∃ q, patch.apply p = .ok q) ∧ ∀ o ∈ patch.operations,
      ∃ path digits field, o.path = .str path ∧ IsPath path digits field := by
  intro p patch
  have hok : (patch.apply p).isOk = true := by decide +kernel
  have happly : ∃ q, patch.apply p = .ok q := by
    cases h : patch.apply p with
    | ok q => exact ⟨q, rfl⟩
    | error failure => simp [h, Except.isOk, Except.toBool] at hok
  exact ⟨happly, (allowed_exactly .null p patch "").2.2.1 happly⟩

/-- Paths with a line feed at the end, and with a digit of another script, are read, but are not
plain. -/
theorem odd_paths_are_read :
    let moved : String → Json := fun path => .obj [("reason", .str "moved"), ("operations", .arr [
      .obj [("op", .str "replace"), ("path", .str path), ("value", .str "Help")]])]
    (¬ IsPlainPath "/steps/0/target\n" ∧ (parse (moved "/steps/0/target\n")).isOk) ∧
      ¬ IsPlainPath "/steps/\u0660/target" ∧ (parse (moved "/steps/\u0660/target")).isOk := by
  intro moved
  refine ⟨⟨fun h => (isPlainPath_iff.mp h).1 rfl, rfl⟩, fun h => ?_, rfl⟩
  obtain ⟨-, digits, field, hpath, hdigits⟩ := isPlainPath_iff.mp h
  have haddress : address? "/steps/\u0660/target" = some (['\u0660'], "target") := by decide +kernel
  obtain ⟨rfl, rfl⟩ := Prod.mk.inj
    (Option.some.inj ((address?_eq_some_iff.mpr hpath).symm.trans haddress))
  exact absurd (hdigits '\u0660' (by simp)) (by decide)

end Walkthrough.Patch
