import Walkthrough.Profile.Store
import Walkthrough.Proofs.Json.Keys
import Walkthrough.Proofs.Json.RoundTrip
import Walkthrough.Proofs.World

/-! # Profiles as documents

No target comes twice in a profile that was loaded, and the selectors of such a profile are loaded again
from the file in which it was saved. -/

namespace Walkthrough.Profile

open Effect

variable {σ : Type}

/-- No target comes twice among the selectors. -/
def Distinct (p : Profile) : Prop :=
  (Table.keys p.selectors).Nodup

instance (p : Profile) : Decidable p.Distinct :=
  inferInstanceAs (Decidable (List.Nodup _))

theorem distinct_empty (domain : String) : (empty domain).Distinct :=
  List.nodup_nil

theorem Distinct.remember {p : Profile} (h : p.Distinct) (target selector : String) :
    (p.remember target selector).Distinct :=
  Table.nodup_keys_set h target selector

/-- The members of a profile's JSON object. -/
def members (p : Profile) : Table Json :=
  [("domain", .str p.domain),
    ("selectors", .obj (p.selectors.map fun entry => (entry.1, .str entry.2))),
    ("updatedAt", .str p.updatedAt)]

theorem toJson_eq (p : Profile) : p.toJson = .obj p.members :=
  rfl

theorem selectors_ofMembers_members (p : Profile) : (ofMembers p.members).selectors = p.selectors := by
  have hselectors : Table.get? p.members "selectors" =
      some (.obj (p.selectors.map fun entry => (entry.1, .str entry.2))) := by
    simp [members, Table.get?_cons]
  simp only [ofMembers, hselectors, List.map_map]
  exact List.map_id p.selectors

theorem Distinct.plain_toJson {p : Profile} (h : p.Distinct) : p.toJson.Plain := by
  have hselectors : (Json.obj (p.selectors.map fun entry => (entry.1, .str entry.2))).Plain := by
    refine .obj (by rwa [Table.keys_map_values]) fun entry hentry => ?_
    obtain ⟨found, -, rfl⟩ := List.mem_map.mp hentry
    exact .str _
  simp [toJson, Table.keys, hselectors]

theorem document_toJson (p : Profile) : p.toJson.document = .ok p.toJson.pretty := by
  have hselectors : (Json.obj (p.selectors.map fun entry => (entry.1, .str entry.2))).isOverlong =
      false := by
    rw [Json.isOverlong_obj, List.any_eq_false]
    intro entry hentry
    obtain ⟨found, -, rfl⟩ := List.mem_map.mp hentry
    simp [Json.isOverlong]
  refine Json.document_eq_ok_iff.mpr ⟨?_, rfl⟩
  rw [toJson, Json.isOverlong_obj, List.any_cons, List.any_cons, hselectors]
  rfl

/-- The text of a profile is read as its selectors, under any domain. -/
theorem Distinct.ofText_pretty {p : Profile} (h : p.Distinct) (domain : String) :
    ∃ read, ofText domain p.toJson.pretty = .ok (some read) ∧ read.domain = domain ∧
      read.selectors = p.selectors := by
  have hparse := Json.parse_document h.plain_toJson p.document_toJson
  rw [toJson_eq] at hparse
  refine ⟨{ ofMembers p.members with domain := domain }, ?_, rfl, p.selectors_ofMembers_members⟩
  rw [ofText, toJson_eq, hparse]

theorem domain_of_ofText {domain s : String} {p : Profile} (h : ofText domain s = .ok (some p)) :
    p.domain = domain := by
  unfold ofText at h
  split at h
  · cases h
  · cases h
    rfl
  · cases h

/-- No target comes twice in a profile that was read. -/
theorem distinct_of_ofText {domain s : String} {p : Profile} (h : ofText domain s = .ok (some p)) :
    p.Distinct := by
  unfold ofText at h
  split at h
  · cases h
  · rename_i members hparse
    obtain rfl := Option.some.inj (Except.ok.inj h)
    have hkeyed := (Json.keyed_of_parse hparse).members
    unfold Distinct ofMembers
    dsimp only
    split
    · rename_i entries hentries
      have hselectors := (hkeyed.2 _ (Table.mem_of_get? hentries)).members.1
      rwa [Table.keys_map_values]
    · exact List.nodup_nil
  · cases h

/-! ## Loading -/

variable {root : Path} {domain : String} {w w' : World σ}

/-- What a profile is read from, if it is read at all. -/
def reading (root : Path) (domain : String) : Work σ (Option Profile) := do
  let s ← Work.look fun files => files.readText (file root domain)
  Effect.ofExcept (ofText domain s)

theorem outcome_reading (w : World σ) :
    outcome (reading root domain) w =
      ((w.files.readText (file root domain)).bind (ofText domain), w) := by
  simp only [reading, Work.look, outcome_bind, outcome_get, outcome_ofExcept]
  cases w.files.readText (file root domain) <;> rfl

/-- What loading answers to a reading. -/
def answerTo (domain : String) : Except Failure (Option Profile) → Except Failure Profile
  | .ok found => .ok (found.getD (empty domain))
  | .error failure => if isPassedOver failure then .ok (empty domain) else .error failure

theorem answer_of_load_eq (root : Path) (domain : String) (w : World σ) :
    (outcome (load root domain) w).1 =
      answerTo domain ((w.files.readText (file root domain)).bind (ofText domain)) := by
  have hread : outcome (attempt (reading root domain)) w =
      (.ok ((w.files.readText (file root domain)).bind (ofText domain)), w) :=
    outcome_attempt_of (outcome_reading w)
  generalize (w.files.readText (file root domain)).bind (ofText domain) = answer at hread
  unfold reading at hread
  rw [load, outcome_bind_of_ok hread]
  split
  · rfl
  · rfl
  · rfl
  · rename_i failure _
    unfold answerTo
    dsimp only
    split <;> rfl

/-- A profile that is read is loaded. -/
theorem outcome_load_of_ofText {s : String} {p : Profile}
    (hread : w.files.readText (file root domain) = .ok s) (h : ofText domain s = .ok (some p)) :
    outcome (load root domain) w = (.ok p, w) := by
  have hreading : outcome (reading root domain) w = (.ok (some p), w) := by
    rw [outcome_reading, hread]
    exact congrArg (·, w) h
  exact outcome_bind_of_ok (outcome_attempt_of hreading)

/-- A profile that is loaded was read, or is empty. -/
theorem eq_empty_or_of_load {p : Profile} (h : outcome (load root domain) w = (.ok p, w')) :
    p = empty domain ∨
      ∃ s, w.files.readText (file root domain) = .ok s ∧ ofText domain s = .ok (some p) := by
  have hanswer := answer_of_load_eq root domain w
  rw [h] at hanswer
  cases hread : (w.files.readText (file root domain)).bind (ofText domain) with
  | error failure =>
      rw [hread, answerTo] at hanswer
      split at hanswer
      · exact .inl (Except.ok.inj hanswer)
      · cases hanswer
  | ok found =>
      rw [hread] at hanswer
      cases found with
      | none => exact .inl (Except.ok.inj hanswer)
      | some loaded =>
          obtain rfl := Except.ok.inj hanswer
          obtain ⟨s, hs, hloaded⟩ := exists_of_bind_eq_ok hread
          exact .inr ⟨s, hs, hloaded⟩

theorem domain_of_load {p : Profile} (h : outcome (load root domain) w = (.ok p, w')) :
    p.domain = domain := by
  rcases eq_empty_or_of_load h with rfl | ⟨s, -, hs⟩
  · rfl
  · exact domain_of_ofText hs

theorem distinct_of_load {p : Profile} (h : outcome (load root domain) w = (.ok p, w')) :
    p.Distinct := by
  rcases eq_empty_or_of_load h with rfl | ⟨s, -, hs⟩
  · exact distinct_empty domain
  · exact distinct_of_ofText hs

end Walkthrough.Profile
