import Walkthrough.Plan.Load
import Walkthrough.Proofs.Files
import Walkthrough.Proofs.Json.Overlong
import Walkthrough.Proofs.Plan.Faults

/-! # What is told of a value or a file that is no plan

A fault of the grammar, as a rule. What else can come of it is a URL that cannot be split and, of a file,
bytes that are no text and a whole number with too many digits. -/

namespace Walkthrough.Plan

/-- A plan, or a fault of the grammar. -/
def Told (result : Except Failure Plan) : Prop :=
  (∃ p, result = .ok p) ∨ ∃ path fault, result = .error (.grammar path fault)

theorem told_ok (p : Plan) : Told (.ok p) :=
  .inl ⟨p, rfl⟩

theorem told_grammar (path : List Schema.PathPart) (fault : GrammarFault) :
    Told (.error (.grammar path fault)) :=
  .inr ⟨path, fault, rfl⟩

theorem not_told_of_isValue {failure : Failure} (h : failure.isValue) : ¬ Told (.error failure) := by
  rintro (⟨p, hp⟩ | ⟨path, fault, hfault⟩)
  · cases hp
  · cases hfault
    cases h

/-- What a file may hold of which something other than a fault of the grammar is told. -/
inductive Escapes (content : Text.Content) : Failure → Prop
  | notText {fault : Text.Utf8.Fault} (bytes : content.read = .error fault) :
      Escapes content (.notText fault)
  | overlong {s : String} {digits : Nat} (text : content.read = .ok s)
      (number : Json.parse s = .error (.hugeInteger digits)) :
      Escapes content (.notJson (.hugeInteger digits))
  | unsplittable {s : String} {v : Json} {fault : Url.Fault} (text : content.read = .ok s)
      (value : Json.parse s = .ok v) (url : Unsplittable v fault) :
      Escapes content (.value (.url fault))

theorem Escapes.isValue {content : Text.Content} {failure : Failure} (h : Escapes content failure) :
    failure.isValue := by
  cases h <;> rfl

theorem told_or_unsplittable (v : Json) :
    Told (validate v) ∨ ∃ fault, Unsplittable v fault := by
  cases h : validate v with
  | ok p => exact .inl (told_ok p)
  | error failure =>
      rcases validate_eq_error h with ⟨path, fault, rfl⟩ | ⟨fault, rfl⟩
      · exact .inl (told_grammar path fault)
      · exact .inr ⟨fault, validate_eq_urlFault_iff.mp h⟩

theorem told_validate_iff {v : Json} : Told (validate v) ↔ ∀ fault, ¬ Unsplittable v fault := by
  constructor
  · intro htold fault hurl
    rw [validate_eq_urlFault_iff.mpr hurl] at htold
    exact not_told_of_isValue rfl htold
  · intro h
    exact (told_or_unsplittable v).resolve_right fun ⟨fault, hurl⟩ => h fault hurl

section

variable {files : Files} {path : Path} {content : Text.Content}

theorem load_of_text {s : String} (hread : files.read path = .ok content)
    (htext : content.read = .ok s) : load files path = parse s := by
  simp [load, Files.readText, hread, htext, bind, Except.bind]

/-- What escapes is told as it is. -/
theorem load_of_escapes {failure : Failure} (hread : files.read path = .ok content)
    (h : Escapes content failure) : load files path = .error failure := by
  cases h with
  | notText bytes => simp [load, Files.readText, hread, bytes, bind, Except.bind]
  | overlong text number => simp [load_of_text hread text, parse, number]
  | unsplittable text value url =>
      simp [load_of_text hread text, parse, value, validate_eq_urlFault_iff.mpr url]

theorem told_or_escapes (hread : files.read path = .ok content) :
    Told (load files path) ∨ ∃ failure, Escapes content failure := by
  cases htext : content.read with
  | error fault => exact .inr ⟨_, .notText htext⟩
  | ok s =>
      rw [load_of_text hread htext]
      unfold parse
      cases hparse : Json.parse s with
      | error fault =>
          cases fault with
          | malformed kind place => exact .inl (told_grammar _ _)
          | hugeInteger digits => exact .inr ⟨_, .overlong htext hparse⟩
      | ok v =>
          rcases told_or_unsplittable v with htold | ⟨fault, hurl⟩
          · exact .inl htold
          · exact .inr ⟨_, .unsplittable htext hparse hurl⟩

/-- Of every value, and of every file that can be read, a plan or a fault of the grammar is told, unless
something in it escapes; that is told as it is. A number that escapes has its digits in the file. -/
theorem told_unless_escapes (v : Json) (hread : files.read path = .ok content) :
    (Told (validate v) ↔ ∀ fault, ¬ Unsplittable v fault) ∧
    (∀ fault, Unsplittable v fault → validate v = .error (.value (.url fault))) ∧
    (Told (load files path) ↔ ∀ failure, ¬ Escapes content failure) ∧
    (∀ failure, Escapes content failure → load files path = .error failure) ∧
    ∀ digits, Escapes content (.notJson (.hugeInteger digits)) →
      ∃ s, content.read = .ok s ∧ Json.HasRow s.toList digits := by
  refine ⟨told_validate_iff, fun fault hurl => validate_eq_urlFault_iff.mpr hurl, ⟨?_, ?_⟩,
    fun failure hescapes => load_of_escapes hread hescapes, ?_⟩
  · intro htold failure hescapes
    rw [load_of_escapes hread hescapes] at htold
    exact not_told_of_isValue hescapes.isValue htold
  · intro h
    exact (told_or_escapes hread).resolve_right fun ⟨failure, hescapes⟩ => h failure hescapes
  · intro digits hescapes
    cases hescapes with
    | overlong text number => exact ⟨_, text, Json.hasRow_of_parse number⟩

/-- A file with a byte that starts no character is read, but nothing is told of it. -/
theorem told_unless_escapes_bytes :
    let files : Files := ⟨[], [(["plan.json"], .file (.bytes [0xFF]))]⟩
    let path : Path := ⟨"", ["plan.json"]⟩
    files.read path = .ok (.bytes [0xFF]) ∧ ¬ Told (load files path) := by
  intro files path
  have hkey : files.locate path = .ok ["plan.json"] := by
    rw [Files.locate, if_neg (by decide +kernel)]
    rfl
  have hread : files.read path = .ok (.bytes [0xFF]) := Files.read_eq_ok_iff.mpr ⟨_, hkey, rfl⟩
  exact ⟨hread, fun htold => (told_unless_escapes .null hread).2.2.1.mp htold _ (.notText rfl)⟩

end

/-- Nothing is told of a plan that goes to an unclosed bracket. -/
theorem validate_bracket_escapes :
    ¬ Told (validate (.obj [("version", .str "1"),
      ("steps", .arr [.obj [("type", .str "goto"), ("url", .str "http://[")]])])) := by
  rintro (⟨p, hp⟩ | ⟨path, fault, hfault⟩)
  · cases hp
  · cases hfault

end Walkthrough.Plan
