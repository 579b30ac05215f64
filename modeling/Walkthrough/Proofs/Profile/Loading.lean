import Walkthrough.Proofs.Json.Overlong
import Walkthrough.Proofs.Run.Readiness

/-! # What is loaded as a profile

A file that is missing, unreadable or no JSON object counts as an empty profile. Bytes that are no text,
a whole number with too many digits and a name that no file can have end the loading instead, and with it
a run. -/

namespace Walkthrough

open Effect

variable {σ : Type}

namespace Profile

variable {files : Files} {root : Path} {domain : String} {w : World σ}

/-- The profiles that are loaded from files: empty ones, or what the members of a JSON object make, under
the domain that was asked for. -/
inductive Loads (files : Files) (root : Path) (domain : String) : Profile → Prop
  | unreadable {failure : Failure} (read : files.read (file root domain) = .error failure)
      (system : failure.isSystem) : Loads files root domain (empty domain)
  | malformed {content : Text.Content} {s : String} {kind : Json.Flaw} {place : Json.Place}
      (read : files.read (file root domain) = .ok content) (text : content.read = .ok s)
      (json : Json.parse s = .error (.malformed kind place)) : Loads files root domain (empty domain)
  | noObject {content : Text.Content} {s : String} {v : Json}
      (read : files.read (file root domain) = .ok content) (text : content.read = .ok s)
      (json : Json.parse s = .ok v) (other : ∀ members, v ≠ .obj members) :
      Loads files root domain (empty domain)
  | object {content : Text.Content} {s : String} {members : Table Json}
      (read : files.read (file root domain) = .ok content) (text : content.read = .ok s)
      (json : Json.parse s = .ok (.obj members)) :
      Loads files root domain { ofMembers members with domain := domain }

/-- What ends the loading of a profile. -/
inductive Escapes (files : Files) (root : Path) (domain : String) : Failure → Prop
  | noName (null : Path.hasNull (file root domain).text) :
      Escapes files root domain (.value .nullInPath)
  | notText {content : Text.Content} {fault : Text.Utf8.Fault}
      (read : files.read (file root domain) = .ok content) (bytes : content.read = .error fault) :
      Escapes files root domain (.notText fault)
  | overlong {content : Text.Content} {s : String} {digits : Nat}
      (read : files.read (file root domain) = .ok content) (text : content.read = .ok s)
      (number : Json.parse s = .error (.hugeInteger digits)) :
      Escapes files root domain (.notJson (.hugeInteger digits))

theorem readText_bind_ofText {content : Text.Content} {s : String}
    (hread : files.read (file root domain) = .ok content) (htext : content.read = .ok s) :
    (files.readText (file root domain)).bind (ofText domain) = ofText domain s := by
  simp [Files.readText, hread, htext, bind, Except.bind]

theorem Loads.execution {p : Profile} (h : Loads w.files root domain p) :
    (outcome (load root domain) w).1 = .ok p := by
  rw [answer_of_load_eq]
  cases h with
  | unreadable read system =>
      rename_i failure
      have hpassed : isPassedOver failure = true := by
        cases failure <;> first | rfl | cases system
      simp [Files.readText, read, bind, Except.bind, answerTo, hpassed]
  | malformed read text json =>
      simp [readText_bind_ofText read text, ofText, json, answerTo, isPassedOver]
  | noObject read text json other =>
      rename_i v
      rw [readText_bind_ofText read text, ofText, json]
      cases v with
      | obj members => exact absurd rfl (other members)
      | _ => rfl
  | object read text json => simp [readText_bind_ofText read text, ofText, json, answerTo]

/-- What escapes is the failure of the loading. -/
theorem Escapes.execution {failure : Failure} (h : Escapes w.files root domain failure) :
    (outcome (load root domain) w).1 = .error failure := by
  rw [answer_of_load_eq]
  cases h with
  | noName null =>
      have hread : w.files.readText (file root domain) = .error (.value .nullInPath) := by
        simp [Files.readText, Files.read, Files.locate, null, bind, Except.bind]
      rw [hread]
      rfl
  | notText read bytes =>
      simp [Files.readText, read, bytes, bind, Except.bind, answerTo, isPassedOver, Failure.isSystem]
  | overlong read text number =>
      simp [readText_bind_ofText read text, ofText, number, answerTo, isPassedOver, Failure.isSystem]

/-- Whatever stands under the path of a profile, it is loaded or it escapes. -/
theorem loads_or_escapes (files : Files) (root : Path) (domain : String) :
    (∃ p, Loads files root domain p) ∨ ∃ failure, Escapes files root domain failure := by
  cases hnull : Path.hasNull (file root domain).text with
  | true => exact .inr ⟨_, .noName hnull⟩
  | false =>
      cases hread : files.read (file root domain) with
      | error failure => exact .inl ⟨_, .unreadable hread (Files.read_eq_error hnull hread)⟩
      | ok content =>
          cases htext : content.read with
          | error fault => exact .inr ⟨_, .notText hread htext⟩
          | ok s =>
              cases hjson : Json.parse s with
              | error fault =>
                  cases fault with
                  | malformed kind place => exact .inl ⟨_, .malformed hread htext hjson⟩
                  | hugeInteger digits => exact .inr ⟨_, .overlong hread htext hjson⟩
              | ok v =>
                  cases v with
                  | obj members => exact .inl ⟨_, .object hread htext hjson⟩
                  | null | bool | int | float | str | arr =>
                      exact .inl ⟨_, .noObject hread htext hjson (by simp)⟩

theorem loads_iff {p : Profile} :
    Loads w.files root domain p ↔ (outcome (load root domain) w).1 = .ok p := by
  refine ⟨Loads.execution, fun h => ?_⟩
  rcases loads_or_escapes w.files root domain with ⟨found, hfound⟩ | ⟨failure, hfailure⟩
  · obtain rfl := Except.ok.inj (hfound.execution.symm.trans h)
    exact hfound
  · cases hfailure.execution.symm.trans h

theorem escapes_iff {failure : Failure} :
    Escapes w.files root domain failure ↔ (outcome (load root domain) w).1 = .error failure := by
  refine ⟨Escapes.execution, fun h => ?_⟩
  rcases loads_or_escapes w.files root domain with ⟨found, hfound⟩ | ⟨other, hother⟩
  · cases hfound.execution.symm.trans h
  · obtain rfl := Except.error.inj (hother.execution.symm.trans h)
    exact hother

theorem Loads.domain_eq {p : Profile} (h : Loads files root domain p) : p.domain = domain := by
  cases h <;> rfl

/-- Of whatever stands under its path, a profile of the domain that was asked for is loaded, unless
something escapes; that is the failure then. A number that escapes has its digits in the file, and the
files stay as they are. -/
theorem loads_unless_escapes (root : Path) (domain : String) (w : World σ) :
    ((∃ p, (outcome (load root domain) w).1 = .ok p) ↔
      ∀ failure, ¬ Escapes w.files root domain failure) ∧
    (∀ p, (outcome (load root domain) w).1 = .ok p ↔ Loads w.files root domain p) ∧
    (∀ p, Loads w.files root domain p → p.domain = domain) ∧
    (∀ failure, (outcome (load root domain) w).1 = .error failure ↔
      Escapes w.files root domain failure) ∧
    (∀ digits, Escapes w.files root domain (.notJson (.hugeInteger digits)) →
      ∃ s, w.files.readText (file root domain) = .ok s ∧ Json.HasRow s.toList digits) ∧
    (outcome (load root domain) w).2.files = w.files := by
  refine ⟨⟨?_, ?_⟩, fun p => loads_iff.symm, fun p => Loads.domain_eq, fun failure => escapes_iff.symm,
    ?_, ?_⟩
  · rintro ⟨p, hp⟩ failure hescapes
    cases hp.symm.trans hescapes.execution
  · intro h
    obtain ⟨p, hp⟩ := (loads_or_escapes w.files root domain).resolve_right
      fun ⟨failure, hfailure⟩ => h failure hfailure
    exact ⟨p, hp.execution⟩
  · intro digits hescapes
    cases hescapes with
    | overlong read text number =>
        exact ⟨_, by simp [Files.readText, read, text, bind, Except.bind], Json.hasRow_of_parse number⟩
  · rcases hload : outcome (load root domain) w with ⟨answer, w'⟩
    exact files_of_load hload

/-- Of a file with a byte that starts no character, no profile is loaded. -/
theorem byte_escapes :
    let files : Files := ⟨[], [(["profiles"], .directory),
      (["profiles", "example.com.json"], .file (.bytes [0xFF]))]⟩
    let w : World Unit := ⟨(), 0, files, .empty defaultDomain, 0, [], [], []⟩
    (outcome (load ⟨"", ["profiles"]⟩ "example.com") w).1 =
      .error (.notText ⟨.badStart, 0xFF, 0, 1⟩) := by
  intro files w
  have hfile : file ⟨"", ["profiles"]⟩ "example.com" = ⟨"", ["profiles", "example.com.json"]⟩ :=
    Path.child_of_isPart _ (by decide)
  have hkey : files.locate (file ⟨"", ["profiles"]⟩ "example.com") =
      .ok ["profiles", "example.com.json"] := by
    rw [hfile, Files.locate, if_neg (by decide +kernel)]
    rfl
  have hread : files.read (file ⟨"", ["profiles"]⟩ "example.com") = .ok (.bytes [0xFF]) :=
    Files.read_eq_ok_iff.mpr ⟨_, hkey, rfl⟩
  exact (Escapes.notText hread rfl).execution

end Profile

namespace Run

variable {host : Host σ} {options : RunOptions} {plan : Plan} {primitives : List Primitive}
  {domain : String} {housed ready : Files} {secrets : Secret.Store} {failure : Failure} {w : World σ}

/-- A live run that is otherwise ready ends where something escapes from the profile of its domain. -/
theorem answer_of_escapes (hlive : options.dryRun = false) (hcompile : plan.compile = .ok primitives)
    (hdomain : Profile.domainOf (primitives.map Primitive.toAction) = .ok domain)
    (hhouse : w.files.ensureDirectory (dirOf options w) = .ok housed)
    (hlog : housed.openForAppend (Path.ofParts ((runLog (dirOf options w)).resolve housed.home)) =
      .ok ready)
    (hsecrets : secretsIn host options ready = .ok secrets)
    (h : Profile.Escapes ready options.profiles domain failure) :
    (outcome (run host options plan) w).1 = .error failure := by
  have hload : Profile.loadable options.profiles domain ready = .error failure := by
    have hanswer := Profile.answer_of_load options.profiles domain { w with files := ready }
    rw [← hanswer, Profile.Escapes.execution h]
    rfl
  refine answer_of_unready ?_
  simp [readiness, hhouse, hcompile, hlog, hlive, hsecrets, hdomain, hload, bind, Except.bind]

end Run
end Walkthrough
