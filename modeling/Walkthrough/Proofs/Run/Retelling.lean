import Walkthrough.Proofs.Files.Likeness
import Walkthrough.Proofs.Run.Course

/-! # What a run tells does not bear on what it does

A run writes to its log and its report, but reads neither. So a run that says something else there goes
through the same calls and leaves everything else in the same state. -/

namespace Walkthrough.Run

open Effect

variable {σ α : Type} {runDir profiles : Path}

/-- A world, and the same one where the log and the report of a run may say something else. -/
inductive Retold (runDir : Path) : World σ → World σ → Prop
  | mk {w : World σ} (files : Files)
      (alike : Files.SameBut [runLog runDir, reportFile runDir] w.files files) :
      Retold runDir w { w with files := files }

section Retold

variable {w w' : World σ} (h : Retold runDir w w')
include h

theorem Retold.alike : Files.SameBut [runLog runDir, reportFile runDir] w.files w'.files := by
  cases h with
  | mk files alike => exact alike

theorem Retold.browser : w'.browser = w.browser := by
  cases h
  rfl

theorem Retold.now : w'.now = w.now := by
  cases h
  rfl

theorem Retold.profile : w'.profile = w.profile := by
  cases h
  rfl

theorem Retold.events : w'.events = w.events := by
  cases h
  rfl

end Retold

theorem Retold.refl (w : World σ) : Retold runDir w w :=
  .mk w.files (.refl w.files)

/-! ## Writing -/

theorem lockstep_logTo (level : Level) (message message' : String) :
    Lockstep (Retold runDir) Eq (logTo runDir level message : Work σ Unit)
      (logTo runDir level message') := by
  refine lockstep_modify fun w w' hr => ?_
  obtain ⟨files, alike⟩ := hr
  dsimp only
  have happend := alike.append (p := runLog runDir) (by simp)
    ((⟨level, message⟩ : LogLine).text w.now []) ((⟨level, message'⟩ : LogLine).text w.now [])
  match w.files.append (runLog runDir) _, files.append (runLog runDir) _, happend with
  | _, _, .ok related => exact .mk _ related
  | _, _, .error _ => exact .mk _ alike

theorem lockstep_writeFile {path : Path} {content content' : Text.Content}
    (h : content' = content ∨ path ∈ [runLog runDir, reportFile runDir]) :
    Lockstep (Retold runDir) Eq (Work.writeFile path content : Work σ Unit)
      (Work.writeFile path content') := by
  intro w w' hr
  obtain ⟨files, alike⟩ := hr
  rw [outcome_writeFile, outcome_writeFile]
  match w.files.write path content, files.write path content', alike.write h with
  | _, _, .ok related => exact ⟨.ok rfl, .mk _ related⟩
  | _, _, .error failure => exact ⟨.error failure, .mk _ alike⟩

theorem respects_retold_housing (root : Path) :
    Respects (Retold runDir)
      (Work.change fun files => files.ensureDirectory root : Work σ Unit) := by
  intro w w' hr
  obtain ⟨files, alike⟩ := hr
  simp only [Work.change, outcome_bind, outcome_get]
  rcases answers_iff.mp (alike.ensureDirectory root) with ⟨made, made', hmade, hmade', related⟩ |
    ⟨failure, hmade, hmade'⟩
  · rw [hmade, hmade']
    exact ⟨.ok rfl, .mk _ related⟩
  · rw [hmade, hmade']
    exact ⟨.error failure, .mk _ alike⟩

/-- All that a run does once its site profile is loaded is done alike. -/
theorem onward_retold (b : Browser σ) (runDir profiles : Path) :
    Onward (Retold runDir) b runDir profiles where
  url h := by rw [h.browser]
  now h := h.now
  profile h := h.profile
  profiled profile h := by
    obtain ⟨files, alike⟩ := h
    exact .mk files alike
  called _ := by
    intro w w' hr
    obtain ⟨files, alike⟩ := hr
    rw [outcome_call, outcome_call]
    exact ⟨.refl _, .mk _ alike⟩
  read _ _ := by
    intro w w' hr
    obtain ⟨files, alike⟩ := hr
    simp only [outcome_receive]
    exact ⟨.refl _, .mk _ alike⟩
  logged level message := lockstep_logTo level message message
  housed _ := respects_retold_housing _
  written _ := lockstep_writeFile (.inl rfl)

/-- Whether a report can be kept does not depend on what it says, as long as it is a document. -/
theorem lockstep_keep {report report' : Report} (h : report.toJson.isOverlong = false)
    (h' : report'.toJson.isOverlong = false) :
    Lockstep (Retold runDir) Eq (keep runDir report : Work σ Unit) (keep runDir report') := by
  rw [keep_of_not_isOverlong h, keep_of_not_isOverlong h']
  exact (lockstep_writeFile (.inr (by simp))).handling fun _ => lockstep_throw _

theorem lockstep_conclude {report report' : Report} (h : report.toJson.isOverlong = false)
    (h' : report'.toJson.isOverlong = false) (hname : report'.runId = report.runId)
    (hverdict : report'.verdict = report.verdict) :
    Lockstep (Retold runDir) (fun found found' => found = report ∧ found' = report')
      (conclude runDir report : Work σ Report) (conclude runDir report') := by
  refine (lockstep_keep h h').bind_eq fun _ => ?_
  rw [hname, hverdict]
  exact (lockstep_logTo .info _ _).bind_eq fun _ => lockstep_pure ⟨rfl, rfl⟩

end Walkthrough.Run
