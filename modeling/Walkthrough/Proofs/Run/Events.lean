import Walkthrough.Proofs.Files
import Walkthrough.Proofs.Profile
import Walkthrough.Proofs.Run.Coupling
import Walkthrough.Proofs.World

/-! # The events of a run

Each part of a run records what it does. Steps only call the page and keep evidence, the session and
its trace record their own calls, and no part but the last writes the report. -/

namespace Walkthrough

open Effect

variable {σ α : Type}

namespace Run

variable {runDir : Path}

/-! ## Reports among files -/

/-- No report is in the directory of a run. -/
def Unreported (runDir : Path) (files : Files) : Prop :=
  ∀ content, files.node? ((reportFile runDir).resolve files.home) ≠ some (.file content)

theorem Unreported.of_sameFiles {files files' : Files} (h : Unreported runDir files)
    (hsame : Files.SameFiles files files') : Unreported runDir files' := by
  intro content
  rw [hsame.home, ne_eq, hsame.file]
  exact h content

/-- A file with another name than a report has another place. -/
theorem resolve_ne_reportFile (p : Path) {name : String} (hname : Path.IsPart name)
    (hup : name ≠ "..") (hne : name ≠ "RunResult.json") (home : List String) :
    (p.child name).resolve home ≠ (reportFile runDir).resolve home :=
  Path.resolve_child_ne p runDir hname hup (by decide) (by decide) hne home

theorem Unreported.put_child {files : Files} (h : Unreported runDir files) (p : Path) {name : String}
    (hname : Path.IsPart name) (hup : name ≠ "..") (hne : name ≠ "RunResult.json") (node : Node) :
    Unreported runDir (files.put ((p.child name).resolve files.home) node) := by
  intro content
  rw [Files.home_put, Files.node?_put_of_ne (resolve_ne_reportFile p hname hup hne files.home)]
  exact h content

theorem Unreported.write_child {files files' : Files} (h : Unreported runDir files) {p : Path}
    {name : String} (hname : Path.IsPart name) (hup : name ≠ "..") (hne : name ≠ "RunResult.json")
    {content : Text.Content} (hwrite : files.write (p.child name) content = .ok files') :
    Unreported runDir files' := by
  obtain ⟨-, rfl⟩ := Files.write_eq_ok hwrite
  exact h.put_child p hname hup hne _

/-- What a part of a run leaves alone: the domain of the site profile, and the lack of a report. -/
structure Spared (runDir : Path) (w w' : World σ) : Prop where
  domain : w'.profile.domain = w.profile.domain
  unreported : Unreported runDir w.files → Unreported runDir w'.files

theorem Spared.refl (w : World σ) : Spared runDir w w :=
  ⟨rfl, id⟩

theorem Spared.trans {w w' w'' : World σ} (h : Spared runDir w w') (h' : Spared runDir w' w'') :
    Spared runDir w w'' :=
  ⟨h'.domain.trans h.domain, h'.unreported ∘ h.unreported⟩

theorem spared_after (w : World σ) (c : Call) (reply : Reply σ α) :
    Spared runDir w (w.after c reply) :=
  ⟨rfl, id⟩

/-! ## Logs -/

/-- The same world but for its files, with the same in the place of the report. -/
structure Filed (runDir : Path) (w w' : World σ) : Prop where
  rest : w' = { w with files := w'.files }
  report : w'.files.node? ((reportFile runDir).resolve w'.files.home) =
    w.files.node? ((reportFile runDir).resolve w.files.home)

section Filed

variable {w w' : World σ} (h : Filed runDir w w')
include h

theorem Filed.browser : w'.browser = w.browser :=
  congrArg (fun v => v.browser) h.rest

theorem Filed.now : w'.now = w.now :=
  congrArg (fun v => v.now) h.rest

theorem Filed.profile : w'.profile = w.profile :=
  congrArg (fun v => v.profile) h.rest

theorem Filed.events : w'.events = w.events :=
  congrArg (fun v => v.events) h.rest

theorem Filed.unreported (hw : Unreported runDir w.files) : Unreported runDir w'.files := by
  intro content
  rw [h.report]
  exact hw content

end Filed

theorem Filed.refl (w : World σ) : Filed runDir w w :=
  ⟨rfl, rfl⟩

theorem Filed.spared {w w' : World σ} (h : Filed runDir w w') : Spared runDir w w' :=
  ⟨by rw [h.profile], h.unreported⟩

theorem exists_logTo (runDir : Path) (level : Level) (message : String) (w : World σ) :
    ∃ w', outcome (logTo runDir level message) w = (.ok (), w') ∧ Filed runDir w w' := by
  refine ⟨_, rfl, ?_⟩
  dsimp only
  split
  · rename_i files hfiles
    obtain ⟨old, -, rfl⟩ := Files.append_eq_ok hfiles
    exact ⟨rfl, Files.node?_put_of_ne
      (resolve_ne_reportFile runDir (by decide) (by decide) (by decide) w.files.home) _⟩
  · exact .refl w

theorem exists_log (stage : Stage σ) (level : Level) (message : String) (w : World σ) :
    ∃ w', outcome (stage.log level message) w = (.ok (), w') ∧ Filed stage.runDir w w' :=
  exists_logTo stage.runDir level message w

/-- A line in the log changes nothing in what is read under another name. -/
theorem read_of_logTo {p : Path} {level : Level} {message name : String} {content : Text.Content}
    {w w' : World σ} (h : outcome (logTo runDir level message) w = (.ok (), w'))
    (hname : Path.IsPart name) (hup : name ≠ "..") (hne : name ≠ "runner.log")
    (hread : w.files.read (p.child name) = .ok content) :
    w'.files.read (p.child name) = .ok content := by
  rw [logTo, outcome_modify] at h
  obtain rfl := (Prod.mk.inj h).2
  split
  · rename_i files happend
    refine Files.read_of_append_ne hread happend ?_
    exact Path.resolve_child_ne runDir p (by decide) (by decide) hname hup hne.symm w.files.home
  · exact hread

/-! ## Steps -/

/-- The events of steps: calls on a page, and attempts to keep evidence. -/
inductive StepEvent (runDir : Path) : Event → Prop
  | call {c : Call} (onPage : c.isOnPage) : StepEvent runDir (.call c)
  | screenshot (n : Nat) (done : Bool) :
      StepEvent runDir (.write (screenshotFile runDir n).text done)
  | snapshot (n : Nat) (done : Bool) : StepEvent runDir (.write (snapshotFile runDir n).text done)

/-- What steps do to a world: they record events of steps, and write no report. -/
structure Worked (runDir : Path) (w w' : World σ) : Prop extends Spared runDir w w' where
  events : ∃ work, w'.events = w.events ++ work ∧ ∀ e ∈ work, StepEvent runDir e

theorem Worked.refl (w : World σ) : Worked runDir w w :=
  ⟨.refl w, [], by simp⟩

theorem Worked.trans {w w' w'' : World σ} (h : Worked runDir w w') (h' : Worked runDir w' w'') :
    Worked runDir w w'' := by
  obtain ⟨work, hwork, hall⟩ := h.events
  obtain ⟨work', hwork', hall'⟩ := h'.events
  refine ⟨h.toSpared.trans h'.toSpared, work ++ work', ?_, fun e he => ?_⟩
  · rw [hwork', hwork, List.append_assoc]
  · exact (List.mem_append.mp he).elim (hall e) (hall' e)

instance : Std.Refl (α := World σ) (Worked runDir) :=
  ⟨.refl⟩

instance : IsTrans (World σ) (Worked runDir) :=
  ⟨fun _ _ _ => .trans⟩

theorem Filed.worked {w w' : World σ} (h : Filed runDir w w') : Worked runDir w w' :=
  ⟨h.spared, [], by simp [h.events]⟩

theorem follows_call_onPage {c : Call} (hpage : c.isOnPage) (reply : σ → Reply σ α) :
    Follows (Worked runDir) (Work.call c reply) := by
  intro w
  rw [outcome_call]
  refine .single ⟨spared_after w c _, [.call c], rfl, fun e he => ?_⟩
  obtain rfl := List.mem_singleton.mp he
  exact .call hpage

theorem follows_read (reply : σ → Reply σ α) : Follows (Worked runDir) (Work.receive reply) := by
  intro w
  simp only [outcome_receive]
  exact .single ⟨⟨rfl, id⟩, [], by simp⟩

theorem follows_logStep (level : Level) (message : String) :
    Follows (Worked runDir) (logTo runDir level message : Work σ Unit) := by
  intro w
  obtain ⟨w', hlog, hfiled⟩ := exists_logTo runDir level message w
  rw [hlog]
  exact .single hfiled.worked

theorem follows_evidence {name : String} (hname : Path.IsPart name) (hup : name ≠ "..")
    (hne : name ≠ "RunResult.json")
    (hevent : ∀ done, StepEvent runDir (.write (runDir.child name).text done))
    (content : Text.Content) :
    Follows (Worked runDir) (Work.writeFile (runDir.child name) content : Work σ Unit) := by
  intro w
  rw [outcome_writeFile]
  split
  · rename_i files hfiles
    exact .single ⟨⟨rfl, fun h => h.write_child hname hup hne hfiles⟩, _, rfl,
      by simpa using hevent true⟩
  · exact .single ⟨⟨rfl, id⟩, _, rfl, by simpa using hevent false⟩

theorem coupling_worked (stage : Stage σ) (w : World σ) :
    Stage.Coupling (Along (Worked stage.runDir) w) stage stage.secrets where
  toSeenAlike := seenAlike_along stage.browser _ w
  learned target selector h := by
    obtain ⟨rfl, hsteps⟩ := h
    exact ⟨rfl, hsteps.tail ⟨⟨rfl, id⟩, [], by simp⟩⟩
  called _ hpage := (follows_call_onPage hpage _).respects
  read _ _ := (follows_read _).respects
  filled := Stage.fillsAlike_self fun _ _ _ => (follows_call_onPage rfl _).respects
  logged level message := (follows_logStep level message).respects
  shot n data := (follows_evidence (isPart_screenshot n).1 (isPart_screenshot n).2
    (Path.numbered_ne (c := 'f') rfl (by decide) n) (.screenshot n) data).respects
  snapped n html := (follows_evidence (isPart_snapshot n).1 (isPart_snapshot n).2
    (Path.numbered_ne (c := 'f') rfl (by decide) n) (.snapshot n) _).respects

/-- Steps only do what steps do, however they end. -/
theorem worked_steps (stage : Stage σ) (progress : Progress) (primitives : List Primitive)
    (w : World σ) :
    Worked stage.runDir w (outcome (steps stage progress primitives) w).2 :=
  (follows_of_respects fun start => (coupling_worked stage start).steps progress primitives).related w

end Run
end Walkthrough
