import Walkthrough.Proofs.Files.Directories
import Walkthrough.Proofs.Run.Coupling
import Walkthrough.Proofs.World

/-! # What a run does to its world

All that a run does is made of a few kinds of changes, and it writes only a few kinds of files. What
holds of each change holds of whole runs, whatever the plan and the browser are. -/

namespace Walkthrough.Run

open Effect

variable {σ α : Type} {runDir profiles : Path}

/-- One thing that a run does to its world. -/
inductive Change (runDir profiles : Path) : World σ → World σ → Prop
  | called (w : World σ) (c : Call) :
      Change runDir profiles w { w with events := w.events ++ [.call c] }
  | replied (w : World σ) (state : σ) (now : Instant) :
      Change runDir profiles w { w with browser := state, now := now }
  | learned (w : World σ) (profile : Profile) :
      Change runDir profiles w { w with profile := profile }
  | noted (w : World σ) (line : LogLine) :
      Change runDir profiles w { w with log := w.log ++ [line] }
  | named (w : World σ) : Change runDir profiles w { w with names := w.names + 1 }
  | written (w : World σ) {path : Path} {content : Text.Content} {files : Files}
      (output : Output runDir profiles path content)
      (write : w.files.write path content = .ok files) :
      Change runDir profiles w
        { w with files := files, events := w.events ++ [.write path.text true] }
  | unwritten (w : World σ) {path : Path} {content : Text.Content}
      (output : Output runDir profiles path content) :
      Change runDir profiles w { w with events := w.events ++ [.write path.text false] }
  | housed (w : World σ) {root : Path} {files : Files} (known : root = runDir ∨ root = profiles)
      (made : w.files.ensureDirectory root = .ok files) :
      Change runDir profiles w { w with files := files }
  | opened (w : World σ) {files : Files}
      (open_ : w.files.openForAppend (Path.ofParts ((runLog runDir).resolve w.files.home)) =
        .ok files) :
      Change runDir profiles w { w with files := files }
  | logged (w : World σ) {files : Files} {s : String}
      (append : w.files.append (runLog runDir) s = .ok files) :
      Change runDir profiles w { w with files := files }

/-! ## Basic work -/

theorem follows_record (c : Call) :
    Follows (Change runDir profiles) (Work.record (.call c) : Work σ Unit) :=
  follows_modify fun w => .single (.called w c)

theorem follows_note (level : Level) (message : String) :
    Follows (Change runDir profiles) (Work.note level message : Work σ Unit) :=
  follows_modify fun w => .single (.noted w ⟨level, message⟩)

theorem follows_receive (reply : σ → Reply σ α) :
    Follows (Change runDir profiles) (Work.receive reply) := by
  intro w
  simp only [outcome_receive]
  exact .single (.replied w _ _)

theorem follows_call (c : Call) (reply : σ → Reply σ α) :
    Follows (Change runDir profiles) (Work.call c reply) :=
  (follows_record c).bind fun _ => follows_receive reply

theorem follows_writeFile {path : Path} {content : Text.Content}
    (h : Output runDir profiles path content) :
    Follows (Change runDir profiles) (Work.writeFile path content : Work σ Unit) := by
  intro w
  simp only [Work.writeFile, outcome_bind, outcome_get]
  split
  · rename_i files hfiles
    exact .single (.written w h hfiles)
  · exact .single (.unwritten w h)

theorem follows_ensureDirectory {root : Path} (h : root = runDir ∨ root = profiles) :
    Follows (Change runDir profiles)
      (Work.change (fun files => files.ensureDirectory root) : Work σ Unit) := by
  intro w
  simp only [Work.change, outcome_bind, outcome_get]
  split
  · rename_i files hfiles
    exact .single (.housed w h hfiles)
  · exact .refl

theorem follows_openLog : Follows (Change runDir profiles) (openLog runDir : Work σ Unit) := by
  intro w
  simp only [openLog, Work.change, outcome_bind, outcome_get]
  split
  · rename_i files hfiles
    exact .single (.opened w hfiles)
  · exact .refl

theorem follows_logTo (level : Level) (message : String) :
    Follows (Change runDir profiles) (logTo runDir level message : Work σ Unit) := by
  refine follows_modify fun w => ?_
  split
  · rename_i files hfiles
    exact .single (.logged w hfiles)
  · exact .refl

theorem follows_profile (profile : Profile) :
    Follows (Change runDir profiles)
      (modify fun w => { w with profile := profile } : Work σ Unit) :=
  follows_modify fun w => .single (.learned w profile)

/-! ## Whole runs -/

/-- Whatever the parts of a run do is a change of these kinds. -/
theorem coupling_along (b : Browser σ) (w : World σ) :
    Coupling (Along (Change runDir profiles) w) b runDir profiles where
  toSeenAlike := seenAlike_along b _ w
  profiled profile h := ((follows_profile profile).respects h).2
  called _ := (follows_call _ _).respects
  read _ _ := (follows_receive _).respects
  looked f := (follows_look f).respects
  noted level message := (follows_note level message).respects
  logged level message := (follows_logTo level message).respects
  opened := follows_openLog.respects
  housed h := (follows_ensureDirectory h).respects
  written h := (follows_writeFile h).respects

theorem fillsAlike_along (stage : Stage σ) (w : World σ) :
    Stage.FillsAlike (Along (Change runDir profiles) w) stage stage.secrets :=
  Stage.fillsAlike_self fun _ _ _ => (follows_call _ _).respects

section Stages

variable (stage : Stage σ)

theorem follows_runStep (p : Primitive) :
    Follows (Change stage.runDir profiles) (stage.run p) :=
  follows_of_respects fun w => ((coupling_along _ w).staged (fillsAlike_along stage w)).run p

theorem follows_steps (progress : Progress) (primitives : List Primitive) :
    Follows (Change stage.runDir profiles) (steps stage progress primitives) :=
  follows_of_respects fun w =>
    ((coupling_along _ w).staged (fillsAlike_along stage w)).steps progress primitives

theorem follows_stopTrace : Follows (Change stage.runDir profiles) (stopTrace stage) :=
  follows_of_respects fun w => (coupling_along _ w).tracing.stopTrace

theorem follows_saveProfile :
    Follows (Change stage.runDir profiles) (saveProfile stage profiles) :=
  follows_of_respects fun w => (coupling_along _ w).saveProfile

end Stages

theorem follows_keep (report : Report) :
    Follows (Change runDir profiles) (keep runDir report : Work σ Unit) :=
  follows_of_respects fun _ => respects_keep (follows_writeFile (.report report)).respects

theorem follows_secretsFor (host : Host σ) (options : RunOptions) :
    Follows (Change runDir profiles) (secretsFor host options) := by
  unfold secretsFor
  split
  · exact follows_pure _
  · exact follows_look _

theorem follows_pickName (options : RunOptions) :
    Follows (Change runDir profiles) (pickName options : Work σ String) := by
  unfold pickName
  split
  · exact follows_pure _
  · intro w
    simp only [Work.nameRun, outcome_bind, outcome_get, outcome_set, outcome_pure]
    exact .single (.named w)

theorem paired_along (host : Host σ) (options : RunOptions) (w : World σ) :
    Paired (Along (Change runDir profiles) w) host host options runDir Eq where
  browser := rfl
  secrets := (follows_secretsFor host options).respects
  filled h := h ▸ fillsAlike_along _ w

theorem follows_runAs (host : Host σ) (options : RunOptions) (plan : Plan) (runId : String) :
    Follows (Change (options.artifactsRoot.child runId) options.profiles)
      (runAs host options plan runId) :=
  follows_of_respects fun w => (coupling_along _ w).runAs (paired_along host options w) plan

/-- A run changes its world in the ways of a run, in a directory of its own. -/
theorem exists_changes (host : Host σ) (options : RunOptions) (plan : Plan) (w : World σ) :
    ∃ runId, Relation.ReflTransGen (Change (options.artifactsRoot.child runId) options.profiles) w
      (outcome (run host options plan) w).2 := by
  have hpick : ∀ runId, Follows (Change (options.artifactsRoot.child runId) options.profiles)
      (pickName options : Work σ String) := fun _ => follows_pickName options
  rw [run_eq, outcome_bind]
  rcases h : outcome (pickName options) w with ⟨failure | runId, w'⟩
  · have hname := hpick "" w
    rw [h] at hname
    exact ⟨"", hname⟩
  · have hname := hpick runId w
    rw [h] at hname
    exact ⟨runId, hname.trans (follows_runAs host options plan runId w')⟩

/-! ## Events -/

theorem Change.events_prefix {w w' : World σ} (h : Change runDir profiles w w') :
    w.events <+: w'.events := by
  cases h <;> simp

/-- What holds of each change holds of all changes in a row. -/
theorem related_of_follows {r : World σ → World σ → Prop} (hrefl : ∀ w, r w w)
    (htrans : ∀ {w w' w''}, r w w' → r w' w'' → r w w'')
    (hchange : ∀ {w w'}, Change runDir profiles w w' → r w w') {x : Work σ α}
    (hx : Follows (Change runDir profiles) x) (w : World σ) : r w (outcome x w).2 := by
  have h := hx w
  generalize (outcome x w).2 = w' at h ⊢
  induction h with
  | refl => exact hrefl w
  | tail _ hlast ih => exact htrans ih (hchange hlast)

/-- What was recorded stays. -/
theorem events_prefix_of_follows {x : Work σ α} (hx : Follows (Change runDir profiles) x)
    (w : World σ) : w.events <+: (outcome x w).2.events := by
  refine related_of_follows (r := fun w w' => w.events <+: w'.events) ?_ ?_ ?_ hx w
  · exact fun w => List.prefix_refl w.events
  · exact fun h h' => h.trans h'
  · exact fun h => h.events_prefix

theorem Change.directoriesStay {w w' : World σ} (h : Change runDir profiles w w') :
    Files.DirectoriesStay w.files w'.files := by
  cases h with
  | called | replied | learned | noted | named | unwritten => exact .refl _
  | written output write => exact Files.directoriesStay_write write
  | housed known made => exact Files.directoriesStay_ensureDirectory made
  | opened found => exact Files.directoriesStay_openForAppend found
  | logged append => exact Files.directoriesStay_append append

theorem directoriesStay_of_follows {x : Work σ α} (hx : Follows (Change runDir profiles) x)
    (w : World σ) : Files.DirectoriesStay w.files (outcome x w).2.files := by
  refine related_of_follows (r := fun w w' => Files.DirectoriesStay w.files w'.files) ?_ ?_ ?_ hx w
  · exact fun w => .refl w.files
  · exact fun h h' => h.trans h'
  · exact fun h => h.directoriesStay

/-- A run whose directories are there makes no others. -/
theorem Change.sameDirectories {w w' : World σ} (h : Change runDir profiles w w')
    (hdir : w.files.isDirectory runDir = true) (hroot : w.files.isDirectory profiles = true) :
    Files.SameDirectories w.files w'.files := by
  cases h with
  | called | replied | learned | noted | named | unwritten => exact .refl _
  | written output write => exact Files.sameDirectories_write write
  | housed known made =>
      have hthere : w.files.isDirectory _ = true := known.elim (· ▸ hdir) (· ▸ hroot)
      rw [Files.ensureDirectory_of_isDirectory hthere] at made
      cases made
      exact .refl _
  | opened found => exact Files.sameDirectories_openForAppend found
  | logged append => exact Files.sameDirectories_append append

theorem sameDirectories_of_follows {x : Work σ α} (hx : Follows (Change runDir profiles) x)
    (w : World σ) (hdir : w.files.isDirectory runDir = true)
    (hroot : w.files.isDirectory profiles = true) :
    Files.SameDirectories w.files (outcome x w).2.files := by
  have h := hx w
  generalize (outcome x w).2 = w' at h ⊢
  induction h with
  | refl => exact .refl w.files
  | tail _ hlast ih => exact ih.trans (hlast.sameDirectories (ih.stay.isDirectory hdir) (ih.stay.isDirectory hroot))

/-! ## Requests -/

/-- The requests for repairs that were made. -/
def requestsIn (w : World σ) : List Repair.Request :=
  w.events.filterMap fun
    | .ask request => some request
    | _ => none

theorem Change.requestsIn_eq {w w' : World σ} (h : Change runDir profiles w w') :
    requestsIn w' = requestsIn w := by
  cases h <;> simp [requestsIn]

/-- A run asks for no repair. -/
theorem requestsIn_run (host : Host σ) (options : RunOptions) (plan : Plan) (w : World σ) :
    requestsIn (outcome (run host options plan) w).2 = requestsIn w := by
  obtain ⟨runId, h⟩ := exists_changes host options plan w
  generalize (outcome (run host options plan) w).2 = w' at h ⊢
  induction h with
  | refl => rfl
  | tail _ hchange ih => exact hchange.requestsIn_eq.trans ih

end Walkthrough.Run
