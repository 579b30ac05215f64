import Walkthrough.Proofs.Run.Frame

/-! # Getting ready

Before its session a run makes its directory, opens its log, and finds the values of secrets and the
site profile. Whether it gets so far depends on its plan and on files alone. -/

namespace Walkthrough

open Effect

variable {σ α : Type}

/-! ## Answers -/

section Answers

variable {β γ : Type} {x : Work σ α} {e : Except Failure α} {w : World σ}

/-- Work that leaves the world as it is only lends its answer to what follows. -/
theorem map_answer_bind (h : outcome x w = (e, w)) (f : α → Work σ β) (g : β → γ) :
    (outcome (x >>= f) w).1.map g = e >>= fun a => (outcome (f a) w).1.map g := by
  rw [outcome_bind, h]
  cases e <;> rfl

/-- After a change of the files, work goes on with these if the change was possible. -/
theorem map_answer_change_bind {f : Files → Except Failure Files} {x : Work σ β} {g : β → γ}
    {after : Files → Except Failure γ}
    (h : ∀ files (v : World σ), v.files = files → (outcome x v).1.map g = after files) :
    (outcome (Work.change f >>= fun _ => x) w).1.map g = f w.files >>= after := by
  simp only [Work.change, outcome_bind, outcome_get]
  cases f w.files with
  | ok files => exact h files _ rfl
  | error failure => rfl

/-- Nothing follows on work that fails. -/
theorem answer_bind_of_map {f : α → Work σ β} {g : α → γ} {failure : Failure}
    (h : (outcome x w).1.map g = .error failure) : (outcome (x >>= f) w).1 = .error failure := by
  rw [outcome_bind]
  rcases hcase : outcome x w with ⟨found | a, w'⟩
  · rw [hcase] at h
    cases h
    rfl
  · rw [hcase] at h
    cases h

end Answers

/-! ## What files are refused with -/

/-- The failures that come of files: the file system refuses, or a name or a text does not do. -/
def Failure.isOfFiles (failure : Failure) : Prop :=
  failure.isSystem = true ∨ failure.isValue = true

namespace Files

variable {files : Files} {p : Path}

theorem failsOnly_locate : FailsOnly Failure.isOfFiles (files.locate p) := by
  intro failure h
  cases hnull : Path.hasNull p.text with
  | false => exact .inl (locate_eq_error hnull h)
  | true =>
      rw [locate, hnull] at h
      cases h
      exact .inr rfl

theorem failsOnly_read : FailsOnly Failure.isOfFiles (files.read p) := by
  refine failsOnly_locate.bind fun key => ?_
  split
  · exact failsOnly_ok _ _
  · exact failsOnly_error (.inl rfl)
  · exact failsOnly_error (.inl rfl)

theorem failsOnly_readText : FailsOnly Failure.isOfFiles (files.readText p) := by
  refine failsOnly_read.bind fun content => ?_
  split
  · exact failsOnly_ok _ _
  · exact failsOnly_error (.inr rfl)

theorem failsOnly_write {content : Text.Content} :
    FailsOnly Failure.isOfFiles (files.write p content) := by
  refine failsOnly_locate.bind fun key => ?_
  split
  · exact failsOnly_error (.inl rfl)
  · split
    · exact failsOnly_ok _ _
    · exact failsOnly_error (.inl rfl)
    · exact failsOnly_error (.inl rfl)

theorem failsOnly_openForAppend : FailsOnly Failure.isOfFiles (files.openForAppend p) := by
  unfold openForAppend
  split
  · exact failsOnly_ok _ _
  · exact failsOnly_write

theorem failsOnly_makeDirectory : FailsOnly Failure.isOfFiles (files.makeDirectory p) := by
  refine failsOnly_locate.bind fun key => ?_
  split
  · exact failsOnly_error (.inl rfl)
  · exact failsOnly_ok _ _

theorem failsOnly_makeDirectories (fuel : Nat) :
    FailsOnly Failure.isOfFiles (makeDirectories fuel files p) := by
  induction fuel generalizing p with
  | zero => exact failsOnly_ok _ _
  | succ fuel ih =>
      unfold makeDirectories
      split
      · exact failsOnly_ok _ _
      · split
        · exact failsOnly_error (.inl rfl)
        · split
          · rename_i found hfound
            exact failsOnly_error (ih found hfound)
          · split
            · exact failsOnly_ok _ _
            · rename_i refused hrefused
              split
              · exact failsOnly_ok _ _
              · exact failsOnly_error (failsOnly_makeDirectory refused hrefused)
      · rename_i refused _ hrefused
        split
        · exact failsOnly_ok _ _
        · exact failsOnly_error (failsOnly_makeDirectory refused hrefused)

end Files

/-! ## Loading a site profile -/

/-- Whether the site profile of a domain is loaded from files, be it as an empty one. -/
def Profile.loadable (root : Path) (domain : String) (files : Files) : Except Failure Unit :=
  match (files.readText (file root domain)).bind (ofText domain) with
  | .ok _ => .ok ()
  | .error failure => if isPassedOver failure then .ok () else .error failure

theorem Profile.answer_of_load (root : Path) (domain : String) (w : World σ) :
    (outcome (load root domain) w).1.map (fun _ => ()) = loadable root domain w.files := by
  rw [answer_of_load_eq]
  unfold loadable
  cases hanswer : (w.files.readText (file root domain)).bind (ofText domain) with
  | ok found => rfl
  | error failure =>
      unfold answerTo
      dsimp only
      split <;> rfl

theorem Profile.failsOnly_loadable (root : Path) (domain : String) (files : Files) :
    FailsOnly Failure.isOfFiles (loadable root domain files) := by
  have hread : FailsOnly Failure.isOfFiles
      ((files.readText (file root domain)).bind (ofText domain)) := by
    refine Files.failsOnly_readText.bind fun s => ?_
    unfold ofText
    split
    · exact failsOnly_error (.inr rfl)
    · exact failsOnly_ok _ _
    · exact failsOnly_ok _ _
  unfold loadable
  split
  · exact failsOnly_ok _ _
  · rename_i failure hfailure
    split
    · exact failsOnly_ok _ _
    · exact failsOnly_error (hread failure hfailure)

theorem Profile.failsOnly_domainOf (actions : List Action) :
    FailsOnly Failure.isOfFiles (domainOf actions) := by
  induction actions with
  | nil => exact failsOnly_ok _ _
  | cons action rest ih =>
      unfold domainOf
      split
      · split
        · unfold domainOfUrl
          split
          · exact failsOnly_error (.inr rfl)
          · exact failsOnly_ok _ _
        · exact failsOnly_ok _ _
      · exact ih

/-! ## Runs -/

namespace Run

/-- The values of secrets that a run finds among files. -/
def secretsIn (host : Host σ) (options : RunOptions) (files : Files) : Except Failure Secret.Store :=
  match host.secrets with
  | some store => .ok store
  | none => Secret.Store.build host.environment files options.envFile

theorem outcome_secretsFor (host : Host σ) (options : RunOptions) (w : World σ) :
    outcome (secretsFor host options) w = (secretsIn host options w.files, w) := by
  unfold secretsFor secretsIn
  cases host.secrets <;> rfl

/-- Whether a run gets ready in a directory: the directory and the log in it are made, and a live run
finds the values of secrets and the site profile. -/
def readiness (host : Host σ) (options : RunOptions) (plan : Plan) (dir : Path) (files : Files) :
    Except Failure Unit := do
  let housed ← files.ensureDirectory dir
  let primitives ← plan.compile
  let ready ← housed.openForAppend (Path.ofParts ((runLog dir).resolve housed.home))
  if options.dryRun then return ()
  else
    let _ ← secretsIn host options ready
    let domain ← Profile.domainOf (primitives.map Primitive.toAction)
    Profile.loadable options.profiles domain ready

variable {host : Host σ} {options : RunOptions} {plan : Plan} {w : World σ}

variable (host plan) in
theorem answer_of_prepare (hlive : options.dryRun = false) (w : World σ) :
    (outcome (prepare host options plan) w).1.map (fun _ => ()) =
      readiness host options plan (dirOf options w) w.files := by
  obtain ⟨named, hpick⟩ := outcome_pickName options w
  rw [prepare, outcome_bind_of_ok hpick, dirOf, prepareAs, readiness]
  refine map_answer_change_bind ?_
  rintro _ housed rfl
  rw [map_answer_bind (outcome_ofExcept _ _)]
  refine bind_congr fun primitives => map_answer_change_bind ?_
  rintro _ ready rfl
  rw [outcome_bind_of_ok (outcome_now _), map_answer_bind (outcome_secretsFor host options _), hlive]
  refine bind_congr fun secrets => ?_
  rw [map_answer_bind (outcome_ofExcept _ _)]
  refine bind_congr fun domain => ?_
  rw [← Profile.answer_of_load, outcome_bind]
  rcases outcome (Profile.load options.profiles domain) ready with ⟨failure | profile, loaded⟩ <;> rfl

variable (host plan) in
theorem answer_of_turnDry (hdry : options.dryRun = true) (runId : String) (w : World σ) :
    (outcome (turnDry options plan runId) w).1.map (fun _ => ()) =
      readiness host options plan (options.artifactsRoot.child runId) w.files := by
  rw [turnDry, readiness]
  refine map_answer_change_bind ?_
  rintro _ housed rfl
  rw [map_answer_bind (outcome_ofExcept _ _)]
  refine bind_congr fun primitives => map_answer_change_bind ?_
  rintro _ ready rfl
  rw [hdry]
  rfl

/-- A run that does not get ready fails. -/
theorem answer_of_unready {failure : Failure}
    (h : readiness host options plan (dirOf options w) w.files = .error failure) :
    (outcome (run host options plan) w).1 = .error failure := by
  cases hdry : options.dryRun with
  | false =>
      rw [run_eq_prepare host options plan hdry]
      exact answer_bind_of_map ((answer_of_prepare host plan hdry w).trans h)
  | true =>
      obtain ⟨named, hpick⟩ := outcome_pickName options w
      rw [dirOf] at h
      rw [run_eq_dry hdry, outcome_bind_of_ok hpick]
      exact answer_bind_of_map ((answer_of_turnDry host plan hdry (nameOf options w) _).trans h)

theorem failsOnly_secretsIn (host : Host σ) (options : RunOptions) (files : Files) :
    FailsOnly Failure.isOfFiles (secretsIn host options files) := by
  unfold secretsIn Secret.Store.build
  split
  · exact failsOnly_ok _ _
  · split
    · exact failsOnly_ok _ _
    · split
      · split
        · exact failsOnly_ok _ _
        · rename_i failure hfailure
          exact failsOnly_error (Files.failsOnly_readText failure hfailure)
      · exact failsOnly_ok _ _

/-- A run of a plan that compiles gets ready unless files are in its way. -/
theorem failsOnly_readiness {primitives : List Primitive} (hcompile : plan.compile = .ok primitives)
    (dir : Path) (files : Files) :
    FailsOnly Failure.isOfFiles (readiness host options plan dir files) := by
  rw [readiness, hcompile]
  refine (Files.failsOnly_makeDirectories _).bind fun housed => Files.failsOnly_openForAppend.bind
    fun ready => ?_
  split
  · exact failsOnly_ok _ _
  · exact (failsOnly_secretsIn host options ready).bind fun _ =>
      (Profile.failsOnly_domainOf _).bind fun domain => Profile.failsOnly_loadable _ domain ready

end Run
end Walkthrough
