import Walkthrough.Proofs.Repair.History
import Walkthrough.Proofs.Run.Frame

/-! # Records of repairs

Each run of a repair writes in its own directory, and an attempt only adds its plan to the directory of
the run before it. So if the directories are new, every report stays as it was given, and so do all
files that were there, but for the site profiles of the domains that were visited. -/

namespace Walkthrough.Repair

open Effect

variable {σ : Type}

/-! ## Runs and their directories -/

/-- A run among deeds: its directory, its plan, what it ended with and where, and the deeds after it. -/
structure Ran (σ : Type) where
  dir : Path
  plan : Plan
  result : Except Failure Report
  after : World σ
  later : List (Deed σ)

/-- The runs among deeds, without a name that is given. -/
def laterRansOf (options : RunOptions) : List (Deed σ) → List (Ran σ)
  | [] => []
  | .ran plan before result after :: deeds =>
    ⟨Run.dirOf { options with runId := none } before, plan, result, after, deeds⟩ ::
      laterRansOf options deeds
  | .attempted .. :: deeds => laterRansOf options deeds
  | .kept .. :: deeds => laterRansOf options deeds

/-- The runs among deeds that start with a run. Only this one has the name that may be given. -/
def ransOf (options : RunOptions) : List (Deed σ) → List (Ran σ)
  | .ran plan before result after :: deeds =>
    ⟨Run.dirOf options before, plan, result, after, deeds⟩ :: laterRansOf options deeds
  | _ => []

/-- The runs after a run. -/
def Ran.laterRans (options : RunOptions) (ran : Ran σ) : List (Ran σ) :=
  laterRansOf options ran.later

/-- The number of the attempt that comes before the next run, if there is one. -/
def repairedBy? : List (Deed σ) → Option Nat
  | .attempted number _ _ (.ok (.repaired _ _)) :: _ => some number
  | .attempted .. :: deeds => repairedBy? deeds
  | _ => none

section Equations

variable (options : RunOptions) (deeds : List (Deed σ))

@[simp] theorem laterRansOf_nil : laterRansOf options ([] : List (Deed σ)) = [] :=
  rfl

@[simp] theorem laterRansOf_ran (plan : Plan) (before : World σ) (result : Except Failure Report)
    (after : World σ) :
    laterRansOf options (.ran plan before result after :: deeds) =
      ⟨Run.dirOf { options with runId := none } before, plan, result, after, deeds⟩ ::
        laterRansOf options deeds :=
  rfl

@[simp] theorem laterRansOf_attempted (number : Nat) (request : Request) (answer : Option Answer)
    (turn : Except Failure Turn) :
    laterRansOf options (.attempted number request answer turn :: deeds) =
      laterRansOf options deeds :=
  rfl

@[simp] theorem laterRansOf_kept (path : Path) (plan : Plan) (before : World σ) (done : Bool)
    (after : World σ) :
    laterRansOf options (.kept path plan before done after :: deeds) = laterRansOf options deeds :=
  rfl

@[simp] theorem ransOf_ran (plan : Plan) (before : World σ) (result : Except Failure Report)
    (after : World σ) :
    ransOf options (.ran plan before result after :: deeds) =
      ⟨Run.dirOf options before, plan, result, after, deeds⟩ :: laterRansOf options deeds :=
  rfl

end Equations

/-- A run that is not the first one has a generated name, and stands together with those after it. -/
theorem exists_runName_of_mem {options : RunOptions} {deeds : List (Deed σ)} {ran : Ran σ}
    (h : ran ∈ laterRansOf options deeds) :
    (∃ t n, ran.dir = options.artifactsRoot.child (runName t n)) ∧
      ran :: ran.laterRans options <:+ laterRansOf options deeds := by
  induction deeds with
  | nil => cases h
  | cons deed deeds ih =>
      cases deed with
      | ran plan before =>
          rw [laterRansOf_ran, List.mem_cons] at h
          rw [laterRansOf_ran]
          rcases h with rfl | h
          · refine ⟨⟨before.now, before.names + 1, ?_⟩, List.suffix_refl _⟩
            rw [Run.dirOf, Run.nameOf_of_none rfl]
          · exact ⟨(ih h).1, (ih h).2.trans (List.suffix_cons _ _)⟩
      | attempted | kept => exact ih h

theorem proper_of_mem_laterRansOf {options : RunOptions} (hroot : options.artifactsRoot.Proper)
    {deeds : List (Deed σ)} {ran : Ran σ} (h : ran ∈ laterRansOf options deeds) :
    ran.dir.Proper := by
  obtain ⟨⟨t, n, hdir⟩, -⟩ := exists_runName_of_mem h
  exact hdir ▸ hroot.child _

theorem proper_of_mem_ransOf {options : RunOptions} (hroot : options.artifactsRoot.Proper)
    {deeds : List (Deed σ)} {ran : Ran σ} (h : ran ∈ ransOf options deeds) : ran.dir.Proper := by
  unfold ransOf at h
  split at h
  · rcases List.mem_cons.mp h with rfl | h
    · exact Run.proper_dirOf hroot _
    · exact proper_of_mem_laterRansOf hroot h
  · cases h

/-- A run and those after it stand together among all runs. -/
theorem suffix_of_mem_ransOf {options : RunOptions} {deeds : List (Deed σ)} {ran : Ran σ}
    (h : ran ∈ ransOf options deeds) : ran :: ran.laterRans options <:+ ransOf options deeds := by
  unfold ransOf at h ⊢
  split at h
  · rcases List.mem_cons.mp h with rfl | h
    · exact List.suffix_refl _
    · exact (exists_runName_of_mem h).2.trans (List.suffix_cons _ _)
  · cases h

theorem resolve_planFile {dir : Path} (h : dir.Proper) (number : Nat) (home : List String) :
    (planFile dir.text number).resolve home =
      dir.resolve home ++ [s!"plan.repaired.{number}.json"] := by
  rw [planFile, Path.ofText_text h]
  exact Path.resolve_child _ (isPart_planFile number)
    (Path.isPart_numbered (c := 'p') (by decide) rfl (by decide) (by decide) number).2 home

theorem planFile_ne_report (number : Nat) : s!"plan.repaired.{number}.json" ≠ "RunResult.json" :=
  Path.numbered_ne (c := 'p') rfl (by decide) number

theorem resolve_reportFile (dir : Path) (home : List String) :
    (Run.reportFile dir).resolve home = dir.resolve home ++ ["RunResult.json"] :=
  Path.resolve_child dir (by decide) (by decide) home

/-! ## What deeds write -/

/-- Files that deeds may write: those of their runs, and plans in the directories of these. -/
inductive Written (options : RunOptions) (rans : List (Ran σ)) : Path → Prop
  | ran {ran : Ran σ} {path : Path} (mem : ran ∈ rans)
      (touched : Run.Touched options ran.dir ran.plan ran.result path) : Written options rans path
  | plan {ran : Ran σ} (mem : ran ∈ rans) (number : Nat) :
      Written options rans (planFile ran.dir.text number)

/-- The files that deeds after a run in a directory may write. -/
def WrittenAfter (options : RunOptions) (dir : Path) (deeds : List (Deed σ)) (path : Path) : Prop :=
  (∃ number, repairedBy? deeds = some number ∧ path = planFile dir.text number) ∨
    Written options (laterRansOf options deeds) path

/-- The places of the site profiles that runs save. -/
def ProfilePlace (options : RunOptions) (home : List String) (rans : List (Ran σ))
    (key : List String) : Prop :=
  options.dryRun = false ∧ ∃ ran ∈ rans, ∃ domain, ran.plan.GoesTo domain ∧
    (Profile.file options.profiles domain).resolve home = key

theorem ProfilePlace.cons {options : RunOptions} {home key : List String} {first : Ran σ}
    {rans : List (Ran σ)} (h : ProfilePlace options home rans key) :
    ProfilePlace options home (first :: rans) key := by
  obtain ⟨live, ran, hmem, hgoes⟩ := h
  exact ⟨live, ran, List.mem_cons_of_mem _ hmem, hgoes⟩

theorem ProfilePlace.getLast?_ne {options : RunOptions} {home key : List String}
    {rans : List (Ran σ)} (h : ProfilePlace options home rans key) :
    key.getLast? ≠ some "RunResult.json" := by
  obtain ⟨-, _, -, domain, hgoes, rfl⟩ := h
  obtain ⟨hname, hup, hne⟩ := hgoes.isDomain.isPart
  rw [Profile.file, Path.resolve_child _ hname hup, List.getLast?_concat]
  simpa using hne

/-- A file that deeds may write is a site profile, or directly in the directory of a run; a report is
there only if the run gave one. -/
theorem Written.place {options : RunOptions} {rans : List (Ran σ)} {path : Path}
    (hdirs : ∀ ran ∈ rans, ran.dir.Proper) (h : Written options rans path) (home : List String) :
    ProfilePlace options home rans (path.resolve home) ∨
      ∃ ran ∈ rans, ∃ name, path.resolve home = ran.dir.resolve home ++ [name] ∧
        (name = "RunResult.json" → ∃ report, ran.result = .ok report) := by
  cases h with
  | ran mem touched =>
      cases touched with
      | leaf inside =>
          obtain ⟨name, rfl, hname, hup, hne⟩ := inside.exists_name
          exact .inr ⟨_, mem, name, Path.resolve_child _ hname hup home, fun heq => absurd heq hne⟩
      | report given =>
          exact .inr ⟨_, mem, _, resolve_reportFile _ home, fun _ => ⟨_, given⟩⟩
      | profile live goes => exact .inl ⟨live, _, mem, _, goes, rfl⟩
  | plan mem number =>
      exact .inr ⟨_, mem, _, resolve_planFile (hdirs _ mem) number home,
        fun heq => absurd heq (planFile_ne_report number)⟩

/-- Runs in other directories do not write a file, unless they save it as a site profile. -/
theorem Written.elsewhere {options : RunOptions} {rans : List (Ran σ)} {path : Path}
    (h : Written options rans path) (hdirs : ∀ ran ∈ rans, ran.dir.Proper)
    {home place : List String} {name : String}
    (hother : ∀ ran ∈ rans, ran.dir.resolve home ≠ place)
    (hprofile : ¬ ProfilePlace options home rans (place ++ [name])) :
    path.resolve home ≠ place ++ [name] := by
  intro heq
  obtain hsaved | ⟨ran, hmem, other, hname, -⟩ := h.place hdirs home
  · exact hprofile (heq ▸ hsaved)
  · exact hother ran hmem (List.append_inj_left' (hname.symm.trans heq) rfl)

/-! ## Deeds one by one -/

section Deeds

variable {host : Host σ} {options : RunOptions} {answer : Nat → Request → Answer} {patience : Json}

theorem Logged.files {w w' : World σ} (h : Logged w w') : w'.files = w.files := by
  obtain ⟨_, rfl⟩ := h
  rfl

/-- An attempt changes no file. -/
theorem Attempted.files {number : Nat} {plan : Plan} {report : Report} {w w' : World σ}
    {request : Request} {given : Option Answer} {turn : Except Failure Turn}
    (h : Attempted (.ofAnswer answer) patience number plan report w request given turn w') :
    w'.files = w.files := by
  rw [h.world.files]
  unfold afterRequest
  split <;> rfl

theorem Kept.onlyAt {runDir : String} {number : Nat} {plan : Plan} {w w' : World σ} {done : Bool}
    {paths : Path → Prop} (h : Kept runDir number plan w done w')
    (hpath : paths (planFile runDir number)) : Files.OnlyAt paths w.files w'.files := by
  have hworld := h.world
  cases done with
  | true =>
      obtain ⟨files, hwrite, rfl⟩ := hworld
      exact Files.onlyAt_write hpath hwrite
  | false =>
      rw [hworld.2.files]
      exact .refl w.files

/-- Between the end of a run and the next run, a repair only writes the plan of the attempt. -/
theorem Patched.onlyAt {number : Nat} {plan repaired : Plan} {report : Report} {w w₁ w₂ w₃ : World σ}
    {request : Request} {given : Option Answer} {reason : String} {done : Bool}
    {paths : Path → Prop}
    (h : Patched (.ofAnswer answer) patience number plan report w request given repaired reason w₁
      done w₂ w₃)
    (hpath : paths (planFile report.artifacts.runDir number)) :
    Files.OnlyAt paths w.files w₃.files := by
  have hkept := h.kept.onlyAt hpath
  rwa [h.attempt.files, ← (logged_of_announce h.announced).files] at hkept

/-- The options of later runs are those of the first one in what a run writes. -/
theorem touched_later {dir path : Path} {plan : Plan} {result : Except Failure Report}
    (h : Run.Touched { options with runId := none } dir plan result path) :
    Run.Touched options dir plan result path := by
  cases h with
  | leaf inside => exact .leaf inside
  | report given => exact .report given
  | profile live goes =>
      have hlive : options.dryRun = false := live
      exact .profile hlive goes

theorem Patched.home {number : Nat} {plan repaired : Plan} {report : Report} {w w₁ w₂ w₃ : World σ}
    {request : Request} {given : Option Answer} {reason : String} {done : Bool}
    (h : Patched (.ofAnswer answer) patience number plan report w request given repaired reason w₁
      done w₂ w₃) : w₃.files.home = w.files.home := by
  have honly : Files.OnlyAt (fun _ => True) w.files w₃.files := h.onlyAt trivial
  exact honly.home

theorem onlyAt_laterRun {repaired : Plan} {result : Except Failure Report} {w w' : World σ}
    (hhome : ".." ∉ w.files.home)
    (h : outcome (run host { options with runId := none } repaired) w = (result, w'))
    (deeds : List (Deed σ)) :
    Files.OnlyAt (Written options (laterRansOf options
      (.ran repaired w result w' :: deeds))) w.files w'.files :=
  (Run.onlyAt_run hhome h).mono fun _ htouched => .ran List.mem_cons_self (touched_later htouched)

theorem WrittenAfter.written {dir : Path} {deed : Ran σ} {deeds : List (Deed σ)} {path : Path}
    (h : WrittenAfter options dir deeds path) (hdir : deed.dir = dir) :
    Written options (deed :: laterRansOf options deeds) path := by
  rcases h with ⟨number, -, rfl⟩ | h
  · exact hdir ▸ .plan List.mem_cons_self number
  · cases h with
    | ran mem touched => exact .ran (List.mem_cons_of_mem _ mem) touched
    | plan mem number => exact .plan (List.mem_cons_of_mem _ mem) number

/-- All that rounds write is the plan of the next attempt and what their runs write. -/
theorem Rounds.onlyAt {left number : Nat} {plan : Plan} {report : Report} {w : World σ}
    {deeds : List (Deed σ)} {ending : Ending σ} {dir : Path}
    (h : Rounds host options (.ofAnswer answer) patience left number plan report w deeds ending)
    (hhome : ".." ∉ w.files.home) (hdir : report.artifacts.runDir = dir.text) :
    Files.OnlyAt (WrittenAfter options dir deeds) w.files ending.2.files := by
  induction h generalizing dir with
  | spent | passed => exact .refl _
  | unread _ unread attempt =>
      obtain ⟨w', hattempt, hlogged⟩ := outcome_attempt_of_unread _ _ _ _ _ _ unread
      obtain ⟨-, rfl⟩ := Prod.mk.inj (hattempt.symm.trans attempt)
      rw [hlogged.files]
      exact .refl _
  | raised _ attempt | stopped _ attempt =>
      rw [attempt.files]
      exact .refl _
  | again _ attempt _ ih =>
      rw [← attempt.files] at hhome ⊢
      exact ih hhome hdir
  | crashed _ patched run =>
      rw [← patched.home] at hhome
      exact (patched.onlyAt (.inl ⟨_, rfl, by rw [hdir]⟩)).trans
        ((onlyAt_laterRun hhome run []).mono fun _ => .inr)
  | @repaired _ _ _ _ _ _ _ _ _ _ _ _ _ _ _ deeds _ _ patched run _ ih =>
      rw [← patched.home] at hhome
      have hrun := onlyAt_laterRun hhome run deeds
      rw [← hrun.home] at hhome
      have hrest := ih hhome (Run.exists_kept_of_run run).2.1
      exact (patched.onlyAt (.inl ⟨_, rfl, by rw [hdir]⟩)).trans
        ((hrun.trans (hrest.mono fun _ hlater => WrittenAfter.written hlater rfl)).mono fun _ => .inr)

/-- A run that left its report: it is read where the run ended, and from there on little is written. -/
structure Ran.Left (options : RunOptions) (home : List String) (ran : Ran σ) (report : Report)
    (final : Files) : Prop where
  home : ran.after.files.home = home
  place : report.artifacts.runDir = ran.dir.text
  kept : ran.after.files.read (Run.reportFile ran.dir) = .ok (.text report.toJson.pretty)
  since : Files.OnlyAt (WrittenAfter options ran.dir ran.later) ran.after.files final

theorem Rounds.left {left number : Nat} {plan : Plan} {report : Report} {w : World σ}
    {deeds : List (Deed σ)} {ending : Ending σ}
    (h : Rounds host options (.ofAnswer answer) patience left number plan report w deeds ending)
    (hhome : ".." ∉ w.files.home) {ran : Ran σ} {given : Report}
    (hran : ran ∈ laterRansOf options deeds) (hgiven : ran.result = .ok given) :
    ran.Left options w.files.home given ending.2.files := by
  induction h with
  | spent | passed | unread | raised | stopped => cases hran
  | again _ attempt _ ih =>
      rw [← attempt.files] at hhome ⊢
      exact ih hhome hran
  | crashed =>
      obtain rfl | hran := List.mem_cons.mp hran
      · cases hgiven
      · cases hran
  | @repaired _ _ _ _ _ _ _ _ _ _ _ _ _ _ _ deeds _ _ patched run rest ih =>
      rw [← patched.home] at hhome ⊢
      have hstay := (onlyAt_laterRun hhome run deeds).home
      obtain ⟨-, hplace, hkept⟩ := Run.exists_kept_of_run run
      rw [← hstay] at hhome ⊢
      obtain rfl | hran := List.mem_cons.mp hran
      · obtain rfl := Except.ok.inj hgiven
        exact ⟨rfl, hplace, hkept, rest.onlyAt hhome hplace⟩
      · exact ih hhome hran

/-- A patched plan that was kept is there when it is run. -/
theorem Patched.read {number : Nat} {plan repaired : Plan} {report : Report} {w w₁ w₂ w₃ : World σ}
    {request : Request} {given : Option Answer} {reason : String}
    (h : Patched (.ofAnswer answer) patience number plan report w request given repaired reason w₁
      true w₂ w₃) :
    w₃.files.read (planFile report.artifacts.runDir number) = .ok (.text repaired.redact.text) := by
  obtain ⟨files, hwrite, rfl⟩ := h.kept.world
  rw [(logged_of_announce h.announced).files]
  exact Files.read_of_write hwrite

/-- A plan that is kept is still there after runs that all have other directories. -/
theorem read_plan_of_onlyAt {dir : Path} (hdir : dir.Proper) {number : Nat} {rans : List (Ran σ)}
    {files final : Files} {content : Text.Content} (honly : Files.OnlyAt (Written options rans) files final)
    (hdirs : ∀ ran ∈ rans, ran.dir.Proper)
    (hapart : (dir.resolve files.home :: rans.map fun ran => ran.dir.resolve files.home).Nodup)
    (hprofile : ¬ ProfilePlace options files.home rans
      ((planFile dir.text number).resolve files.home))
    (hread : files.read (planFile dir.text number) = .ok content) :
    final.read (planFile dir.text number) = .ok content := by
  refine honly.read (fun path hpath => ?_) hread
  rw [resolve_planFile hdir] at hprofile ⊢
  refine hpath.elsewhere hdirs (fun ran hmem heq => ?_) hprofile
  exact (List.nodup_cons.mp hapart).1 (List.mem_map.mpr ⟨ran, hmem, heq⟩)

/-- A plan that is kept stays as it is, while all later runs have other directories. -/
theorem Rounds.plans (hroot : options.artifactsRoot.Proper) {left number : Nat} {plan : Plan}
    {report : Report} {w : World σ} {deeds : List (Deed σ)} {ending : Ending σ} {dir : Path}
    (h : Rounds host options (.ofAnswer answer) patience left number plan report w deeds ending)
    (hhome : ".." ∉ w.files.home) (hdir : dir.Proper) (hplace : report.artifacts.runDir = dir.text)
    (hapart : (dir.resolve w.files.home :: (laterRansOf options deeds).map
      fun ran => ran.dir.resolve w.files.home).Nodup)
    {path : Path} {kept : Plan} {before after : World σ}
    (hkept : .kept path kept before true after ∈ deeds)
    (hprofile : ¬ ProfilePlace options w.files.home (laterRansOf options deeds)
      (path.resolve w.files.home)) :
    ending.2.files.read path = .ok (.text kept.redact.text) := by
  have hdirs : ∀ deeds : List (Deed σ), ∀ ran ∈ laterRansOf options deeds, ran.dir.Proper :=
    fun _ _ => proper_of_mem_laterRansOf hroot
  induction h generalizing dir with
  | spent | passed | unread => cases hkept
  | raised | stopped => simp at hkept
  | again _ attempt _ ih =>
      rw [← attempt.files] at hhome hapart hprofile
      exact ih hhome hdir hplace hapart (by simpa using hkept) hprofile
  | crashed _ patched run =>
      rw [← patched.home] at hhome hapart hprofile
      obtain ⟨rfl, rfl, rfl, rfl, rfl⟩ := by simpa using hkept
      have hread := patched.read
      rw [hplace] at hread hprofile ⊢
      exact read_plan_of_onlyAt hdir (onlyAt_laterRun hhome run []) (hdirs _) hapart hprofile hread
  | @repaired _ _ _ _ _ _ _ _ _ _ _ _ _ _ _ deeds _ _ patched run rest ih =>
      rw [← patched.home] at hhome hapart hprofile
      have hrun := onlyAt_laterRun hhome run deeds
      have hnext := (Run.exists_kept_of_run run).2.1
      obtain ⟨rfl, rfl, rfl, rfl, rfl⟩ | hkept := by simpa using hkept
      · have hread := patched.read
        rw [hplace] at hread hprofile ⊢
        have hrest := rest.onlyAt (hrun.home ▸ hhome) hnext
        exact read_plan_of_onlyAt hdir
          (hrun.trans (hrest.mono fun _ hlater => WrittenAfter.written hlater rfl)) (hdirs _) hapart
          hprofile hread
      · rw [← hrun.home] at hhome hapart hprofile
        exact ih hhome (@Run.proper_dirOf _ { options with runId := none } hroot _) hnext
          (List.nodup_cons.mp hapart).2 hkept
          fun hsaved => hprofile hsaved.cons

end Deeds

/-! ## Whole repairs -/

section Repairs

variable {host : Host σ} {options : RunOptions} {answer : Nat → Request → Answer} {patience : Json}
  {maxAttempts : Int} {plan : Plan} {w : World σ} {deeds : List (Deed σ)} {ending : Ending σ}

/-- All that a repair writes is what its runs write, and plans in their directories. -/
theorem History.onlyAt
    (h : History host options (.ofAnswer answer) patience maxAttempts plan w deeds ending)
    (hhome : ".." ∉ w.files.home) :
    Files.OnlyAt (Written options (ransOf options deeds)) w.files ending.2.files := by
  have hfirst : ∀ {result w'} (later : List (Deed σ)),
      outcome (run host options plan) w = (result, w') →
      Files.OnlyAt (Written options (ransOf options (.ran plan w result w' :: later))) w.files
        w'.files :=
    fun _ run => (Run.onlyAt_run hhome run).mono fun _ htouched =>
      .ran List.mem_cons_self htouched
  cases h with
  | crashed run | dry _ run => exact hfirst [] run
  | @live _ _ later _ _ run rest =>
      have hrun := hfirst later run
      rw [← hrun.home] at hhome
      have hrest := rest.onlyAt hhome (Run.exists_kept_of_run run).2.1
      exact hrun.trans (hrest.mono fun _ hlater => WrittenAfter.written hlater rfl)

theorem History.left
    (h : History host options (.ofAnswer answer) patience maxAttempts plan w deeds ending)
    (hhome : ".." ∉ w.files.home) {ran : Ran σ} {given : Report} (hran : ran ∈ ransOf options deeds)
    (hgiven : ran.result = .ok given) :
    ran.Left options w.files.home given ending.2.files := by
  cases h with
  | crashed =>
      obtain rfl | hran := List.mem_cons.mp hran
      · cases hgiven
      · cases hran
  | dry _ run =>
      obtain rfl | hran := List.mem_cons.mp hran
      · obtain rfl := Except.ok.inj hgiven
        obtain ⟨-, hplace, hkept⟩ := Run.exists_kept_of_run run
        exact ⟨(Run.onlyAt_run hhome run).home, hplace, hkept, .refl _⟩
      · cases hran
  | live _ run rest =>
      have hstay := (Run.onlyAt_run hhome run).home
      obtain ⟨-, hplace, hkept⟩ := Run.exists_kept_of_run run
      rw [← hstay] at hhome ⊢
      obtain rfl | hran := List.mem_cons.mp hran
      · obtain rfl := Except.ok.inj hgiven
        exact ⟨rfl, hplace, hkept, rest.onlyAt hhome hplace⟩
      · exact rest.left hhome hran hgiven

/-- Directories for runs that are all different and hold no files. -/
structure FreshDirectories (home : List String) (rans : List (Ran σ)) (files : Files) : Prop where
  apart : (rans.map fun ran => ran.dir.resolve home).Nodup
  bare : ∀ ran ∈ rans, ∀ key content, ran.dir.resolve home <+: key →
    files.node? key ≠ some (.file content)

theorem ne_of_mem_laterRans {home : List String} {ran later : Ran σ}
    (hapart : ((ransOf options deeds).map fun ran => ran.dir.resolve home).Nodup)
    (hran : ran ∈ ransOf options deeds) (hlater : later ∈ ran.laterRans options) :
    later.dir.resolve home ≠ ran.dir.resolve home := by
  have hnodup := hapart.sublist ((suffix_of_mem_ransOf hran).sublist.map fun ran => ran.dir.resolve home)
  rw [List.map_cons, List.nodup_cons] at hnodup
  intro heq
  exact hnodup.1 (List.mem_map.mpr ⟨later, hlater, heq⟩)

/-- What a repair leaves of the records of its runs, and of other files. -/
structure RecordsKept (options : RunOptions) (w : World σ) (deeds : List (Deed σ)) (final : Files) :
    Prop where
  /-- Each report is read in the end as it was given. -/
  reports : ∀ ran ∈ ransOf options deeds, ∀ report, ran.result = .ok report →
    report.artifacts.runDir = ran.dir.text ∧
      final.read (Run.reportFile ran.dir) = .ok (.text report.toJson.pretty)
  /-- No two runs share the place of a report. -/
  apart : ((ransOf options deeds).map fun ran =>
    (Run.reportFile ran.dir).resolve w.files.home).Nodup
  /-- Each patched plan that was kept is read in the end as it was kept. -/
  plans : ∀ path repaired before after, .kept path repaired before true after ∈ deeds →
    ¬ ProfilePlace options w.files.home (ransOf options deeds) (path.resolve w.files.home) →
    final.read path = .ok (.text repaired.redact.text)
  /-- There are no reports beside those that were there and those that were given. -/
  only : ∀ key content, key.getLast? = some "RunResult.json" →
    final.node? key = some (.file content) → w.files.node? key = some (.file content) ∨
      ∃ ran ∈ ransOf options deeds, ∃ report, ran.result = .ok report ∧
        (Run.reportFile ran.dir).resolve w.files.home = key
  /-- After a run its directory gains the plan of the attempt that repaired it. Else it can only
  change by site profiles and by directories of later runs, where these are put into it. -/
  gained : ∀ ran ∈ ransOf options deeds, ∀ report, ran.result = .ok report → ∀ key content,
    ran.dir.resolve w.files.home <+: key →
    (∀ number, repairedBy? ran.later = some number →
      key ≠ (planFile ran.dir.text number).resolve w.files.home) →
    ¬ ProfilePlace options w.files.home (ran.laterRans options) key →
    (∀ later ∈ ran.laterRans options, ¬ later.dir.resolve w.files.home <+: key) →
    (final.node? key = some (.file content) ↔ ran.after.files.node? key = some (.file content))
  /-- All files that were there are as they were, but for the site profiles of visited domains. -/
  others : ∀ key content, w.files.node? key = some (.file content) →
    ¬ ProfilePlace options w.files.home (ransOf options deeds) key →
    final.node? key = some (.file content)

/-- In fresh directories a repair leaves all records as they were given, and other files alone. -/
theorem History.recordsKept (hroot : options.artifactsRoot.Proper)
    (h : History host options (.ofAnswer answer) patience maxAttempts plan w deeds ending)
    (hhome : ".." ∉ w.files.home)
    (hfresh : FreshDirectories w.files.home (ransOf options deeds) w.files) :
    RecordsKept options w deeds ending.2.files where
  reports ran hran report hreport := by
    have hleft := h.left hhome hran hreport
    refine ⟨hleft.place, hleft.since.read (fun path hpath => ?_) hleft.kept⟩
    rw [hleft.home, resolve_reportFile]
    intro heq
    obtain ⟨number, -, rfl⟩ | hlater := hpath
    · -- The plan of the next attempt is in the same directory, under another name.
      rw [resolve_planFile (proper_of_mem_ransOf hroot hran)] at heq
      exact planFile_ne_report number (List.singleton_injective (List.append_cancel_left heq))
    · exact hlater.elsewhere (fun _ => proper_of_mem_laterRansOf hroot)
        (fun _ => ne_of_mem_laterRans hfresh.apart hran)
        (fun hsaved => hsaved.getLast?_ne List.getLast?_concat) heq
  apart := by
    have hplaces : (ransOf options deeds).map (fun ran =>
        (Run.reportFile ran.dir).resolve w.files.home) =
          ((ransOf options deeds).map fun ran => ran.dir.resolve w.files.home).map
            (· ++ ["RunResult.json"]) := by
      simp only [List.map_map, Function.comp_def, resolve_reportFile]
    rw [hplaces]
    exact hfresh.apart.map fun _ _ heq => List.append_cancel_right heq
  plans path repaired before after hkept hprofile := by
    cases h with
    | crashed | dry => simp at hkept
    | live live run rest =>
        have hstay := (Run.onlyAt_run hhome run).home
        have hplace := (Run.exists_kept_of_run run).2.1
        obtain heq | hkept := List.mem_cons.mp hkept
        · cases heq
        rw [← hstay] at hhome
        refine rest.plans hroot hhome (Run.proper_dirOf hroot _) hplace ?_ hkept ?_
        · rw [hstay]
          exact hfresh.apart
        · rw [hstay]
          exact fun hsaved => hprofile (ProfilePlace.cons hsaved)
  only key content hkey hfinal := by
    by_cases hwritten : ∃ path, Written options (ransOf options deeds) path ∧
        path.resolve w.files.home = key
    · obtain ⟨path, hpath, rfl⟩ := hwritten
      obtain hprofile | ⟨ran, hran, name, hname, hreport⟩ :=
        hpath.place (fun _ => proper_of_mem_ransOf hroot) w.files.home
      · exact absurd hkey hprofile.getLast?_ne
      · rw [hname, List.getLast?_concat, Option.some.injEq] at hkey
        obtain ⟨report, hgiven⟩ := hreport hkey
        exact .inr ⟨ran, hran, report, hgiven, by rw [resolve_reportFile, hname, hkey]⟩
    · have hother : ∀ path, Written options (ransOf options deeds) path →
          path.resolve w.files.home ≠ key := fun path hpath heq => hwritten ⟨path, hpath, heq⟩
      exact .inl (((h.onlyAt hhome).file key hother content).mp hfinal)
  gained ran hran report hreport key content _ hplan hprofile hlater := by
    have hleft := h.left hhome hran hreport
    refine hleft.since.file key (fun path hpath => ?_) content
    rw [hleft.home]
    rintro rfl
    obtain ⟨number, hnumber, rfl⟩ | hwritten := hpath
    · exact hplan number hnumber rfl
    · obtain hsaved | ⟨later, hmem, name, hname, -⟩ := hwritten.place
        (fun _ => proper_of_mem_laterRansOf hroot) w.files.home
      · exact hprofile hsaved
      · exact hlater later hmem (hname ▸ List.prefix_append _ _)
  others key content hkey hprofile := by
    refine ((h.onlyAt hhome).file key (fun path hpath => ?_) content).mpr hkey
    rintro rfl
    obtain hsaved | ⟨ran, hran, name, hname, -⟩ := hpath.place
      (fun _ => proper_of_mem_ransOf hroot) w.files.home
    · exact hprofile hsaved
    · exact hfresh.bare ran hran _ content (hname ▸ List.prefix_append _ _) hkey

end Repairs

/-! ## Numbers of runs -/

section Count

variable {host : Host σ} {options : RunOptions} {adapter : Adapter} {patience : Json}

theorem Rounds.length_laterRansOf_le {left number : Nat} {plan : Plan} {report : Report} {w : World σ}
    {deeds : List (Deed σ)} {ending : Ending σ}
    (h : Rounds host options adapter patience left number plan report w deeds ending)
    : (laterRansOf options deeds).length ≤ left := by
  induction h with
  | spent | passed | unread | raised | stopped => exact Nat.zero_le _
  | again _ _ _ ih => exact Nat.le_succ_of_le ih
  | crashed => exact Nat.succ_le_succ (Nat.zero_le _)
  | repaired _ _ _ _ ih => exact Nat.succ_le_succ ih

/-- A history starts with the run of the plan, and at most as many runs follow as attempts are made. -/
theorem History.exists_first {maxAttempts : Int} {plan : Plan} {w : World σ} {deeds : List (Deed σ)}
    {ending : Ending σ} (h : History host options adapter patience maxAttempts plan w deeds ending) :
    ∃ result w' later, outcome (run host options plan) w = (result, w') ∧
      deeds = .ran plan w result w' :: later ∧
      (laterRansOf options later).length ≤ maxAttempts.toNat := by
  cases h with
  | crashed run | dry _ run => exact ⟨_, _, [], run, rfl, Nat.zero_le _⟩
  | live _ run rest => exact ⟨_, _, _, run, rfl, rest.length_laterRansOf_le⟩

/-- With one attempt, a name that is given and is no generated one is enough to keep runs apart. -/
theorem History.apart_of_named {plan : Plan} {w : World σ} {deeds : List (Deed σ)}
    {ending : Ending σ} (h : History host options adapter patience 1 plan w deeds ending)
    {name : String} (hname : options.runId = some name) (hpart : Path.IsPart name) (hup : name ≠ "..")
    (hhead : name.toList.head? ≠ some 'r') (home : List String) :
    ((ransOf options deeds).map fun ran => ran.dir.resolve home).Nodup := by
  obtain ⟨result, w', later, -, rfl, hlength⟩ := h.exists_first
  have hlater := @exists_runName_of_mem _ options later
  rw [ransOf_ran, List.map_cons, Run.dirOf, Run.nameOf_of_given hname hpart.1]
  cases hrans : laterRansOf options later with
  | nil => simp
  | cons second rest =>
      rw [hrans] at hlength hlater
      obtain rfl := List.length_eq_zero_iff.mp (Nat.le_zero.mp (Nat.le_of_succ_le_succ hlength))
      obtain ⟨⟨t, n, hsecond⟩, -⟩ := hlater List.mem_cons_self
      obtain ⟨hsecondPart, hsecondUp⟩ := isPart_runName t n
      have hne : name ≠ runName t n := fun heq => hhead (heq ▸ head?_runName t n)
      have hapart := Path.resolve_child_ne options.artifactsRoot options.artifactsRoot hpart hup
        hsecondPart hsecondUp hne home
      simpa [hsecond] using hapart

end Count

/-! ## Records in the end -/

end Walkthrough.Repair
