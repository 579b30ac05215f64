import Walkthrough.Proofs.Files.Directories
import Walkthrough.Proofs.Profile.Document
import Walkthrough.Proofs.Run.Course

/-! # Profiles that are saved

A site profile that is saved after the visit of a run is loaded with the same selectors when the run is
over, since the report and the log have other names. -/

namespace Walkthrough

open Effect

variable {σ : Type}

namespace Profile

/-- Saving a profile makes sure of the directory and writes the file. -/
theorem exists_files_of_save {root path : Path} {p : Profile} {w w' : World σ}
    (h : outcome (save root p) w = (.ok path, w')) :
    ∃ housed, w.files.ensureDirectory root = .ok housed ∧
      housed.write (file root p.domain) (.text p.toJson.pretty) = .ok w'.files := by
  rw [save, outcome_handling] at h
  split at h
  · rename_i found final hsaved
    obtain rfl : final = w' := (Prod.mk.inj h).2
    obtain ⟨_, housed, hhouse, hsaved⟩ := outcome_bind_eq_ok_iff.mp hsaved
    obtain ⟨_, written, hwrite, hsaved⟩ := outcome_bind_eq_ok_iff.mp hsaved
    obtain rfl : written = final := (Prod.mk.inj hsaved).2
    have hhoused := Run.eq_ok_of_change hhouse
    exact ⟨housed.files, hhoused, write_of_writeFile hwrite⟩
  · split at h <;> cases congrArg Prod.fst h

/-- What was saved is in the file of the domain. -/
theorem read_of_save {root path : Path} {p : Profile} {w w' : World σ}
    (h : outcome (save root p) w = (.ok path, w')) :
    w'.files.read (file root p.domain) = .ok (.text p.toJson.pretty) := by
  obtain ⟨_, -, hwrite⟩ := exists_files_of_save h
  exact Files.read_of_write hwrite

/-- What was saved is in a directory. -/
theorem isDirectory_of_save {root path : Path} {p : Profile} {w w' : World σ}
    (h : outcome (save root p) w = (.ok path, w')) : w'.files.isDirectory root = true := by
  obtain ⟨_, hhouse, hwrite⟩ := exists_files_of_save h
  exact (Files.directoriesStay_write hwrite).isDirectory (Files.isDirectory_of_ensureDirectory hhouse)

/-- A profile whose file has a name is saved, or that it cannot be written is the failure. -/
theorem save_of_hasNull {root : Path} {p : Profile} (hname : Path.IsPart (p.domain ++ ".json"))
    (hnull : Path.hasNull (file root p.domain).text = false) (w : World σ) :
    (∃ w', outcome (save root p) w = (.ok (file root p.domain), w')) ∨
      ∃ artifact cause w', outcome (save root p) w = (.error (.noArtifact artifact cause), w') := by
  have hroot : Path.hasNull root.text = false := (Path.onWay_child root hname).hasNull hnull
  rw [save, outcome_handling]
  cases hhouse : w.files.ensureDirectory root with
  | error failure =>
      have hchange : outcome (Work.change fun files => files.ensureDirectory root) w =
          (.error failure, w) := by
        simp [Work.change, outcome_bind, hhouse]
      rw [outcome_bind_of_error hchange]
      refine .inr ?_
      simp [Files.ensureDirectory_eq_error hroot hhouse]
  | ok made =>
      have hchange : outcome (Work.change fun files => files.ensureDirectory root) w =
          (.ok (), { w with files := made }) := by
        simp [Work.change, outcome_bind, hhouse]
      have hwrite := outcome_writeFile (file root p.domain) (.text p.toJson.pretty)
        { w with files := made }
      rw [outcome_bind_of_ok hchange]
      split at hwrite
      · rw [outcome_bind_of_ok hwrite]
        exact .inl ⟨_, rfl⟩
      · rename_i failure hrefused
        rw [outcome_bind_of_error hwrite]
        refine .inr ?_
        simp [Files.write_eq_error hnull hrefused]

/-- Loading a profile leaves the files as they are. -/
theorem files_of_load {root : Path} {domain : String} {answer : Except Failure Profile}
    {w w' : World σ} (h : outcome (load root domain) w = (answer, w')) : w'.files = w.files := by
  have hread : outcome (attempt (do
      let s ← Work.look fun files => files.readText (file root domain)
      Effect.ofExcept (ofText domain s))) w =
        (.ok ((w.files.readText (file root domain)).bind (ofText domain)), w) :=
    outcome_attempt_of (outcome_reading w)
  rw [load, outcome_bind_of_ok hread] at h
  obtain rfl := (Prod.ext_iff.mp h).2
  split
  · rfl
  · rfl
  · rfl
  · split <;> rfl

/-- A profile is only loaded from a file that has a name. -/
theorem hasNull_of_load {root : Path} {domain : String} {p : Profile} {w w' : World σ}
    (h : outcome (load root domain) w = (.ok p, w')) :
    Path.hasNull (file root domain).text = false := by
  by_contra hnull
  rw [Bool.not_eq_false] at hnull
  have hread : w.files.readText (file root domain) = .error (.value .nullInPath) := by
    simp [Files.readText, Files.read, Files.locate, hnull, bind, Except.bind]
  simp [load, Work.look, outcome_bind, hread, isPassedOver, Failure.isSystem] at h

/-- A profile whose text is in the file of a domain is loaded from there with its selectors. -/
theorem exists_load_of_read {root : Path} {domain : String} {p : Profile} {w : World σ}
    (hp : p.Distinct) (h : w.files.read (file root domain) = .ok (.text p.toJson.pretty)) :
    ∃ loaded, outcome (load root domain) w = (.ok loaded, w) ∧ loaded.domain = domain ∧
      loaded.selectors = p.selectors := by
  obtain ⟨loaded, hloaded, hdomain, hselectors⟩ := hp.ofText_pretty domain
  have hread : w.files.readText (file root domain) = .ok p.toJson.pretty := by
    have hcontent := Json.read_document hp.plain_toJson p.document_toJson
    simp [Files.readText, h, hcontent, bind, Except.bind]
  exact ⟨loaded, outcome_load_of_ofText hread hloaded, hdomain, hselectors⟩

end Profile

namespace Run

variable {host : Host σ} {options : RunOptions} {plan : Plan} {known : Prepared}

/-- Keeping the report changes nothing in what is read under another name than its own and the log's. -/
theorem read_of_conclude {runDir p : Path} {name : String} {content : Text.Content} {report : Report}
    {w : World σ} (hname : Path.IsPart name) (hup : name ≠ "..") (hlog : name ≠ "runner.log")
    (hreport : name ≠ "RunResult.json") (hread : w.files.read (p.child name) = .ok content) :
    (outcome (conclude runDir report) w).2.files.read (p.child name) = .ok content := by
  cases hlong : report.toJson.isOverlong with
  | true =>
      rw [conclude, keep_of_isOverlong hlong]
      exact hread
  | false =>
      cases hwrite : w.files.write (reportFile runDir) (.text report.toJson.pretty) with
      | error failure =>
          rw [conclude, outcome_bind_of_error (outcome_keep_of_error hlong hwrite)]
          exact hread
      | ok files =>
          have hkept : files.read (p.child name) = .ok content :=
            Files.read_of_write_ne hread hwrite
              (resolve_ne_reportFile p hname hup hreport w.files.home).symm
          obtain ⟨w', hline, -⟩ := exists_logTo runDir .info
            s!"Run {report.runId} finished with status {report.verdict.name}"
            { w with
              files := files
              events := w.events ++ [.write (reportFile runDir).text true] }
          rw [conclude, outcome_bind_of_ok (outcome_keep_of_ok hlong hwrite),
            outcome_bind_of_ok hline, outcome_pure]
          exact read_of_logTo hline hname hup hlog hkept

/-- Whether there is room for the report of a run among files. -/
def reportRoom (runDir : Path) (files : Files) : Except Failure Unit :=
  (files.room (reportFile runDir)).mapError fun failure =>
    if failure.isSystem then .noArtifact (.runRecord (reportFile runDir).text) failure.message
    else failure

end Run

/-- What a run gives that comes to a report: the report, if it is a document and there is room for it. -/
def Report.given (room : Except Failure Unit) (report : Report) : Except Failure Report := do
  let _ ← report.toJson.document
  room
  return report

namespace Run

variable {host : Host σ} {options : RunOptions} {plan : Plan} {known : Prepared}

theorem answer_of_conclude (runDir : Path) (report : Report) (w : World σ) :
    (outcome (conclude runDir report) w).1 = report.given (reportRoom runDir w.files) := by
  cases hlong : report.toJson.isOverlong with
  | true =>
      rw [conclude, keep_of_isOverlong hlong, Report.given, Json.document, if_pos hlong]
      rfl
  | false =>
      rw [Report.given, Json.document, if_neg (by simp [hlong]), reportRoom,
        ← Files.map_write w.files (reportFile runDir) (.text report.toJson.pretty)]
      cases hwrite : w.files.write (reportFile runDir) (.text report.toJson.pretty) with
      | error failure =>
          rw [conclude, outcome_bind_of_error (outcome_keep_of_error hlong hwrite)]
          rfl
      | ok files =>
          obtain ⟨w', hlog, -⟩ := exists_logTo runDir .info
            s!"Run {report.runId} finished with status {report.verdict.name}"
            { w with
              files := files
              events := w.events ++ [.write (reportFile runDir).text true] }
          rw [conclude, outcome_bind_of_ok (outcome_keep_of_ok hlong hwrite), outcome_bind_of_ok hlog]
          rfl

/-! ## Places -/

theorem isDirectory_of_equip {kit : Kit} {w ready : World σ}
    (h : outcome (equip host options) w = (.ok kit, ready)) :
    ready.files.isDirectory (options.artifactsRoot.child kit.runId) = true := by
  obtain ⟨housed, hhouse, hopen⟩ := exists_files_of_equip h
  exact (Files.directoriesStay_openForAppend hopen).isDirectory
    (Files.isDirectory_of_ensureDirectory hhouse)

theorem directoriesStay_equip {kit : Kit} {w ready : World σ}
    (h : outcome (equip host options) w = (.ok kit, ready)) :
    Files.DirectoriesStay w.files ready.files := by
  obtain ⟨housed, hhouse, hopen⟩ := exists_files_of_equip h
  exact (Files.directoriesStay_ensureDirectory hhouse).trans (Files.directoriesStay_openForAppend hopen)

/-- Where a live run that has loaded its site profile keeps things: its directory is there, and the file
of the profile has a name. -/
structure Placed (options : RunOptions) (known : Prepared) (w loaded : World σ) : Prop where
  home : loaded.files.home = w.files.home
  directory : loaded.files.isDirectory (known.directory options) = true
  domain : Profile.IsDomain loaded.profile.domain
  profile : Path.hasNull (Profile.file options.profiles loaded.profile.domain).text = false

theorem placed_of_prepare {w loaded : World σ}
    (h : outcome (prepare host options plan) w = (.ok known, loaded)) :
    Placed options known w loaded := by
  obtain ⟨kit, ready, after, hequipped⟩ := exists_equipped h
  have hafter : after.files = ready.files := Profile.files_of_load hequipped.loads
  have hloaded : loaded.files = ready.files := by rw [hequipped.loaded, ← hafter]
  refine ⟨?_, ?_, (compile_of_prepare h).2, ?_⟩
  · rw [hloaded, (directoriesStay_equip hequipped.equips).home]
  · rw [hloaded, Prepared.directory, ← hequipped.runId]
    exact isDirectory_of_equip hequipped.equips
  · rw [hequipped.domain]
    exact Profile.hasNull_of_load hequipped.loads

/-! ## Saving -/

@[simp] theorem domain_stamped (w : World σ) : (stamped w).domain = w.profile.domain := by
  simp only [stamped]

@[simp] theorem selectors_stamped (w : World σ) : (stamped w).selectors = w.profile.selectors := by
  simp only [stamped]

theorem distinct_stamped {w : World σ} (h : w.profile.Distinct) : (stamped w).Distinct := by
  rwa [Profile.Distinct, selectors_stamped]

theorem outcome_saveProfile_of_ok {stage : Stage σ} {root path : Path} {w saved : World σ}
    (h : outcome (Profile.save root (stamped w)) { w with profile := stamped w } =
      (.ok path, saved)) : outcome (saveProfile stage root) w = (.ok (), saved) := by
  rw [saveProfile_eq, outcome_bind_of_ok (outcome_modify w _),
    outcome_bind_of_ok (outcome_get _),
    outcome_bind_of_ok (outcome_attempt_of h)]
  rfl

/-- Saving a profile whose file has a name does not end a run. -/
theorem exists_saved {stage : Stage σ} {root : Path} {w : World σ}
    (hdomain : Profile.IsDomain w.profile.domain)
    (hnull : Path.hasNull (Profile.file root w.profile.domain).text = false) :
    ∃ saved, outcome (saveProfile stage root) w = (.ok (), saved) := by
  rw [← domain_stamped] at hdomain hnull
  rw [saveProfile_eq, outcome_bind_of_ok (outcome_modify w _), outcome_bind_of_ok (outcome_get _)]
  rcases Profile.save_of_hasNull hdomain.isPart.1 hnull { w with profile := stamped w } with
    ⟨w', hsave⟩ | ⟨artifact, cause, w', hsave⟩
  · rw [outcome_bind_of_ok (outcome_attempt_of hsave)]
    exact ⟨w', rfl⟩
  · rw [outcome_bind_of_ok (outcome_attempt_of hsave)]
    obtain ⟨logged, hlog, -⟩ := exists_log stage .error (Failure.noArtifact artifact cause).message w'
    exact ⟨logged, hlog⟩

/-- The visit of a live run, and then the attempt to save the profile with its time. -/
def saveAfterVisit (host : Host σ) (options : RunOptions) (known : Prepared) : Work σ Path := do
  let _ ← attempt (visit host options known)
  modify fun w => { w with profile := stamped w }
  Profile.save options.profiles (← get).profile

theorem outcome_saveAfterVisit {loaded closed : World σ}
    (h : (outcome (visit host options known) loaded).2 = closed) :
    outcome (saveAfterVisit host options known) loaded =
      outcome (Profile.save options.profiles (stamped closed))
        { closed with profile := stamped closed } := by
  have hvisit : outcome (attempt (visit host options known)) loaded =
      (.ok (outcome (visit host options known) loaded).1, closed) := by
    rw [outcome_attempt, h]
  rw [saveAfterVisit, outcome_bind_of_ok hvisit, outcome_bind_of_ok (outcome_modify closed _),
    outcome_bind_of_ok (outcome_get _)]

/-- Once the profile is saved after a visit, it is in its file for the rest of the run, whatever came of
the visit. -/
theorem read_of_depart {answer : Except Failure Progress} {path : Path} {closed saved : World σ}
    (hdomain : Profile.IsDomain (stamped closed).domain)
    (h : outcome (Profile.save options.profiles (stamped closed))
      { closed with profile := stamped closed } = (.ok path, saved)) :
    (outcome (depart host options plan known answer) closed).2.files.read
        (Profile.file options.profiles (stamped closed).domain) =
      .ok (.text (stamped closed).toJson.pretty) := by
  have hread := Profile.read_of_save h
  have hsaved : outcome (andFinally (Effect.ofExcept answer)
      (saveProfile (known.stage host options) options.profiles)) closed = (answer, saved) := by
    rw [outcome_andFinally, outcome_ofExcept, outcome_saveProfile_of_ok h]
  cases answer with
  | error failure =>
      rw [depart, outcome_bind_of_error hsaved]
      exact hread
  | ok progress =>
      rw [depart, outcome_bind_of_ok hsaved, outcome_bind_of_ok (outcome_now saved)]
      exact read_of_conclude hdomain.isPart.1 hdomain.isPart.2.1
        (Profile.name_ne_log (stamped closed).domain) hdomain.isPart.2.2 hread

end Run
end Walkthrough
