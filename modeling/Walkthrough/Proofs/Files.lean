import Walkthrough.Files
import Walkthrough.Proofs.Path

/-! # What changes in a tree of files

A path has one place, whatever the tree holds. Writing changes the node at one place, adding to a
file too, and making directories changes no file. -/

namespace Walkthrough.Files

/-! ## Places -/

theorem follow_eq_ok {files : Files} {text : String} {place key : List String} {parts : List String}
    (h : files.follow text place parts = .ok key) : key = parts.foldl Path.step place := by
  induction parts generalizing place with
  | nil => exact (Except.ok.inj h).symm
  | cons part rest ih =>
      unfold follow at h
      split at h
      · exact ih h
      · cases h
      · cases h

theorem follow_eq_error {files : Files} {text : String} {place parts : List String}
    {failure : Failure} (h : files.follow text place parts = .error failure) :
    failure.isSystem := by
  induction parts generalizing place with
  | nil => cases h
  | cons part rest ih =>
      unfold follow at h
      split at h
      · exact ih h
      · cases h
        rfl
      · cases h
        rfl

theorem locate_eq_ok {files : Files} {p : Path} {key : List String}
    (h : files.locate p = .ok key) : Path.hasNull p.text = false ∧ key = p.resolve files.home := by
  unfold locate at h
  split at h
  · cases h
  · rename_i hnull
    exact ⟨by simpa using hnull, follow_eq_ok h⟩

/-- Only a text that cannot name a file fails other than by the file system. -/
theorem locate_eq_error {files : Files} {p : Path} {failure : Failure}
    (hnull : Path.hasNull p.text = false) (h : files.locate p = .error failure) :
    failure.isSystem := by
  unfold locate at h
  rw [hnull] at h
  exact follow_eq_error h

/-! ## Nodes -/

theorem node?_put (files : Files) (key : List String) (node : Node) (place : List String) :
    (files.put key node).node? place =
      if place.isPrefixOf files.home then some .directory
      else if key = place then some node else files.node? place := by
  simp only [node?, put]
  by_cases hhome : place.isPrefixOf files.home
  · simp [hhome]
  · simp only [hhome]
    by_cases hkey : key = place
    · subst hkey
      have hnone : (files.nodes.filter fun entry => entry.1 != key).find?
          (fun entry => entry.1 == key) = none := by
        rw [List.find?_eq_none]
        intro entry hentry
        simpa using (List.mem_filter.mp hentry).2
      simp [List.find?_append, hnone]
    · have hsame : ∀ nodes : List (List String × Node),
          (nodes.filter fun entry => entry.1 != key).find? (fun entry => entry.1 == place) =
            nodes.find? (fun entry => entry.1 == place) := by
        intro nodes
        rw [List.find?_filter]
        congr 1
        funext entry
        by_cases hentry : entry.1 = place <;> simp [hentry, Ne.symm hkey]
      simp [List.find?_append, hsame, hkey]

/-- Other places keep their nodes. -/
theorem node?_put_of_ne {files : Files} {key place : List String} (h : key ≠ place) (node : Node) :
    (files.put key node).node? place = files.node? place := by
  rw [node?_put, if_neg h]
  split
  · rename_i hhome
    simp [node?, hhome]
  · rfl

@[simp] theorem home_put (files : Files) (key : List String) (node : Node) :
    (files.put key node).home = files.home :=
  rfl

/-- Writing puts the new content in the place of the path. -/
theorem write_eq_ok {files files' : Files} {p : Path} {content : Text.Content}
    (h : files.write p content = .ok files') :
    Path.hasNull p.text = false ∧ files' = files.put (p.resolve files.home) (.file content) := by
  unfold write at h
  cases hkey : files.locate p with
  | error failure => simp [hkey, bind, Except.bind] at h
  | ok key =>
      obtain ⟨hnull, rfl⟩ := locate_eq_ok hkey
      refine ⟨hnull, ?_⟩
      simp only [hkey, bind, Except.bind] at h
      split at h
      · cases h
      · split at h
        · exact (Except.ok.inj h).symm
        · cases h
        · cases h

/-- Reading under a name that a file can have fails by the file system. -/
theorem read_eq_error {files : Files} {p : Path} {failure : Failure}
    (hnull : Path.hasNull p.text = false) (h : files.read p = .error failure) :
    failure.isSystem := by
  unfold read at h
  cases hkey : files.locate p with
  | error found =>
      obtain rfl : found = failure := by simpa [hkey, bind, Except.bind] using h
      exact locate_eq_error hnull hkey
  | ok key =>
      simp only [hkey, bind, Except.bind] at h
      split at h <;> cases h <;> rfl

/-- A write that fails on a proper name fails by the file system. -/
theorem write_eq_error {files : Files} {p : Path} {content : Text.Content} {failure : Failure}
    (hnull : Path.hasNull p.text = false) (h : files.write p content = .error failure) :
    failure.isSystem := by
  unfold write at h
  cases hkey : files.locate p with
  | error found =>
      obtain rfl : found = failure := by simpa [hkey, bind, Except.bind] using h
      exact locate_eq_error hnull hkey
  | ok key =>
      simp only [hkey, bind, Except.bind] at h
      split at h
      · cases h
        rfl
      · split at h
        · cases h
        · cases h
          rfl
        · cases h
          rfl

/-- A file is written where a path leads, and where no directory is. -/
theorem locate_of_write {files files' : Files} {p : Path} {content : Text.Content}
    (h : files.write p content = .ok files') :
    files.locate p = .ok (p.resolve files.home) ∧
      files.node? (p.resolve files.home) ≠ some .directory := by
  unfold write at h
  cases hkey : files.locate p with
  | error failure => simp [hkey, bind, Except.bind] at h
  | ok key =>
      obtain ⟨-, rfl⟩ := locate_eq_ok hkey
      refine ⟨rfl, fun hnode => ?_⟩
      simp [hkey, hnode, bind, Except.bind] at h

/-- What was written is there. -/
theorem node?_of_write {files files' : Files} {p : Path} {content : Text.Content}
    (h : files.write p content = .ok files') :
    files'.home = files.home ∧ files'.node? (p.resolve files.home) = some (.file content) := by
  obtain ⟨-, hdirectory⟩ := locate_of_write h
  obtain ⟨-, rfl⟩ := write_eq_ok h
  refine ⟨rfl, ?_⟩
  have hfree : ¬ (p.resolve files.home).isPrefixOf files.home := by
    intro hhome
    exact hdirectory (by simp [node?, hhome])
  rw [node?_put, if_neg hfree, if_pos rfl]

theorem read_eq_ok {files : Files} {p : Path} {content : Text.Content}
    (h : files.read p = .ok content) :
    files.node? (p.resolve files.home) = some (.file content) := by
  unfold read at h
  cases hkey : files.locate p with
  | error failure => simp [hkey, bind, Except.bind] at h
  | ok key =>
      obtain ⟨-, rfl⟩ := locate_eq_ok hkey
      simp only [hkey, bind, Except.bind] at h
      split at h
      · rename_i hnode
        rw [hnode, Except.ok.inj h]
      · cases h
      · cases h

/-- Adding to a file writes what it held with more after it. -/
theorem exists_write_of_append {files files' : Files} {p : Path} {s : String}
    (h : files.append p s = .ok files') :
    ∃ old, files.read p = .ok old ∧ files.write p (old.append s) = .ok files' := by
  unfold append at h
  cases hread : files.read p with
  | error failure => simp [hread, bind, Except.bind] at h
  | ok old =>
      simp only [hread, bind, Except.bind] at h
      exact ⟨old, rfl, h⟩

theorem append_eq_ok {files files' : Files} {p : Path} {s : String}
    (h : files.append p s = .ok files') :
    ∃ old, files.node? (p.resolve files.home) = some (.file old) ∧
      files' = files.put (p.resolve files.home) (.file (old.append s)) := by
  obtain ⟨old, hread, hwrite⟩ := exists_write_of_append h
  exact ⟨old, read_eq_ok hread, (write_eq_ok hwrite).2⟩

theorem openForAppend_eq_ok {files files' : Files} {p : Path}
    (h : files.openForAppend p = .ok files') :
    files' = files ∨ files' = files.put (p.resolve files.home) (.file (.text "")) := by
  unfold openForAppend at h
  split at h
  · exact .inl (Except.ok.inj h).symm
  · exact .inr (write_eq_ok h).2

/-! ## Finding files again -/

/-- All directories stay, in the same places. -/
structure DirectoriesStay (files files' : Files) : Prop where
  home : files'.home = files.home
  directory : ∀ key, files.node? key = some .directory → files'.node? key = some .directory

theorem DirectoriesStay.follow {files files' : Files} (h : DirectoriesStay files files')
    {text : String} {place key : List String} {parts : List String}
    (hkey : files.follow text place parts = .ok key) : files'.follow text place parts = .ok key := by
  induction parts generalizing place with
  | nil => exact hkey
  | cons part rest ih =>
      unfold Files.follow at hkey ⊢
      split at hkey
      · rename_i hplace
        rw [h.directory place hplace]
        exact ih hkey
      · cases hkey
      · cases hkey

/-- A path that leads somewhere still does. -/
theorem DirectoriesStay.locate {files files' : Files} (h : DirectoriesStay files files') {p : Path}
    {key : List String} (hkey : files.locate p = .ok key) : files'.locate p = .ok key := by
  unfold Files.locate at hkey ⊢
  split at hkey
  · cases hkey
  · rename_i hnull
    rw [if_neg hnull, h.home]
    exact h.follow hkey

/-- A file is written where no directory is. -/
theorem directoriesStay_write {files files' : Files} {p : Path} {content : Text.Content}
    (h : files.write p content = .ok files') : DirectoriesStay files files' := by
  obtain ⟨-, hdirectory⟩ := locate_of_write h
  obtain ⟨-, rfl⟩ := write_eq_ok h
  refine ⟨rfl, fun key hkey => ?_⟩
  have hne : p.resolve files.home ≠ key := by
    rintro rfl
    exact hdirectory hkey
  rw [node?_put_of_ne hne, hkey]

theorem directoriesStay_append {files files' : Files} {p : Path} {s : String}
    (h : files.append p s = .ok files') : DirectoriesStay files files' := by
  obtain ⟨_, -, hwrite⟩ := exists_write_of_append h
  exact directoriesStay_write hwrite

theorem read_eq_ok_iff {files : Files} {p : Path} {content : Text.Content} :
    files.read p = .ok content ↔
      ∃ key, files.locate p = .ok key ∧ files.node? key = some (.file content) := by
  unfold read
  cases hkey : files.locate p with
  | error failure => simp [bind, Except.bind]
  | ok key =>
      simp only [bind, Except.bind]
      split <;> simp_all

/-- What was written is read. -/
theorem read_of_write {files files' : Files} {p : Path} {content : Text.Content}
    (h : files.write p content = .ok files') : files'.read p = .ok content := by
  obtain ⟨hkey, -⟩ := locate_of_write h
  exact read_eq_ok_iff.mpr ⟨_, (directoriesStay_write h).locate hkey, (node?_of_write h).2⟩

/-- Writing elsewhere changes nothing in what is read. -/
theorem read_of_write_ne {files files' : Files} {p q : Path} {content other : Text.Content}
    (hread : files.read p = .ok content) (h : files.write q other = .ok files')
    (hne : q.resolve files.home ≠ p.resolve files.home) : files'.read p = .ok content := by
  obtain ⟨key, hkey, hnode⟩ := read_eq_ok_iff.mp hread
  obtain ⟨-, rfl⟩ := locate_eq_ok hkey
  refine read_eq_ok_iff.mpr ⟨_, (directoriesStay_write h).locate hkey, ?_⟩
  obtain ⟨-, rfl⟩ := write_eq_ok h
  rw [node?_put_of_ne hne, hnode]

/-- Adding to a file elsewhere changes nothing in what is read. -/
theorem read_of_append_ne {files files' : Files} {p q : Path} {content : Text.Content} {s : String}
    (hread : files.read p = .ok content) (h : files.append q s = .ok files')
    (hne : q.resolve files.home ≠ p.resolve files.home) : files'.read p = .ok content := by
  obtain ⟨_, -, hwrite⟩ := exists_write_of_append h
  exact read_of_write_ne hread hwrite hne

/-- Opening a file elsewhere for adding to it changes nothing in what is read. -/
theorem read_of_openForAppend_ne {files files' : Files} {p q : Path} {content : Text.Content}
    (hread : files.read p = .ok content) (h : files.openForAppend q = .ok files')
    (hne : q.resolve files.home ≠ p.resolve files.home) : files'.read p = .ok content := by
  unfold openForAppend at h
  split at h
  · obtain rfl := Except.ok.inj h
    exact hread
  · exact read_of_write_ne hread h hne

/-! ## Directories -/

/-- The same files, in the same places. -/
structure SameFiles (files files' : Files) : Prop where
  home : files'.home = files.home
  file : ∀ key content, files'.node? key = some (.file content) ↔
    files.node? key = some (.file content)

theorem SameFiles.refl (files : Files) : SameFiles files files :=
  ⟨rfl, fun _ _ => Iff.rfl⟩

theorem SameFiles.trans {files files' files'' : Files} (h : SameFiles files files')
    (h' : SameFiles files' files'') : SameFiles files files'' :=
  ⟨h'.home.trans h.home, fun key content => (h'.file key content).trans (h.file key content)⟩

theorem sameFiles_makeDirectory {files files' : Files} {p : Path}
    (h : files.makeDirectory p = .ok files') : SameFiles files files' := by
  unfold makeDirectory at h
  cases hkey : files.locate p with
  | error failure => simp [hkey, bind, Except.bind] at h
  | ok key =>
      simp only [hkey, bind, Except.bind] at h
      split at h
      · cases h
      rename_i hnone
      obtain rfl := Except.ok.inj h
      refine ⟨rfl, fun place content => ?_⟩
      rw [node?_put]
      by_cases hhome : place.isPrefixOf files.home
      · simp [hhome, node?]
      · by_cases hplace : key = place
        · subst hplace
          simp [hhome, hnone]
        · simp [hhome, hplace]

/-- What holds of each directory that is made on the way holds of all that are made in a row. -/
theorem related_ensureDirectory {r : Files → Files → Prop} {p : Path} (hrefl : ∀ files, r files files)
    (htrans : ∀ {files files' files''}, r files files' → r files' files'' → r files files'')
    (hmake : ∀ {files files' q}, q.OnWay p → files.makeDirectory q = .ok files' → r files files')
    {files files' : Files} (h : files.ensureDirectory p = .ok files') : r files files' := by
  unfold ensureDirectory at h
  generalize p.parts.length + 1 = fuel at h
  suffices hmade : ∀ q made, q.OnWay p → makeDirectories fuel files q = .ok made → r files made from
    hmade p files' (.refl p) h
  clear h
  induction fuel with
  | zero =>
      intro q made _ h
      obtain rfl := Except.ok.inj h
      exact hrefl files
  | succ fuel ih =>
      intro q made hq h
      unfold makeDirectories at h
      split at h
      · rename_i made hmade
        obtain rfl := Except.ok.inj h
        exact hmake hq hmade
      · split at h
        · cases h
        · split at h
          · cases h
          · rename_i made hmade
            split at h
            · rename_i done hdone
              obtain rfl := Except.ok.inj h
              exact htrans (ih _ _ hq.parent hmade) (hmake hq hdone)
            · split at h
              · obtain rfl := Except.ok.inj h
                exact ih _ _ hq.parent hmade
              · cases h
      · split at h
        · obtain rfl := Except.ok.inj h
          exact hrefl _
        · cases h

theorem sameFiles_ensureDirectory {files files' : Files} {p : Path}
    (h : files.ensureDirectory p = .ok files') : SameFiles files files' :=
  related_ensureDirectory .refl .trans (fun _ => sameFiles_makeDirectory) h

theorem DirectoriesStay.refl (files : Files) : DirectoriesStay files files :=
  ⟨rfl, fun _ => id⟩

theorem directoriesStay_openForAppend {files files' : Files} {p : Path}
    (h : files.openForAppend p = .ok files') : DirectoriesStay files files' := by
  unfold openForAppend at h
  split at h
  · obtain rfl := Except.ok.inj h
    exact .refl files
  · exact directoriesStay_write h

theorem DirectoriesStay.trans {files files' files'' : Files} (h : DirectoriesStay files files')
    (h' : DirectoriesStay files' files'') : DirectoriesStay files files'' :=
  ⟨h'.home.trans h.home, fun key hkey => h'.directory key (h.directory key hkey)⟩

/-- A directory is made where nothing is. -/
theorem directoriesStay_makeDirectory {files files' : Files} {p : Path}
    (h : files.makeDirectory p = .ok files') : DirectoriesStay files files' := by
  unfold makeDirectory at h
  cases hkey : files.locate p with
  | error failure => simp [hkey, bind, Except.bind] at h
  | ok key =>
      simp only [hkey, bind, Except.bind] at h
      split at h
      · cases h
      · rename_i hnone
        obtain rfl := Except.ok.inj h
        refine ⟨rfl, fun place hplace => ?_⟩
        have hne : key ≠ place := by
          rintro rfl
          rw [hnone] at hplace
          cases hplace
        rw [node?_put_of_ne hne, hplace]

theorem directoriesStay_ensureDirectory {files files' : Files} {p : Path}
    (h : files.ensureDirectory p = .ok files') : DirectoriesStay files files' :=
  related_ensureDirectory .refl .trans (fun _ => directoriesStay_makeDirectory) h

/-- Making sure of a directory changes nothing in what is read. -/
theorem read_of_ensureDirectory {files files' : Files} {p q : Path} {content : Text.Content}
    (hread : files.read p = .ok content) (h : files.ensureDirectory q = .ok files') :
    files'.read p = .ok content := by
  obtain ⟨key, hkey, hnode⟩ := read_eq_ok_iff.mp hread
  exact read_eq_ok_iff.mpr ⟨key, (directoriesStay_ensureDirectory h).locate hkey,
    ((sameFiles_ensureDirectory h).file key content).mpr hnode⟩

/-- A directory is made sure of only under a name that can name one. -/
theorem hasNull_of_ensureDirectory {files files' : Files} {p : Path}
    (h : files.ensureDirectory p = .ok files') : Path.hasNull p.text = false := by
  by_contra hnull
  rw [Bool.not_eq_false] at hnull
  have hlocate : files.locate p = .error (.value .nullInPath) := by simp [locate, hnull]
  have hmake : files.makeDirectory p = .error (.value .nullInPath) := by
    simp [makeDirectory, hlocate, bind, Except.bind]
  simp [ensureDirectory, makeDirectories, hmake, isDirectory, at?, hlocate] at h

/-! ## Legible files -/

/-- A path that can name a file, and whose place holds no file other than a text. -/
structure Legible (files : Files) (p : Path) : Prop where
  named : Path.hasNull p.text = false
  decodes : ∀ content, files.node? (p.resolve files.home) = some (.file content) →
    ∃ s, content.decode = .ok s

theorem Legible.of_sameFiles {files files' : Files} {p : Path} (h : Legible files p)
    (hsame : SameFiles files files') : Legible files' p := by
  refine ⟨h.named, fun content hcontent => ?_⟩
  rw [hsame.home, hsame.file] at hcontent
  exact h.decodes content hcontent

theorem Legible.put_of_ne {files : Files} {p : Path} {key : List String} (h : Legible files p)
    (hne : key ≠ p.resolve files.home) (node : Node) : Legible (files.put key node) p := by
  refine ⟨h.named, fun content hcontent => ?_⟩
  rw [home_put, node?_put, if_neg hne] at hcontent
  split at hcontent
  · cases hcontent
  · exact h.decodes content hcontent

/-- A text does no harm wherever it is written. -/
theorem Legible.put_text {files : Files} {p : Path} (h : Legible files p) (key : List String)
    (s : String) : Legible (files.put key (.file (.text s))) p := by
  by_cases hkey : key = p.resolve files.home
  · refine ⟨h.named, fun content hcontent => ?_⟩
    rw [home_put, node?_put, if_pos hkey] at hcontent
    split at hcontent
    · cases hcontent
    · cases hcontent
      exact ⟨s, rfl⟩
  · exact h.put_of_ne hkey _

theorem legible_put_self {files : Files} {p : Path} (hnull : Path.hasNull p.text = false)
    (s : String) : Legible (files.put (p.resolve files.home) (.file (.text s))) p := by
  refine ⟨hnull, fun content hcontent => ?_⟩
  rw [home_put, node?_put, if_pos rfl] at hcontent
  split at hcontent
  · cases hcontent
  · cases hcontent
    exact ⟨s, rfl⟩

/-- A legible file is read, unless the file system refuses. -/
theorem Legible.isSystem {files : Files} {p : Path} (h : Legible files p) {failure : Failure}
    (hread : files.readText p = .error failure) : failure.isSystem := by
  unfold readText at hread
  cases hcontent : files.read p with
  | ok content =>
      obtain ⟨s, hs⟩ := h.decodes content (read_eq_ok hcontent)
      simp [hcontent, Text.Content.read, hs, bind, Except.bind] at hread
  | error found =>
      obtain rfl : found = failure := by simpa [hcontent, bind, Except.bind] using hread
      exact read_eq_error h.named hcontent

end Walkthrough.Files
