import Walkthrough.Proofs.Files

/-! # Directories that are there

A directory that was made sure of is there, stays there whatever is done, and need not be made again. A
file can be written in it where no other directory is. -/

namespace Walkthrough.Files

variable {files files' : Files} {p : Path}

theorem isDirectory_iff :
    files.isDirectory p = true ↔
      ∃ key, files.locate p = .ok key ∧ files.node? key = some .directory := by
  unfold isDirectory at?
  cases files.locate p with
  | error failure => simp
  | ok key =>
      dsimp only
      split <;> simp_all

theorem DirectoriesStay.isDirectory (h : DirectoriesStay files files')
    (hp : files.isDirectory p = true) : files'.isDirectory p = true := by
  obtain ⟨key, hkey, hnode⟩ := isDirectory_iff.mp hp
  exact isDirectory_iff.mpr ⟨key, h.locate hkey, h.directory key hnode⟩

theorem isDirectory_of_makeDirectory (h : files.makeDirectory p = .ok files') :
    files'.isDirectory p = true := by
  have hstay := directoriesStay_makeDirectory h
  unfold makeDirectory at h
  cases hkey : files.locate p with
  | error failure => simp [hkey, bind, Except.bind] at h
  | ok key =>
      simp only [hkey, bind, Except.bind] at h
      split at h
      · cases h
      · rename_i hnone
        obtain rfl := Except.ok.inj h
        refine isDirectory_iff.mpr ⟨key, hstay.locate hkey, ?_⟩
        have hfree : ¬ key.isPrefixOf files.home := by
          intro hhome
          simp [node?, hhome] at hnone
        rw [node?_put, if_neg hfree, if_pos rfl]

/-- A directory that was made sure of is there. -/
theorem isDirectory_of_ensureDirectory (h : files.ensureDirectory p = .ok files') :
    files'.isDirectory p = true := by
  unfold ensureDirectory makeDirectories at h
  split at h
  · rename_i made hmade
    obtain rfl := Except.ok.inj h
    exact isDirectory_of_makeDirectory hmade
  · split at h
    · cases h
    · split at h
      · cases h
      · rename_i made _
        split at h
        · rename_i done hdone
          obtain rfl := Except.ok.inj h
          exact isDirectory_of_makeDirectory hdone
        · split at h
          · rename_i hmade
            obtain rfl := Except.ok.inj h
            exact hmade
          · cases h
  · split at h
    · rename_i hp
      obtain rfl := Except.ok.inj h
      exact hp
    · cases h

/-- A directory that is there is not made again. -/
theorem ensureDirectory_of_isDirectory (h : files.isDirectory p = true) :
    files.ensureDirectory p = .ok files := by
  obtain ⟨key, hkey, hnode⟩ := isDirectory_iff.mp h
  have hmake : files.makeDirectory p = .error (.file (.exists p.text)) := by
    simp [makeDirectory, hkey, hnode, bind, Except.bind]
  simp [ensureDirectory, makeDirectories, hmake, h]

theorem makeDirectory_eq_ok (h : files.makeDirectory p = .ok files') :
    files' = files.put (p.resolve files.home) .directory := by
  unfold makeDirectory at h
  cases hkey : files.locate p with
  | error failure => simp [hkey, bind, Except.bind] at h
  | ok key =>
      obtain ⟨-, rfl⟩ := locate_eq_ok hkey
      simp only [hkey, bind, Except.bind] at h
      split at h
      · cases h
      · exact (Except.ok.inj h).symm

/-- Directories that are old ones, or are where something on the way to a path leads. -/
structure MadeOnWay (p : Path) (files files' : Files) : Prop where
  home : files'.home = files.home
  directory : ∀ key, files'.node? key = some .directory →
    files.node? key = some .directory ∨ ∃ q, Path.OnWay q p ∧ q.resolve files.home = key

theorem MadeOnWay.refl (p : Path) (files : Files) : MadeOnWay p files files :=
  ⟨rfl, fun _ => .inl⟩

theorem MadeOnWay.trans {files'' : Files} (h : MadeOnWay p files files')
    (h' : MadeOnWay p files' files'') : MadeOnWay p files files'' where
  home := h'.home.trans h.home
  directory key hkey := by
    rcases h'.directory key hkey with hold | hway
    · exact h.directory key hold
    · exact .inr (h.home ▸ hway)

theorem madeOnWay_makeDirectory {q : Path} (hway : q.OnWay p)
    (h : files.makeDirectory q = .ok files') : MadeOnWay p files files' := by
  obtain rfl := makeDirectory_eq_ok h
  refine ⟨rfl, fun key hkey => ?_⟩
  by_cases hplace : q.resolve files.home = key
  · exact .inr ⟨q, hway, hplace⟩
  · exact .inl (by rwa [node?_put_of_ne hplace] at hkey)

theorem madeOnWay_ensureDirectory (h : files.ensureDirectory p = .ok files') :
    MadeOnWay p files files' :=
  related_ensureDirectory (.refl p) .trans madeOnWay_makeDirectory h

/-- A directory that cannot be made is refused by the file system, if it has a name. -/
theorem makeDirectory_eq_error {failure : Failure} (hnull : Path.hasNull p.text = false)
    (h : files.makeDirectory p = .error failure) : failure.isSystem := by
  unfold makeDirectory at h
  cases hkey : files.locate p with
  | error found =>
      obtain rfl : found = failure := by simpa [hkey, bind, Except.bind] using h
      exact locate_eq_error hnull hkey
  | ok key =>
      simp only [hkey, bind, Except.bind] at h
      split at h
      · cases h
        rfl
      · cases h

theorem ensureDirectory_eq_error {failure : Failure} (hnull : Path.hasNull p.text = false)
    (h : files.ensureDirectory p = .error failure) : failure.isSystem := by
  unfold ensureDirectory at h
  generalize p.parts.length + 1 = fuel at h
  induction fuel generalizing p with
  | zero => cases h
  | succ fuel ih =>
      unfold makeDirectories at h
      split at h
      · cases h
      · split at h
        · cases h
          rfl
        · split at h
          · rename_i found hfound
            obtain rfl : found = failure := Except.error.inj h
            exact ih ((Path.OnWay.refl p).parent.hasNull hnull) hfound
          · rename_i made _
            split at h
            · cases h
            · rename_i refused hrefused
              split at h
              · cases h
              · obtain rfl : refused = failure := Except.error.inj h
                exact makeDirectory_eq_error hnull hrefused
      · rename_i refused _ hrefused
        split at h
        · cases h
        · obtain rfl : refused = failure := Except.error.inj h
          exact makeDirectory_eq_error hnull hrefused

/-! ## Files in directories -/

/-- Following some parts and then others. -/
theorem follow_append {text other : String} {place key : List String} {parts more : List String}
    (h : files.follow text place parts = .ok key) :
    files.follow other place (parts ++ more) = files.follow other key more := by
  induction parts generalizing place with
  | nil =>
      obtain rfl := Except.ok.inj h
      rfl
  | cons part rest ih =>
      rw [List.cons_append, Files.follow]
      rw [Files.follow] at h
      split at h
      · exact ih h
      · cases h
      · cases h

/-- A name in a directory that is there leads somewhere. -/
theorem locate_child (h : files.isDirectory p = true) {name : String} (hname : Path.IsPart name)
    (hnull : Path.hasNull name = false) :
    files.locate (p.child name) = .ok ((p.child name).resolve files.home) := by
  obtain ⟨key, hkey, hnode⟩ := isDirectory_iff.mp h
  obtain ⟨hp, -⟩ := locate_eq_ok hkey
  have hchild := Path.hasNull_child hname hnull hp
  have hfollow : files.locate (p.child name) =
      .ok (Path.step key name) := by
    unfold locate at hkey ⊢
    rw [if_neg (by simp [hp])] at hkey
    rw [if_neg (by simp [hchild]), Path.child_of_isPart p hname, follow_append hkey]
    unfold Files.follow
    rw [hnode]
    rfl
  rw [hfollow, (locate_eq_ok hfollow).2]

/-- A file can be written in a directory that is there, where no directory is. -/
theorem exists_write_child (h : files.isDirectory p = true) {name : String}
    (hname : Path.IsPart name) (hup : name ≠ "..") (hnull : Path.hasNull name = false)
    (hfree : files.node? ((p.child name).resolve files.home) ≠ some .directory)
    (content : Text.Content) :
    ∃ files', files.write (p.child name) content = .ok files' := by
  obtain ⟨key, hkey, hnode⟩ := isDirectory_iff.mp h
  obtain ⟨-, rfl⟩ := locate_eq_ok hkey
  have hparent : ((p.child name).resolve files.home).dropLast = p.resolve files.home := by
    rw [Path.resolve_child p hname hup, List.dropLast_concat]
  refine ⟨files.put ((p.child name).resolve files.home) (.file content), ?_⟩
  unfold write
  simp only [locate_child h hname hnull, bind, Except.bind, hparent, hnode]

/-! ## Room for files -/

/-- Whether a file can be written under a path, whatever it is to hold. -/
def room (files : Files) (p : Path) : Except Failure Unit :=
  (files.write p (.text "")).map fun _ => ()

theorem map_write (files : Files) (p : Path) (content : Text.Content) :
    (files.write p content).map (fun _ => ()) = files.room p := by
  unfold room write
  cases files.locate p with
  | error failure => rfl
  | ok key =>
      simp only [bind, Except.bind]
      split
      · rfl
      · split <;> rfl

/-- There is room for a file where one can be written. -/
theorem exists_write_iff {content : Text.Content} :
    (∃ files', files.write p content = .ok files') ↔ files.room p = .ok () := by
  rw [← map_write files p content]
  cases files.write p content <;> simp [Except.map]

theorem room_eq_ok_iff :
    files.room p = .ok () ↔ ∃ key, files.locate p = .ok key ∧
      files.node? key ≠ some .directory ∧ files.node? key.dropLast = some .directory := by
  unfold room write
  cases files.locate p with
  | error failure => simp [bind, Except.bind, Except.map]
  | ok key =>
      simp only [bind, Except.bind]
      split
      · simp_all [Except.map]
      · split <;> simp_all [Except.map]

/-- What is on the way is no obstacle for being a directory. -/
theorem follow_ne_isDirectory (files : Files) (text other : String) (place parts : List String) :
    files.follow text place parts ≠ .error (.file (.isDirectory other)) := by
  induction parts generalizing place with
  | nil => simp [Files.follow]
  | cons part rest ih =>
      unfold Files.follow
      split
      · exact ih _
      · simp
      · simp

theorem room_eq_isDirectory_iff :
    files.room p = .error (.file (.isDirectory p.text)) ↔ files.isDirectory p = true := by
  rw [isDirectory_iff]
  unfold room write
  cases hkey : files.locate p with
  | error failure =>
      have hother : failure ≠ .file (.isDirectory p.text) := by
        rintro rfl
        unfold locate at hkey
        split at hkey
        · cases hkey
        · exact follow_ne_isDirectory files _ _ _ _ hkey
      simp [bind, Except.bind, Except.map, hother]
  | ok key =>
      simp only [bind, Except.bind]
      split
      · simp_all [Except.map]
      · split <;> simp_all [Except.map]

/-- In a directory that is there, nothing but a directory is in the way of a file. -/
theorem room_child (h : files.isDirectory p = true) {name : String} (hname : Path.IsPart name)
    (hup : name ≠ "..") (hnull : Path.hasNull name = false) :
    files.room (p.child name) = .ok () ∨
      files.room (p.child name) = .error (.file (.isDirectory (p.child name).text)) := by
  by_cases hnode : files.node? ((p.child name).resolve files.home) = some .directory
  · exact .inr (room_eq_isDirectory_iff.mpr
      (isDirectory_iff.mpr ⟨_, locate_child h hname hnull, hnode⟩))
  · obtain ⟨files', hwrite⟩ := exists_write_child h hname hup hnull hnode (.text "")
    exact .inl (by rw [room, hwrite]; rfl)

/-- There is room as before where no directory comes. -/
theorem DirectoriesStay.room (h : DirectoriesStay files files')
    (hnew : files'.node? (p.resolve files.home) = some .directory →
      files.node? (p.resolve files.home) = some .directory)
    (hroom : files.room p = .ok () ∨ files.room p = .error (.file (.isDirectory p.text))) :
    files'.room p = files.room p := by
  rcases hroom with hfree | htaken
  · obtain ⟨key, hkey, hnode, hparent⟩ := room_eq_ok_iff.mp hfree
    obtain ⟨-, rfl⟩ := locate_eq_ok hkey
    rw [hfree]
    exact room_eq_ok_iff.mpr ⟨_, h.locate hkey, fun hmade => hnode (hnew hmade),
      h.directory _ hparent⟩
  · rw [htaken]
    exact room_eq_isDirectory_iff.mpr (h.isDirectory (room_eq_isDirectory_iff.mp htaken))

/-! ## The same directories -/

/-- The same directories, in the same places. -/
structure SameDirectories (files files' : Files) : Prop where
  home : files'.home = files.home
  directory : ∀ key, files'.node? key = some .directory ↔ files.node? key = some .directory

theorem SameDirectories.refl (files : Files) : SameDirectories files files :=
  ⟨rfl, fun _ => Iff.rfl⟩

theorem SameDirectories.trans {files'' : Files} (h : SameDirectories files files')
    (h' : SameDirectories files' files'') : SameDirectories files files'' :=
  ⟨h'.home.trans h.home, fun key => (h'.directory key).trans (h.directory key)⟩

theorem SameDirectories.symm (h : SameDirectories files files') : SameDirectories files' files :=
  ⟨h.home.symm, fun key => (h.directory key).symm⟩

theorem SameDirectories.stay (h : SameDirectories files files') : DirectoriesStay files files' :=
  ⟨h.home, fun key hkey => (h.directory key).mpr hkey⟩

theorem SameDirectories.room_eq_ok (h : SameDirectories files files') (hroom : files.room p = .ok ()) :
    files'.room p = .ok () := by
  obtain ⟨key, hkey, hnode, hparent⟩ := room_eq_ok_iff.mp hroom
  exact room_eq_ok_iff.mpr ⟨key, h.stay.locate hkey, mt (h.directory key).mp hnode,
    (h.directory _).mpr hparent⟩

/-- Where there is room depends on the directories only. -/
theorem SameDirectories.room_eq_ok_iff (h : SameDirectories files files') :
    files'.room p = .ok () ↔ files.room p = .ok () :=
  ⟨h.symm.room_eq_ok, h.room_eq_ok⟩

theorem sameDirectories_write {content : Text.Content} (h : files.write p content = .ok files') :
    SameDirectories files files' := by
  refine ⟨(directoriesStay_write h).home, fun key =>
    ⟨fun hkey => ?_, (directoriesStay_write h).directory key⟩⟩
  obtain ⟨-, rfl⟩ := write_eq_ok h
  rw [node?_put] at hkey
  by_cases hhome : key.isPrefixOf files.home
  · simp [node?, hhome]
  · rw [if_neg hhome] at hkey
    split at hkey
    · cases hkey
    · exact hkey

theorem sameDirectories_append {s : String} (h : files.append p s = .ok files') :
    SameDirectories files files' := by
  obtain ⟨_, -, hwrite⟩ := exists_write_of_append h
  exact sameDirectories_write hwrite

theorem sameDirectories_openForAppend (h : files.openForAppend p = .ok files') :
    SameDirectories files files' := by
  unfold openForAppend at h
  split at h
  · exact Except.ok.inj h ▸ .refl files
  · exact sameDirectories_write h

theorem MadeOnWay.of_sameDirectories (p : Path) (h : SameDirectories files files') :
    MadeOnWay p files files' :=
  ⟨h.home, fun key hkey => .inl ((h.directory key).mp hkey)⟩

/-! ## Files that are there -/

theorem isFile_iff {files : Files} {p : Path} :
    files.isFile p = true ↔ ∃ content, files.read p = .ok content := by
  simp only [read_eq_ok_iff]
  unfold isFile at?
  cases files.locate p with
  | error failure => simp
  | ok key =>
      dsimp only
      split <;> simp_all

/-- A log is opened under a name that a file can have. -/
theorem hasNull_of_openForAppend (h : files.openForAppend p = .ok files') :
    Path.hasNull p.text = false := by
  unfold openForAppend at h
  split at h
  · rename_i hfile
    unfold at? at hfile
    split at hfile
    · rename_i hkey
      exact (locate_eq_ok hkey).1
    · cases hfile
  · exact (write_eq_ok h).1

/-! ## Settled places -/

/-- All that lies above a place is a directory. -/
def Rooted (files : Files) (place : List String) : Prop :=
  ∀ front, front <+: place → front ≠ place → files.node? front = some .directory

theorem rooted_home (files : Files) : files.Rooted files.home := by
  intro front hfront _
  have hhome : front.isPrefixOf files.home := by simpa using hfront
  simp [node?, hhome]

theorem Rooted.step {place : List String} (h : files.Rooted place)
    (hplace : files.node? place = some .directory) (part : String) :
    files.Rooted (Path.step place part) := by
  intro front hfront hne
  unfold Path.step at hfront hne
  split at hfront
  · have hinside := hfront.trans (List.dropLast_prefix place)
    by_cases heq : front = place
    · exact heq ▸ hplace
    · exact h front hinside heq
  · rename_i hpart
    rw [if_neg hpart] at hne
    rcases List.prefix_concat_iff.mp hfront with heq | hinside
    · exact absurd heq hne
    · by_cases heq : front = place
      · exact heq ▸ hplace
      · exact h front hinside heq

theorem Rooted.follow {text : String} {place key parts : List String} (h : files.Rooted place)
    (hkey : files.follow text place parts = .ok key) : files.Rooted key := by
  induction parts generalizing place with
  | nil => exact Except.ok.inj hkey ▸ h
  | cons part rest ih =>
      unfold Files.follow at hkey
      split at hkey
      · rename_i hplace
        exact ih (h.step hplace part) hkey
      · cases hkey
      · cases hkey

theorem rooted_of_locate {key : List String} (h : files.locate p = .ok key) : files.Rooted key := by
  unfold locate at h
  split at h
  · cases h
  · refine Rooted.follow ?_ h
    split
    · exact rooted_home files
    · exact fun front hfront hne => absurd (List.prefix_nil.mp hfront) hne

theorem Rooted.follow_self {text : String} {place rest : List String}
    (h : files.Rooted (place ++ rest)) (hup : ".." ∉ rest) :
    files.follow text place rest = .ok (place ++ rest) := by
  induction rest generalizing place with
  | nil => simp [Files.follow]
  | cons part rest ih =>
      obtain ⟨hpart, hrest⟩ := List.ne_and_not_mem_of_not_mem_cons hup
      have hplace : files.node? place = some .directory :=
        h place (List.prefix_append place _) (by simp)
      have hsame : place ++ part :: rest = place ++ [part] ++ rest := by simp
      rw [Files.follow, hplace]
      rw [hsame] at h ⊢
      simpa [Path.step, hpart.symm] using ih h hrest

/-- What is read under some path is read under its settled place, if this has a name. -/
theorem read_ofParts {content : Text.Content} (hhome : ".." ∉ files.home)
    (hnull : Path.hasNull (Path.ofParts (p.resolve files.home)).text = false)
    (h : files.read p = .ok content) :
    files.read (.ofParts (p.resolve files.home)) = .ok content := by
  obtain ⟨key, hkey, hnode⟩ := read_eq_ok_iff.mp h
  obtain ⟨-, rfl⟩ := locate_eq_ok hkey
  refine read_eq_ok_iff.mpr ⟨p.resolve files.home, ?_, hnode⟩
  rw [locate, if_neg (by simp [hnull])]
  exact @Rooted.follow_self _ _ [] _ (rooted_of_locate hkey) (Path.notMem_resolve p hhome)

end Walkthrough.Files
