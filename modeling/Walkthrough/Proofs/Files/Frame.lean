import Walkthrough.Proofs.Files.Directories

/-! # What changes leave alone

A change of files at some paths leaves all other files as they are, and no directory goes away. So a
file elsewhere is found and read again. -/

namespace Walkthrough.Files

/-- Files changed only where some paths lead; directories may have been made. -/
structure OnlyAt (paths : Path → Prop) (files files' : Files) : Prop extends
    DirectoriesStay files files' where
  file : ∀ key, (∀ p, paths p → p.resolve files.home ≠ key) →
    ∀ content, files'.node? key = some (.file content) ↔ files.node? key = some (.file content)

section OnlyAt

variable {paths more : Path → Prop} {files files' files'' : Files} {p : Path}

theorem OnlyAt.refl (files : Files) : OnlyAt paths files files :=
  ⟨.refl files, fun _ _ _ => Iff.rfl⟩

theorem OnlyAt.trans (h : OnlyAt paths files files') (h' : OnlyAt paths files' files'') :
    OnlyAt paths files files'' where
  toDirectoriesStay := h.toDirectoriesStay.trans h'.toDirectoriesStay
  file key hkey content :=
    (h'.file key (by rwa [h.home]) content).trans (h.file key hkey content)

theorem OnlyAt.mono (h : OnlyAt paths files files') (hmore : ∀ p, paths p → more p) :
    OnlyAt more files files' where
  toDirectoriesStay := h.toDirectoriesStay
  file key hkey := h.file key fun p hp => hkey p (hmore p hp)

/-- A file elsewhere is read as before. -/
theorem OnlyAt.read (h : OnlyAt paths files files')
    (hother : ∀ q, paths q → q.resolve files.home ≠ p.resolve files.home) {content : Text.Content}
    (hread : files.read p = .ok content) : files'.read p = .ok content := by
  obtain ⟨key, hkey, hnode⟩ := read_eq_ok_iff.mp hread
  obtain ⟨-, rfl⟩ := locate_eq_ok hkey
  exact read_eq_ok_iff.mpr ⟨_, h.locate hkey, (h.file _ hother content).mpr hnode⟩

theorem onlyAt_ensureDirectory (h : files.ensureDirectory p = .ok files') :
    OnlyAt paths files files' where
  toDirectoriesStay := directoriesStay_ensureDirectory h
  file key _ := (sameFiles_ensureDirectory h).file key

theorem onlyAt_write {content : Text.Content} (hp : paths p)
    (h : files.write p content = .ok files') : OnlyAt paths files files' where
  toDirectoriesStay := directoriesStay_write h
  file key hkey content := by
    obtain ⟨-, rfl⟩ := write_eq_ok h
    rw [node?_put_of_ne (hkey p hp)]

end OnlyAt

end Walkthrough.Files
