import Walkthrough.Proofs.Effect
import Walkthrough.Proofs.Files.Directories

/-! # Trees of files that are alike

Trees that differ only in what a few files hold have the same directories and the same places. What is
done to both of them leaves them alike, or is refused for the same reason. -/

namespace Walkthrough.Files

open Effect

/-- The same nodes, but for what the files hold that some paths lead to. -/
structure SameBut (paths : List Path) (files files' : Files) : Prop where
  home : files'.home = files.home
  node : ∀ key, files'.node? key = files.node? key ∨
    (∃ p ∈ paths, p.resolve files.home = key) ∧ ∃ content content',
      files.node? key = some (.file content) ∧ files'.node? key = some (.file content')

/-- What is found in the same place of trees that are alike. -/
inductive SameKind : Option Node → Option Node → Prop
  | missing : SameKind none none
  | directory : SameKind (some .directory) (some .directory)
  | file (content content' : Text.Content) :
      SameKind (some (.file content)) (some (.file content'))

theorem SameKind.refl (found : Option Node) : SameKind found found :=
  match found with
  | none => .missing
  | some .directory => .directory
  | some (.file content) => .file content content

section SameBut

variable {paths : List Path} {files files' : Files}

theorem SameBut.refl (files : Files) : SameBut paths files files :=
  ⟨rfl, fun _ => .inl rfl⟩

variable (h : SameBut paths files files')
include h

theorem SameBut.kind (key : List String) : SameKind (files.node? key) (files'.node? key) := by
  rcases h.node key with hsame | ⟨-, content, content', hnode, hnode'⟩
  · rw [hsame]
    exact .refl _
  · rw [hnode, hnode']
    exact .file content content'

/-! ## Places -/

theorem SameBut.follow (text : String) (place parts : List String) :
    files'.follow text place parts = files.follow text place parts := by
  induction parts generalizing place with
  | nil => rfl
  | cons part rest ih =>
      have hkind := h.kind place
      unfold Files.follow
      generalize files.node? place = found, files'.node? place = found' at hkind ⊢
      cases hkind with
      | missing => rfl
      | directory => exact ih _
      | file => rfl

theorem SameBut.locate (p : Path) : files'.locate p = files.locate p := by
  unfold Files.locate
  rw [h.home]
  split
  · rfl
  · exact h.follow _ _ _

theorem SameBut.isDirectory (p : Path) : files'.isDirectory p = files.isDirectory p := by
  unfold Files.isDirectory Files.at?
  rw [h.locate]
  cases files.locate p with
  | error failure => rfl
  | ok key =>
      dsimp only
      match files.node? key, files'.node? key, h.kind key with
      | _, _, .missing => rfl
      | _, _, .directory => rfl
      | _, _, .file _ _ => rfl

theorem SameBut.answers_read (p : Path) :
    Answers (fun _ _ => True) (files.read p) (files'.read p) := by
  unfold Files.read
  rw [h.locate]
  cases files.locate p with
  | error failure => exact .error failure
  | ok key =>
      dsimp only [bind, Except.bind]
      match files.node? key, files'.node? key, h.kind key with
      | _, _, .missing => exact .error _
      | _, _, .directory => exact .error _
      | _, _, .file _ _ => exact .ok trivial

/-! ## Changes -/

theorem SameBut.put (key : List String) (node : Node) :
    SameBut paths (files.put key node) (files'.put key node) := by
  refine ⟨h.home, fun place => ?_⟩
  rw [node?_put, node?_put, h.home, home_put]
  by_cases hhome : place.isPrefixOf files.home
  · simp [hhome]
  · by_cases hkey : key = place
    · simp [hhome, hkey]
    · simpa [hhome, hkey] using h.node place

/-- What is written to the paths themselves need not be the same. -/
theorem SameBut.put_file {p : Path} (hp : p ∈ paths) (content content' : Text.Content) :
    SameBut paths (files.put (p.resolve files.home) (.file content))
      (files'.put (p.resolve files.home) (.file content')) := by
  refine ⟨h.home, fun place => ?_⟩
  rw [node?_put, node?_put, h.home, home_put]
  by_cases hhome : place.isPrefixOf files.home
  · simp [hhome]
  · by_cases hkey : p.resolve files.home = place
    · rw [if_neg hhome, if_neg hhome, if_pos hkey, if_pos hkey]
      exact .inr ⟨⟨p, hp, hkey⟩, content, content', rfl, rfl⟩
    · simpa [hhome, hkey] using h.node place

theorem SameBut.write {p : Path} {content content' : Text.Content}
    (hcontent : content' = content ∨ p ∈ paths) :
    Answers (SameBut paths) (files.write p content) (files'.write p content') := by
  unfold Files.write
  rw [h.locate]
  cases hkey : files.locate p with
  | error failure => exact .error failure
  | ok key =>
      obtain ⟨-, rfl⟩ := locate_eq_ok hkey
      have hput : SameBut paths (files.put (p.resolve files.home) (.file content))
          (files'.put (p.resolve files.home) (.file content')) := by
        rcases hcontent with rfl | hp
        · exact h.put _ _
        · exact h.put_file hp content content'
      have hparent := h.kind (p.resolve files.home).dropLast
      dsimp only [bind, Except.bind]
      match files.node? (p.resolve files.home), files'.node? (p.resolve files.home),
        h.kind (p.resolve files.home) with
      | _, _, .directory => exact .error _
      | _, _, .missing | _, _, .file _ _ =>
          dsimp only
          match files.node? (p.resolve files.home).dropLast,
            files'.node? (p.resolve files.home).dropLast, hparent with
          | _, _, .missing => exact .error _
          | _, _, .directory => exact .ok hput
          | _, _, .file _ _ => exact .error _

theorem SameBut.room (p : Path) : files'.room p = files.room p := by
  have hwrite : Answers (SameBut paths) (files.write p (.text "")) (files'.write p (.text "")) :=
    h.write (.inl rfl)
  rw [← map_write files p (.text ""), ← map_write files' p (.text "")]
  rcases answers_iff.mp hwrite with ⟨_, _, hwritten, hwritten', -⟩ | ⟨_, hwritten, hwritten'⟩
  · rw [hwritten, hwritten']
    rfl
  · rw [hwritten, hwritten']

theorem SameBut.append {p : Path} (hp : p ∈ paths) (s s' : String) :
    Answers (SameBut paths) (files.append p s) (files'.append p s') := by
  unfold Files.append
  match files.read p, files'.read p, h.answers_read p with
  | _, _, .error failure => exact .error failure
  | _, _, .ok _ => exact h.write (.inr hp)

theorem SameBut.openForAppend (p : Path) :
    Answers (SameBut paths) (files.openForAppend p) (files'.openForAppend p) := by
  have hwrite : Answers (SameBut paths) (files.write p (.text "")) (files'.write p (.text "")) :=
    h.write (.inl rfl)
  unfold Files.openForAppend Files.at?
  rw [h.locate]
  cases files.locate p with
  | error failure => exact hwrite
  | ok key =>
      dsimp only
      match files.node? key, files'.node? key, h.kind key with
      | _, _, .missing | _, _, .directory => exact hwrite
      | _, _, .file _ _ => exact .ok h

theorem SameBut.makeDirectory (p : Path) :
    Answers (SameBut paths) (files.makeDirectory p) (files'.makeDirectory p) := by
  unfold Files.makeDirectory
  rw [h.locate]
  cases files.locate p with
  | error failure => exact .error failure
  | ok key =>
      dsimp only [bind, Except.bind]
      match files.node? key, files'.node? key, h.kind key with
      | _, _, .missing => exact .ok (h.put key .directory)
      | _, _, .directory => exact .error _
      | _, _, .file _ _ => exact .error _

/-- A failure to make a directory does not count where there is one. -/
theorem SameBut.orExists (failure : Failure) (p : Path) :
    Answers (SameBut paths) (if files.isDirectory p then .ok files else .error failure)
      (if files'.isDirectory p then .ok files' else .error failure) := by
  rw [h.isDirectory]
  split
  · exact .ok h
  · exact .error failure

theorem SameBut.makeDirectories (fuel : Nat) (p : Path) :
    Answers (SameBut paths) (Files.makeDirectories fuel files p)
      (Files.makeDirectories fuel files' p) := by
  induction fuel generalizing p with
  | zero => exact .ok h
  | succ fuel ih =>
      unfold Files.makeDirectories
      rcases answers_iff.mp (h.makeDirectory p) with ⟨made, made', hmade, hmade', hsame⟩ |
        ⟨failure, hmade, hmade'⟩
      · rw [hmade, hmade']
        exact .ok hsame
      · rw [hmade, hmade']
        split
        · contradiction
        · split
          · exact .error _
          · rcases answers_iff.mp (ih p.parent) with ⟨above, above', habove, habove', hsame⟩ |
              ⟨refusal, habove, habove'⟩
            · rw [habove, habove']
              rcases answers_iff.mp (hsame.makeDirectory p) with ⟨done, done', hdone, hdone', hends⟩ |
                ⟨refusal, hdone, hdone'⟩
              · simpa only [hdone, hdone'] using .ok hends
              · simpa only [hdone, hdone'] using hsame.orExists refusal p
            · rw [habove, habove']
              exact .error refusal
        · exact h.orExists _ p

theorem SameBut.ensureDirectory (p : Path) :
    Answers (SameBut paths) (files.ensureDirectory p) (files'.ensureDirectory p) :=
  h.makeDirectories _ p

end SameBut

end Walkthrough.Files
