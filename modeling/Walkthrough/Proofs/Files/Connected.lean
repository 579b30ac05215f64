import Mathlib.Data.List.Infix
import Walkthrough.Proofs.Files.Directories

/-! # Trees of files that hang together

In a tree of files all that lies above a node is a directory. Where a path leads up nowhere, what is
there is found in such a tree. -/

namespace Walkthrough.Files

variable {files files' : Files} {p : Path} {name : String}

/-! ## Nodes in directories -/

/-- All that lies above a node is a directory. -/
def Connected (files : Files) : Prop :=
  ∀ key node, files.node? key = some node → files.Rooted key

theorem DirectoriesStay.rooted (h : DirectoriesStay files files') {place : List String}
    (hplace : files.Rooted place) : files'.Rooted place :=
  fun front hfront hne => h.directory front (hplace front hfront hne)

/-- Whether a tree hangs together can be seen from the nodes that were put in it. -/
theorem connected_of_nodes (h : ∀ entry ∈ files.nodes, ∀ front ∈ entry.1.inits,
    front ≠ entry.1 → files.node? front = some .directory) : files.Connected := by
  intro key node hnode front hfront hne
  unfold node? at hnode
  split at hnode
  · rename_i hhome
    have hfront : front.isPrefixOf files.home := by simpa using hfront.trans (by simpa using hhome)
    simp [node?, hfront]
  · obtain ⟨entry, hentry, -⟩ := Option.map_eq_some_iff.mp hnode
    have hkey : entry.1 = key := by simpa using List.find?_some hentry
    exact h entry (List.mem_of_find?_eq_some hentry) front (by simpa [hkey] using hfront) (hkey ▸ hne)

theorem connected_empty (home : List String) : (empty home).Connected :=
  connected_of_nodes fun _ hentry => absurd hentry List.not_mem_nil

/-- A tree in which one more node is put stays connected if no directory goes away and all above the
node is one. -/
theorem Connected.put {key : List String} {node : Node} (h : files.Connected)
    (hstay : DirectoriesStay files (files.put key node)) (hkey : files.Rooted key) :
    (files.put key node).Connected := by
  intro place found hfound
  by_cases hplace : key = place
  · exact hstay.rooted (hplace ▸ hkey)
  · rw [node?_put_of_ne hplace] at hfound
    exact hstay.rooted (h place found hfound)

theorem Connected.write {content : Text.Content} (h : files.Connected)
    (hwrite : files.write p content = .ok files') : files'.Connected := by
  have hkey := rooted_of_locate (locate_of_write hwrite).1
  have hstay := directoriesStay_write hwrite
  obtain ⟨-, rfl⟩ := write_eq_ok hwrite
  exact h.put hstay hkey

theorem Connected.makeDirectory (h : files.Connected) (hmake : files.makeDirectory p = .ok files') :
    files'.Connected := by
  have hstay := directoriesStay_makeDirectory hmake
  have hkey : files.Rooted (p.resolve files.home) := by
    unfold Files.makeDirectory at hmake
    cases hlocate : files.locate p with
    | error failure => simp [hlocate, bind, Except.bind] at hmake
    | ok key => exact (locate_eq_ok hlocate).2 ▸ rooted_of_locate hlocate
  obtain rfl := makeDirectory_eq_ok hmake
  exact h.put hstay hkey

theorem Connected.ensureDirectory (h : files.Connected)
    (hmake : files.ensureDirectory p = .ok files') : files'.Connected :=
  related_ensureDirectory (r := fun files files' => files.Connected → files'.Connected)
    (fun _ => id) (fun first second => second ∘ first) (fun _ hmade h => h.makeDirectory hmade) hmake h

/-- A path that leads up nowhere leads to what is in its place. -/
theorem Connected.locate (h : files.Connected) (hup : ".." ∉ p.parts)
    (hnull : Path.hasNull p.text = false) {node : Node}
    (hnode : files.node? (p.resolve files.home) = some node) :
    files.locate p = .ok (p.resolve files.home) := by
  have hrooted := h _ _ hnode
  have hplace := Path.foldl_step_of_notMem (if p.root = "" then files.home else []) hup
  rw [Files.locate, if_neg (by simp [hnull])]
  rw [Path.resolve, hplace] at hrooted ⊢
  exact hrooted.follow_self hup

/-! ## Names in directories -/

theorem follow_concat_eq_ok {text : String} {place key parts : List String} {part : String}
    (h : files.follow text place (parts ++ [part]) = .ok key) (other : String) :
    ∃ mid, files.follow other place parts = .ok mid ∧ files.node? mid = some .directory := by
  induction parts generalizing place with
  | nil =>
      rw [List.nil_append, Files.follow] at h
      split at h
      · rename_i hplace
        exact ⟨place, rfl, hplace⟩
      · cases h
      · cases h
  | cons first rest ih =>
      rw [List.cons_append, Files.follow] at h
      rw [Files.follow]
      split at h
      · exact ih h
      · cases h
      · cases h

/-- A name that leads somewhere is a name in a directory. -/
theorem isDirectory_of_locate_child {key : List String} (hname : Path.IsPart name)
    (h : files.locate (p.child name) = .ok key) : files.isDirectory p = true := by
  have hnull := (Path.onWay_child p hname).hasNull (locate_eq_ok h).1
  unfold locate at h
  split at h
  · cases h
  · rw [Path.child_of_isPart p hname] at h
    obtain ⟨mid, hmid, hnode⟩ := follow_concat_eq_ok h p.text
    exact isDirectory_iff.mpr ⟨mid, by rw [locate, if_neg (by simp [hnull])]; exact hmid, hnode⟩

/-- No path under a name that no file can have is read. -/
theorem read_of_hasNull (h : Path.hasNull p.text = true) :
    files.read p = .error (.value .nullInPath) := by
  simp [read, locate, h, bind, Except.bind]

/-- What is read under a name in a directory depends on the node there alone. -/
theorem read_child_congr (hname : Path.IsPart name) (h : files.isDirectory p = true)
    (h' : files'.isDirectory p = true) (hhome : files'.home = files.home)
    (hnode : files'.node? ((p.child name).resolve files.home) =
      files.node? ((p.child name).resolve files.home)) :
    files'.read (p.child name) = files.read (p.child name) := by
  cases hnull : Path.hasNull (p.child name).text with
  | true => rw [read_of_hasNull hnull, read_of_hasNull hnull]
  | false =>
      have hnull : Path.hasNull name = false := by
        rw [Path.hasNull_text_eq_false_iff, Path.child_of_isPart p hname] at hnull
        exact hnull.2 name (by simp)
      have hlocate := locate_child h' hname hnull
      rw [hhome] at hlocate
      simp only [read, locate_child h hname hnull, hlocate, bind, Except.bind, hnode]

end Walkthrough.Files
