import Walkthrough.Proofs.Files.Connected
import Walkthrough.Proofs.Profile.Loading
import Walkthrough.Proofs.Run.Saving

/-! # Profiles as a map

What is saved is loaded under its domain, and under other domains the same is loaded as before. This
takes a directory of profiles that is there already, or a path to it that leads up nowhere: on another
path, making directories can open the way to profiles that were out of reach. -/

namespace Walkthrough.Profile

open Effect

variable {σ : Type} {root path : Path} {p : Profile} {d : String} {w w' : World σ}

/-! ## Texts -/

/-- A profile with a time is read from its own text. -/
theorem Distinct.ofText_pretty_self (h : p.Distinct) (hdated : p.updatedAt ≠ "") :
    ofText p.domain p.toJson.pretty = .ok (some p) := by
  have hparse := Json.parse_document h.plain_toJson p.document_toJson
  have hupdated : memberText p.members "updatedAt" neverUpdated = p.updatedAt := by
    simp [memberText, members, Table.get?_cons, Json.isTruthy, Json.display, hdated]
  rw [toJson_eq] at hparse
  rw [ofText, toJson_eq, hparse]
  have hself : ({ ofMembers p.members with domain := p.domain } : Profile) = p := by
    obtain ⟨domain, selectors, updatedAt⟩ := p
    exact congrArg₂ (Profile.mk domain) (selectors_ofMembers_members _) hupdated
  exact congrArg (fun found => Except.ok (some found)) hself

/-- The domain that an object gives is passed over. -/
theorem ofMembers_congr {members others : Table Json}
    (h : ∀ key ≠ "domain", Table.get? members key = Table.get? others key) (domain : String) :
    ({ ofMembers members with domain := domain } : Profile) =
      { ofMembers others with domain := domain } := by
  simp [ofMembers, memberText, h "selectors" (by decide), h "updatedAt" (by decide)]

/-! ## Files -/

theorem fileName_inj {d e : String} : d ++ ".json" = e ++ ".json" ↔ d = e := by
  rw [← String.toList_inj, String.toList_append, String.toList_append, List.append_left_inj,
    String.toList_inj]

/-- Profiles of different domains have different places. -/
theorem resolve_file_ne {e : String} (he : '/' ∉ e.toList) (hd : '/' ∉ d.toList) (hne : d ≠ e)
    (root : Path) (home : List String) :
    (file root e).resolve home ≠ (file root d).resolve home :=
  Path.resolve_child_ne root root (isPart_fileName he).1 (isPart_fileName he).2
    (isPart_fileName hd).1 (isPart_fileName hd).2 (mt fileName_inj.mp hne.symm) home

/-- Loading depends on what is read alone. -/
theorem load_congr {v : World σ}
    (h : v.files.read (file root d) = w.files.read (file root d)) :
    (outcome (load root d) v).1 = (outcome (load root d) w).1 := by
  simp only [answer_of_load_eq, Files.readText, h]

/-- Where nothing is read under a name that a file can have, the profile is empty. -/
theorem load_eq_empty (hnull : Path.hasNull (file root d).text = false)
    (h : ∀ content, w.files.read (file root d) ≠ .ok content) :
    (outcome (load root d) w).1 = .ok (empty d) := by
  cases hread : w.files.read (file root d) with
  | ok content => exact absurd hread (h content)
  | error failure => exact (Loads.unreadable hread (Files.read_eq_error hnull hread)).execution

/-- Nothing is read where no directory is. -/
theorem isDirectory_of_read {files : Files} {content : Text.Content} (hd : '/' ∉ d.toList)
    (h : files.read (file root d) = .ok content) : files.isDirectory root = true := by
  obtain ⟨key, hkey, -⟩ := Files.read_eq_ok_iff.mp h
  exact Files.isDirectory_of_locate_child (isPart_fileName hd).1 hkey

/-- In a tree that hangs together, what is in the place of a profile is in the directory of profiles, if
the path to it leads up nowhere. -/
theorem isDirectory_of_node? {files : Files} {node : Node} (hconnected : files.Connected)
    (hup : ".." ∉ root.parts) (hd : '/' ∉ d.toList)
    (hnull : Path.hasNull (file root d).text = false)
    (hnode : files.node? ((file root d).resolve files.home) = some node) :
    files.isDirectory root = true := by
  obtain ⟨hpart, hname⟩ := isPart_fileName hd
  have hparts : ".." ∉ (file root d).parts := by
    rw [file, Path.child_of_isPart root hpart, List.mem_append, List.mem_singleton, not_or]
    exact ⟨hup, hname.symm⟩
  exact Files.isDirectory_of_locate_child hpart (hconnected.locate hparts hnull hnode)

/-! ## One profile -/

theorem load_of_read (hdistinct : p.Distinct) (hdated : p.updatedAt ≠ "")
    (hread : w.files.read (file root p.domain) = .ok (.text p.toJson.pretty)) :
    outcome (load root p.domain) w = (.ok p, w) := by
  have hcontent := Json.read_document hdistinct.plain_toJson p.document_toJson
  refine outcome_load_of_ofText ?_ (hdistinct.ofText_pretty_self hdated)
  simp [Files.readText, hread, hcontent, bind, Except.bind]

/-- What was saved is loaded. -/
theorem load_of_save (hdistinct : p.Distinct) (hdated : p.updatedAt ≠ "")
    (hsave : outcome (save root p) w = (.ok path, w')) :
    outcome (load root p.domain) w' = (.ok p, w') :=
  load_of_read hdistinct hdated (read_of_save hsave)

/-- What is read for another domain is the same, if there was a directory of profiles. -/
theorem read_of_save_ne (hroot : w.files.isDirectory root = true) (hp : '/' ∉ p.domain.toList)
    (hd : '/' ∉ d.toList) (hne : d ≠ p.domain)
    (hsave : outcome (save root p) w = (.ok path, w')) :
    w'.files.read (file root d) = w.files.read (file root d) := by
  obtain ⟨housed, hhouse, hwrite⟩ := exists_files_of_save hsave
  obtain rfl : w.files = housed :=
    Except.ok.inj ((Files.ensureDirectory_of_isDirectory hroot).symm.trans hhouse)
  have hplace := resolve_file_ne hp hd hne root w.files.home
  obtain ⟨-, hfiles⟩ := Files.write_eq_ok hwrite
  refine Files.read_child_congr (isPart_fileName hd).1 hroot (isDirectory_of_save hsave) ?_ ?_
  · rw [hfiles, Files.home_put]
  · rw [hfiles]
    exact Files.node?_put_of_ne hplace _

/-- Whether the files of profiles are where a path says, before the directory of profiles is made: it is
there, or the path to it leads up nowhere. -/
def Open (root : Path) (files : Files) : Prop :=
  files.isDirectory root = true ∨ ".." ∉ root.parts ∧ files.Connected

/-- A file in the place of another profile was there before. -/
theorem node?_of_save_ne {content : Text.Content} (hp : '/' ∉ p.domain.toList) (hd : '/' ∉ d.toList)
    (hne : d ≠ p.domain) (hsave : outcome (save root p) w = (.ok path, w'))
    (hread : w'.files.read (file root d) = .ok content) :
    w.files.node? ((file root d).resolve w.files.home) = some (.file content) := by
  obtain ⟨housed, hhouse, hwrite⟩ := exists_files_of_save hsave
  have hsame := Files.sameFiles_ensureDirectory hhouse
  have hnode := Files.read_eq_ok hread
  have hplace := resolve_file_ne hp hd hne root housed.home
  obtain ⟨-, hfiles⟩ := Files.write_eq_ok hwrite
  rw [hfiles, Files.home_put, Files.node?_put_of_ne hplace, hsame.home] at hnode
  exact (hsame.file _ content).mp hnode

/-- For another domain the same is loaded as before. -/
theorem load_of_save_ne (hopen : Open root w.files) (hp : '/' ∉ p.domain.toList)
    (hd : '/' ∉ d.toList) (hne : d ≠ p.domain)
    (hsave : outcome (save root p) w = (.ok path, w')) :
    (outcome (load root d) w').1 = (outcome (load root d) w).1 := by
  by_cases hroot : w.files.isDirectory root = true
  · exact load_congr (read_of_save_ne hroot hp hd hne hsave)
  · obtain ⟨hup, hconnected⟩ := hopen.resolve_left hroot
    cases hnull : Path.hasNull (file root d).text with
    | true => exact load_congr (by rw [Files.read_of_hasNull hnull, Files.read_of_hasNull hnull])
    | false =>
        -- Where no directory was, no other profile is read, neither before nor after.
        have hbefore : ∀ content, w.files.read (file root d) ≠ .ok content :=
          fun content hread => hroot (isDirectory_of_read hd hread)
        have hafter : ∀ content, w'.files.read (file root d) ≠ .ok content :=
          fun content hread => hroot (isDirectory_of_node? hconnected hup hd hnull
            (node?_of_save_ne hp hd hne hsave hread))
        rw [load_eq_empty hnull hbefore, load_eq_empty hnull hafter]

/-- After profiles were saved, their directory is there. -/
theorem open_of_save (hsave : outcome (save root p) w = (.ok path, w')) : Open root w'.files :=
  .inl (isDirectory_of_save hsave)

theorem connected_of_save (h : w.files.Connected)
    (hsave : outcome (save root p) w = (.ok path, w')) : w'.files.Connected := by
  obtain ⟨housed, hhouse, hwrite⟩ := exists_files_of_save hsave
  exact (h.ensureDirectory hhouse).write hwrite

/-- Loading after a profile was saved: under its domain exactly this profile is loaded, and under each
other domain what was loaded before, if the directory of profiles was there or the path to it leads up
nowhere. The domain that a file gives never matters, and no domain of a plan has a slash. -/
theorem saved_is_loaded (hdistinct : p.Distinct) (hdated : p.updatedAt ≠ "")
    (hp : '/' ∉ p.domain.toList) (hsave : outcome (save root p) w = (.ok path, w')) :
    outcome (load root p.domain) w' = (.ok p, w') ∧
    (Open root w.files → ∀ d, '/' ∉ d.toList → d ≠ p.domain →
      (outcome (load root d) w').1 = (outcome (load root d) w).1) ∧
    (w.files.Connected → w'.files.Connected) ∧
    (∀ (v : World σ) d s t members others, v.files.readText (file root d) = .ok s →
      w.files.readText (file root d) = .ok t → Json.parse s = .ok (.obj members) →
      Json.parse t = .ok (.obj others) →
      (∀ key ≠ "domain", Table.get? members key = Table.get? others key) →
      (outcome (load root d) v).1 = (outcome (load root d) w).1) ∧
    ∀ actions d, domainOf actions = .ok d → '/' ∉ d.toList := by
  refine ⟨load_of_save hdistinct hdated hsave,
    fun hopen d hd hne => load_of_save_ne hopen hp hd hne hsave,
    fun hconnected => connected_of_save hconnected hsave, ?_,
    fun actions d hd => (isDomain_of_domainOf hd).slash⟩
  intro v d s t members others hs ht hmembers hothers h
  simp only [answer_of_load_eq, hs, ht, Except.bind, ofText, hmembers, hothers, ofMembers_congr h]

/-- A profile saved beside another one. -/
theorem saved_is_loaded_beside :
    let root : Path := ⟨"", ["profiles"]⟩
    let other : Profile := ⟨"shop.example", [("Go", "#go")], "2024-01-01T00:00:00.000Z"⟩
    let p : Profile := ⟨"example.com", [("Sign in", "#login")], "2026-01-01T00:00:00.000Z"⟩
    let files : Files := ⟨[], [(["profiles"], .directory),
      (["profiles", "shop.example.json"], .file (.text other.toJson.pretty))]⟩
    let w : World Unit := ⟨(), 0, files, .empty defaultDomain, 0, [], [], []⟩
    Open root w.files ∧ ∃ path w', outcome (save root p) w = (.ok path, w') ∧
      outcome (load root p.domain) w' = (.ok p, w') ∧
      (outcome (load root other.domain) w').1 = .ok other := by
  intro root other p files w
  have hroot : w.files.isDirectory root = true := by decide +kernel
  have hread : w.files.read (file root other.domain) = .ok (.text other.toJson.pretty) := by
    refine Files.read_eq_ok_iff.mpr ⟨_, Files.locate_child hroot (by decide) (by decide), ?_⟩
    rw [Path.resolve_child root (by decide) (by decide)]
    rfl
  have hother : outcome (load root other.domain) w = (.ok other, w) :=
    load_of_read (by decide) (by decide) hread
  obtain ⟨path, w', hsave, -⟩ := endsIn_iff.mp
    (show endsIn (save root p) w (fun _ _ => true) = true by decide +kernel)
  obtain ⟨hload, hstays, -⟩ :=
    saved_is_loaded (p := p) (by decide) (by decide) (by decide) hsave
  refine ⟨.inl hroot, path, w', hsave, hload, ?_⟩
  rw [hstays (.inl hroot) other.domain (by decide) (by decide), hother]

/-- Where the way to the profiles leads through a directory that is missing, it is the first profile
that is saved which makes the others found. -/
theorem saving_opens_the_way :
    let root : Path := ⟨"", ["new", "..", "profiles"]⟩
    let other : Profile := ⟨"shop.example", [("Go", "#go")], "2024-01-01T00:00:00.000Z"⟩
    let p : Profile := ⟨"example.com", [], "2024-01-01T00:00:00.000Z"⟩
    let files : Files := ⟨[], [(["profiles"], .directory),
      (["profiles", "shop.example.json"], .file (.text other.toJson.pretty))]⟩
    let w : World Unit := ⟨(), 0, files, .empty defaultDomain, 0, [], [], []⟩
    p.Distinct ∧ domainOf [⟨"goto", "", [("url", .str "https://example.com/")]⟩] = .ok p.domain ∧
      domainOf [⟨"goto", "", [("url", .str "https://shop.example/")]⟩] = .ok other.domain ∧
      w.files.Connected ∧ ∃ path w', outcome (save root p) w = (.ok path, w') ∧
      (outcome (load root other.domain) w).1 = .ok (empty other.domain) ∧
      (outcome (load root other.domain) w').1 = .ok other := by
  intro root other p files w
  have hconnected : w.files.Connected := Files.connected_of_nodes (by decide +kernel)
  obtain ⟨before, _, hbefore, hempty⟩ := endsIn_iff.mp
    (show endsIn (load root other.domain) w (fun found _ => found = empty other.domain) = true by
      decide +kernel)
  obtain ⟨path, w', hsave, hafter⟩ := endsIn_iff.mp
    (show endsIn (save root p) w (fun _ w' =>
      endsIn (load root other.domain) w' (fun found _ => found = other)) = true by decide +kernel)
  obtain ⟨after, _, hafter, hfound⟩ := endsIn_iff.mp hafter
  refine ⟨by decide, rfl, rfl, hconnected, path, w', hsave, ?_, ?_⟩
  · rw [hbefore, of_decide_eq_true hempty]
  · rw [hafter, of_decide_eq_true hfound]

/-! ## Many profiles -/

/-- Profiles that are saved one after the other. -/
inductive Saves (root : Path) : World σ → List Profile → World σ → Prop
  | nil (w : World σ) : Saves root w [] w
  | cons {w w' w'' : World σ} {p : Profile} {ps : List Profile} {path : Path}
      (save : outcome (save root p) w = (.ok path, w')) (rest : Saves root w' ps w'') :
      Saves root w (p :: ps) w''

/-- After many profiles were saved, the last one of a domain is loaded, or what was loaded before. -/
theorem Saves.load {ps : List Profile} (h : Saves root w ps w')
    (hps : ∀ p ∈ ps, p.Distinct ∧ p.updatedAt ≠ "" ∧ '/' ∉ p.domain.toList)
    (hopen : Open root w.files) (hd : '/' ∉ d.toList) :
    (outcome (load root d) w').1 = match ps.reverse.find? (·.domain = d) with
      | some p => .ok p
      | none => (outcome (Profile.load root d) w).1 := by
  induction h with
  | nil w => rfl
  | @cons w w' w'' p ps path save rest ih =>
      obtain ⟨⟨hdistinct, hdated, hp⟩, hrest⟩ := List.forall_mem_cons.mp hps
      rw [ih hrest (open_of_save save), List.reverse_cons, List.find?_append]
      cases hfind : ps.reverse.find? (·.domain = d) with
      | some last => rfl
      | none =>
          by_cases hdomain : p.domain = d
          · subst hdomain
            simp [load_of_save hdistinct hdated save]
          · simp [hdomain, load_of_save_ne hopen hp hd (Ne.symm hdomain) save]

end Walkthrough.Profile
