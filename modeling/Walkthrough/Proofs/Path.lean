import Walkthrough.Files.Path
import Walkthrough.Proofs.Text.Split

/-! # Paths and their texts

The path that a text names is proper: its parts are neither empty nor single dots and hold no slash.
A proper path is named by its own text, and a name put after a path is the last part of its place. -/

namespace Walkthrough

/-! ## Proper paths -/

namespace Path

/-- A text that is a part of a path by itself. -/
def IsPart (s : String) : Prop :=
  s ≠ "" ∧ s ≠ "." ∧ '/' ∉ s.toList

instance (s : String) : Decidable (IsPart s) :=
  inferInstanceAs (Decidable (_ ∧ _ ∧ _))

/-- A path that a text names. -/
structure Proper (p : Path) : Prop where
  root : p.root = "" ∨ p.root = "/" ∨ p.root = "//"
  parts : ∀ part ∈ p.parts, IsPart part

theorem isPart_of_mem_keptParts {cs : List Char} {part : String}
    (h : part ∈ keptParts (Text.splitAt '/' cs)) : IsPart part := by
  obtain ⟨piece, hpiece, rfl⟩ := List.mem_map.mp h
  obtain ⟨hmem, hkept⟩ := List.mem_filter.mp hpiece
  obtain ⟨hempty, hdot⟩ : piece ≠ [] ∧ piece ≠ ['.'] := by simpa using hkept
  refine ⟨?_, ?_, ?_⟩
  · intro heq
    exact hempty (by simpa using congrArg String.toList heq)
  · intro heq
    exact hdot (by simpa using congrArg String.toList heq)
  · simpa using Text.notMem_of_mem_splitAt hmem

theorem proper_ofText (s : String) : (ofText s).Proper := by
  refine ⟨?_, fun part hpart => isPart_of_mem_keptParts hpart⟩
  simp only [ofText]
  split
  · exact .inl rfl
  · split
    · exact .inr (.inr rfl)
    · exact .inr (.inl rfl)

theorem Proper.child {p : Path} (h : p.Proper) (name : String) : (p.child name).Proper := by
  have hname := proper_ofText name
  by_cases hroot : (ofText name).root = ""
  · refine ⟨by simpa [Path.child, join, hroot] using h.root, ?_⟩
    intro part hpart
    rcases List.mem_append.mp (by simpa [Path.child, join, hroot] using hpart) with hp | hp
    · exact h.parts part hp
    · exact hname.parts part hp
  · simpa [Path.child, join, hroot] using hname

theorem keptParts_map {parts : List String} (h : ∀ part ∈ parts, IsPart part) :
    keptParts (parts.map String.toList) = parts := by
  have hall : ∀ piece ∈ parts.map String.toList, piece ≠ [] ∧ piece ≠ ['.'] := by
    intro piece hpiece
    obtain ⟨part, hpart, rfl⟩ := List.mem_map.mp hpiece
    obtain ⟨hempty, hdot, -⟩ := h part hpart
    exact ⟨fun heq => hempty (String.toList_inj.mp heq), fun heq => hdot (String.toList_inj.mp heq)⟩
  rw [keptParts, List.filter_eq_self.mpr (by simpa using hall), List.map_map]
  simp [Function.comp_def]

/-- A path that is seen from somewhere is a list of parts joined by slashes. -/
theorem keptParts_join {parts : List String} (h : ∀ part ∈ parts, IsPart part) :
    keptParts (Text.splitAt '/' (Text.join "/" parts).toList) = parts := by
  cases parts with
  | nil => rfl
  | cons part rest =>
      rw [Text.splitAt_join (by simp) fun q hq => (h q hq).2.2, keptParts_map h]

theorem head?_join {parts : List String} (h : ∀ part ∈ parts, IsPart part) :
    (Text.join "/" parts).toList.head? ≠ some '/' := by
  cases parts with
  | nil => simp [Text.join]
  | cons part rest =>
      obtain ⟨hempty, -, hslash⟩ := h part (by simp)
      have hne : part.toList ≠ [] := fun heq => hempty (String.toList_inj.mp heq)
      obtain ⟨c, cs, hcs⟩ := List.exists_cons_of_ne_nil hne
      have hc : c ≠ '/' := by
        rintro rfl
        simp [hcs] at hslash
      cases rest <;> simp [Text.join, hcs, hc]

/-- Empty pieces do not count. -/
theorem keptParts_nil_cons (pieces : List (List Char)) : keptParts ([] :: pieces) = keptParts pieces := by
  simp [keptParts]

/-- A proper path is the one that its text names. -/
theorem ofText_text {p : Path} (h : p.Proper) : ofText p.text = p := by
  obtain ⟨root, parts⟩ := p
  have hkept := keptParts_join h.parts
  have hhead := head?_join h.parts
  have htake : (Text.join "/" parts).toList.takeWhile (· = '/') = [] := by
    cases hcs : (Text.join "/" parts).toList with
    | nil => rfl
    | cons c cs =>
        have hc : c ≠ '/' := by simpa [hcs] using hhead
        simp [hc]
  rcases h.root with hroot | hroot | hroot
  all_goals
    obtain rfl : root = _ := hroot
  · by_cases hbody : Text.join "/" parts = ""
    · have hparts : parts = [] := by
        rw [hbody] at hkept
        exact hkept.symm
      subst hparts
      rfl
    · simp [text, hbody, ofText, htake, hkept]
  · simp [text, ofText, htake, Text.splitAt, keptParts_nil_cons, hkept]
  · simp [text, ofText, htake, Text.splitAt, keptParts_nil_cons, hkept]

/-! ## Names after paths -/

theorem ofText_of_isPart {s : String} (h : IsPart s) : ofText s = ⟨"", [s]⟩ := by
  have hproper : Proper ⟨"", [s]⟩ := ⟨.inl rfl, by simpa using h⟩
  have htext : (⟨"", [s]⟩ : Path).text = s := by simp [text, Text.join, h.1]
  simpa [htext] using ofText_text hproper

theorem child_of_isPart (p : Path) {s : String} (h : IsPart s) :
    p.child s = ⟨p.root, p.parts ++ [s]⟩ := by
  simp [child, join, ofText_of_isPart h]

/-- A name after a path is put in the place of the path. -/
theorem resolve_child (p : Path) {s : String} (h : IsPart s) (hup : s ≠ "..") (home : List String) :
    (p.child s).resolve home = p.resolve home ++ [s] := by
  simp [child_of_isPart p h, resolve, step, hup]

/-- Different names have different places, whatever paths they are put after. -/
theorem resolve_child_ne (p q : Path) {s t : String} (hs : IsPart s) (hsup : s ≠ "..")
    (ht : IsPart t) (htup : t ≠ "..") (hne : s ≠ t) (home : List String) :
    (p.child s).resolve home ≠ (q.child t).resolve home := by
  rw [resolve_child p hs hsup, resolve_child q ht htup]
  intro heq
  have hlast := congrArg List.getLast? heq
  simp only [List.getLast?_concat, Option.some.injEq] at hlast
  exact hne hlast

/-- A settled place, named from the root on, is a place that ends in the same name. -/
theorem resolve_ofParts_child (p : Path) {s : String} (h : IsPart s) (hup : s ≠ "..")
    (home : List String) :
    ∃ q : Path, (ofParts ((p.child s).resolve home)).resolve home = (q.child s).resolve home := by
  refine ⟨ofParts (p.resolve home), ?_⟩
  rw [resolve_child p h hup, resolve_child _ h hup]
  simp [ofParts, resolve, step, hup]

/-! ## Settled places -/

theorem notMem_foldl_step {parts : List String} {settled : List String} (h : ".." ∉ settled) :
    ".." ∉ parts.foldl step settled := by
  induction parts generalizing settled with
  | nil => exact h
  | cons part rest ih =>
      refine ih ?_
      unfold step
      split
      · exact fun hmem => h (List.dropLast_subset settled hmem)
      · rename_i hpart
        simp only [List.mem_append, List.mem_singleton, not_or]
        exact ⟨h, fun heq => hpart heq.symm⟩

theorem foldl_step_of_notMem {parts : List String} (settled : List String) (h : ".." ∉ parts) :
    parts.foldl step settled = settled ++ parts := by
  induction parts generalizing settled with
  | nil => simp
  | cons part rest ih =>
      obtain ⟨hpart, hrest⟩ := List.ne_and_not_mem_of_not_mem_cons h
      rw [List.foldl_cons, step, if_neg hpart.symm, ih _ hrest, List.append_assoc]
      rfl

/-- Seen from a settled directory, all places are settled. -/
theorem notMem_resolve (p : Path) {home : List String} (h : ".." ∉ home) : ".." ∉ p.resolve home := by
  refine notMem_foldl_step ?_
  split
  · exact h
  · exact List.not_mem_nil

/-- A settled place, named from the root on, is itself. -/
theorem resolve_ofParts {parts : List String} (h : ".." ∉ parts) (home : List String) :
    (ofParts parts).resolve home = parts := by
  simpa [resolve, ofParts] using foldl_step_of_notMem [] h

theorem ofParts_child (parts : List String) {s : String} (h : IsPart s) :
    (ofParts parts).child s = ofParts (parts ++ [s]) :=
  child_of_isPart _ h

/-! ## Names with numbers -/

theorem toList_number (n : Nat) : (toString n).toList = Nat.toDigits 10 n :=
  Nat.toList_repr

/-- No digit is a slash, a dot or a null. -/
theorem notMem_number {c : Char} (hc : c.isDigit = false) (n : Nat) : c ∉ (toString n).toList := by
  rw [toList_number]
  intro hmem
  have hdigit := Nat.isDigit_of_mem_toDigits (by decide) (by decide) hmem
  rw [hc] at hdigit
  cases hdigit

/-- A name that numbers something is no name that starts otherwise. -/
theorem numbered_ne {c : Char} {before after s : String} (hbefore : before.toList.head? = some c)
    (hs : s.toList.head? ≠ some c) (n : Nat) : before ++ toString n ++ after ≠ s := by
  rintro rfl
  exact hs (by simp [List.head?_append, hbefore])

/-- A name that starts with something other than a dot and numbers something. -/
theorem isPart_numbered {c : Char} {before after : String} (hc : c ≠ '.')
    (hbefore : before.toList.head? = some c) (hslash : '/' ∉ before.toList)
    (hslash' : '/' ∉ after.toList) (n : Nat) :
    IsPart (before ++ toString n ++ after) ∧ before ++ toString n ++ after ≠ ".." := by
  refine ⟨⟨numbered_ne hbefore (by simp) n, numbered_ne hbefore (by simpa using Ne.symm hc) n, ?_⟩,
    numbered_ne hbefore (by simpa using Ne.symm hc) n⟩
  have hdigits := notMem_number (c := '/') (by decide) n
  simp only [String.toList_append, List.mem_append, not_or]
  exact ⟨⟨hslash, hdigits⟩, hslash'⟩

/-! ## Names that files can have -/

theorem hasNull_append (s t : String) : hasNull (s ++ t) = (hasNull s || hasNull t) := by
  simp [hasNull, String.toList_append, List.contains_eq_mem]

theorem hasNull_number (n : Nat) : hasNull (toString n) = false := by
  simpa [hasNull] using notMem_number (c := '\x00') (by decide) n

theorem hasNull_numbered {before after : String} (hbefore : hasNull before = false)
    (hafter : hasNull after = false) (n : Nat) :
    hasNull (before ++ toString n ++ after) = false := by
  rw [hasNull_append, hasNull_append, hbefore, hasNull_number, hafter]
  rfl

theorem hasNull_text_eq_false_iff {p : Path} :
    hasNull p.text = false ↔
      hasNull p.root = false ∧ ∀ part ∈ p.parts, hasNull part = false := by
  have hbody : hasNull p.text = hasNull (p.root ++ Text.join "/" p.parts) := by
    unfold text
    dsimp only
    split
    · rename_i hempty
      rw [hempty]
      decide
    · rfl
  have hmem : '\x00' ∈ (Text.join "/" p.parts).toList ↔ ∃ part ∈ p.parts, '\x00' ∈ part.toList :=
    Text.mem_join_iff (by decide)
  rw [hbody]
  simp only [hasNull, String.toList_append, List.contains_eq_mem, List.mem_append,
    decide_eq_false_iff_not, not_or, hmem, not_exists, not_and]

/-- What stands beside a place that a file can have has a name too. -/
theorem hasNull_ofParts_concat {parts : List String} {s t : String}
    (h : hasNull (ofParts (parts ++ [s])).text = false) (ht : hasNull t = false) :
    hasNull (ofParts (parts ++ [t])).text = false := by
  rw [hasNull_text_eq_false_iff] at h ⊢
  refine ⟨h.1, fun part hpart => ?_⟩
  rcases List.mem_append.mp hpart with hmem | hmem
  · exact h.2 part (List.mem_append_left _ hmem)
  · exact List.mem_singleton.mp hmem ▸ ht

/-- No piece holds anything that the whole does not. -/
theorem hasNull_text_ofText {s : String} (h : hasNull s = false) :
    hasNull (ofText s).text = false := by
  have hs : '\x00' ∉ s.toList := by simpa [hasNull] using h
  rw [hasNull_text_eq_false_iff]
  constructor
  · rcases (proper_ofText s).root with hroot | hroot | hroot <;> rw [hroot] <;> decide
  · intro part hpart
    obtain ⟨piece, hpiece, rfl⟩ := List.mem_map.mp hpart
    have hmem := (List.mem_filter.mp hpiece).1
    have hpiece : '\x00' ∉ piece := fun hc => hs (Text.mem_of_mem_splitAt hmem hc)
    simpa [hasNull] using hpiece

theorem hasNull_child {p : Path} {s : String} (hs : IsPart s) (hnull : hasNull s = false)
    (hp : hasNull p.text = false) : hasNull (p.child s).text = false := by
  rw [hasNull_text_eq_false_iff] at hp ⊢
  rw [child_of_isPart p hs]
  refine ⟨hp.1, fun part hpart => ?_⟩
  rcases List.mem_append.mp hpart with hmem | hmem
  · exact hp.2 part hmem
  · obtain rfl : part = s := by simpa using hmem
    exact hnull

/-! ## Cut paths -/

/-- A path that is another one, or the beginning of it. -/
structure OnWay (q p : Path) : Prop where
  root : q.root = p.root
  parts : q.parts <+: p.parts

theorem OnWay.refl (p : Path) : p.OnWay p :=
  ⟨rfl, List.prefix_refl _⟩

theorem OnWay.parent {p q : Path} (h : q.OnWay p) : q.parent.OnWay p :=
  ⟨h.root, (List.dropLast_prefix _).trans h.parts⟩

theorem OnWay.hasNull {p q : Path} (h : q.OnWay p) (hp : hasNull p.text = false) :
    Path.hasNull q.text = false := by
  rw [hasNull_text_eq_false_iff] at hp ⊢
  exact ⟨h.root ▸ hp.1, fun part hpart => hp.2 part (h.parts.subset hpart)⟩

theorem onWay_child (p : Path) {s : String} (hs : IsPart s) : p.OnWay (p.child s) := by
  rw [child_of_isPart p hs]
  exact ⟨rfl, List.prefix_append _ _⟩

end Path
end Walkthrough
