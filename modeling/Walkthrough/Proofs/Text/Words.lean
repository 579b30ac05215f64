import Mathlib.Data.List.Chain
import Mathlib.Tactic.SplitIfs
import Walkthrough.Proofs.Text

/-! # Words of a text

A text whose blanks are collapsed is made of its words, one space apart. It begins and ends with a word,
and collapsing it again changes nothing. -/

namespace Walkthrough.Text

/-! ## Words -/

/-- The words of a text: what lies between its blanks. -/
def words (s : String) : List (List Char) :=
  (s.toList.splitOnP isBlank).filter (· ≠ [])

/-- Words one space apart. -/
def spaced (words : List (List Char)) : String :=
  String.ofList ([' '].intercalate words)

theorem intercalate_space_cons (word : List Char) (words : List (List Char)) :
    [' '].intercalate (word :: words) = word ++ words.flatMap (' ' :: ·) := by
  induction words generalizing word with
  | nil => simp
  | cons next words ih => simp [List.intercalate_cons_cons, ih]

theorem trimEnd_cons (c : Char) (cs : List Char) :
    trimEnd (c :: cs) = if isBlank c ∧ trimEnd cs = [] then [] else c :: trimEnd cs := by
  simp only [trimEnd, List.reverse_cons, List.dropWhile_append, List.reverse_eq_nil_iff]
  by_cases hrest : cs.reverse.dropWhile isBlank = []
  · by_cases hc : isBlank c <;> simp [hrest, hc]
  · simp [hrest]

theorem squeeze_cons_of_not_blank {c : Char} (h : isBlank c = false) (cs : List Char) :
    squeeze (c :: cs) = c :: squeeze cs := by
  simp [squeeze, h]

/-- Up to its end, a squeezed text is what is in front of the first blank, and then the words behind it,
each after a space. -/
theorem trimEnd_squeeze {cs piece : List Char} {pieces : List (List Char)}
    (h : cs.splitOnP isBlank = piece :: pieces) :
    trimEnd (squeeze cs) = piece ++ (pieces.filter (· ≠ [])).flatMap (' ' :: ·) := by
  induction cs generalizing piece pieces with
  | nil =>
      obtain ⟨rfl, rfl⟩ := List.cons.inj h
      rfl
  | cons c cs ih =>
      obtain ⟨first, rest, hcs⟩ := List.exists_cons_of_ne_nil (List.splitOnP_ne_nil isBlank cs)
      have hsqueezed := ih hcs
      rw [List.splitOnP_cons_eq_if_modifyHead, hcs] at h
      cases hc : isBlank c with
      | false =>
          rw [if_neg (by simp [hc]), List.modifyHead_cons] at h
          obtain ⟨rfl, rfl⟩ := List.cons.inj h
          rw [squeeze_cons_of_not_blank hc, trimEnd_cons, if_neg (by simp [hc]), hsqueezed]
          rfl
      | true =>
          rw [if_pos hc] at h
          obtain ⟨rfl, rfl⟩ := List.cons.inj h
          -- Of several blanks only the last one counts, and it only counts before a word.
          cases cs with
          | nil =>
              obtain ⟨rfl, rfl⟩ := List.cons.inj hcs
              simp [squeeze, hc, trimEnd]
              decide
          | cons d cs =>
              rw [List.splitOnP_cons_eq_if_modifyHead] at hcs
              cases hd : isBlank d with
              | true =>
                  rw [if_pos hd] at hcs
                  obtain ⟨rfl, rfl⟩ := List.cons.inj hcs
                  rw [squeeze, if_pos hc, if_pos (by simp [hd]), hsqueezed]
                  simp
              | false =>
                  obtain ⟨next, more, hnext⟩ :=
                    List.exists_cons_of_ne_nil (List.splitOnP_ne_nil isBlank cs)
                  rw [if_neg (by simp [hd]), hnext, List.modifyHead_cons] at hcs
                  obtain ⟨rfl, rfl⟩ := List.cons.inj hcs
                  rw [squeeze, if_pos hc, if_neg (by simp [hd]), trimEnd_cons, hsqueezed]
                  simp

theorem dropWhile_squeeze (cs : List Char) :
    (squeeze cs).dropWhile isBlank = squeeze (cs.dropWhile isBlank) := by
  induction cs with
  | nil => rfl
  | cons c cs ih =>
      cases hc : isBlank c with
      | false => rw [squeeze_cons_of_not_blank hc]; simp [hc, squeeze_cons_of_not_blank]
      | true =>
          rw [squeeze, if_pos hc, List.dropWhile_cons_of_pos hc, ← ih]
          split
          · rfl
          · exact List.dropWhile_cons_of_pos (by decide)

theorem filter_splitOnP_dropWhile (cs : List Char) :
    ((cs.dropWhile isBlank).splitOnP isBlank).filter (· ≠ []) =
      (cs.splitOnP isBlank).filter (· ≠ []) := by
  induction cs with
  | nil => rfl
  | cons c cs ih =>
      cases hc : isBlank c with
      | false => rw [List.dropWhile_cons_of_neg (by simp [hc])]
      | true =>
          rw [List.dropWhile_cons_of_pos hc, ih, List.splitOnP_cons_eq_if_modifyHead, if_pos hc,
            List.filter_cons_of_neg (by simp)]

/-- A text whose blanks are collapsed is its words, one space apart. -/
theorem collapse_eq_spaced (s : String) : collapse s = spaced (words s) := by
  rw [collapse, spaced, words, trim, dropWhile_squeeze, ← filter_splitOnP_dropWhile]
  congr 1
  have hfront := List.dropWhile_idempotent isBlank s.toList
  generalize s.toList.dropWhile isBlank = cs at hfront
  cases cs with
  | nil => rfl
  | cons c cs =>
      have hc : ¬isBlank c := by
        intro hblank
        have hlength := congrArg List.length hfront
        have hle := (List.dropWhile_sublist (p := isBlank) (l := cs)).length_le
        rw [List.dropWhile_cons_of_pos hblank, List.length_cons] at hlength
        omega
      obtain ⟨piece, pieces, hcs⟩ := List.exists_cons_of_ne_nil (List.splitOnP_ne_nil isBlank cs)
      have hsplit : (c :: cs).splitOnP isBlank = (c :: piece) :: pieces := by
        rw [List.splitOnP_cons_eq_if_modifyHead, if_neg hc, hcs, List.modifyHead_cons]
      rw [trimEnd_squeeze hsplit, hsplit, List.filter_cons_of_pos (by simp), intercalate_space_cons]

/-! ## Tidy texts -/

/-- A text that is not empty, with no blank at its ends and no blanks in it but spaces, no two of them
together. Collapsing its blanks changes nothing. -/
structure Tidy (s : String) : Prop where
  ne_empty : s ≠ ""
  front : ∀ c ∈ s.toList.head?, isBlank c = false
  back : ∀ c ∈ s.toList.getLast?, isBlank c = false
  spaces : ∀ c ∈ s.toList, isBlank c → c = ' '
  single : s.toList.IsChain fun c d => isBlank c = false ∨ isBlank d = false
  fixed : collapse s = s

theorem eq_space_of_mem_squeeze {cs : List Char} {c : Char} (h : c ∈ squeeze cs)
    (hblank : isBlank c) : c = ' ' := by
  induction cs with
  | nil => cases h
  | cons d cs ih =>
      unfold squeeze at h
      split_ifs at h with hd
      · exact ih h
      · exact (List.mem_cons.mp h).elim id ih
      · rcases List.mem_cons.mp h with rfl | hmem
        · exact absurd hblank hd
        · exact ih hmem

theorem isChain_squeeze (cs : List Char) :
    (squeeze cs).IsChain fun c d => isBlank c = false ∨ isBlank d = false := by
  induction cs with
  | nil => exact .nil
  | cons c cs ih =>
      unfold squeeze
      split_ifs with hc hnext
      · exact ih
      · refine List.isChain_cons.mpr ⟨fun d hd => .inr ?_, ih⟩
        cases cs with
        | nil => cases hd
        | cons b cs =>
            have hb : isBlank b = false := by simpa using hnext
            rw [squeeze_cons_of_not_blank hb] at hd
            obtain rfl : b = d := by simpa using hd
            exact hb
      · exact List.isChain_cons.mpr ⟨fun d _ => .inl (by simpa using hc), ih⟩

/-- There is nothing to squeeze where all blanks are spaces and no two stand together. -/
theorem squeeze_of_single {cs : List Char} (hspaces : ∀ c ∈ cs, isBlank c → c = ' ')
    (hsingle : cs.IsChain fun c d => isBlank c = false ∨ isBlank d = false) : squeeze cs = cs := by
  induction cs with
  | nil => rfl
  | cons c cs ih =>
      obtain ⟨hnext, hrest⟩ := List.isChain_cons.mp hsingle
      have hcs := ih (fun d hd => hspaces d (List.mem_cons_of_mem c hd)) hrest
      cases hc : isBlank c with
      | false => rw [squeeze_cons_of_not_blank hc, hcs]
      | true =>
          obtain rfl := hspaces c List.mem_cons_self hc
          have hlone : ¬cs.head?.any isBlank := by
            cases cs with
            | nil => simp
            | cons d cs => simpa [hc] using hnext d rfl
          rw [squeeze, if_pos hc, if_neg hlone, hcs]

theorem isInfix_trim (cs : List Char) : trim cs <:+: cs := by
  have hback := List.rdropWhile_prefix isBlank (cs.dropWhile isBlank)
  exact hback.isInfix.trans (List.dropWhile_suffix isBlank).isInfix

/-- What is left of a text whose blanks are collapsed is tidy. -/
theorem tidy_collapse {s : String} (h : collapse s ≠ "") : Tidy (collapse s) := by
  have hlist : (collapse s).toList = trim (squeeze s.toList) := String.toList_ofList
  have hspaces : ∀ c ∈ trim (squeeze s.toList), isBlank c → c = ' ' := fun c hc =>
    eq_space_of_mem_squeeze ((isInfix_trim _).subset hc)
  have hsingle : (trim (squeeze s.toList)).IsChain fun c d => isBlank c = false ∨ isBlank d = false := by
    obtain ⟨before, after, hsplit⟩ := isInfix_trim (squeeze s.toList)
    have hchain := isChain_squeeze s.toList
    rw [← hsplit] at hchain
    exact hchain.left_of_append.right_of_append
  constructor
  · exact h
  · intro c hc
    rw [hlist] at hc
    have hfront : (trim (squeeze s.toList)).dropWhile isBlank = trim (squeeze s.toList) :=
      dropWhile_trimEnd (List.dropWhile_idempotent isBlank _)
    generalize trim (squeeze s.toList) = cs at hc hfront
    cases cs with
    | nil => cases hc
    | cons d cs =>
        obtain rfl : d = c := by simpa using hc
        have hd := List.dropWhile_eq_self_iff.mp hfront (Nat.succ_pos _)
        rw [List.getElem_cons_zero] at hd
        exact Bool.eq_false_iff.mpr hd
  · intro c hc
    rw [hlist] at hc
    obtain ⟨hne, rfl⟩ := List.mem_getLast?_eq_getLast hc
    exact Bool.eq_false_iff.mpr (List.rdropWhile_last_not isBlank _ hne)
  · rwa [hlist]
  · rwa [hlist]
  · rw [collapse, hlist, squeeze_of_single hspaces hsingle, trim_trim]
    rfl

end Walkthrough.Text
