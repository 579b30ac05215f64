import Mathlib.Data.List.Basic
import Walkthrough.Text.Split

/-! # Texts that are cut and joined

The pieces of a text between separators hold none, and they are the text again when separators join
them. -/

namespace Walkthrough.Text

variable {sep : Char} {cs piece : List Char}

@[simp] theorem splitAt_nil (sep : Char) : splitAt sep [] = [[]] := rfl

@[simp] theorem splitAt_cons_self (sep : Char) (cs : List Char) :
    splitAt sep (sep :: cs) = [] :: splitAt sep cs :=
  if_pos rfl

theorem splitAt_cons_of_ne {c : Char} {pieces : List (List Char)} (hc : c ≠ sep)
    (hcs : splitAt sep cs = piece :: pieces) : splitAt sep (c :: cs) = (c :: piece) :: pieces := by
  rw [splitAt, if_neg hc, hcs]

/-- There is always a first piece. -/
theorem exists_splitAt (sep : Char) (cs : List Char) :
    ∃ piece pieces, splitAt sep cs = piece :: pieces := by
  induction cs with
  | nil => exact ⟨[], [], rfl⟩
  | cons c cs ih =>
      obtain ⟨piece, pieces, hcs⟩ := ih
      rcases eq_or_ne c sep with rfl | hc
      · exact ⟨[], splitAt c cs, splitAt_cons_self c cs⟩
      · exact ⟨c :: piece, pieces, splitAt_cons_of_ne hc hcs⟩

theorem splitAt_ne_nil (sep : Char) (cs : List Char) : splitAt sep cs ≠ [] := by
  obtain ⟨piece, pieces, hcs⟩ := exists_splitAt sep cs
  simp [hcs]

theorem splitAt_of_notMem (h : sep ∉ cs) : splitAt sep cs = [cs] := by
  induction cs with
  | nil => rfl
  | cons c cs ih =>
      obtain ⟨hc, hcs⟩ : c ≠ sep ∧ sep ∉ cs := by simpa [eq_comm] using h
      exact splitAt_cons_of_ne hc (ih hcs)

/-- A text is cut at each separator in it, whatever the parts between are. -/
theorem splitAt_append_cons (sep : Char) (as cs : List Char) :
    splitAt sep (as ++ sep :: cs) = splitAt sep as ++ splitAt sep cs := by
  induction as with
  | nil => simp
  | cons c as ih =>
      rcases eq_or_ne c sep with rfl | hc
      · simp [ih]
      · obtain ⟨piece, pieces, has⟩ := exists_splitAt sep as
        rw [has] at ih
        rw [List.cons_append, splitAt_cons_of_ne hc ih, splitAt_cons_of_ne hc has]
        rfl

theorem splitAt_append (h : sep ∉ piece) (cs : List Char) :
    splitAt sep (piece ++ sep :: cs) = piece :: splitAt sep cs := by
  rw [splitAt_append_cons, splitAt_of_notMem h, List.singleton_append]

/-- A piece is empty, or stands further on, or goes on in a piece further on. -/
theorem mem_splitAt_cons {c : Char} (h : piece ∈ splitAt sep (c :: cs)) :
    piece = [] ∨ piece ∈ splitAt sep cs ∨ c ≠ sep ∧ ∃ rest ∈ splitAt sep cs, piece = c :: rest := by
  rcases eq_or_ne c sep with rfl | hc
  · rw [splitAt_cons_self] at h
    rcases List.mem_cons.mp h with hnil | hmem
    · exact .inl hnil
    · exact .inr (.inl hmem)
  · obtain ⟨first, rest, hcs⟩ := exists_splitAt sep cs
    rw [splitAt_cons_of_ne hc hcs] at h
    rw [hcs]
    rcases List.mem_cons.mp h with hfirst | hmem
    · exact .inr (.inr ⟨hc, first, List.mem_cons_self, hfirst⟩)
    · exact .inr (.inl (List.mem_cons_of_mem first hmem))

theorem notMem_of_mem_splitAt (h : piece ∈ splitAt sep cs) : sep ∉ piece := by
  induction cs generalizing piece with
  | nil =>
      obtain rfl : piece = [] := by simpa using h
      simp
  | cons c cs ih =>
      rcases mem_splitAt_cons h with rfl | hmem | ⟨hc, rest, hrest, rfl⟩
      · simp
      · exact ih hmem
      · simpa [Ne.symm hc] using ih hrest

theorem mem_of_mem_splitAt {c : Char} (h : piece ∈ splitAt sep cs) (hc : c ∈ piece) : c ∈ cs := by
  induction cs generalizing piece with
  | nil =>
      obtain rfl : piece = [] := by simpa using h
      exact hc
  | cons d cs ih =>
      rcases mem_splitAt_cons h with rfl | hmem | ⟨-, rest, hrest, rfl⟩
      · cases hc
      · exact List.mem_cons_of_mem d (ih hmem hc)
      · rcases List.mem_cons.mp hc with rfl | hc
        · exact List.mem_cons_self
        · exact List.mem_cons_of_mem d (ih hrest hc)

/-- A text is known by what is in front of its first separator and what is behind. -/
theorem append_cons_inj {as bs rest more : List Char} (has : sep ∉ as) (hbs : sep ∉ bs)
    (h : as ++ sep :: rest = bs ++ sep :: more) : as = bs ∧ rest = more := by
  have hpieces := congrArg (splitAt sep) h
  rw [splitAt_append has, splitAt_append hbs] at hpieces
  obtain rfl := (List.cons.inj hpieces).1
  exact ⟨rfl, (List.cons.inj (List.append_cancel_left h)).2⟩

/-! ## Joined texts -/

@[simp] theorem join_nil (sep : String) : join sep [] = "" := rfl

@[simp] theorem join_singleton (sep part : String) : join sep [part] = part := rfl

theorem join_cons_cons (sep part next : String) (rest : List String) :
    join sep (part :: next :: rest) = part ++ sep ++ join sep (next :: rest) :=
  rfl

theorem join_cons_of_ne_nil (sep part : String) {rest : List String} (h : rest ≠ []) :
    join sep (part :: rest) = part ++ sep ++ join sep rest := by
  obtain ⟨next, rest, rfl⟩ := List.exists_cons_of_ne_nil h
  exact join_cons_cons sep part next rest

theorem mem_join_iff {sep : String} {parts : List String} {c : Char} (hc : c ∉ sep.toList) :
    c ∈ (join sep parts).toList ↔ ∃ part ∈ parts, c ∈ part.toList := by
  induction parts with
  | nil => simp
  | cons part rest ih =>
      cases rest with
      | nil => simp
      | cons next rest =>
          rw [join_cons_cons, String.toList_append, String.toList_append, List.mem_append,
            List.mem_append, ih]
          simp [hc]

/-- Joining the pieces between slashes gives the whole text. -/
theorem join_splitAt (cs : List Char) :
    (join "/" ((splitAt '/' cs).map String.ofList)).toList = cs := by
  induction cs with
  | nil => rfl
  | cons c cs ih =>
      obtain ⟨piece, pieces, hcs⟩ := exists_splitAt '/' cs
      rcases eq_or_ne c '/' with rfl | hc
      · rw [splitAt_cons_self, List.map_cons, join_cons_of_ne_nil "/" _ (by simp [splitAt_ne_nil])]
        simp [ih]
      · rw [hcs] at ih
        rw [splitAt_cons_of_ne hc hcs]
        cases pieces with
        | nil => simpa using ih
        | cons next pieces => simpa [join_cons_cons] using ih

theorem join_append {parts more : List String} (h : parts ≠ []) (hmore : more ≠ []) :
    join "/" (parts ++ more) = join "/" parts ++ "/" ++ join "/" more := by
  induction parts with
  | nil => exact absurd rfl h
  | cons part rest ih =>
      cases rest with
      | nil =>
          obtain ⟨next, more, rfl⟩ := List.exists_cons_of_ne_nil hmore
          rfl
      | cons next rest =>
          have hrest := ih (by simp)
          simp only [List.cons_append] at hrest ⊢
          simp only [join_cons_cons, hrest, String.append_assoc]

/-- Cutting joined texts gives them back. -/
theorem splitAt_join {parts : List String} (hne : parts ≠ [])
    (h : ∀ part ∈ parts, '/' ∉ part.toList) :
    splitAt '/' (join "/" parts).toList = parts.map String.toList := by
  induction parts with
  | nil => exact absurd rfl hne
  | cons part rest ih =>
      cases rest with
      | nil => simpa using splitAt_of_notMem (h part (by simp))
      | cons next rest =>
          have hrest := ih (by simp) fun q hq => h q (by simp [hq])
          rw [join_cons_cons]
          simp only [String.toList_append, List.append_assoc]
          rw [show "/".toList = ['/'] from rfl, List.singleton_append,
            splitAt_append (h part (by simp)), hrest]
          rfl

end Walkthrough.Text
