import Walkthrough.Proofs.Text.Split
import Walkthrough.Text.Newline

/-! # Line ends

Unifying line ends takes away the carriage returns and leaves all other texts alone. Lines without line
ends in them are found again in their text. -/

namespace Walkthrough.Text

theorem unifyNewlines_of_notMem {cs : List Char} (h : '\r' ∉ cs) : unifyNewlines cs = cs := by
  induction cs with
  | nil => rfl
  | cons c cs ih =>
      obtain ⟨hc, hcs⟩ : c ≠ '\r' ∧ '\r' ∉ cs := by simpa [eq_comm] using h
      rw [unifyNewlines]
      · simp [hc, ih hcs]
      · simp [hc]

theorem notMem_unifyNewlines (cs : List Char) : '\r' ∉ unifyNewlines cs := by
  fun_induction unifyNewlines cs with
  | case1 => simp
  | case2 cs ih => simp [ih]
  | case3 c cs _ ih =>
      by_cases hc : c = '\r'
      · simp [hc, ih]
      · simp [hc, ih, Ne.symm hc]

/-- A text is read as it was written exactly if it has no carriage return. -/
theorem unifyNewlines_eq_self_iff (cs : List Char) : unifyNewlines cs = cs ↔ '\r' ∉ cs := by
  refine ⟨fun h => ?_, unifyNewlines_of_notMem⟩
  rw [← h]
  exact notMem_unifyNewlines cs

theorem unifyNewlines_append {as : List Char} (h : as.getLast? ≠ some '\r') (cs : List Char) :
    unifyNewlines (as ++ '\n' :: cs) = unifyNewlines as ++ '\n' :: unifyNewlines cs := by
  fun_induction unifyNewlines as with
  | case1 => simp [unifyNewlines]
  | case2 as ih =>
      have has : as.getLast? ≠ some '\r' := by
        cases as with
        | nil => simp
        | cons c as => simpa using h
      simp [unifyNewlines, ih has]
  | case3 c as hother ih =>
      cases as with
      | nil =>
          have hc : c ≠ '\r' := by simpa using h
          simp [unifyNewlines, hc]
      | cons d as =>
          rw [List.cons_append, unifyNewlines, ih (by simpa using h), List.cons_append]
          rintro _ rfl heq
          exact hother _ rfl (by rw [List.cons_append] at heq; rw [(List.cons.inj heq).1])

/-! ## Lines -/

/-- The lines of a text, however they end. -/
def lines (s : String) : List String :=
  (splitAt '\n' (unifyNewlines s.toList)).map String.ofList

/-- No line of a text has a line end in it. -/
theorem notMem_of_mem_lines {s line : String} (h : line ∈ lines s) :
    '\n' ∉ line.toList ∧ '\r' ∉ line.toList := by
  obtain ⟨piece, hpiece, rfl⟩ := List.mem_map.mp h
  rw [String.toList_ofList]
  exact ⟨notMem_of_mem_splitAt hpiece, fun hmem =>
    notMem_unifyNewlines s.toList (mem_of_mem_splitAt hpiece hmem)⟩

theorem lines_of_notMem {s : String} (h : '\n' ∉ s.toList ∧ '\r' ∉ s.toList) : lines s = [s] := by
  simp [lines, unifyNewlines_of_notMem h.2, splitAt_of_notMem h.1]

theorem lines_append {s : String} (h : s.toList.getLast? ≠ some '\r') (more : String) :
    lines (s ++ "\n" ++ more) = lines s ++ lines more := by
  have htext : (s ++ "\n" ++ more).toList = s.toList ++ '\n' :: more.toList := by simp
  rw [lines, htext, unifyNewlines_append h, splitAt_append_cons, List.map_append]
  rfl

theorem lines_unlines {parts : List String}
    (h : ∀ part ∈ parts, '\n' ∉ part.toList ∧ '\r' ∉ part.toList) :
    lines (unlines parts) = parts ++ [""] := by
  induction parts with
  | nil => rfl
  | cons part rest ih =>
      have hpart := h part (by simp)
      have hend : part.toList.getLast? ≠ some '\r' := fun hlast =>
        hpart.2 (List.mem_of_getLast? hlast)
      rw [unlines, lines_append hend, lines_of_notMem hpart,
        ih fun other hother => h other (by simp [hother])]
      rfl

end Walkthrough.Text
