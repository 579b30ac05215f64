import Mathlib.Data.List.DropRight
import Walkthrough.Text.Blank

/-! # Trimmed texts

A text that was trimmed has no blanks at its ends, and trimming it again changes nothing. -/

namespace Walkthrough.Text

theorem trimEnd_eq (cs : List Char) : trimEnd cs = cs.rdropWhile isBlank :=
  rfl

/-- A text without blanks in front has none there when its end is trimmed. -/
theorem dropWhile_trimEnd {cs : List Char} (h : cs.dropWhile isBlank = cs) :
    (trimEnd cs).dropWhile isBlank = trimEnd cs := by
  rw [List.dropWhile_eq_self_iff] at h ⊢
  intro hpos
  have hpre : trimEnd cs <+: cs := List.rdropWhile_prefix isBlank cs
  rw [hpre.getElem hpos]
  exact h _

theorem trim_trim (cs : List Char) : trim (trim cs) = trim cs := by
  have hfront : (trim cs).dropWhile isBlank = trim cs :=
    dropWhile_trimEnd (List.dropWhile_idempotent isBlank cs)
  rw [trim, hfront, trimEnd_eq, trim, trimEnd_eq, List.rdropWhile_idempotent]

theorem strip_strip (s : String) : strip (strip s) = strip s := by
  simp [strip, trim_trim]

end Walkthrough.Text
