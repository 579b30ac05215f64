import Mathlib.Data.List.Basic
import Mathlib.Tactic.SplitIfs
import Walkthrough.Json.Document

/-! # Strings and whole numbers read back

What is written for a string or a whole number is read as that string or number, whatever comes after
it. Only a number that is too long is not read. -/

namespace Walkthrough.Json

/-! ## Strings -/

theorem hexNumber?_hex {n : Nat} (h : n < 0x20) : Text.hexNumber? (Text.hex 4 n) = some n := by
  revert n
  decide

theorem readUnicodeEscape_hex {n : Nat} (h : n < 0x20) {rest : List Char} (hrest : rest ≠ []) :
    readUnicodeEscape ('u' :: (Text.hex 4 n ++ rest)) = .ok (Char.ofNat n, rest) := by
  have hlength : (Text.hex 4 n).length = 4 := by simp [Text.hex]
  have hunit : readUnit? (Text.hex 4 n ++ rest) = some (n, rest) := by
    simp [readUnit?, hlength, hrest, hexNumber?_hex h]
  have hvalid : n.isValidChar := .inl (by omega)
  have hlow : ¬ 0xD800 ≤ n := by omega
  simp [readUnicodeEscape, hunit, hlow, charOf, hvalid]

theorem readString_escapeChar (start : List Char) (fuel : Nat) (done : List Char) (c : Char)
    {rest : List Char} (hrest : rest ≠ []) :
    readString start (fuel + 1) done (escapeChar .unicode c ++ rest) =
      readString start fuel (c :: done) rest := by
  unfold escapeChar
  split_ifs with hquote hn hr ht hb hf hcontrol
  · rcases hquote with rfl | rfl <;> simp [readString, escapedChar?]
  · subst hn; simp [readString, escapedChar?]
  · subst hr; simp [readString, escapedChar?]
  · subst ht; simp [readString, escapedChar?]
  · subst hb; simp [readString, escapedChar?]
  · subst hf; simp [readString, escapedChar?]
  · simp [escapeUnit, readString, readUnicodeEscape_hex hcontrol hrest, Char.ofNat_toNat]
  · rw [not_or] at hquote
    simp [readString, hquote.1, hquote.2, hcontrol]
  · simp_all
  · simp_all

theorem readString_literal (start : List Char) {fuel : Nat} (done cs rest : List Char)
    (hfuel : cs.length < fuel) :
    readString start fuel done (cs.flatMap (escapeChar .unicode) ++ '"' :: rest) =
      .ok (String.ofList (done.reverse ++ cs), rest) := by
  induction cs generalizing fuel done with
  | nil =>
      obtain ⟨fuel, rfl⟩ := Nat.exists_eq_add_one.mpr hfuel
      simp [readString]
  | cons c cs ih =>
      obtain ⟨fuel, rfl⟩ := Nat.exists_eq_add_one.mpr (Nat.zero_lt_of_lt hfuel)
      have hshort : cs.length < fuel := by simpa using hfuel
      rw [List.flatMap_cons, List.append_assoc, readString_escapeChar start fuel done c (by simp),
        ih (c :: done) hshort]
      simp

theorem length_le_flatMap_escapeChar (charset : Charset) (cs : List Char) :
    cs.length ≤ (cs.flatMap (escapeChar charset)).length := by
  have hone : ∀ c, 1 ≤ (escapeChar charset c).length := by
    intro c
    unfold escapeChar
    split_ifs <;> simp [escapeUnit]
  induction cs with
  | nil => simp
  | cons c cs ih =>
      have hc := hone c
      simp only [List.length_cons, List.flatMap_cons, List.length_append]
      omega

/-- A string literal is read as the string it was written for. -/
theorem readLiteral_literal (s : String) (rest : List Char) :
    readLiteral (s.toList.flatMap (escapeChar .unicode) ++ '"' :: rest) = .ok (s, rest) := by
  have hlength := length_le_flatMap_escapeChar .unicode s.toList
  rw [readLiteral, readString_literal _ [] s.toList rest]
  · simp
  · simp only [List.length_append]
    omega

/-! ## Whole numbers -/

/-- A text that does not go on with a number. -/
def EndsNumber (rest : List Char) : Prop :=
  ∀ c cs, rest = c :: cs → c.isDigit = false ∧ c ≠ '.' ∧ c ≠ 'e' ∧ c ≠ 'E'

theorem endsNumber_nil : EndsNumber [] :=
  nofun

theorem endsNumber_cons {c : Char} {cs : List Char}
    (h : c.isDigit = false ∧ c ≠ '.' ∧ c ≠ 'e' ∧ c ≠ 'E') : EndsNumber (c :: cs) := by
  intro d ds heq
  obtain ⟨rfl, -⟩ := List.cons.inj heq
  exact h

theorem digitsValue_toDigits (n : Nat) : digitsValue (Nat.toDigits 10 n) = n :=
  Nat.ofDigitChars_toDigits (by decide) (by decide)

theorem isDigit_of_mem {n : Nat} {c : Char} (h : c ∈ Nat.toDigits 10 n) : c.isDigit = true :=
  Nat.isDigit_of_mem_toDigits (by decide) (by decide) h

/-- Only zero is written with a zero in front. -/
theorem head?_toDigits {n : Nat} (hn : n ≠ 0) : (Nat.toDigits 10 n).head? ≠ some '0' := by
  have hsmall : ∀ m < 10, m ≠ 0 → (Nat.toDigits 10 m).head? ≠ some '0' := by decide
  induction n using Nat.strongRecOn with
  | ind n ih =>
      by_cases hten : n < 10
      · exact hsmall n hten hn
      · have hrest := ih (n / 10) (by omega) (by omega)
        rw [Nat.toDigits_of_base_le (by decide) (by omega)]
        cases hdigits : Nat.toDigits 10 (n / 10) with
        | nil => exact absurd hdigits Nat.toDigits_ne_nil
        | cons d ds => simpa [hdigits] using hrest

theorem wholeDigits_toDigits (n : Nat) {rest : List Char} (hrest : EndsNumber rest) :
    wholeDigits (Nat.toDigits 10 n ++ rest) = (Nat.toDigits 10 n, rest) := by
  have hall : ∀ c ∈ Nat.toDigits 10 n, c.isDigit = true := fun c => isDigit_of_mem
  have htake : (Nat.toDigits 10 n ++ rest).takeWhile Char.isDigit = Nat.toDigits 10 n := by
    rw [List.takeWhile_append_of_pos hall]
    cases rest with
    | nil => simp
    | cons c cs => simp [(hrest c cs rfl).1]
  have hdrop : (Nat.toDigits 10 n ++ rest).dropWhile Char.isDigit = rest := by
    rw [List.dropWhile_append_of_pos hall]
    cases rest with
    | nil => simp
    | cons c cs => simp [(hrest c cs rfl).1]
  by_cases hn : n = 0
  · subst hn
    rfl
  · unfold wholeDigits
    split
    · rename_i more heq
      have hhead := head?_toDigits hn
      cases hd : Nat.toDigits 10 n with
      | nil => exact absurd hd Nat.toDigits_ne_nil
      | cons d ds => simp_all
    · rw [htake, hdrop]

theorem readMagnitude_toDigits (negative : Bool) (start : List Char) {n : Nat}
    (hshort : (Nat.toDigits 10 n).length ≤ digitLimit) {rest : List Char}
    (hrest : EndsNumber rest) :
    readMagnitude negative start (Nat.toDigits 10 n ++ rest) =
      .ok (.int (if negative then -(n : Int) else n), rest) := by
  have hfraction : fractionDigits? rest = none := by
    cases rest with
    | nil => rfl
    | cons c cs =>
        have hc := (hrest c cs rfl).2.1
        unfold fractionDigits?
        split
        · simp_all
        · rfl
  have hexponent : exponent? rest = none := by
    cases rest with
    | nil => rfl
    | cons c cs =>
        have hc := (hrest c cs rfl).2.2
        simp [exponent?, hc]
  have hnotlong : ¬ digitLimit < (Nat.toDigits 10 n).length := by omega
  simp [readMagnitude, wholeDigits_toDigits n hrest, hfraction, hexponent, hnotlong,
    digitsValue_toDigits, Nat.toDigits_ne_nil]

theorem isOverlong_int_eq_false_iff {n : Int} :
    (Json.int n).isOverlong = false ↔ (Nat.toDigits 10 n.natAbs).length ≤ digitLimit := by
  simp [isOverlong]

theorem toList_int (n : Int) :
    (toString n).toList = (if n < 0 then ['-'] else []) ++ Nat.toDigits 10 n.natAbs := by
  cases n with
  | ofNat m => simp [Int.toString_eq_repr, Int.repr, Nat.toList_repr]
  | negSucc m => simp [Int.toString_eq_repr, Int.repr, Nat.toList_repr, Int.negSucc_lt_zero]

/-- What is read before a digit is a number. -/
theorem readScalar_of_isDigit {c : Char} {cs : List Char} (hc : c.isDigit = true) :
    readScalar (c :: cs) = readMagnitude false (c :: cs) (c :: cs) := by
  have hne : ∀ d : Char, d.isDigit = false → c ≠ d := by
    rintro d hd rfl
    rw [hc] at hd
    cases hd
  unfold readScalar
  split
  · rename_i heq
    exact absurd (List.cons.inj heq).1 (hne '-' (by decide))
  · simp [afterWord?, (hne 'n' (by decide)).symm, (hne 't' (by decide)).symm, (hne 'f' (by decide)).symm, (hne 'N' (by decide)).symm,
      (hne 'I' (by decide)).symm]

theorem readScalar_int {n : Int} (hshort : (Json.int n).isOverlong = false) {rest : List Char}
    (hrest : EndsNumber rest) :
    readScalar ((toString n).toList ++ rest) = .ok (.int n, rest) := by
  rw [isOverlong_int_eq_false_iff] at hshort
  rw [toList_int, List.append_assoc]
  cases hdigits : Nat.toDigits 10 n.natAbs with
  | nil => exact absurd hdigits Nat.toDigits_ne_nil
  | cons d ds =>
      have hd : d.isDigit = true := isDigit_of_mem (n := n.natAbs) (by simp [hdigits])
      have hread := fun negative start => readMagnitude_toDigits negative start hshort hrest
      rw [hdigits] at hread
      by_cases hn : n < 0
      · have hword : afterWord? "Infinity" (d :: ds ++ rest) = none := by
          have hne : d ≠ 'I' := by rintro rfl; revert hd; decide
          simp [afterWord?, hne.symm]
        rw [if_pos hn]
        simp only [List.singleton_append, readScalar, hword, hread]
        rw [if_pos trivial, show -(n.natAbs : Int) = n by omega]
      · rw [if_neg hn, List.nil_append, List.cons_append, readScalar_of_isDigit hd,
          ← List.cons_append, hread, if_neg (by decide), show (n.natAbs : Int) = n by omega]

end Walkthrough.Json
