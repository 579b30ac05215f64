import Mathlib.Tactic.SplitIfs
import Walkthrough.Locate

/-! # What attribute selectors stand for

The attribute selectors among the candidates for a target hold its name as a string of a style sheet. Such
a string is written as a JSON string in ASCII, whose escapes mean something else there. So it stands for
the name if and only if no character of the name has to be escaped, but for quotes and backslashes. -/

namespace Walkthrough

/-! ## Strings of style sheets -/

namespace Css

/-- The character of a code point; a number that is none stands for the replacement character. -/
def codePoint (n : Nat) : Char :=
  if n.isValidChar then Char.ofNat n else '\uFFFD'

/-- Reads up to some more hexadecimal digits of a number, and gives what follows them too. -/
def readDigits : Nat → Nat → List Char → Nat × List Char
  | most + 1, n, c :: cs =>
    match Text.hexValue? c with
    | some d => readDigits most (16 * n + d) cs
    | none => (n, c :: cs)
  | _, n, cs => (n, cs)

/-- What follows one space, if there is one. -/
def skipSpace : List Char → List Char
  | ' ' :: cs => cs
  | cs => cs

theorem length_readDigits_le (most n : Nat) (cs : List Char) :
    (readDigits most n cs).2.length ≤ cs.length := by
  induction most generalizing n cs with
  | zero => exact Nat.le_refl _
  | succ most ih =>
      cases cs with
      | nil => exact Nat.le_refl _
      | cons c cs =>
          unfold readDigits
          split
          · exact Nat.le_succ_of_le (ih _ cs)
          · exact Nat.le_refl _

theorem length_skipSpace_le (cs : List Char) : (skipSpace cs).length ≤ cs.length := by
  unfold skipSpace
  split <;> simp

/-- The text of a string after its opening quote, up to a closing quote at the end. A backslash and one to
six hexadecimal digits, with one space or none after them, stand for the character of that code point; a
backslash and another character stand for that character. -/
def textAfterQuote? : List Char → Option (List Char)
  | [] => none
  | '"' :: cs => if cs = [] then some [] else none
  | '\\' :: c :: cs =>
    match Text.hexValue? c with
    | some d =>
      (textAfterQuote? (skipSpace (readDigits 5 d cs).2)).map (codePoint (readDigits 5 d cs).1 :: ·)
    | none => (textAfterQuote? cs).map (c :: ·)
  | c :: cs => (textAfterQuote? cs).map (c :: ·)
termination_by cs => cs.length
decreasing_by
  · have hdigits := length_readDigits_le 5 d cs
    have hspace := length_skipSpace_le (readDigits 5 d cs).2
    simp only [List.length_cons]
    omega
  · simp only [List.length_cons]
    omega
  · simp

/-- The text that a string in double quotes stands for. -/
def text? : List Char → Option (List Char)
  | '"' :: cs => textAfterQuote? cs
  | _ => none

theorem textAfterQuote?_plain {c : Char} (hquote : c ≠ '"') (hslash : c ≠ '\\') (cs : List Char) :
    textAfterQuote? (c :: cs) = (textAfterQuote? cs).map (c :: ·) := by
  rw [textAfterQuote?]
  · exact hquote
  · rintro _ _ rfl
    exact absurd rfl hslash

theorem textAfterQuote?_escaped {c : Char} (h : Text.hexValue? c = none) (cs : List Char) :
    textAfterQuote? ('\\' :: c :: cs) = (textAfterQuote? cs).map (c :: ·) := by
  rw [textAfterQuote?, h]

theorem textAfterQuote?_hex {c : Char} {d : Nat} (h : Text.hexValue? c = some d) (cs : List Char) :
    textAfterQuote? ('\\' :: c :: cs) = (textAfterQuote? (skipSpace (readDigits 5 d cs).2)).map
      (codePoint (readDigits 5 d cs).1 :: ·) := by
  rw [textAfterQuote?, h]

theorem le_readDigits (most n : Nat) (cs : List Char) : n ≤ (readDigits most n cs).1 := by
  induction most generalizing n cs with
  | zero => exact Nat.le_refl n
  | succ most ih =>
      cases cs with
      | nil => exact Nat.le_refl n
      | cons c cs =>
          unfold readDigits
          split
          · rename_i d _
            have hmore := ih (16 * n + d) cs
            omega
          · exact Nat.le_refl n

theorem le_toNat_codePoint {v n : Nat} (hv : v ≤ 0xFFFD) (h : v ≤ n) : v ≤ (codePoint n).toNat := by
  unfold codePoint
  split
  · rename_i hvalid
    have hsame : (Char.ofNat n).toNat = n := by
      rw [Char.ofNat, dif_pos hvalid]
      rfl
    rwa [hsame]
  · exact hv

end Css

/-! ## Names in selectors -/

/-- A character that ASCII can print. -/
def IsPrintable (c : Char) : Prop :=
  ' ' ≤ c ∧ c ≤ '~'

instance (c : Char) : Decidable (IsPrintable c) :=
  inferInstanceAs (Decidable (' ' ≤ c ∧ c ≤ '~'))

theorem isPrintable_iff {c : Char} : IsPrintable c ↔ 0x20 ≤ c.toNat ∧ c.toNat ≤ 0x7E :=
  Iff.rfl

namespace Json

variable {c : Char}

theorem escapeChar_of_isPrintable (h : IsPrintable c) :
    escapeChar .ascii c = if c = '"' ∨ c = '\\' then ['\\', c] else [c] := by
  rw [isPrintable_iff] at h
  have hcontrol : ∀ d : Char, d.toNat < 0x20 → c ≠ d := by
    rintro d hd rfl
    omega
  have hlow : ¬c.toNat < 0x20 := by omega
  have hhigh : c.toNat < 0x7F := by omega
  simp [escapeChar, hcontrol, hlow, hhigh]

/-- What cannot be printed is written as an escape with another character, which may be a hexadecimal digit
of a greater value only. -/
theorem exists_escapeChar_of_not_isPrintable (h : ¬IsPrintable c) :
    ∃ d rest, escapeChar .ascii c = '\\' :: d :: rest ∧ d ≠ c ∧
      ∀ v, Text.hexValue? d = some v → c.toNat < v ∧ v < 16 := by
  have hprinted : ∀ d : Char, IsPrintable d → d ≠ c := by
    rintro d hd rfl
    exact h hd
  have hplain : ∀ d, Text.hexValue? d = none →
      ∀ v, Text.hexValue? d = some v → c.toNat < v ∧ v < 16 := by
    intro d hd v hv
    rw [hd] at hv
    cases hv
  unfold escapeChar
  split_ifs with hquote hn hr ht hb hf hcontrol hlow
  · exact absurd (by rcases hquote with rfl | rfl <;> decide) h
  · exact ⟨'n', [], rfl, hprinted _ (by decide), hplain _ rfl⟩
  · exact ⟨'r', [], rfl, hprinted _ (by decide), hplain _ rfl⟩
  · exact ⟨'t', [], rfl, hprinted _ (by decide), hplain _ rfl⟩
  · exact ⟨'b', [], rfl, hprinted _ (by decide), by subst hb; decide⟩
  · exact ⟨'f', [], rfl, hprinted _ (by decide), by subst hf; decide⟩
  · exact ⟨'u', _, rfl, hprinted _ (by decide), hplain _ rfl⟩
  · have hhigh := hlow.resolve_left (by decide)
    rw [isPrintable_iff] at h
    omega
  · exact ⟨'u', _, rfl, hprinted _ (by decide), hplain _ rfl⟩
  · exact ⟨'u', _, rfl, hprinted _ (by decide), hplain _ rfl⟩

end Json

namespace Css

/-- A JSON string in ASCII is a string of style sheets for the same text if and only if all characters of
the text can be printed. -/
theorem textAfterQuote?_escape_iff (cs : List Char) :
    textAfterQuote? (cs.flatMap (Json.escapeChar .ascii) ++ ['"']) = some cs ↔
      ∀ c ∈ cs, IsPrintable c := by
  induction cs with
  | nil => simp [textAfterQuote?]
  | cons c cs ih =>
      rw [List.flatMap_cons, List.append_assoc, List.forall_mem_cons]
      by_cases hc : IsPrintable c
      · have hread : textAfterQuote? (Json.escapeChar .ascii c ++
            (cs.flatMap (Json.escapeChar .ascii) ++ ['"'])) =
            (textAfterQuote? (cs.flatMap (Json.escapeChar .ascii) ++ ['"'])).map (c :: ·) := by
          rw [Json.escapeChar_of_isPrintable hc]
          split_ifs with hquote
          · exact textAfterQuote?_escaped (by rcases hquote with rfl | rfl <;> rfl) _
          · rw [not_or] at hquote
            exact textAfterQuote?_plain hquote.1 hquote.2 _
        rw [hread, Option.map_eq_some_iff]
        simp [hc, ih]
      · obtain ⟨d, rest, hescape, hne, hgreater⟩ := Json.exists_escapeChar_of_not_isPrintable hc
        rw [hescape]
        refine iff_of_false (fun hread => ?_) fun hall => hc hall.1
        -- The first character that is read is the one after the backslash, or it has a greater number.
        rcases hd : Text.hexValue? d with _ | v
        · rw [List.cons_append, List.cons_append, textAfterQuote?_escaped hd,
            Option.map_eq_some_iff] at hread
          obtain ⟨_, -, hsame⟩ := hread
          exact hne (List.cons.inj hsame).1
        · rw [List.cons_append, List.cons_append, textAfterQuote?_hex hd,
            Option.map_eq_some_iff] at hread
          obtain ⟨_, -, hsame⟩ := hread
          obtain ⟨hless, hsmall⟩ := hgreater v hd
          have hle := le_toNat_codePoint (by omega) (le_readDigits 5 v
            (rest ++ (cs.flatMap (Json.escapeChar .ascii) ++ ['"'])))
          rw [(List.cons.inj hsame).1] at hle
          omega

end Css

namespace Candidate

/-- The candidates for an attribute selector, which is not remembered. -/
def ofAttribute (name quoted : String) : Candidate :=
  let selector := "[" ++ name ++ "=" ++ quoted ++ "]"
  ⟨"css", selector, .css selector, none⟩

/-- Of the candidates for a target, two look for an attribute: its name or its label, given as a string of
style sheets. That string stands for the trimmed target if and only if all characters of it are ones that
ASCII can print. -/
theorem attributes_stand_for_target_iff (target : String) (selector : Option String)
    (profile : Profile) :
    ∃ quoted : String,
      (all target selector profile).filter (·.strategy = "css") =
        [ofAttribute "name" quoted, ofAttribute "aria-label" quoted] ∧
      (Css.text? quoted.toList = some (Text.strip target).toList ↔
        ∀ c ∈ (Text.strip target).toList, IsPrintable c) := by
  refine ⟨String.ofList (Json.literal .ascii (Text.strip target)), ?_, ?_⟩
  · have hlearned : ∀ strategy, strategy ≠ "css" → ∀ found : Option String,
        ((found.map (learnable strategy)).toList).filter (·.strategy = "css") = [] := by
      intro strategy hstrategy found
      cases found <;> simp [learnable, hstrategy]
    rw [all, List.filter_append, List.filter_append, hlearned _ (by decide), hlearned _ (by decide)]
    rfl
  · rw [String.toList_ofList, Json.literal, Css.text?]
    exact Css.textAfterQuote?_escape_iff _

/-- The attribute selectors for an accented letter look for the number of its code point. -/
theorem accented_target_is_misread :
    let quoted := "\"\\u00e9\""
    (all "é" none (.empty Profile.defaultDomain)).filter (·.strategy = "css") =
        [ofAttribute "name" quoted, ofAttribute "aria-label" quoted] ∧
      Css.text? quoted.toList = some "u00e9".toList ∧
      Css.text? quoted.toList ≠ some (Text.strip "é").toList := by
  intro quoted
  have hread : Css.text? quoted.toList = some "u00e9".toList := by
    simp [quoted, Css.text?, Css.textAfterQuote?, Text.hexValue?]
  refine ⟨by decide, hread, ?_⟩
  rw [hread]
  decide

end Candidate
end Walkthrough
