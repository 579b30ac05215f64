import Walkthrough.Json.Reader
import Mathlib.Data.List.TakeWhile

/-! # Whole numbers that are too long to be read

A reader goes forward: what it leaves is an end of what it was given. So the digits of a whole number
that is too long to be read stand side by side in the text. -/

namespace Walkthrough.Json

/-! ## What readers leave -/

theorem skipGap_suffix (cs : List Char) : skipGap cs <:+ cs :=
  List.dropWhile_suffix _

/-- What comes after a gap and one more character. -/
theorem suffix_of_gap {cs rest more : List Char} {c : Char} (hgap : skipGap rest = c :: more)
    (hrest : rest <:+ cs) : more <:+ cs := by
  have hbody : skipGap rest <:+ cs := (skipGap_suffix rest).trans hrest
  rw [hgap] at hbody
  exact (List.suffix_cons c more).trans hbody

theorem suffix_of_afterWord? {word : String} {cs rest : List Char}
    (h : afterWord? word cs = some rest) : rest <:+ cs := by
  unfold afterWord? at h
  split at h
  · cases h
    exact List.drop_suffix _ _
  · cases h

theorem suffix_of_readUnit? {cs rest : List Char} {n : Nat} (h : readUnit? cs = some (n, rest)) :
    rest <:+ cs := by
  unfold readUnit? at h
  split at h
  · cases h
  · obtain ⟨unit, -, hrest⟩ := Option.map_eq_some_iff.mp h
    cases hrest
    exact List.drop_suffix _ _

theorem suffix_of_fractionDigits? {cs ds rest : List Char}
    (h : fractionDigits? cs = some (ds, rest)) : rest <:+ cs := by
  unfold fractionDigits? at h
  split at h
  · dsimp only at h
    split at h
    · cases h
    · cases h
      exact (List.dropWhile_suffix _).trans (List.suffix_cons _ _)
  · cases h

theorem suffix_of_exponent? {cs rest : List Char} {power : Int}
    (h : exponent? cs = some (power, rest)) : rest <:+ cs := by
  unfold exponent? at h
  split at h
  · split at h
    · simp only [Option.ite_none_left_eq_some, Option.some.injEq, Prod.mk.injEq] at h
      obtain ⟨-, -, rfl⟩ := h
      refine (List.dropWhile_suffix _).trans (List.IsSuffix.trans ?_ (List.suffix_cons _ _))
      -- the sign, if there is one, is left behind with the letter
      split
      · exact List.suffix_cons _ _
      · exact List.suffix_cons _ _
      · exact List.suffix_rfl
    · cases h
  · cases h

/-! ## Digits in a row -/

/-- A text with a row of digits that is too long for a whole number. -/
structure HasRow (cs : List Char) (digits : Nat) : Prop where
  long : digitLimit < digits
  row : ∃ ds : List Char, ds <:+: cs ∧ ds.length = digits ∧ ∀ c ∈ ds, c.isDigit

theorem HasRow.of_suffix {cs rest : List Char} {digits : Nat} (h : HasRow rest digits)
    (hsuffix : rest <:+ cs) : HasRow cs digits := by
  obtain ⟨ds, hin, hlength, hdigits⟩ := h.row
  exact ⟨h.long, ds, hin.trans hsuffix.isInfix, hlength, hdigits⟩

theorem wholeDigits_spec (cs : List Char) :
    (wholeDigits cs).1 ++ (wholeDigits cs).2 = cs ∧ ∀ c ∈ (wholeDigits cs).1, c.isDigit := by
  unfold wholeDigits
  split
  · simp
  · exact ⟨List.takeWhile_append_dropWhile, fun c hc => List.mem_takeWhile_imp hc⟩

/-- How a reader behaves: what it leaves is an end of what it was given, and it stops at a number that is
too long only if there is one. -/
structure Forward {α : Type} (cs : List Char) (reading : Reading α) : Prop where
  left {a : α} {rest : List Char} (h : reading = .ok (a, rest)) : rest <:+ cs
  stopped {digits : Nat} (h : reading = .error (.hugeInteger digits)) : HasRow cs digits

namespace Forward

variable {α β : Type} {cs rest : List Char}

theorem ok (a : α) (hrest : rest <:+ cs) : Forward cs (.ok (a, rest) : Reading α) :=
  ⟨fun h => (Prod.mk.inj (Except.ok.inj h)).2 ▸ hrest, nofun⟩

theorem flaw (kind : Flaw) (place : List Char) :
    Forward cs (.error (.flaw kind place) : Reading α) :=
  ⟨nofun, nofun⟩

theorem of_suffix {reading : Reading α} (h : Forward rest reading) (hrest : rest <:+ cs) :
    Forward cs reading :=
  ⟨fun hok => (h.left hok).trans hrest, fun herror => (h.stopped herror).of_suffix hrest⟩

/-- Where one part stops, what it is a part of stops. -/
theorem stop {reading : Reading α} {stop : Stop} (h : Forward cs reading)
    (hstop : reading = .error stop) : Forward cs (.error stop : Reading β) :=
  ⟨nofun, fun herror => h.stopped (hstop.trans (congrArg _ (Except.error.inj herror)))⟩

end Forward

theorem forward_readUnicodeEscape (cs : List Char) : Forward cs (readUnicodeEscape cs) := by
  unfold readUnicodeEscape
  split
  · exact .flaw _ _
  rename_i high found hunit
  have hfound : found <:+ cs := (suffix_of_readUnit? hunit).trans (List.drop_suffix _ _)
  split
  · split
    · split
      · exact .flaw _ _
      split
      · exact .ok _ ((List.drop_suffix _ _).trans ((List.suffix_append ['\\', 'u'] _).trans hfound))
      · exact .ok _ hfound
    · exact .ok _ hfound
  · exact .ok _ hfound

theorem forward_readString (start : List Char) (fuel : Nat) (done cs : List Char) :
    Forward cs (readString start fuel done cs) := by
  induction fuel generalizing done cs with
  | zero => exact .flaw _ _
  | succ fuel ih =>
      unfold readString
      split
      · exact .flaw _ _
      · exact .ok _ (List.suffix_cons _ _)
      · rename_i rest
        refine Forward.of_suffix ?_ (List.suffix_cons '\\' rest)
        split
        · exact .flaw _ _
        · split
          · rename_i hescape
            exact (forward_readUnicodeEscape _).stop hescape
          · rename_i hescape
            exact (ih _ _).of_suffix ((forward_readUnicodeEscape _).left hescape)
        · split
          · exact (ih _ _).of_suffix (List.suffix_cons _ _)
          · exact .flaw _ _
      · split
        · exact .flaw _ _
        · exact (ih _ _).of_suffix (List.suffix_cons _ _)

theorem forward_readLiteral (cs : List Char) : Forward cs (readLiteral cs) :=
  forward_readString _ _ _ _

theorem forward_readMagnitude (negative : Bool) {start cs : List Char} (hcs : cs <:+ start) :
    Forward start (readMagnitude negative start cs) := by
  obtain ⟨happend, hdigits⟩ := wholeDigits_spec cs
  have hwhole : (wholeDigits cs).2 <:+ cs := ⟨_, happend⟩
  have hfraction : ((fractionDigits? (wholeDigits cs).2).map (·.2)).getD (wholeDigits cs).2 <:+ cs := by
    cases hfound : fractionDigits? (wholeDigits cs).2 with
    | none => exact hwhole
    | some found => exact (suffix_of_fractionDigits? hfound).trans hwhole
  have hrest : ∀ after, after <:+ cs →
      ((exponent? after).map (·.2)).getD after <:+ start := by
    intro after hafter
    cases hfound : exponent? after with
    | none => exact hafter.trans hcs
    | some found => exact ((suffix_of_exponent? hfound).trans hafter).trans hcs
  unfold readMagnitude
  dsimp only
  split
  · exact .flaw _ _
  split
  · split
    · rename_i hlong
      refine ⟨nofun, fun h => ?_⟩
      cases h
      exact ⟨hlong, _, List.IsInfix.trans ⟨[], _, happend⟩ hcs.isInfix, rfl, hdigits⟩
    · exact .ok _ (hrest _ hfraction)
  · exact .ok _ (hrest _ hfraction)

theorem forward_readScalar (cs : List Char) : Forward cs (readScalar cs) := by
  unfold readScalar
  split
  · rename_i rest
    have hrest : rest <:+ '-' :: rest := List.suffix_cons _ _
    split
    · rename_i hword
      refine ⟨fun h => ?_, nofun⟩
      cases h
      exact (suffix_of_afterWord? hword).trans hrest
    · exact forward_readMagnitude true hrest
  · dsimp only
    split
    · rename_i answer hword
      obtain ⟨word, -, hafter⟩ := List.exists_of_findSome?_eq_some hword
      obtain ⟨more, hmore, rfl⟩ := Option.map_eq_some_iff.mp hafter
      refine ⟨fun h => ?_, nofun⟩
      cases h
      exact suffix_of_afterWord? hmore
    · exact forward_readMagnitude false List.suffix_rfl

/-- Readers with some fuel go forward. -/
structure ReadsForward (fuel : Nat) : Prop where
  value (cs : List Char) : Forward cs (readValue fuel cs)
  items (done : List Json) (cs : List Char) : Forward cs (readItems fuel done cs)
  members (done : Table Json) (cs : List Char) : Forward cs (readMembers fuel done cs)

section Fuel

variable {fuel : Nat} (ih : ReadsForward fuel)
include ih

theorem forward_readValue_succ (cs : List Char) : Forward cs (readValue (fuel + 1) cs) := by
  unfold readValue
  split
  · rename_i rest
    split
    · rename_i hread
      exact ((forward_readLiteral rest).stop hread).of_suffix (List.suffix_cons _ _)
    · rename_i hread
      exact .ok _ (((forward_readLiteral rest).left hread).trans (List.suffix_cons _ _))
  · rename_i rest
    split
    · rename_i hgap
      exact .ok _ (suffix_of_gap hgap (List.suffix_cons _ _))
    · exact (ih.items _ _).of_suffix ((skipGap_suffix rest).trans (List.suffix_cons _ _))
  · rename_i rest
    split
    · rename_i hgap
      exact .ok _ (suffix_of_gap hgap (List.suffix_cons _ _))
    · exact (ih.members _ _).of_suffix ((skipGap_suffix rest).trans (List.suffix_cons _ _))
  · exact forward_readScalar cs

theorem forward_readItems_succ (done : List Json) (cs : List Char) :
    Forward cs (readItems (fuel + 1) done cs) := by
  unfold readItems
  split
  · rename_i hread
    exact (ih.value cs).stop hread
  rename_i v rest hread
  have hrest : rest <:+ cs := (ih.value cs).left hread
  split
  · rename_i hgap
    exact .ok _ (suffix_of_gap hgap hrest)
  · rename_i hgap
    exact (ih.items _ _).of_suffix ((skipGap_suffix _).trans (suffix_of_gap hgap hrest))
  · exact .flaw _ _

theorem forward_readMembers_succ (done : Table Json) (cs : List Char) :
    Forward cs (readMembers (fuel + 1) done cs) := by
  unfold readMembers
  split
  case h_2 => exact .flaw _ _
  rename_i rest
  have hquote : rest <:+ '"' :: rest := List.suffix_cons _ _
  split
  · rename_i hread
    exact ((forward_readLiteral rest).stop hread).of_suffix hquote
  rename_i key after hread
  have hafter : after <:+ '"' :: rest := ((forward_readLiteral rest).left hread).trans hquote
  split
  case h_2 => exact .flaw _ _
  rename_i body hcolon
  have hbody : skipGap body <:+ '"' :: rest := (skipGap_suffix _).trans (suffix_of_gap hcolon hafter)
  split
  · rename_i hvalue
    exact ((ih.value _).stop hvalue).of_suffix hbody
  rename_i v left hvalue
  have hleft : left <:+ '"' :: rest := ((ih.value _).left hvalue).trans hbody
  split
  · rename_i hgap
    exact .ok _ (suffix_of_gap hgap hleft)
  · rename_i hgap
    exact (ih.members _ _).of_suffix ((skipGap_suffix _).trans (suffix_of_gap hgap hleft))
  · exact .flaw _ _

end Fuel

theorem readsForward (fuel : Nat) : ReadsForward fuel := by
  induction fuel with
  | zero => exact ⟨fun _ => .flaw _ _, fun _ _ => .flaw _ _, fun _ _ => .flaw _ _⟩
  | succ fuel ih =>
      exact ⟨forward_readValue_succ ih, forward_readItems_succ ih, forward_readMembers_succ ih⟩

/-- A text that is not read for the length of a whole number in it has its digits in a row. -/
theorem hasRow_of_parse {s : String} {digits : Nat} (h : parse s = .error (.hugeInteger digits)) :
    HasRow s.toList digits := by
  have hread : readText s.toList = .error (.hugeInteger digits) := by
    unfold parse at h
    dsimp only at h
    split at h
    · cases h
    · rename_i stop hread
      cases stop with
      | flaw kind rest => cases h
      | hugeInteger found => rw [hread, Fault.hugeInteger.inj (Except.error.inj h)]
  unfold readText at hread
  split at hread
  · cases hread
  have hstart : skipGap s.toList <:+ s.toList := skipGap_suffix _
  cases hvalue : readValue (2 * s.toList.length + 2) (skipGap s.toList) with
  | error stop =>
      rw [hvalue] at hread
      obtain rfl : stop = .hugeInteger digits := Except.error.inj hread
      exact (((readsForward _).value _).stopped hvalue).of_suffix hstart
  | ok answer =>
      simp only [hvalue, bind, Except.bind] at hread
      split at hread
      · cases hread
      · cases hread

end Walkthrough.Json
