import Mathlib.Data.Int.Order.Basic
import Mathlib.Tactic.Linarith
import Walkthrough.Json.Value

/-! # Whole numbers in JSON

A float with a whole value compares with bounds as that whole number does, and settling a value
replaces such a float once and for all. -/

namespace Walkthrough

namespace Binary64

theorem scale_of_nonpos (b n : Nat) {k : Int} (hk : k ≤ 0) : scale b n k = n := by
  have hzero : k.toNat = 0 := by omega
  simp [scale, hzero]

theorem scale_eq_mul (b n : Nat) (k : Int) : scale b n k = n * scale b 1 k := by
  simp [scale]

theorem scale_pos (k : Int) : (0 : Int) < scale 2 1 k := by
  have hpos : 0 < scale 2 1 k := by simp [scale]
  exact_mod_cast hpos

/-- A float with a whole value is that number, scaled by the power of two that it lacks. -/
theorem scaled_of_toInt? {negative : Bool} {m : Nat} {e n : Int}
    (h : (finite negative m e).toInt? = some n) :
    (if negative then -(m : Int) else m) * scale 2 1 e = n * scale 2 1 (-e) := by
  simp only [toInt?, Option.map_eq_some_iff] at h
  obtain ⟨k, hk, rfl⟩ := h
  have hscale : (m : Int) * scale 2 1 e = k * scale 2 1 (-e) := by
    by_cases he : 0 ≤ e
    · have hk' : (scale 2 m e : Int) = k := by simpa [he] using hk
      have hone : scale 2 1 (-e) = 1 := scale_of_nonpos 2 1 (by omega)
      rw [hone, ← hk', scale_eq_mul 2 m]
      simp
    · have hone : scale 2 1 e = 1 := scale_of_nonpos 2 1 (by omega)
      by_cases hdvd : m % scale 2 1 (-e) = 0
      · have hk' : (m : Int) / scale 2 1 (-e) = k := by simpa [he, hdvd] using hk
        have hm : m / scale 2 1 (-e) * scale 2 1 (-e) = m :=
          Nat.div_mul_cancel (Nat.dvd_of_mod_eq_zero hdvd)
        rw [hone, ← hk', Nat.cast_one, mul_one]
        exact_mod_cast hm.symm
      · simp [he, hdvd] at hk
  cases negative
  · simpa using hscale
  · simpa using hscale

theorem ltInt_of_toInt? {x : Binary64} {n : Int} (h : x.toInt? = some n) (bound : Int) :
    x.ltInt bound = decide (n < bound) := by
  cases x with
  | finite negative m e =>
      simp only [ltInt, scaled_of_toInt? h, mul_lt_mul_iff_of_pos_right (scale_pos (-e))]
  | infinite negative => cases h
  | nan => cases h

theorem gtInt_of_toInt? {x : Binary64} {n : Int} (h : x.toInt? = some n) (bound : Int) :
    x.gtInt bound = decide (bound < n) := by
  cases x with
  | finite negative m e =>
      simp only [gtInt, scaled_of_toInt? h, mul_lt_mul_iff_of_pos_right (scale_pos (-e))]
  | infinite negative => cases h
  | nan => cases h

/-- A float with the value of a whole number. -/
def Equals : Binary64 → Int → Prop
  | .finite negative m e, n =>
    (if negative then -(m : Int) else m) * 2 ^ e.toNat = n * 2 ^ (-e).toNat
  | _, _ => False

theorem scale_two (e : Int) : (scale 2 1 e : Int) = 2 ^ e.toNat := by
  simp [scale]

theorem Equals.exists_toInt? {x : Binary64} {n : Int} (h : x.Equals n) :
    ∃ k, x.toInt? = some k := by
  cases x with
  | infinite | nan => cases h
  | finite negative m e =>
      by_cases he : 0 ≤ e
      · simp [toInt?, he]
      · have hzero : e.toNat = 0 := by omega
        have hm : m = n.natAbs * 2 ^ (-e).toNat := by
          have habs := congrArg Int.natAbs h
          cases negative <;> simpa [hzero, Int.natAbs_mul, Int.natAbs_pow] using habs
        have hdvd : m % scale 2 1 (-e) = 0 := by simp [hm, scale]
        simp [toInt?, he, hdvd]

/-- The whole number that a float gives is the one that has its value. -/
theorem toInt?_eq_some_iff {x : Binary64} {n : Int} : x.toInt? = some n ↔ x.Equals n := by
  have hequals : ∀ k, x.toInt? = some k → x.Equals k := by
    intro k hk
    cases x with
    | finite negative m e => simpa [Equals, scale_two] using scaled_of_toInt? hk
    | infinite | nan => cases hk
  refine ⟨hequals n, fun h => ?_⟩
  obtain ⟨k, hk⟩ := h.exists_toInt?
  have hsame := hequals k hk
  cases x with
  | infinite | nan => cases h
  | finite negative m e =>
      have hpos : (2 : Int) ^ (-e).toNat ≠ 0 := pow_ne_zero _ two_ne_zero
      rw [hk, mul_right_cancel₀ hpos (hsame.symm.trans h)]

end Binary64

namespace Json

@[simp] theorem settle_str (s : String) : (Json.str s).settle = .str s :=
  rfl

@[simp] theorem settle_int (n : Int) : (Json.int n).settle = .int n :=
  rfl

theorem settle_float (x : Binary64) :
    (Json.float x).settle = (x.toInt?.map Json.int).getD (.float x) := by
  cases h : x.toInt? <;> simp [settle, h]

@[simp] theorem isSet_settle (v : Json) : v.settle.isSet = v.isSet := by
  cases v with
  | float x => cases h : x.toInt? <;> simp [settle_float, h, isSet]
  | _ => rfl

@[simp] theorem settle_settle (v : Json) : v.settle.settle = v.settle := by
  cases v with
  | float x => cases h : x.toInt? <;> simp [settle_float, h]
  | _ => rfl

/-- The whole numbers among JSON values are the integers and the floats with a whole value. -/
theorem settle_eq_int_iff {v : Json} {n : Int} :
    v.settle = .int n ↔ v = .int n ∨ ∃ x, v = .float x ∧ x.toInt? = some n := by
  cases v with
  | float x => cases h : x.toInt? <;> simp [settle_float, h]
  | _ => simp [settle]

theorem str?_eq_some_iff {v : Json} {s : String} : v.str? = some s ↔ v = .str s := by
  cases v <;> simp [str?]

end Json
end Walkthrough
