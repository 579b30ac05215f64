import Walkthrough.Number.Binary64

/-!
The shortest decimal form: the fewest digits that read back as the number, and of those the ones
nearest to it. The text is positional for magnitudes from `10 ^ -4` up to `10 ^ 16`, and has an
exponent elsewhere.
-/

namespace Walkthrough.Binary64

/-- A decimal `coefficient * 10 ^ power`. -/
structure Decimal where
  coefficient : Nat
  power : Int
  deriving DecidableEq, Repr, Inhabited

/-- The least `k` near an estimate with `num / den < 10 ^ k`. -/
def decimalPlace (num den : Nat) : Int :=
  let lead : Int := (num.log2 : Int) - (den.log2 : Int)
  let guess := Int.fdiv (lead * 30103) 100000
  let below (k : Int) : Bool := scale 10 num (-k) < scale 10 den k
  ([guess - 1, guess, guess + 1, guess + 2].find? below).getD (guess + 3)

/-- Whether `coefficient * 10 ^ power` rounds to `m * 2 ^ e`. The interval of such decimals reaches
half a step to each side, a quarter below a power of two, and has its ends where `m` is even. -/
def readsAs (m : Nat) (e : Int) (d : Decimal) : Bool :=
  let x := scale 2 (scale 10 d.coefficient d.power) (2 - e)
  let unit := scale 10 (scale 2 1 (e - 2)) (-d.power)
  let low := (if m = scale 2 1 52 ∧ -1074 < e then 4 * m - 1 else 4 * m - 2) * unit
  let high := (4 * m + 2) * unit
  if m % 2 = 0 then low ≤ x && x ≤ high else low < x && x < high

/-- Of the two neighbours of `num / den` on the grid of `10 ^ power`, the one that reads back, and
the nearer one if both do. -/
def onGrid? (m : Nat) (e : Int) (num den : Nat) (power : Int) : Option Decimal :=
  let n := scale 10 num (-power)
  let d := scale 10 den power
  let lower : Decimal := ⟨n / d, power⟩
  let upper : Decimal := ⟨n / d + 1, power⟩
  match readsAs m e lower, readsAs m e upper with
  | true, true => some (if divNearest n d = n / d then lower else upper)
  | true, false => some lower
  | false, true => some upper
  | false, false => none

/-- Moves trailing zeros of the coefficient into the power. -/
def Decimal.normalize : Nat → Decimal → Decimal
  | 0, d => d
  | fuel + 1, d =>
    if d.coefficient % 10 = 0 ∧ d.coefficient ≠ 0 then
      normalize fuel ⟨d.coefficient / 10, d.power + 1⟩
    else d

/-- The shortest decimal of `m * 2 ^ e`; seventeen digits always suffice. -/
def shortest (m : Nat) (e : Int) : Decimal :=
  let num := scale 2 m e
  let den := scale 2 1 (-e)
  let place := decimalPlace num den
  let found := (List.range 17).findSome? fun (i : Nat) => onGrid? m e num den (place - (i + 1))
  (found.getD ⟨0, 0⟩).normalize 20

/-- A decimal written with a point, or with an exponent of at least two digits. -/
def Decimal.text (d : Decimal) : String :=
  let digits := Nat.repr d.coefficient
  let point : Int := (digits.length : Int) + d.power
  if -4 < point ∧ point ≤ 16 then
    if point ≤ 0 then "0." ++ String.ofList (List.replicate (-point).toNat '0') ++ digits
    else if (digits.length : Int) ≤ point then
      digits ++ String.ofList (List.replicate (point - digits.length).toNat '0') ++ ".0"
    else
      let cs := digits.toList
      String.ofList (cs.take point.toNat) ++ "." ++ String.ofList (cs.drop point.toNat)
  else
    let cs := digits.toList
    let fraction := if cs.length ≤ 1 then "" else "." ++ String.ofList (cs.drop 1)
    let size := Nat.repr (point - 1).natAbs
    let padded := if size.length < 2 then "0" ++ size else size
    String.ofList (cs.take 1) ++ fraction ++ "e" ++ (if point - 1 < 0 then "-" else "+") ++ padded

/-- The text of a finite number; the others are named by the caller. -/
def render (infinity notNumber : String) : Binary64 → String
  | .finite negative m e =>
    (if negative then "-" else "") ++ (if m = 0 then "0.0" else (shortest m e).text)
  | .infinite negative => (if negative then "-" else "") ++ infinity
  | .nan => notNumber

/-- The text of a number in messages. -/
def text (x : Binary64) : String :=
  render "inf" "nan" x

end Walkthrough.Binary64
