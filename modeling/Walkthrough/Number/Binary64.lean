/-!
Binary floating point numbers of 64 bits, held exactly: a finite one is a sign, a significand and a
power of two. Rounding and the shortest decimal form are computed on whole numbers.
-/

namespace Walkthrough

/-- A finite number is `significand * 2 ^ exponent` with its sign. The significand is below
`2 ^ 53`, and it is at least `2 ^ 52` unless the exponent is the least one, `-1074`. -/
inductive Binary64 where
  | finite (negative : Bool) (significand : Nat) (exponent : Int)
  | infinite (negative : Bool)
  | nan
  deriving DecidableEq, Repr, Inhabited

namespace Binary64

def zero (negative : Bool) : Binary64 :=
  .finite negative 0 (-1074)

/-- The whole number nearest to a quotient; a tie goes to the even one. -/
def divNearest (num den : Nat) : Nat :=
  let q := num / den
  let r := num % den
  if 2 * r < den then q else if den < 2 * r then q + 1 else q + q % 2

/-- `n * b ^ k`, or `n` for a negative `k`. -/
def scale (b n : Nat) (k : Int) : Nat :=
  n * Nat.pow b k.toNat

/-- The number nearest to a quotient; a tie goes to the even significand. -/
def ofRatio (negative : Bool) (num den : Nat) : Binary64 :=
  if num = 0 then zero negative else
  let lead : Int := (num.log2 : Int) - (den.log2 : Int)
  let wide := scale 2 den lead ≤ scale 2 num (-lead)
  let e := max (if wide then lead - 52 else lead - 53) (-1074)
  let m := divNearest (scale 2 num (-e)) (scale 2 den e)
  if m = scale 2 1 53 then
    if 970 < e then .infinite negative else .finite negative (scale 2 1 52) (e + 1)
  else
    if 971 < e then .infinite negative else .finite negative m e

def digitCount (n : Nat) : Nat :=
  (Nat.toDigits 10 n).length

/-- The number nearest to `coefficient * 10 ^ power`. Powers far outside the range are settled by
the count of digits alone. -/
def ofDecimal (negative : Bool) (coefficient : Nat) (power : Int) : Binary64 :=
  if coefficient = 0 then zero negative else
  let place := (digitCount coefficient : Int) + power
  if 400 < place then .infinite negative
  else if place < -400 then zero negative
  else ofRatio negative (scale 10 coefficient power) (scale 10 1 (-power))

def ofInt (n : Int) : Binary64 :=
  ofRatio (n < 0) n.natAbs 1

/-- The whole number that a finite number equals, if it equals one. -/
def toInt? : Binary64 → Option Int
  | .finite negative m e =>
    let magnitude? :=
      if 0 ≤ e then some (scale 2 m e)
      else if m % scale 2 1 (-e) = 0 then some (m / scale 2 1 (-e)) else none
    magnitude?.map fun k => if negative then -(k : Int) else k
  | _ => none

/-- `x < n` for a whole number `n`; not a number is below nothing. -/
def ltInt : Binary64 → Int → Bool
  | .finite negative m e, n =>
    let s : Int := if negative then -(m : Int) else m
    s * scale 2 1 e < n * scale 2 1 (-e)
  | .infinite negative, _ => negative
  | .nan, _ => false

/-- `n < x` for a whole number `n`; not a number is above nothing. -/
def gtInt : Binary64 → Int → Bool
  | .finite negative m e, n =>
    let s : Int := if negative then -(m : Int) else m
    n * scale 2 1 (-e) < s * scale 2 1 e
  | .infinite negative, _ => !negative
  | .nan, _ => false

def isZero : Binary64 → Bool
  | .finite _ m _ => m == 0
  | _ => false

/-- The sum with a whole number, rounded once. -/
def addInt (x : Binary64) (n : Int) : Binary64 :=
  match x with
  | .finite negative m e =>
    let s : Int := if negative then -(m : Int) else m
    let sum := s * scale 2 1 e + n * scale 2 1 (-e)
    ofRatio (sum < 0) sum.natAbs (scale 2 1 (-e))
  | other => other

end Binary64
end Walkthrough
