import Walkthrough.Failure
import Walkthrough.Number.Binary64
import Walkthrough.Text.Blank
import Walkthrough.Text.Digit

/-!
Numbers that people write. Digits may be of any script and may be set apart by single underscores,
and blanks around a number do not count. Whole numbers have an optional sign; other numbers may also
have a point, a power of ten, or be `inf` or `nan`.
-/

namespace Walkthrough.Text

/-- A blank around a number: a blank that is no information separator. -/
def isMargin (c : Char) : Bool :=
  isBlank c && !(28 ≤ c.toNat && c.toNat ≤ 31)

def dropMargins (cs : List Char) : List Char :=
  ((cs.dropWhile isMargin).reverse.dropWhile isMargin).reverse

def splitSign : List Char → Bool × List Char
  | '-' :: cs => (true, cs)
  | '+' :: cs => (false, cs)
  | cs => (false, cs)

def isDigitOrGap (c : Char) : Bool :=
  isDecimal c || c = '_'

/-- Whether a run of digits and underscores starts and ends with a digit and has no two
underscores next to each other. -/
def isSpaced : List Char → Bool
  | [] => false
  | [c] => isDecimal c
  | c :: '_' :: cs => isDecimal c && isSpaced cs
  | c :: cs => isDecimal c && isSpaced cs

/-- How much of a text that is no number is shown, in characters. -/
def shownLimit : Nat := 200

def notInteger (s : String) : Failure :=
  .value (.notInteger (String.ofList ((quoteChars s.toList).take shownLimit)))

/-- The whole number that a text spells. -/
def integer (s : String) : Except Failure Int :=
  let (negative, body) := splitSign (s.toList.dropWhile isMargin)
  let run := body.takeWhile isDigitOrGap
  let digits := run.filter isDecimal
  if !isSpaced run then .error (notInteger s)
  else if Json.digitLimit < digits.length then .error (.value (.hugeInteger digits.length))
  else if !(body.drop run.length).all isMargin then .error (notInteger s)
  else
    let n : Int := decimalValue digits
    .ok (if negative then -n else n)

/-- A run of digits with its value and length, and what comes after it. -/
def splitDigits (cs : List Char) : List Char × List Char :=
  (cs.takeWhile isDecimal, cs.dropWhile isDecimal)

/-- Drops the underscores of a text, if each stands between two digits. -/
def dropGaps? : Option Char → List Char → Option (List Char)
  | _, [] => some []
  | before, '_' :: cs =>
    if before.any isDecimal && cs.head?.any isDecimal then dropGaps? none cs else none
  | _, c :: cs => (dropGaps? (some c) cs).map (c :: ·)

/-- The power of ten that a text spells, if it is one or empty. -/
def power? : List Char → Option Int
  | [] => some 0
  | letter :: cs =>
    let (negative, body) := splitSign cs
    let (digits, rest) := splitDigits body
    if (letter = 'e' || letter = 'E') && !digits.isEmpty && rest.isEmpty then
      some (if negative then -(decimalValue digits : Int) else decimalValue digits)
    else none

/-- The number that a text without sign and underscores spells. -/
def magnitude? (negative : Bool) (cs : List Char) : Option Binary64 :=
  let word := String.ofList (cs.map Char.toLower)
  if word = "inf" ∨ word = "infinity" then some (.infinite negative)
  else if word = "nan" then some .nan
  else
    let (whole, rest) := splitDigits cs
    let (fraction, rest) := match rest with
      | '.' :: more => splitDigits more
      | _ => ([], rest)
    let digits := whole ++ fraction
    if digits.isEmpty then none
    else (power? rest).map fun power =>
      .ofDecimal negative (decimalValue digits) (power - fraction.length)

/-- The number that a text spells. -/
def decimal? (s : String) : Option Binary64 :=
  (dropGaps? none (dropMargins s.toList)).bind fun cs =>
    let (negative, body) := splitSign cs
    magnitude? negative body

end Walkthrough.Text
