import Walkthrough.Failure
import Walkthrough.Text.Hex

/-!
Time in whole milliseconds. An instant counts from the start of the year 2024; its text is a date
and a time of day with milliseconds. Times in seconds are floats.
-/

namespace Walkthrough

/-- Milliseconds since 2024-01-01T00:00:00Z. -/
abbrev Instant := Int

/-- A number with leading zeros up to a width. -/
def padded (width : Nat) (n : Nat) : String :=
  let digits := Nat.repr n
  String.ofList (List.replicate (width - digits.length) '0') ++ digits

namespace Instant

/-- Milliseconds from the start of the year 1970 to the start of the year 2024. -/
def epochOffset : Int := 1704067200000

/-- The year, month and day that lie a number of days after 1970-01-01. Years are counted from
March, in periods of 400 years, which have 146097 days. -/
def date (days : Int) : Int × Nat × Nat :=
  let shifted := days + 719468
  let era := Int.fdiv shifted 146097
  let dayOfEra := (shifted - era * 146097).toNat
  let yearOfEra := (dayOfEra - dayOfEra / 1460 + dayOfEra / 36524 - dayOfEra / 146096) / 365
  let dayOfYear := dayOfEra - (365 * yearOfEra + yearOfEra / 4 - yearOfEra / 100)
  let march := (5 * dayOfYear + 2) / 153
  let day := dayOfYear - (153 * march + 2) / 5 + 1
  let month := if march < 10 then march + 3 else march - 9
  let year := (yearOfEra : Int) + era * 400 + (if month ≤ 2 then 1 else 0)
  (year, month, day)

/-- The date and the time of day, with marks between them and before the milliseconds. -/
def written (separator mark : String) (t : Instant) : String :=
  let ms := t + epochOffset
  let days := Int.fdiv ms 86400000
  let rest := (ms - days * 86400000).toNat
  let (year, month, day) := date days
  padded 4 year.toNat ++ "-" ++ padded 2 month ++ "-" ++ padded 2 day ++ separator ++
    padded 2 (rest / 3600000) ++ ":" ++ padded 2 (rest / 60000 % 60) ++ ":" ++
    padded 2 (rest / 1000 % 60) ++ mark ++ padded 3 (rest % 1000)

/-- The text of an instant in records. -/
def text (t : Instant) : String :=
  written "T" "." t ++ "Z"

/-- The text of an instant in log lines. -/
def stamp (t : Instant) : String :=
  written " " "," t

/-- The text of an instant in file names. -/
def milliseconds (t : Instant) : String :=
  toString (t + epochOffset)

end Instant

/-- Milliseconds as seconds, if they are not too many. -/
def Clock.seconds (ms : Int) : Except Failure Binary64 :=
  match Binary64.ofRatio (ms < 0) ms.natAbs 1000 with
  | .infinite _ => .error .overflow
  | x => .ok x

/-- The name of the `n`-th run of a session, started at an instant. -/
def runName (t : Instant) (n : Nat) : String :=
  "run_" ++ t.milliseconds ++ "_" ++ String.ofList (Text.hex 6 n)

end Walkthrough
