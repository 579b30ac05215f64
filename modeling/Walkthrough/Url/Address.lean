import Walkthrough.Text.Hex
import Walkthrough.Text.Split

/-!
Internet addresses as they may stand between brackets in a URL: version 4 in dotted form, version 6
in groups with at most one gap, and the form kept for later versions.
-/

namespace Walkthrough.Url

/-- An octet: one to three ASCII digits without a leading zero, at most 255. -/
def isOctet (cs : List Char) : Bool :=
  !cs.isEmpty && cs.length ≤ 3 && cs.all Char.isDigit &&
    (cs.length = 1 || cs.head? != some '0') &&
    cs.foldl (fun n c => 10 * n + (c.toNat - 48)) 0 ≤ 255

/-- Four octets with points between them. -/
def isVersion4 (cs : List Char) : Bool :=
  let parts := Text.splitAt '.' cs
  parts.length = 4 && parts.all isOctet

/-- A group of one to four hexadecimal digits. -/
def isGroup (cs : List Char) : Bool :=
  !cs.isEmpty && cs.length ≤ 4 && cs.all fun c => (Text.hexValue? c).isSome

/-- The parts of a version 6 address, with a dotted ending written as two groups. -/
def groupParts? (cs : List Char) : Option (List (List Char)) :=
  let parts := Text.splitAt ':' cs
  let ending := parts.getLast?.getD []
  if parts.length < 3 then none
  else if '.' ∈ ending then
    if isVersion4 ending then some (parts.dropLast ++ [['0'], ['0']]) else none
  else some parts

/-- The places of empty parts other than the first and the last part. -/
def gapPlaces (parts : List (List Char)) : List Nat :=
  (List.range parts.length).filter fun i =>
    0 < i && i + 1 < parts.length && (parts[i]?.getD ['0']).isEmpty

/-- The groups before or after a gap: an empty outer part stands only beside the gap, alone. -/
def isGapSide (side : List (List Char)) (outer : Option (List Char)) : Bool :=
  if outer = some [] then side.length = 1 else side.all isGroup

/-- How many groups a side of a gap stands for. -/
def gapSideCount (side : List (List Char)) (outer : Option (List Char)) : Nat :=
  if outer = some [] then 0 else side.length

/-- Eight groups, or fewer with one gap for at least one group. -/
def isGroups (parts : List (List Char)) : Bool :=
  parts.length ≤ 9 &&
    match gapPlaces parts with
    | [] => parts.length = 8 && parts.all isGroup
    | [i] =>
      let high := parts.take i
      let low := parts.drop (i + 1)
      isGapSide high parts.head? && isGapSide low parts.getLast? &&
        gapSideCount high parts.head? + gapSideCount low parts.getLast? < 8
    | _ => false

/-- A version 6 address, with an optional zone after a percent sign. -/
def isVersion6 (cs : List Char) : Bool :=
  let zoned := match Text.after? '%' cs with
    | none => true
    | some zone => !zone.isEmpty && '%' ∉ zone
  zoned && ((groupParts? (Text.before '%' cs)).any isGroups)

/-- `v`, hexadecimal digits, a point and more. -/
def isLaterVersion (cs : List Char) : Bool :=
  match cs with
  | 'v' :: rest =>
    let digits := rest.takeWhile fun c => (Text.hexValue? c).isSome
    match rest.dropWhile fun c => (Text.hexValue? c).isSome with
    | '.' :: more => !digits.isEmpty && !more.isEmpty
    | _ => false
  | _ => false

end Walkthrough.Url
