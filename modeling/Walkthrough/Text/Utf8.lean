import Walkthrough.Text.Hex

/-!
Reading bytes as UTF-8. The first sequence that is no character is reported by its place, and by
whether its first byte cannot start one, a later byte does not continue it, or the text ends in it.
-/

namespace Walkthrough.Text.Utf8

inductive Flaw where
  | badStart
  | badContinuation
  | cutOff
  deriving DecidableEq, Repr

def Flaw.message : Flaw → String
  | .badStart => "invalid start byte"
  | .badContinuation => "invalid continuation byte"
  | .cutOff => "unexpected end of data"

/-- A flaw with its first byte, its place and the number of bytes it covers. -/
structure Fault where
  flaw : Flaw
  byte : Nat
  start : Nat
  count : Nat
  deriving DecidableEq, Repr

def Fault.message (fault : Fault) : String :=
  if fault.count = 1 then
    "'utf-8' codec can't decode byte 0x" ++ String.ofList (hex 2 fault.byte) ++
      s!" in position {fault.start}: {fault.flaw.message}"
  else
    s!"'utf-8' codec can't decode bytes in position {fault.start}-" ++
      s!"{fault.start + fault.count - 1}: {fault.flaw.message}"

/-- Whether a byte continues a sequence. -/
def continues (b : Nat) : Bool :=
  0x80 ≤ b && b < 0xC0

/-- How many continuation bytes follow a first byte. -/
def tailLength? (b : Nat) : Option Nat :=
  if b < 0x80 then some 0
  else if b < 0xC2 then none
  else if b < 0xE0 then some 1
  else if b < 0xF0 then some 2
  else if b < 0xF5 then some 3
  else none

/-- Whether a second byte may follow a first one: no long form of a short character, no surrogate,
and nothing above U+10FFFF. -/
def secondFits (first second : Nat) : Bool :=
  continues second &&
    !((first == 0xE0 && second < 0xA0) || (first == 0xED && 0xA0 ≤ second) ||
      (first == 0xF0 && second < 0x90) || (first == 0xF4 && 0x90 ≤ second))

/-- How many of the bytes after a first one continue it. -/
def fittingCount (first : Nat) (tail : List Nat) : Nat :=
  match tail with
  | [] => 0
  | second :: more =>
    if secondFits first second then 1 + (more.takeWhile continues).length else 0

def codePoint (first : Nat) (tail : List Nat) : Nat :=
  let lead := match tail.length with
    | 0 => first
    | 1 => first % 0x20
    | 2 => first % 0x10
    | _ => first % 0x08
  tail.foldl (fun n b => 64 * n + b % 64) lead

/-- The characters of bytes, the last first, put before those in `done`. -/
def decodeFrom : Nat → Nat → List Char → List Nat → Except Fault (List Char)
  | 0, _, done, _ => .ok done
  | fuel + 1, position, done, bytes =>
    match bytes with
    | [] => .ok done
    | first :: rest =>
      match tailLength? first with
      | none => .error ⟨.badStart, first, position, 1⟩
      | some n =>
        let tail := rest.take n
        let fitting := fittingCount first tail
        if n ≤ fitting then
          decodeFrom fuel (position + n + 1) (Char.ofNat (codePoint first tail) :: done)
            (rest.drop n)
        else if tail.length ≤ fitting then
          .error ⟨.cutOff, first, position, tail.length + 1⟩
        else .error ⟨.badContinuation, first, position, fitting + 1⟩

def decode (bytes : List UInt8) : Except Fault String :=
  match decodeFrom (bytes.length + 1) 0 [] (bytes.map UInt8.toNat) with
  | .ok reversed => .ok (String.ofList reversed.reverse)
  | .error fault => .error fault

/-- The text of bytes, with one replacement character for each fault. The number bounds how many
faults are passed. -/
def decodeLossy : Nat → List UInt8 → String
  | 0, _ => ""
  | fuel + 1, bytes =>
    match decode bytes with
    | .ok s => s
    | .error fault =>
      let good := match decode (bytes.take fault.start) with
        | .ok s => s
        | .error _ => ""
      good ++ "\uFFFD" ++ decodeLossy fuel (bytes.drop (fault.start + fault.count))

end Walkthrough.Text.Utf8
