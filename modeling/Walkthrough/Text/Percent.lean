import Walkthrough.Text.Utf8

/-!
Percent escapes. A byte may be written as a percent sign and two hexadecimal digits; a text stands
for the bytes of its UTF-8 form. Reading leaves a percent sign alone that no digits follow, and
replaces what is no UTF-8.
-/

namespace Walkthrough.Text

/-- The bytes of a text with escapes replaced. -/
def unescapeBytes : List UInt8 → List UInt8
  | 0x25 :: a :: b :: rest =>
    match hexNumber? [Char.ofNat a.toNat, Char.ofNat b.toNat] with
    | some n => n.toUInt8 :: unescapeBytes rest
    | none => 0x25 :: unescapeBytes (a :: b :: rest)
  | byte :: rest => byte :: unescapeBytes rest
  | [] => []

def percentDecode (s : String) : String :=
  let bytes := unescapeBytes s.toUTF8.toList
  Utf8.decodeLossy (bytes.length + 1) bytes

def percentByte (b : UInt8) : List Char :=
  '%' :: (hex 2 b.toNat).map Char.toUpper

/-- The text with every byte escaped that is neither an ASCII letter or digit nor one of the
characters given. -/
def percentEncode (plain : List Char) (s : String) : String :=
  String.ofList (s.toUTF8.toList.flatMap fun b =>
    let c := Char.ofNat b.toNat
    if b < 0x80 && (c.isAlphanum || plain.contains c) then [c] else percentByte b)

end Walkthrough.Text
