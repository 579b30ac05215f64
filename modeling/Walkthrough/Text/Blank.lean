/-!
Blank characters: the Unicode white space together with the four information separators. Texts are
trimmed at both ends, and runs of blanks inside a text are collapsed to one space.
-/

namespace Walkthrough.Text

/-- White space in the sense of Unicode, and U+001C to U+001F. -/
def isBlank (c : Char) : Bool :=
  let n := c.toNat
  (9 ≤ n && n ≤ 13) || (28 ≤ n && n ≤ 32) || n == 0x85 || n == 0xA0 || n == 0x1680 ||
    (0x2000 ≤ n && n ≤ 0x200A) || n == 0x2028 || n == 0x2029 || n == 0x202F || n == 0x205F ||
    n == 0x3000

def trimEnd (cs : List Char) : List Char :=
  (cs.reverse.dropWhile isBlank).reverse

def trim (cs : List Char) : List Char :=
  trimEnd (cs.dropWhile isBlank)

/-- The text without the blanks at its ends. -/
def strip (s : String) : String :=
  String.ofList (trim s.toList)

/-- Every maximal run of blanks becomes one space. -/
def squeeze : List Char → List Char
  | [] => []
  | c :: cs =>
    if isBlank c then
      if cs.head?.any isBlank then squeeze cs else ' ' :: squeeze cs
    else c :: squeeze cs

/-- Runs of blanks become one space, and the ends are trimmed. -/
def collapse (s : String) : String :=
  String.ofList (trim (squeeze s.toList))

end Walkthrough.Text
