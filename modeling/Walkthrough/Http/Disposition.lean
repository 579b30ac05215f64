import Walkthrough.Text.Ascii
import Walkthrough.Text.Percent
import Walkthrough.Text.Split

/-!
How a file that is sent says its name. A name of plain characters stands as it is, another one
between quotes; a name beyond ASCII is given twice, by what is left of it in ASCII and in full.
-/

namespace Walkthrough.Http.Disposition

/-- Marks that may stand outside quotes, besides ASCII letters and digits. -/
def tokenMarks : List Char :=
  "!#$%&'*+-.^_\x60|~".toList

/-- Marks that need no escape in a full name, besides ASCII letters and digits. -/
def plainMarks : List Char :=
  "!#$&+-.^_\x60|~".toList

/-- A name as it is, or between quotes if it holds more than plain characters. -/
def parameter (name : String) : String :=
  let cs := name.toList
  if cs.all fun c => c.isAlphanum || tokenMarks.contains c then name
  else
    "\"" ++ String.ofList (cs.flatMap fun c => if c = '"' ∨ c = '\\' then ['\\', c] else [c]) ++
      "\""

/-- The disposition of a file that is to be kept under a name. A name with a line end has none. -/
def attachment? (name : String) : Option String :=
  let line :=
    if name.toList.all fun c => c.toNat < 0x80 then "attachment; filename=" ++ parameter name
    else
      "attachment; filename=" ++ parameter (Text.asciiOnly name) ++
        "; filename*=UTF-8''" ++ Text.percentEncode plainMarks name
  if line.toList.any fun c => c = '\n' || c = '\r' then none else some line

end Walkthrough.Http.Disposition
