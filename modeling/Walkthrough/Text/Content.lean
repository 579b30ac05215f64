import Walkthrough.Text.Newline
import Walkthrough.Text.Utf8

/-!
What a file holds: a text that was written as such, or bytes of any kind. A text reads back as it
was written, but for its line ends.
-/

namespace Walkthrough.Text

inductive Content where
  | text (s : String)
  | bytes (bs : List UInt8)
  deriving DecidableEq, Inhabited

namespace Content

def decode : Content → Except Utf8.Fault String
  | .text s => .ok s
  | .bytes bs => Utf8.decode bs

/-- The text of a file, with line feeds for all line ends. -/
def read (content : Content) : Except Utf8.Fault String :=
  match content.decode with
  | .ok s => .ok (String.ofList (unifyNewlines s.toList))
  | .error fault => .error fault

def append (content : Content) (more : String) : Content :=
  match content with
  | .text s => .text (s ++ more)
  | .bytes bs => .bytes (bs ++ more.toUTF8.toList)

end Content
end Walkthrough.Text
