/-!
Line ends. A text file may end its lines with a carriage return, a line feed or both; reading makes
each of them one line feed, and writing keeps characters as they are.
-/

namespace Walkthrough.Text

/-- `\r\n` and a lone `\r` become `\n`. -/
def unifyNewlines : List Char → List Char
  | [] => []
  | '\r' :: '\n' :: cs => '\n' :: unifyNewlines cs
  | c :: cs => (if c = '\r' then '\n' else c) :: unifyNewlines cs

end Walkthrough.Text
