import Walkthrough.Table
import Walkthrough.Text.Blank

/-!
Files of variables. A line gives a key a value, which may be quoted with single or double quotes and
then span lines; a line that does not fit is dropped. `${NAME}` and `${NAME:-default}` inside a
value stand for an earlier variable of the file, or else for one of the environment.
-/

namespace Walkthrough.EnvFile

/-- A blank inside a line. -/
def isSpace (c : Char) : Bool :=
  Text.isBlank c && c ≠ '\n' && c ≠ '\r'

def skipSpace (cs : List Char) : List Char :=
  cs.dropWhile isSpace

/-- The rest of a line without its end. -/
def lineRest (cs : List Char) : List Char :=
  cs.takeWhile fun c => c ≠ '\n' && c ≠ '\r'

/-- The lines after the first. -/
def afterLine (cs : List Char) : List Char :=
  (cs.dropWhile fun c => c ≠ '\n' && c ≠ '\r').drop 1

/-- What stands before an unescaped quote and what comes after it. A backslash takes the next
character with it. -/
def quoted? (quote : Char) (done : List Char) : List Char → Option (List Char × List Char)
  | [] => none
  | '\\' :: c :: rest => quoted? quote (c :: '\\' :: done) rest
  | c :: rest => if c = quote then some (done.reverse, rest) else quoted? quote (c :: done) rest

/-- The characters that letters after a backslash stand for between double quotes. -/
def escapes : List (Char × Char) :=
  [('\\', '\\'), ('\'', '\''), ('"', '"'), ('a', '\x07'), ('b', '\x08'), ('f', '\x0c'),
    ('n', '\n'), ('r', '\r'), ('t', '\t'), ('v', '\x0b')]

/-- The escapes between a quote: single quotes know only the backslash and the quote itself. -/
def escapesOf (quote : Char) : List (Char × Char) :=
  if quote = '"' then escapes else [('\\', '\\'), ('\'', '\'')]

/-- Replaces the known escapes; others stay. -/
def unescape (known : List (Char × Char)) : List Char → List Char
  | '\\' :: c :: rest =>
    match known.lookup c with
    | some plain => plain :: unescape known rest
    | none => '\\' :: unescape known (c :: rest)
  | c :: rest => c :: unescape known rest
  | [] => []

/-- A value without quotes ends where blanks come before a number sign. -/
def cutComment : List Char → List Char
  | [] => []
  | c :: cs =>
    if isSpace c ∧ (skipSpace cs).head? = some '#' then [] else c :: cutComment cs

/-- A value and the text after it; the text starts after the equality sign. A quoted value that
does not end leaves the text at its quote. -/
def readValue (cs : List Char) : Except (List Char) (List Char × List Char) :=
  let body := skipSpace cs
  match body with
  | '\'' :: rest =>
    match quoted? '\'' [] rest with
    | some (value, after) => .ok (unescape (escapesOf '\'') value, after)
    | none => .error body
  | '"' :: rest =>
    match quoted? '"' [] rest with
    | some (value, after) => .ok (unescape (escapesOf '"') value, after)
    | none => .error body
  | _ =>
    let line := lineRest cs
    .ok (Text.trim (cutComment line), cs.drop line.length)

def isKeyChar (c : Char) : Bool :=
  c ≠ '=' && c ≠ '#' && !Text.isBlank c

/-- The text after the word `export` and blanks. -/
def skipExport (cs : List Char) : List Char :=
  let word := "export".toList
  if word.isPrefixOf cs then
    let rest := cs.drop word.length
    if rest.head?.any isSpace then skipSpace rest else cs
  else cs

/-- A key and the text after it; a comment has none. A key that is not one leaves the text. -/
def readKey (cs : List Char) : Except (List Char) (Option (List Char) × List Char) :=
  match cs with
  | '#' :: _ => .ok (none, cs)
  | '\'' :: rest =>
    let key := rest.takeWhile (· ≠ '\'')
    match rest.drop key.length with
    | _ :: after => if key.isEmpty then .error cs else .ok (some key, after)
    | [] => .error cs
  | _ =>
    let key := cs.takeWhile isKeyChar
    if key.isEmpty then .error cs else .ok (some key, cs.drop key.length)

/-- The lines after a comment and blanks, or the text that should not be there. -/
def endLine (cs : List Char) : Except (List Char) (List Char) :=
  let afterComment := match skipSpace cs with
    | '#' :: rest => rest.dropWhile fun c => c ≠ '\n' && c ≠ '\r'
    | _ => cs
  match skipSpace afterComment with
  | [] => .ok []
  | '\n' :: rest => .ok rest
  | _ => .error afterComment

/-- A key with its value, if it has one. -/
abbrev Binding := String × Option String

/-- The binding at the start of a text, and the text after its line. -/
def readBinding (cs : List Char) : Except (List Char) (Option Binding × List Char) := do
  let (key, rest) ← readKey (skipExport cs)
  let (value, rest) ← match skipSpace rest with
    | '=' :: body => do
      let (value, after) ← readValue body
      .ok (some value, after)
    | other => .ok (none, other)
  let rest ← endLine rest
  .ok (key.map fun k => (String.ofList k, value.map String.ofList), rest)

/-- The bindings of a text. A line that is no binding is dropped from where it stops being one. -/
def readBindings : Nat → List Char → List Binding
  | 0, _ => []
  | fuel + 1, cs =>
    match cs.dropWhile Text.isBlank with
    | [] => []
    | body =>
      match readBinding body with
      | .ok (some binding, rest) => binding :: readBindings fuel rest
      | .ok (none, rest) => readBindings fuel rest
      | .error rest => readBindings fuel (afterLine rest)

/-- The bindings of a text, after a byte order mark. -/
def bindings (s : String) : List Binding :=
  let cs := match s.toList with
    | '\uFEFF' :: rest => rest
    | cs => cs
  readBindings (cs.length + 1) cs

/-- A reference at the start of a text: its name, its default, and how long it is. -/
def referenceAt? : List Char → Option (List Char × Option (List Char) × Nat)
  | '$' :: '\x7b' :: body =>
    let name := body.takeWhile fun c => c ≠ '\x7d' && c ≠ ':'
    match body.drop name.length with
    | '\x7d' :: _ => some (name, none, name.length + 3)
    | ':' :: '-' :: more =>
      let default := more.takeWhile (· ≠ '\x7d')
      if (more.drop default.length).isEmpty then none
      else some (name, some default, name.length + default.length + 5)
    | _ => none
  | _ => none

/-- The text with references replaced, after a number of characters that are settled. -/
def expandFrom (lookup : String → Option (Option String)) : Nat → List Char → List Char
  | _, [] => []
  | skipped + 1, _ :: cs => expandFrom lookup skipped cs
  | 0, c :: cs =>
    match referenceAt? (c :: cs) with
    | some (name, default, length) =>
      let value := match lookup (String.ofList name) with
        | some found => found.getD ""
        | none => String.ofList (default.getD [])
      value.toList ++ expandFrom lookup (length - 1) cs
    | none => c :: expandFrom lookup 0 cs

/-- A text with references replaced by what they are looked up as. A known name without a value is
empty, an unknown one takes its default. -/
def expand (lookup : String → Option (Option String)) (s : String) : String :=
  String.ofList (expandFrom lookup 0 s.toList)

/-- Looks a name up among earlier bindings, and then in an environment. -/
def lookupIn (environment : Table String) (earlier : Table (Option String)) (name : String) :
    Option (Option String) :=
  match Table.get? earlier name with
  | some value => some value
  | none => (Table.get? environment name).map some

def evaluate (environment : Table String) (bindings : List Binding) : Table (Option String) :=
  bindings.foldl (fun earlier binding =>
    Table.set earlier binding.1
      (binding.2.map (expand (lookupIn environment earlier)))) []

/-- The variables of a text, those without a value left out. -/
def variablesIn (environment : Table String) (s : String) : Table String :=
  (evaluate environment (bindings s)).filterMap fun entry =>
    entry.2.map fun value => (entry.1, value)

end Walkthrough.EnvFile
