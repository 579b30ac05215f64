import Walkthrough.Plan

/-!
Placeholders for secrets. A placeholder is `${SECRET:NAME}` with a name of capital letters, digits
and underscores. Text is split into characters and placeholders from the left; resolving puts a
secret's value for each placeholder, and redacting hides each placeholder's name.
-/

namespace Walkthrough.Secret

/-- A part of a text: a character, or a placeholder with its name. -/
inductive Piece where
  | char (c : Char)
  | placeholder (name : List Char)
  deriving DecidableEq, Repr

/-- What a placeholder starts with. -/
def opening : List Char := "$\x7bSECRET:".toList

def placeholder (name : List Char) : List Char :=
  opening ++ name ++ ['\x7d']

/-- Whether a character may stand in a name. -/
def isNameChar (c : Char) : Bool :=
  ('A' ≤ c && c ≤ 'Z') || ('0' ≤ c && c ≤ '9') || c = '_'

/-- The name of the placeholder that a text starts with. -/
def nameAt? (cs : List Char) : Option (List Char) :=
  if opening.isPrefixOf cs then
    let body := cs.drop opening.length
    let name := body.takeWhile isNameChar
    if !name.isEmpty && (body.drop name.length).head? = some '\x7d' then some name else none
  else none

/-- The pieces of a text after a number of characters that belong to the piece before. -/
def scan : Nat → List Char → List Piece
  | _, [] => []
  | skipped + 1, _ :: cs => scan skipped cs
  | 0, c :: cs =>
    match nameAt? (c :: cs) with
    | some name => .placeholder name :: scan (opening.length + name.length) cs
    | none => .char c :: scan 0 cs

def pieces (s : String) : List Piece :=
  scan 0 s.toList

/-- The values of secrets under their names. -/
abbrev Store := Table String

/-- The value of a secret; an empty one counts as missing. -/
def Store.value? (store : Store) (name : String) : Option String :=
  (Table.get? store name).filter (· != "")

def resolvePieces (store : Store) : List Piece → Except Failure (List Char)
  | [] => .ok []
  | .char c :: rest =>
    match resolvePieces store rest with
    | .error failure => .error failure
    | .ok cs => .ok (c :: cs)
  | .placeholder name :: rest =>
    match Store.value? store (String.ofList name) with
    | none => .error (.missingSecret (String.ofList name))
    | some value =>
      match resolvePieces store rest with
      | .error failure => .error failure
      | .ok cs => .ok (value.toList ++ cs)

/-- The text with the value of each secret; the first missing one is a failure. -/
def resolve (store : Store) (s : String) : Except Failure String :=
  match resolvePieces store (pieces s) with
  | .error failure => .error failure
  | .ok cs => .ok (String.ofList cs)

/-- What stands for a placeholder once its name is hidden. -/
def hidden : List Char := placeholder ['*', '*', '*']

/-- The characters of a piece with a name hidden. -/
def redactPiece : Piece → List Char
  | .char c => [c]
  | .placeholder _ => hidden

/-- The text with the names of all placeholders hidden. -/
def redact (s : String) : String :=
  String.ofList ((pieces s).flatMap redactPiece)

/-- A value with hidden names, if it is a text. -/
def redactValue : Json → Json
  | .str s => .str (redact s)
  | v => v

end Secret

/-- A step with hidden names in what is filled in. -/
def Step.redact : Step → Step
  | .fill field value selector => .fill field (Secret.redactValue value) selector
  | .login username password =>
    .login (Secret.redactValue username) (Secret.redactValue password)
  | step => step

def Plan.redact (p : Plan) : Plan :=
  { p with steps := p.steps.map Step.redact }

end Walkthrough
