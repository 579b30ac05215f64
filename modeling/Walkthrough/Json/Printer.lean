import Walkthrough.Json.Value
import Walkthrough.Text.Hex

/-!
JSON text of a value: on one line, or indented by two spaces a level. Strings keep every character
that JSON allows in them, or are reduced to what ASCII can print.
-/

namespace Walkthrough.Json

/-- Which characters of a string are written by code point. -/
inductive Charset where
  | unicode
  | ascii
  deriving DecidableEq, Repr

/-- A code unit written by number. -/
def escapeUnit (n : Nat) : List Char :=
  '\\' :: 'u' :: Text.hex 4 n

/-- A character of a string literal. The ASCII form writes U+007F and above by code unit, so above
U+FFFF as a surrogate pair. -/
def escapeChar (charset : Charset) (c : Char) : List Char :=
  if c = '"' ∨ c = '\\' then ['\\', c]
  else if c = '\n' then ['\\', 'n']
  else if c = '\r' then ['\\', 'r']
  else if c = '\t' then ['\\', 't']
  else if c = '\x08' then ['\\', 'b']
  else if c = '\x0c' then ['\\', 'f']
  else if c.toNat < 0x20 then escapeUnit c.toNat
  else if charset = .unicode ∨ c.toNat < 0x7f then [c]
  else if c.toNat < 0x10000 then escapeUnit c.toNat
  else
    escapeUnit (0xD800 + (c.toNat - 0x10000) / 0x400) ++
      escapeUnit (0xDC00 + (c.toNat - 0x10000) % 0x400)

def literal (charset : Charset) (s : String) : List Char :=
  '"' :: (s.toList.flatMap (escapeChar charset) ++ ['"'])

def floatText (x : Binary64) : List Char :=
  (Binary64.render "Infinity" "NaN" x).toList

mutual

/-- A value on one line. -/
def line (charset : Charset) : Json → List Char
  | .null => "null".toList
  | .bool b => (if b then "true" else "false").toList
  | .int n => (toString n).toList
  | .float x => floatText x
  | .str s => literal charset s
  | .arr items => '[' :: (lineItems charset items ++ [']'])
  | .obj members => '{' :: (lineMembers charset members ++ ['}'])

def lineItems (charset : Charset) : List Json → List Char
  | [] => []
  | [v] => line charset v
  | v :: rest => line charset v ++ ',' :: ' ' :: lineItems charset rest

def lineMembers (charset : Charset) : List (String × Json) → List Char
  | [] => []
  | [(k, v)] => literal charset k ++ ':' :: ' ' :: line charset v
  | (k, v) :: rest =>
    literal charset k ++ ':' :: ' ' :: (line charset v ++ ',' :: ' ' :: lineMembers charset rest)

end

/-- A line end and the spaces of a level. -/
def newLine (depth : Nat) : List Char :=
  '\n' :: List.replicate (2 * depth) ' '

mutual

/-- A value at a level, with each item and member on lines of its own; empty ones stay closed. -/
def block (charset : Charset) (depth : Nat) : Json → List Char
  | .arr [] => ['[', ']']
  | .arr items =>
    '[' :: (newLine (depth + 1) ++ blockItems charset (depth + 1) items ++ newLine depth ++ [']'])
  | .obj [] => ['{', '}']
  | .obj members =>
    '{' :: (newLine (depth + 1) ++ blockMembers charset (depth + 1) members ++ newLine depth ++
      ['}'])
  | .null => "null".toList
  | .bool b => (if b then "true" else "false").toList
  | .int n => (toString n).toList
  | .float x => floatText x
  | .str s => literal charset s

/-- Items, each after the first on a new line. -/
def blockItems (charset : Charset) (depth : Nat) : List Json → List Char
  | [] => []
  | [v] => block charset depth v
  | v :: rest =>
    block charset depth v ++ ',' :: (newLine depth ++ blockItems charset depth rest)

def blockMembers (charset : Charset) (depth : Nat) : List (String × Json) → List Char
  | [] => []
  | [(k, v)] => literal charset k ++ ':' :: ' ' :: block charset depth v
  | (k, v) :: rest =>
    literal charset k ++ ':' :: ' ' ::
      (block charset depth v ++ ',' :: (newLine depth ++ blockMembers charset depth rest))

end

/-- The text on one line. -/
def compact (v : Json) : String :=
  String.ofList (line .unicode v)

/-- The text on one line, in ASCII. -/
def compactAscii (v : Json) : String :=
  String.ofList (line .ascii v)

/-- The indented text. -/
def pretty (v : Json) : String :=
  String.ofList (block .unicode 0 v)

end Walkthrough.Json
