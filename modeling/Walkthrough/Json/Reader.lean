import Walkthrough.Json.Value
import Walkthrough.Text.Hex

/-!
Reading JSON text. Beyond the standard, `NaN` and the infinities are numbers. Of two members with
one key the later value stands in the earlier place. A fault is found at the first character that
no JSON text could have there, and is reported by line, column and offset.
-/

namespace Walkthrough.Json

/-- What is wrong at a place in a text. -/
inductive Flaw where
  | noValue
  | noName
  | noColon
  | noComma
  | openString
  | controlCharacter
  | badEscape
  | badUnicodeEscape
  | extraText
  | byteOrderMark
  deriving DecidableEq, Repr

def Flaw.message : Flaw → String
  | .noValue => "Expecting value"
  | .noName => "Expecting property name enclosed in double quotes"
  | .noColon => "Expecting ':' delimiter"
  | .noComma => "Expecting ',' delimiter"
  | .openString => "Unterminated string starting at"
  | .controlCharacter => "Invalid control character at"
  | .badEscape => "Invalid \\escape"
  | .badUnicodeEscape => "Invalid \\uXXXX escape"
  | .extraText => "Extra data"
  | .byteOrderMark => "Unexpected UTF-8 BOM (decode using utf-8-sig)"

/-- Why reading stopped; `rest` is the text from the place of the flaw on. -/
inductive Stop where
  | flaw (kind : Flaw) (rest : List Char)
  | hugeInteger (digits : Nat)

/-- What a reader of a part answers: the part and the text after it. -/
abbrev Reading (α : Type) := Except Stop (α × List Char)

/-- Blanks between tokens. -/
def isGap (c : Char) : Bool :=
  c = ' ' || c = '\t' || c = '\n' || c = '\r'

def skipGap (cs : List Char) : List Char :=
  cs.dropWhile isGap

/-- The text after a word, if the text starts with it. -/
def afterWord? (word : String) (cs : List Char) : Option (List Char) :=
  if word.toList.isPrefixOf cs then some (cs.drop word.length) else none

/-- The most digits that a whole number may have. -/
def digitLimit : Nat := 4300

/-- The character of a code point; a surrogate on its own has none and is replaced. -/
def charOf (n : Nat) : Char :=
  if n.isValidChar then Char.ofNat n else '\uFFFD'

/-- The code unit of four hexadecimal digits. A character must follow them. -/
def readUnit? (cs : List Char) : Option (Nat × List Char) :=
  if (cs.drop 4).isEmpty then none
  else (Text.hexNumber? (cs.take 4)).map fun n => (n, cs.drop 4)

/-- The character of an escape by number, given the text from its letter `u` on. A high surrogate
joins a low one that follows it. -/
def readUnicodeEscape (cs : List Char) : Reading Char :=
  match readUnit? (cs.drop 1) with
  | none => .error (.flaw .badUnicodeEscape cs)
  | some (high, rest) =>
    if 0xD800 ≤ high ∧ high < 0xDC00 ∧ rest.drop 6 ≠ [] then
      match rest with
      | '\\' :: 'u' :: more =>
        match Text.hexNumber? (more.take 4) with
        | none => .error (.flaw .badUnicodeEscape ('u' :: more))
        | some low =>
          if 0xDC00 ≤ low ∧ low < 0xE000 then
            .ok (charOf (0x10000 + (high - 0xD800) * 0x400 + (low - 0xDC00)), more.drop 4)
          else .ok (charOf high, rest)
      | _ => .ok (charOf high, rest)
    else .ok (charOf high, rest)

/-- The character of an escape by letter. -/
def escapedChar? : Char → Option Char
  | '"' => some '"'
  | '\\' => some '\\'
  | '/' => some '/'
  | 'b' => some '\x08'
  | 'f' => some '\x0c'
  | 'n' => some '\n'
  | 'r' => some '\r'
  | 't' => some '\t'
  | _ => none

/-- The rest of a string literal. `start` is the text from its opening quote on, and `done` holds
the characters read so far, the last first. -/
def readString (start : List Char) : Nat → List Char → List Char → Reading String
  | 0, _, _ => .error (.flaw .openString start)
  | fuel + 1, done, cs =>
    match cs with
    | [] => .error (.flaw .openString start)
    | '"' :: rest => .ok (String.ofList done.reverse, rest)
    | '\\' :: rest =>
      match rest with
      | [] => .error (.flaw .openString start)
      | 'u' :: _ =>
        match readUnicodeEscape rest with
        | .error stop => .error stop
        | .ok (c, more) => readString start fuel (c :: done) more
      | letter :: more =>
        match escapedChar? letter with
        | some c => readString start fuel (c :: done) more
        | none => .error (.flaw .badEscape cs)
    | c :: rest =>
      if c.toNat < 0x20 then .error (.flaw .controlCharacter cs)
      else readString start fuel (c :: done) rest

/-- A string literal, given the text after its opening quote. -/
def readLiteral (cs : List Char) : Reading String :=
  readString ('"' :: cs) (cs.length + 1) [] cs

def digitsValue (cs : List Char) : Nat :=
  cs.foldl (fun n c => 10 * n + (c.toNat - 48)) 0

/-- The digits of a whole part: a zero alone, or digits without a leading zero. -/
def wholeDigits (cs : List Char) : List Char × List Char :=
  match cs with
  | '0' :: rest => (['0'], rest)
  | _ => (cs.takeWhile Char.isDigit, cs.dropWhile Char.isDigit)

/-- The digits after a point, if a digit follows the point. -/
def fractionDigits? (cs : List Char) : Option (List Char × List Char) :=
  match cs with
  | '.' :: rest =>
    let ds := rest.takeWhile Char.isDigit
    if ds.isEmpty then none else some (ds, rest.dropWhile Char.isDigit)
  | _ => none

/-- The power of ten after its letter, if a digit follows the letter and sign. -/
def exponent? (cs : List Char) : Option (Int × List Char) :=
  match cs with
  | letter :: rest =>
    if letter = 'e' ∨ letter = 'E' then
      let (negative, rest) := match rest with
        | '-' :: more => (true, more)
        | '+' :: more => (false, more)
        | _ => (false, rest)
      let ds := rest.takeWhile Char.isDigit
      if ds.isEmpty then none
      else
        let n : Int := digitsValue ds
        some (if negative then -n else n, rest.dropWhile Char.isDigit)
    else none
  | [] => none

def readMagnitude (negative : Bool) (start cs : List Char) : Reading Json :=
  let (whole, afterWhole) := wholeDigits cs
  if whole.isEmpty then .error (.flaw .noValue start)
  else
    let fraction? := fractionDigits? afterWhole
    let fraction := (fraction?.map (·.1)).getD []
    let afterFraction := (fraction?.map (·.2)).getD afterWhole
    let exponent? := exponent? afterFraction
    let rest := (exponent?.map (·.2)).getD afterFraction
    if fraction?.isNone && exponent?.isNone then
      if digitLimit < whole.length then .error (.hugeInteger whole.length)
      else
        let n : Int := digitsValue whole
        .ok (.int (if negative then -n else n), rest)
    else
      let power := (exponent?.map (·.1)).getD 0 - fraction.length
      .ok (.float (.ofDecimal negative (digitsValue (whole ++ fraction)) power), rest)

def readScalar (cs : List Char) : Reading Json :=
  match cs with
  | '-' :: rest =>
    match afterWord? "Infinity" rest with
    | some more => .ok (.float (.infinite true), more)
    | none => readMagnitude true cs rest
  | _ =>
    let words : List (String × Json) :=
      [("null", .null), ("true", .bool true), ("false", .bool false), ("NaN", .float .nan),
        ("Infinity", .float (.infinite false))]
    match words.findSome? fun w => (afterWord? w.1 cs).map fun rest => (w.2, rest) with
    | some answer => .ok answer
    | none => readMagnitude false cs cs

mutual

def readValue : Nat → List Char → Reading Json
  | 0, cs => .error (.flaw .noValue cs)
  | fuel + 1, cs =>
    match cs with
    | '"' :: rest =>
      match readLiteral rest with
      | .error stop => .error stop
      | .ok (s, more) => .ok (.str s, more)
    | '[' :: rest =>
      match skipGap rest with
      | ']' :: more => .ok (.arr [], more)
      | body => readItems fuel [] body
    | '{' :: rest =>
      match skipGap rest with
      | '}' :: more => .ok (.obj [], more)
      | body => readMembers fuel [] body
    | _ => readScalar cs

/-- The items of an array from a first or next one on, up to the closing bracket. -/
def readItems : Nat → List Json → List Char → Reading Json
  | 0, _, cs => .error (.flaw .noValue cs)
  | fuel + 1, done, cs =>
    match readValue fuel cs with
    | .error stop => .error stop
    | .ok (v, rest) =>
      match skipGap rest with
      | ']' :: more => .ok (.arr (v :: done).reverse, more)
      | ',' :: more => readItems fuel (v :: done) (skipGap more)
      | other => .error (.flaw .noComma other)

/-- The members of an object from a first or next one on, up to the closing brace. -/
def readMembers : Nat → Table Json → List Char → Reading Json
  | 0, _, cs => .error (.flaw .noName cs)
  | fuel + 1, done, cs =>
    match cs with
    | '"' :: rest =>
      match readLiteral rest with
      | .error stop => .error stop
      | .ok (key, rest) =>
        match skipGap rest with
        | ':' :: body =>
          match readValue fuel (skipGap body) with
          | .error stop => .error stop
          | .ok (v, rest) =>
            match skipGap rest with
            | '}' :: more => .ok (.obj (Table.set done key v), more)
            | ',' :: more => readMembers fuel (Table.set done key v) (skipGap more)
            | other => .error (.flaw .noComma other)
        | other => .error (.flaw .noColon other)
    | _ => .error (.flaw .noName cs)

end

/-- A text that is one value with blanks around it. -/
def readText (cs : List Char) : Except Stop Json :=
  match cs with
  | '\uFEFF' :: _ => .error (.flaw .byteOrderMark cs)
  | _ => do
    let (v, rest) ← readValue (2 * cs.length + 2) (skipGap cs)
    match skipGap rest with
    | [] => .ok v
    | other => .error (.flaw .extraText other)

/-- A place in a text: the line and column count from one, the offset from zero. -/
structure Place where
  line : Nat
  column : Nat
  offset : Nat
  deriving DecidableEq, Repr

def Place.after (cs : List Char) : Place where
  line := cs.count '\n' + 1
  column := (cs.reverse.takeWhile (· ≠ '\n')).length + 1
  offset := cs.length

/-- Why a text is no JSON value. -/
inductive Fault where
  | malformed (kind : Flaw) (place : Place)
  | hugeInteger (digits : Nat)
  deriving DecidableEq, Repr

def Stop.fault (cs : List Char) : Stop → Fault
  | .flaw kind rest => .malformed kind (.after (cs.take (cs.length - rest.length)))
  | .hugeInteger digits => .hugeInteger digits

/-- The wording for a whole number that has too many digits to be written. -/
def overlongIntegerMessage : String :=
  s!"Exceeds the limit ({digitLimit} digits) for integer string conversion; " ++
    "use sys.set_int_max_str_digits() to increase the limit"

/-- The wording for a whole number that has too many digits to be read. -/
def hugeIntegerMessage (digits : Nat) : String :=
  s!"Exceeds the limit ({digitLimit} digits) for integer string conversion: value has {digits} " ++
    "digits; use sys.set_int_max_str_digits() to increase the limit"

def Fault.message : Fault → String
  | .malformed kind p =>
    s!"{kind.message}: line {p.line} column {p.column} (char {p.offset})"
  | .hugeInteger digits => hugeIntegerMessage digits

def parse (s : String) : Except Fault Json :=
  let cs := s.toList
  match readText cs with
  | .ok v => .ok v
  | .error stop => .error (stop.fault cs)

end Walkthrough.Json
