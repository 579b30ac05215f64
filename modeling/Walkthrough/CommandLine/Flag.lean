import Walkthrough.Text.Numeral

/-!
Flags on a command line. A flag starts with two hyphens, and a shorter form of its name will do if
no other flag has it. Its value is the next argument, or stands after an equality sign. What looks
like a negative number or holds a space is no flag, and after two hyphens alone nothing is.
-/

namespace Walkthrough.CommandLine

inductive Kind where
  | switch
  | text
  | integer
  | decimal
  deriving DecidableEq, Repr

structure Flag where
  name : String
  kind : Kind
  deriving DecidableEq, Repr

inductive Value where
  | on
  | text (s : String)
  | integer (n : Int)
  | decimal (x : Binary64)
  deriving DecidableEq, Repr

/-- Why a command line is not carried out: it asks for help, or it is not understood. -/
inductive Stop where
  | help
  | misuse
  deriving DecidableEq, Repr

/-- The value that a text gives to a flag, if it is one of its kind. -/
def Kind.value? (s : String) : Kind → Option Value
  | .switch => none
  | .text => some (.text s)
  | .integer => match Text.integer s with
    | .ok n => some (.integer n)
    | .error _ => none
  | .decimal => (Text.decimal? s).map .decimal

/-- What an argument is: a word, the two hyphens that end all flags, a flag with the value attached
to it, a call for help, or something that is no flag of the command. One that cannot be carried out
is broken. -/
inductive Token where
  | word (s : String)
  | separator
  | flag (flag : Flag) (attached : Option String)
  | help
  | broken
  | unknown
  deriving DecidableEq, Repr

def helpName : String := "--help"

/-- Whether a text is a negative number in plain digits, perhaps before a line end. -/
def isNegative (cs : List Char) : Bool :=
  let body := if cs.getLast? = some '\n' then cs.dropLast else cs
  match body with
  | '-' :: rest =>
    let (whole, more) := Text.splitDigits rest
    match more with
    | [] => !whole.isEmpty
    | '.' :: fraction => !fraction.isEmpty && fraction.all Text.isDecimal
    | _ => false
  | _ => false

/-- The token of a flag or of the call for help, by its full name. -/
def named (flags : List Flag) (name : String) (attached : Option String) : Option Token :=
  if name = helpName then some (if attached.isSome then .broken else .help)
  else (flags.find? fun flag => flag.name == name).map fun flag => .flag flag attached

def splitAttached (cs : List Char) : String × Option String :=
  (String.ofList (Text.before '=' cs), (Text.after? '=' cs).map String.ofList)

/-- The token of an argument that no name fits. -/
def leftover (cs : List Char) : Token :=
  if isNegative cs || cs.contains ' ' then .word (String.ofList cs) else .unknown

/-- Whether what follows the short call for help only repeats it: more of its letter, or, after an
equality sign, at least one. -/
def isRepeatedHelp (more : List Char) : Bool :=
  match more with
  | '=' :: letters => !letters.isEmpty && letters.all (· = 'h')
  | letters => letters.all (· = 'h')

def Token.ofText (flags : List Flag) (s : String) : Except Stop Token :=
  match s.toList with
  | '-' :: '-' :: _ =>
    let (name, attached) := splitAttached s.toList
    match named flags s none, named flags name attached with
    | some token, _ => .ok token
    | none, some token => .ok token
    | none, none =>
      let fitting := (helpName :: flags.map Flag.name).filter fun full =>
        name.toList.isPrefixOf full.toList
      match fitting with
      | [] => .ok (leftover s.toList)
      | [full] => .ok ((named flags full attached).getD .unknown)
      | _ => .error .misuse
  | ['-'] => .ok (.word s)
  | '-' :: 'h' :: more => .ok (if isRepeatedHelp more then .help else .broken)
  | '-' :: _ => .ok (leftover s.toList)
  | _ => .ok (.word s)

/-- What arguments are; after the separator all are words. -/
def tokens (flags : List Flag) : List String → Except Stop (List Token)
  | [] => .ok []
  | "--" :: rest => .ok (.separator :: rest.map .word)
  | s :: rest => do
    let token ← Token.ofText flags s
    return token :: (← tokens flags rest)

/-- What a command is given: its one word, the values of flags, and whether there was more. -/
structure Given where
  word : Option String
  values : List (String × Value)
  hasMore : Bool
  deriving DecidableEq, Repr

namespace Given

def nothing : Given := ⟨none, [], false⟩

def addWord (g : Given) (s : String) : Given :=
  match g.word with
  | none => { g with word := some s }
  | some _ => { g with hasMore := true }

/-- Something that is not wanted. -/
def addMore (g : Given) : Given :=
  { g with hasMore := true }

def addValue (g : Given) (name : String) (value : Value) : Given :=
  { g with values := (name, value) :: g.values }

/-- Takes tokens up in order. The separator goes with the word next to it. -/
def take (g : Given) : List Token → Except Stop Given
  | [] => .ok g
  | .help :: _ => .error .help
  | .broken :: _ => .error .misuse
  | .unknown :: rest => take g.addMore rest
  | .word s :: .separator :: rest =>
    if g.word.isNone then take (g.addWord s) rest
    else take (g.addWord s).addMore rest
  | .word s :: rest => take (g.addWord s) rest
  | .separator :: .word s :: rest =>
    if g.word.isNone then take (g.addWord s) rest else take g.addMore rest
  | .separator :: rest => take g.addMore rest
  | .flag ⟨name, kind⟩ (some s) :: rest =>
    match kind.value? s with
    | some value => take (g.addValue name value) rest
    | none => .error .misuse
  | .flag ⟨name, .switch⟩ none :: rest => take (g.addValue name .on) rest
  | .flag ⟨name, kind⟩ none :: .word s :: rest =>
    match kind.value? s with
    | some value => take (g.addValue name value) rest
    | none => .error .misuse
  | .flag _ none :: _ => .error .misuse

def isOn (g : Given) (name : String) : Bool :=
  g.values.any fun entry => entry.1 == name

/-- The last text of a flag. -/
def text? (g : Given) (name : String) : Option String :=
  match g.values.lookup name with
  | some (.text s) => some s
  | _ => none

def integer? (g : Given) (name : String) : Option Int :=
  match g.values.lookup name with
  | some (.integer n) => some n
  | _ => none

def decimal? (g : Given) (name : String) : Option Binary64 :=
  match g.values.lookup name with
  | some (.decimal x) => some x
  | _ => none

end Given

/-- What arguments give to a command with some flags: one word, and nothing unknown. -/
def read (flags : List Flag) (arguments : List String) : Except Stop (String × Given) := do
  let given ← Given.nothing.take (← tokens flags arguments)
  match given.word, given.hasMore with
  | some word, false => return (word, given)
  | _, _ => .error .misuse

end Walkthrough.CommandLine
