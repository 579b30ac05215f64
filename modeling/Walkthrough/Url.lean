import Walkthrough.Text.Quoted
import Walkthrough.Url.Address

/-!
Splitting a URL into scheme and authority, and the host inside the authority. Splitting can fail:
on brackets that hold no address, and on characters that compatibility normalisation would turn
into delimiters.
-/

namespace Walkthrough

/-- The parts of a URL that plans depend on; each may be empty. -/
structure Url where
  scheme : List Char
  authority : List Char
  deriving DecidableEq, Repr

namespace Url

/-- Why a text cannot be split as a URL. -/
inductive Fault where
  | brackets
  | laterVersion
  | notAnAddress (host : String)
  | version4InBrackets
  | normalization (authority : String)
  deriving DecidableEq, Repr

def Fault.message : Fault → String
  | .brackets => "Invalid IPv6 URL"
  | .laterVersion => "IPvFuture address is invalid"
  | .notAnAddress host => Text.quote host ++ " does not appear to be an IPv4 or IPv6 address"
  | .version4InBrackets => "An IPv4 address cannot be in brackets"
  | .normalization authority =>
    "netloc '" ++ authority ++ "' contains invalid characters under NFKC normalization"

def isSchemeStart (c : Char) : Bool :=
  c.isAlpha

def isSchemeChar (c : Char) : Bool :=
  c.isAlphanum || c = '+' || c = '-' || c = '.'

/-- The text without leading controls and spaces, and without tabs and line ends. -/
def clean (cs : List Char) : List Char :=
  (cs.dropWhile fun c => c.toNat ≤ 0x20).filter fun c => c ≠ '\t' && c ≠ '\r' && c ≠ '\n'

/-- The scheme in lower case and the text after its colon; without a scheme, all is text. -/
def splitScheme (cs : List Char) : List Char × List Char :=
  let name := Text.before ':' cs
  match Text.after? ':' cs with
  | some rest =>
    if name.head?.any isSchemeStart && name.all isSchemeChar then (name.map Char.toLower, rest)
    else ([], cs)
  | none => ([], cs)

/-- The authority: what stands between `//` and the next delimiter. -/
def splitAuthority : List Char → List Char
  | '/' :: '/' :: rest => rest.takeWhile fun c => c ≠ '/' && c ≠ '?' && c ≠ '#'
  | _ => []

/-- The host between brackets has to be an address of version 6 or later. -/
def checkBracketed (host : List Char) : Except Fault Unit :=
  if host.head? = some 'v' then
    if isLaterVersion host then .ok () else .error .laterVersion
  else if isVersion4 host then .error .version4InBrackets
  else if isVersion6 host then .ok ()
  else .error (.notAnAddress (String.ofList host))

/-- Brackets come in pairs and enclose the whole host. -/
def checkBrackets (authority : List Char) : Except Fault Unit :=
  let opens := '[' ∈ authority
  let closes := ']' ∈ authority
  if opens ∧ closes then
    let host := Text.afterLast '@' authority
    match Text.after? '[' host with
    | none => checkBracketed (Text.before ':' host)
    | some inner =>
      let tail := (Text.after? ']' inner).getD []
      if !(Text.before '[' host).isEmpty then .error .brackets
      else if !tail.isEmpty && tail.head? != some ':' then .error .brackets
      else checkBracketed (Text.before ']' inner)
  else if opens ∨ closes then .error .brackets
  else .ok ()

/-- The characters beyond ASCII whose compatibility form holds one of the delimiters
`/`, `?`, `#`, `@` and `:`. -/
def delimiterForms : List Nat :=
  [0x2047, 0x2048, 0x2049, 0x2100, 0x2101, 0x2105, 0x2106, 0x2A74, 0xFE13, 0xFE16, 0xFE55, 0xFE56,
   0xFE5F, 0xFE6B, 0xFF03, 0xFF0F, 0xFF1A, 0xFF1F, 0xFF20]

def split (s : String) : Except Fault Url := do
  let (scheme, rest) := splitScheme (clean s.toList)
  let authority := splitAuthority rest
  checkBrackets authority
  if authority.any fun c => delimiterForms.contains c.toNat then
    .error (.normalization (String.ofList authority))
  else .ok ⟨scheme, authority⟩

/-- Whether a text has a scheme and an authority. -/
def isAbsolute (s : String) : Except Fault Bool := do
  let url ← split s
  return !url.scheme.isEmpty && !url.authority.isEmpty

/-- The host as written: between brackets, or up to the next colon. -/
def rawHost (url : Url) : List Char :=
  let host := Text.afterLast '@' url.authority
  match Text.after? '[' host with
  | some inner => Text.before ']' inner
  | none => Text.before ':' host

/-- The lower case of a character, as far as host names tell letters apart: ASCII letters, the
Kelvin sign and the dotted capital i have lower cases with an ASCII letter, and no others do. -/
def lowerHostChar (c : Char) : List Char :=
  if c = '\u212A' then ['k'] else if c = '\u0130' then ['i', '\u0307'] else [c.toLower]

/-- The host with lower case letters up to a zone; the zone is kept. -/
def host (url : Url) : List Char :=
  let raw := url.rawHost
  (Text.before '%' raw).flatMap lowerHostChar ++ raw.dropWhile (· ≠ '%')

end Url
end Walkthrough
