import Walkthrough.Json.Display
import Walkthrough.Json.Printer
import Walkthrough.Primitive

/-!
Site profiles: for one domain, the selectors that were found to work for targets. The domain of a
plan is the host of the first page it goes to, made safe as a file name.
-/

namespace Walkthrough

/-- The selectors remembered for a domain, under their targets. -/
structure Profile where
  domain : String
  selectors : Table String
  updatedAt : String
  deriving DecidableEq, Repr, Inhabited

namespace Profile

/-- The domain of plans that go nowhere. -/
def defaultDomain : String := "default"

/-- When a profile that was never saved was updated. -/
def neverUpdated : String := "1970-01-01T00:00:00.000Z"

def empty (domain : String) : Profile :=
  ⟨domain, [], neverUpdated⟩

/-- The selector remembered for a target; an empty one counts as none. -/
def remembered (p : Profile) (target : String) : Option String :=
  (Table.get? p.selectors target).filter (· != "")

def remember (p : Profile) (target selector : String) : Profile :=
  { p with selectors := Table.set p.selectors target selector }

def toJson (p : Profile) : Json :=
  .obj [("domain", .str p.domain),
    ("selectors", .obj (p.selectors.map fun entry => (entry.1, .str entry.2))),
    ("updatedAt", .str p.updatedAt)]

/-- A member as text, or a text in place of an absent or empty one. -/
def memberText (members : Table Json) (key fallback : String) : String :=
  match Table.get? members key with
  | some v => if v.isTruthy then v.display else fallback
  | none => fallback

/-- The profile of the members of an object; any value is taken as text. -/
def ofMembers (members : Table Json) : Profile where
  domain := memberText members "domain" defaultDomain
  selectors := match Table.get? members "selectors" with
    | some (.obj entries) => entries.map fun entry => (entry.1, entry.2.display)
    | _ => []
  updatedAt := memberText members "updatedAt" neverUpdated

def ofJson : Json → Except Failure Profile
  | .obj members => .ok (ofMembers members)
  | _ => .error .noField

/-- Whether a character of a host stays in a domain: ASCII letters, digits, the point and the
hyphen, and the four characters that differ from ASCII letters only by case folding. -/
def isDomainChar (c : Char) : Bool :=
  c.isAlphanum || c = '.' || c = '-' || c = '\u0130' || c = '\u0131' || c = '\u017F' ||
    c = '\u212A'

def domainOfHost (host : List Char) : String :=
  String.ofList (host.map fun c => if isDomainChar c then c else '_')

def domainOfUrl (url : String) : Except Failure String :=
  match Url.split url with
  | .error fault => .error (.value (.url fault))
  | .ok parts => .ok (if parts.host.isEmpty then defaultDomain else domainOfHost parts.host)

/-- The domain of actions: that of the first page gone to. -/
def domainOf : List Action → Except Failure String
  | [] => .ok defaultDomain
  | action :: rest =>
    if action.kind = "goto" then
      match Table.get? action.payload "url" with
      | some (.str url) => domainOfUrl url
      | _ => .ok defaultDomain
    else domainOf rest

end Profile
end Walkthrough
