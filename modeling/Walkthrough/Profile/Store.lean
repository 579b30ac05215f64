import Walkthrough.World

/-!
Keeping site profiles in files, one for each domain. A profile that cannot be read counts as empty,
and saving replaces the whole file.
-/

namespace Walkthrough.Profile

variable {σ : Type}

def file (root : Path) (domain : String) : Path :=
  root.child (domain ++ ".json")

/-- The profile in a JSON text; the domain is that of the file, whatever the text says. -/
def ofText (domain : String) (s : String) : Except Failure (Option Profile) :=
  match Json.parse s with
  | .error fault => .error (.notJson fault)
  | .ok (.obj members) => .ok (some { ofMembers members with domain := domain })
  | .ok _ => .ok none

def isPassedOver : Failure → Bool
  | .notJson (.malformed ..) => true
  | failure => failure.isSystem

/-- The profile of a domain. A missing file is an empty profile; a file that is unreadable or no
JSON object is one too, and is noted. -/
def load (root : Path) (domain : String) : Work σ Profile := do
  let path := file root domain
  let answer ← Effect.attempt do
    let s ← Work.look fun files => files.readText path
    Effect.ofExcept (ofText domain s)
  match answer with
  | .ok (some profile) => pure profile
  | .ok none =>
    Work.note .warning ("Ignoring malformed site profile " ++ path.text)
    pure (empty domain)
  | .error (.file (.missing _)) => pure (empty domain)
  | .error failure =>
    if isPassedOver failure then
      Work.note .warning
        ("Ignoring unreadable site profile " ++ path.text ++ ": " ++ failure.message)
      pure (empty domain)
    else throw failure

def save (root : Path) (profile : Profile) : Work σ Path :=
  let path := file root profile.domain
  Effect.handling
    (do
      Work.change fun files => files.ensureDirectory root
      Work.writeFile path (.text profile.toJson.pretty)
      pure path)
    Failure.isSystem
    fun failure => throw (.noArtifact (.siteProfile path.text) failure.message)

end Walkthrough.Profile
