import Walkthrough.Plan.Grammar

/-!
Drafting a plan from a description in plain words. A drafter proposes any JSON value, and only one
that follows the plan grammar becomes a plan. The built-in drafter knows two plans: one logs in, the
other looks at a public page.
-/

namespace Walkthrough.Draft

/-- What a plan is wanted for. -/
structure Request where
  prompt : String
  url : Option String
  deriving DecidableEq, Repr, Inhabited

/-- The address that is given, if it is not empty. -/
def Request.address? (r : Request) : Option String :=
  r.url.filter (· != "")

/-- What proposes plans. -/
abbrev Drafter := Request → Except Failure Json

def defaultUrl : String := "https://example.com"

/-- Whether a description speaks of a login, in letters of either case. No letter beyond ASCII has
an ASCII lower case next to which the word could stand. -/
def mentionsLogin (prompt : String) : Bool :=
  Text.occursIn "login".toList (prompt.toList.map Char.toLower)

def proposal (name : String) (steps : List Json) : Json :=
  .obj [("version", .str "1"), ("name", .str name), ("steps", .arr steps)]

def propose (r : Request) : Json :=
  let goto : Json := .obj [("type", .str "goto"), ("url", .str (r.address?.getD defaultUrl))]
  if mentionsLogin r.prompt then
    proposal "Mock login flow" [goto,
      .obj [("type", .str "login"), ("username", .str "$\x7bSECRET:USERNAME\x7d"),
        ("password", .str "$\x7bSECRET:PASSWORD\x7d")],
      .obj [("type", .str "expect"), ("urlIncludes", .str "dashboard")]]
  else
    proposal "Mock public flow" [goto,
      .obj [("type", .str "expect"), ("textVisible", .str "Example Domain")]]

/-- The drafter that is always at hand. -/
def builtIn : Drafter :=
  fun r => .ok (propose r)

def plan (drafter : Drafter) (r : Request) : Except Failure Plan := do
  Plan.validate (← drafter r)

end Walkthrough.Draft
