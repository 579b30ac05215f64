import Walkthrough.Json.Access
import Walkthrough.Json.Printer

/-!
Plans: a version, an optional name and base URL, and a list of steps of seven kinds. A plan that
went through the grammar holds texts and whole numbers; a trusted one may hold anything, so fields
are JSON values, and `null` stands for a field that is not set.
-/

namespace Walkthrough

inductive Step where
  | goto (url : Json)
  | click (target selector : Json)
  | fill (field value selector : Json)
  | expect (textVisible urlIncludes elementVisible timeoutMs : Json)
  | login (username password : Json)
  | waitFor (textVisible selector timeoutMs : Json)
  | extractTextList (selector outputKey limit : Json)
  deriving Inhabited

namespace Step

def tags : List String :=
  ["click", "expect", "extractTextList", "fill", "goto", "login", "waitFor"]

def tag : Step → String
  | .goto _ => "goto"
  | .click .. => "click"
  | .fill .. => "fill"
  | .expect .. => "expect"
  | .login .. => "login"
  | .waitFor .. => "waitFor"
  | .extractTextList .. => "extractTextList"

/-- The fields of a step, set or not. -/
def fields : Step → Table Json
  | .goto url => [("url", url)]
  | .click target selector => [("target", target), ("selector", selector)]
  | .fill field value selector => [("field", field), ("value", value), ("selector", selector)]
  | .expect textVisible urlIncludes elementVisible timeoutMs =>
    [("textVisible", textVisible), ("urlIncludes", urlIncludes),
      ("elementVisible", elementVisible), ("timeoutMs", timeoutMs)]
  | .login username password => [("username", username), ("password", password)]
  | .waitFor textVisible selector timeoutMs =>
    [("textVisible", textVisible), ("selector", selector), ("timeoutMs", timeoutMs)]
  | .extractTextList selector outputKey limit =>
    [("selector", selector), ("outputKey", outputKey), ("limit", limit)]

/-- The JSON object of a step: its tag and the fields that are set. -/
def toJson (s : Step) : Json :=
  .obj (("type", .str s.tag) :: s.fields.filter fun field => field.2.isSet)

/-- A text member: an absent one is empty. -/
def text (members : Table Json) (key : String) : Json :=
  ((Table.get? members key).map Json.settle).getD (.str "")

/-- An optional member: an absent one is not set. -/
def optional (members : Table Json) (key : String) : Json :=
  ((Table.get? members key).map Json.settle).getD .null

/-- The step of a tag with the fields that an object gives; other members are passed over. -/
def ofMembers? (tag : String) (members : Table Json) : Option Step :=
  let text := text members
  let optional := optional members
  match tag with
  | "goto" => some (.goto (text "url"))
  | "click" => some (.click (text "target") (optional "selector"))
  | "fill" => some (.fill (text "field") (text "value") (optional "selector"))
  | "expect" =>
    some (.expect (optional "textVisible") (optional "urlIncludes") (optional "elementVisible")
      (optional "timeoutMs"))
  | "login" => some (.login (text "username") (text "password"))
  | "waitFor" =>
    some (.waitFor (optional "textVisible") (optional "selector") (optional "timeoutMs"))
  | "extractTextList" =>
    some (.extractTextList (text "selector") (text "outputKey") (optional "limit"))
  | _ => none

def ofJson : Json → Except Failure Step
  | .obj members =>
    match Table.get? members "type" with
    | none => .error (.missingKey (.str "type"))
    | some (.str tag) =>
      match ofMembers? tag members with
      | some step => .ok step
      | none => .error (.missingKey (.str tag))
    | some (.arr _) | some (.obj _) => .error .wrongType
    | some other => .error (.missingKey other)
  | _ => .error .wrongType

end Step

structure Plan where
  version : Json
  name : Json
  baseUrl : Json
  steps : List Step
  deriving Inhabited

namespace Plan

/-- The JSON object of a plan, without a name or base URL that is not set. -/
def toJson (p : Plan) : Json :=
  .obj ([("version", p.version)] ++ (if p.name.isSet then [("name", p.name)] else []) ++
    (if p.baseUrl.isSet then [("baseUrl", p.baseUrl)] else []) ++
    [("steps", .arr (p.steps.map Step.toJson))])

/-- The plan of a JSON value, taken on trust: only what the fields need is looked at. -/
def ofJson (v : Json) : Except Failure Plan := do
  let version ← v.required "version"
  let steps ← (← (← v.required "steps").elements).mapM Step.ofJson
  return ⟨version, v.optional "name", v.optional "baseUrl", steps⟩

def text (p : Plan) : String :=
  p.toJson.pretty

end Plan
end Walkthrough
