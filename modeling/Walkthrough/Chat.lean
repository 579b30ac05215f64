import Walkthrough.Clock
import Walkthrough.Text.Numeral

/-!
Asking a language model. A request sends messages to a service that answers in JSON; what comes back
is read as one JSON value, or is a failure. The settings come from the environment.
-/

namespace Walkthrough.Chat

/-- What every request is made with. -/
structure Config where
  apiKey : String
  model : String
  baseUrl : String
  timeoutMs : Int
  deriving DecidableEq, Repr, Inhabited

namespace Config

/-- The variable with the key of the service, without which nothing can be asked. -/
def keyVariable : String := "OPENAI_API_KEY"

def defaultModel : String := "gpt-4.1-mini"

def defaultBaseUrl : String := "https://api.openai.com/v1"

/-- The time limit where none is given, in milliseconds. -/
def defaultTimeout : Int := 30000

/-- A variable of the environment; an empty one counts as missing. -/
def lookUp (environment : Table String) (name : String) : Option String :=
  (Table.get? environment name).filter (· != "")

def ofEnvironment (environment : Table String) : Except Failure Config :=
  match lookUp environment keyVariable with
  | none => .error (.value (.missingVariable keyVariable))
  | some apiKey => do
    let timeoutMs ← match lookUp environment "TESTAIR_OPENAI_TIMEOUT_MS" with
      | some s => Text.integer s
      | none => .ok defaultTimeout
    return {
      apiKey := apiKey
      model := (lookUp environment "TESTAIR_OPENAI_MODEL").getD defaultModel
      baseUrl := (lookUp environment "OPENAI_BASE_URL").getD defaultBaseUrl
      timeoutMs := timeoutMs }

end Config

structure Message where
  role : String
  content : String
  deriving DecidableEq, Repr, Inhabited

def Message.toJson (m : Message) : Json :=
  .obj [("role", .str m.role), ("content", .str m.content)]

/-- A request; the time limit is in seconds. -/
structure Request where
  model : String
  messages : List Message
  timeout : Binary64
  deriving DecidableEq, Repr, Inhabited

/-- The JSON object of a request: the likeliest answer is asked for, and as a JSON object. -/
def Request.toJson (r : Request) : Json :=
  .obj [("model", .str r.model), ("messages", .arr (r.messages.map Message.toJson)),
    ("temperature", .int 0), ("response_format", .obj [("type", .str "json_object")]),
    ("timeout", .float r.timeout)]

def request (config : Config) (messages : List Message) : Except Failure Request :=
  (Clock.seconds config.timeoutMs).map fun timeout => ⟨config.model, messages, timeout⟩

/-- What comes back: an error of the service, nothing to choose from, or a message, whose content
may be missing. -/
inductive Reply where
  | refused (message : String)
  | noChoices
  | content (content : Json)
  deriving Inhabited

def Reply.read : Reply → Except Failure Json
  | .refused message => .error (.model (.service message))
  | .noChoices => .error (.model .noChoices)
  | .content (.str s) =>
    if s = "" then .error (.model .noContent)
    else
      match Json.parse s with
      | .ok v => .ok v
      | .error (.hugeInteger digits) => .error (.notJson (.hugeInteger digits))
      | .error fault => .error (.model (.notJson fault))
  | .content _ => .error (.model .noContent)

/-- What answers requests. -/
abbrev Service := Request → Reply

def ask (config : Config) (service : Service) (messages : List Message) : Except Failure Json := do
  (service (← request config messages)).read

end Walkthrough.Chat
