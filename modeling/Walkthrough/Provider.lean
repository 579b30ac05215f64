import Walkthrough.Chat.Prompt
import Walkthrough.Repair

/-!
Who drafts and repairs plans: the built-in drafter and adapter, or a language model. The model needs
the settings of its service before anything is asked.
-/

namespace Walkthrough

/-- Who drafts and repairs plans. -/
inductive Provider where
  | builtIn
  | model
  deriving DecidableEq, Repr, Inhabited

namespace Provider

def name : Provider → String
  | .builtIn => "mock"
  | .model => "openai"

/-- The provider of a name; without one it is the built-in one. -/
def ofText (s : Option String) : Except Failure Provider :=
  match s.filter (· != "") with
  | none => .ok .builtIn
  | some s =>
    if s = builtIn.name then .ok .builtIn
    else if s = model.name then .ok .model
    else .error (.value (.unknownProvider s))

def drafter (environment : Table String) (service : Chat.Service) :
    Provider → Except Failure Draft.Drafter
  | .builtIn => .ok Draft.builtIn
  | .model => (Chat.Config.ofEnvironment environment).map fun config request =>
    Chat.ask config service (Chat.Prompt.draft request)

def adapter (environment : Table String) (service : Chat.Service) :
    Provider → Except Failure Repair.Adapter
  | .builtIn => .ok Repair.builtIn
  | .model => (Chat.Config.ofEnvironment environment).map fun config =>
    .ofAnswer fun _ request =>
      match Chat.ask config service (Chat.Prompt.repair request) with
      | .ok raw => .value raw
      | .error failure => .failure failure

end Provider
end Walkthrough
