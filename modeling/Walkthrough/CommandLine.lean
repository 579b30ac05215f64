import Walkthrough.CommandLine.Command
import Walkthrough.Plan.Load
import Walkthrough.Run.Summary
import Walkthrough.Script

/-!
Carrying out commands. What a command has to say is said line by line; a failure of a kind that
users can mend is reported in one line, and others are left to the caller.
-/

namespace Walkthrough.CommandLine

variable {σ : Type}

def sayAll : List String → Work σ Unit
  | [] => pure ()
  | line :: rest => do
    Work.say line
    sayAll rest

def loadPlan (file : String) : Work σ Plan :=
  Work.look fun files => Plan.load files (Path.ofText file)

/-- Drafts a plan and says it without the names of secrets. -/
def draft (host : Host σ) (service : Chat.Service) (request : Draft.Request)
    (provider : String) : Work σ Nat := do
  let provider ← Effect.ofExcept (Provider.ofText (some provider))
  let drafter ← Effect.ofExcept (provider.drafter host.environment service)
  let plan ← Effect.ofExcept (Draft.plan drafter request)
  Work.say plan.redact.text
  return 0

def RunSettings.options (settings : RunSettings) : RunOptions :=
  { RunOptions.usual with
    artifactsRoot := Path.ofText settings.artifactsRoot
    envFile := settings.envFile.map Path.ofText
    timeoutMs := settings.timeoutMs
    headless := !settings.headed
    dryRun := settings.dryRun }

/-- Runs a plan and says how it went; a dry run first says what would be done. -/
def run (host : Host σ) (service : Chat.Service) (settings : RunSettings) : Work σ Nat := do
  let plan ← loadPlan settings.planFile
  if settings.dryRun then
    sayAll (← Effect.ofExcept plan.lines)
  let provider ← Effect.ofExcept (Provider.ofText (some settings.provider))
  let adapter ← Effect.ofExcept (provider.adapter host.environment service)
  let report ← runWithRepair host settings.options adapter (.float settings.repairTimeout)
    settings.repairAttempts plan
  sayAll (← Effect.ofExcept report.record.lines)
  return match report.verdict with
    | .passed => 0
    | .failed => 1

def replay (runId artifactsRoot : String) : Work σ Nat := do
  let record ← loadRecord (Path.ofText artifactsRoot) runId
  sayAll (← Effect.ofExcept record.fullLines)
  return 0

def script (planFile : String) : Work σ Nat := do
  let plan ← loadPlan planFile
  sayAll (← Effect.ofExcept plan.scriptLines)
  return 0

/-- Carries out a command; the number is its exit code. -/
def perform (host : Host σ) (service : Chat.Service) : Command → Work σ Nat
  | .draft prompt url provider => draft host service ⟨prompt, url⟩ provider
  | .run settings => run host service settings
  | .replay runId artifactsRoot => replay runId artifactsRoot
  | .script planFile => script planFile

/-- How a command line ends: its exit code, and what it complains of, unless that is left to the
description of all commands. -/
structure Outcome where
  code : Nat
  complaint : Option String
  deriving DecidableEq, Repr

/-- Whether a failure is reported in one line. -/
def isReported : Failure → Bool
  | .model _ => true
  | failure => failure.isForeseen || failure.isSystem || failure.isValue

def execute (host : Host σ) (service : Chat.Service) (arguments : List String) :
    Work σ Outcome :=
  match Command.parse arguments with
  | .error .help => pure ⟨0, none⟩
  | .error .misuse => pure ⟨2, none⟩
  | .ok command =>
    Effect.handling
      (do return ⟨← perform host service command, some ""⟩)
      isReported
      fun failure => pure ⟨1, some (failure.message ++ "\n")⟩

end Walkthrough.CommandLine
