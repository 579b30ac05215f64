import Walkthrough.CommandLine.Flag
import Walkthrough.Provider

/-!
The commands: drafting a plan, running one, printing the record of a run, and exporting a script. A
command line is the name of a command, its one word, and its flags.
-/

namespace Walkthrough.CommandLine

/-- How a plan is run from the command line. -/
structure RunSettings where
  planFile : String
  envFile : Option String
  dryRun : Bool
  artifactsRoot : String
  repairAttempts : Int
  provider : String
  repairTimeout : Binary64
  timeoutMs : Int
  headed : Bool
  deriving DecidableEq, Repr

inductive Command where
  | draft (prompt : String) (url : Option String) (provider : String)
  | run (settings : RunSettings)
  | replay (runId artifactsRoot : String)
  | script (planFile : String)
  deriving DecidableEq, Repr

namespace Command

def defaultProvider : String := Provider.builtIn.name

def draftFlags : List Flag :=
  [⟨"--url", .text⟩, ⟨"--provider", .text⟩]

def runFlags : List Flag :=
  [⟨"--env", .text⟩, ⟨"--dry-run", .switch⟩, ⟨"--artifacts-root", .text⟩,
    ⟨"--repair-attempts", .integer⟩, ⟨"--provider", .text⟩, ⟨"--repair-timeout", .decimal⟩,
    ⟨"--timeout", .integer⟩, ⟨"--headed", .switch⟩]

def replayFlags : List Flag :=
  [⟨"--artifacts-root", .text⟩]

def runSettings (planFile : String) (given : Given) : RunSettings where
  planFile := planFile
  envFile := (given.text? "--env").filter (· != "")
  dryRun := given.isOn "--dry-run"
  artifactsRoot := (given.text? "--artifacts-root").getD RunOptions.defaultRoot
  repairAttempts := (given.integer? "--repair-attempts").getD 0
  provider := (given.text? "--provider").getD defaultProvider
  repairTimeout := (given.decimal? "--repair-timeout").getD Repair.defaultSeconds
  timeoutMs := (given.integer? "--timeout").getD RunOptions.defaultTimeout
  headed := given.isOn "--headed"

def ofName (name : String) (arguments : List String) : Except Stop Command := do
  match name with
  | "plan" =>
    let (prompt, given) ← read draftFlags arguments
    return .draft prompt (given.text? "--url") ((given.text? "--provider").getD defaultProvider)
  | "run" =>
    let (planFile, given) ← read runFlags arguments
    return .run (runSettings planFile given)
  | "replay" =>
    let (runId, given) ← read replayFlags arguments
    return .replay runId ((given.text? "--artifacts-root").getD RunOptions.defaultRoot)
  | "script" =>
    let (planFile, _) ← read [] arguments
    return .script planFile
  | _ => .error .misuse

/-- The command of a command line. What comes before the name of the command is only a call for
help, or a mistake that shows once the rest is read. -/
def parse : List String → Except Stop Command
  | [] => .error .misuse
  | "--" :: _ => .error .misuse
  | s :: rest => do
    match ← Token.ofText [] s with
    | .word name => ofName name rest
    | .help => .error .help
    | .unknown =>
      let _ ← parse rest
      .error .misuse
    | _ => .error .misuse

end Command
end Walkthrough.CommandLine
