import Walkthrough.Browser
import Walkthrough.Effect
import Walkthrough.Files
import Walkthrough.Log
import Walkthrough.Profile
import Walkthrough.Repair.Request

/-!
What a run works on: a browser, a clock, files, the site profile in use, and a record of all that
was done, said and logged.
-/

namespace Walkthrough

/-- Something that was done: a call to the browser, an attempt to write a file, with whether it
succeeded, or a request for a repair. -/
inductive Event where
  | call (call : Call)
  | write (path : String) (done : Bool)
  | ask (request : Repair.Request)

/-- All that a run works on. `names` counts the runs named so far, and `said` holds the lines that
were said to whoever started the run. -/
structure World (σ : Type) where
  browser : σ
  now : Instant
  files : Files
  profile : Profile
  names : Nat
  events : List Event
  log : List LogLine
  said : List String

abbrev Work (σ α : Type) := Effect (World σ) α

namespace Work

variable {σ α : Type}

def now : Work σ Instant := do
  return (← get).now

def record (event : Event) : Work σ Unit :=
  modify fun w => { w with events := w.events ++ [event] }

/-- Writes a line to the log. -/
def note (level : Level) (message : String) : Work σ Unit :=
  modify fun w => { w with log := w.log ++ [⟨level, message⟩] }

/-- Says a line to whoever started the run. -/
def say (line : String) : Work σ Unit :=
  modify fun w => { w with said := w.said ++ [line] }

/-- Takes a browser's reply over: its state, its time, and its answer. -/
def receive (reply : σ → Reply σ α) : Work σ α := do
  let r := reply (← get).browser
  modify fun w => { w with browser := r.state, now := w.now + r.elapsed }
  Effect.ofExcept r.answer

/-- Calls the browser and records the call. -/
def call (c : Call) (reply : σ → Reply σ α) : Work σ α := do
  record (.call c)
  receive reply

def look (f : Files → Except Failure α) : Work σ α := do
  Effect.ofExcept (f (← get).files)

/-- Changes the files, if the change is possible. -/
def change (f : Files → Except Failure Files) : Work σ Unit := do
  match f (← get).files with
  | .ok files => modify fun w => { w with files := files }
  | .error failure => throw failure

def writeFile (path : Path) (content : Text.Content) : Work σ Unit := do
  match (← get).files.write path content with
  | .ok files =>
    modify fun w => { w with files := files, events := w.events ++ [.write path.text true] }
  | .error failure =>
    record (.write path.text false)
    throw failure

def nameRun : Work σ String := do
  let w ← get
  set { w with names := w.names + 1 }
  return runName w.now (w.names + 1)

end Work
end Walkthrough
