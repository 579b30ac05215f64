import Walkthrough.Http
import Walkthrough.Text.Numeral

/-!
Starting the server: its log is set up first, then it is told where to listen. The log takes the
lines of all writers from a level on.
-/

namespace Walkthrough.Http.Server

variable {σ : Type}

def threshold (debug : Bool) : Level :=
  if debug then .debug else .info

def logFile (dir : Path) : Path :=
  dir.child "testair-server.log"

/-- The file of the log by its place from the root on. -/
def logPlace (dir : Path) (files : Files) : Path :=
  .ofParts ((logFile dir).resolve files.home)

/-- Makes the directory of the log, if it is missing, and opens the log. -/
def openLog (dir : Path) : Work σ Unit := do
  Work.change fun files => files.ensureLeaf dir
  Work.change fun files => files.openForAppend (logPlace dir files)

/-- Writes a line of a writer to the log, if it weighs enough. -/
def log (debug : Bool) (dir : Path) (writer : String) (line : LogLine) : Work σ Unit := do
  if line.level.reaches (threshold debug) then
    let now ← Work.now
    Work.change fun files => files.append (logPlace dir files) (line.text now [writer])

structure Listening where
  host : String
  portNumber : Int
  debug : Bool
  config : Config
  deriving DecidableEq, Repr, Inhabited

/-- The number that is listened on where none is given. -/
def defaultPort : Int := 4000

def portOf (environment : Table String) : Except Failure Int :=
  match Table.get? environment "PORT" with
  | some s => Text.integer s
  | none => .ok defaultPort

/-- Whether an environment asks for a log of everything. -/
def isDebug (environment : Table String) : Bool :=
  Table.get? environment "FLASK_DEBUG" == some "1"

def logDirectory : Path := .ofText "log"

/-- Sets up the log and says where the server is to listen. -/
def start (environment : Table String) : Work σ Listening := do
  let debug := isDebug environment
  openLog logDirectory
  let portNumber ← Effect.ofExcept (portOf environment)
  log debug logDirectory "testair.server"
    ⟨.info, s!"testair server listening on http://localhost:{portNumber}"⟩
  return ⟨"0.0.0.0", portNumber, debug, .ofEnvironment environment⟩

end Walkthrough.Http.Server
