import Walkthrough.Clock
import Walkthrough.Text.Split

/-!
Logs. A line has a level and a message; in a file it is written behind its time, its level, and in a
log that several writers share, the name of the writer.
-/

namespace Walkthrough

inductive Level where
  | debug
  | info
  | warning
  | error
  | critical
  deriving DecidableEq, Repr, Inhabited

namespace Level

def name : Level → String
  | .debug => "DEBUG"
  | .info => "INFO"
  | .warning => "WARNING"
  | .error => "ERROR"
  | .critical => "CRITICAL"

/-- All levels, the lightest first. -/
def all : List Level :=
  [.debug, .info, .warning, .error, .critical]

def ofName? (s : String) : Option Level :=
  all.find? fun level => level.name == s

/-- Whether a level weighs at least as much as another one. -/
def reaches (level threshold : Level) : Bool :=
  all.idxOf threshold ≤ all.idxOf level

end Level

structure LogLine where
  level : Level
  message : String
  deriving DecidableEq, Repr

/-- The text of a line: its time, its level, what else goes before the message, and the message. -/
def LogLine.text (now : Instant) (writer : List String) (line : LogLine) : String :=
  Text.join " | " ([now.stamp, line.level.name] ++ writer ++ [line.message]) ++ "\n"

end Walkthrough
