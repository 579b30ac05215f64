import Walkthrough.CommandLine
import Walkthrough.Page

/-!
The command line. The files that a command may look at are read before it is carried out, and those
that it changed are written after it. No browser is attached, so live runs end when they open one.
-/

namespace Walkthrough.Terminal

def placeText (place : List String) : String :=
  (Path.ofParts place).text

def environment : IO (Table String) := do
  let bytes ← try IO.FS.readBinFile "/proc/self/environ" catch _ => pure .empty
  let pieces := Text.splitAt '\x00' (Text.Utf8.decodeLossy (bytes.size + 1) bytes.toList).toList
  return pieces.filterMap fun piece =>
    (Text.after? '=' piece).map fun value =>
      (String.ofList (Text.before '=' piece), String.ofList value)

def openPlace (place : List String) :=
  (do return (← IO.currentDir) / placeText place : IO _)

/-- The time at which the process was entered in the table of processes. -/
def startTime : IO Instant := do
  let data ← (← openPlace ["proc", "self"]).metadata
  return data.modified.sec * 1000 + data.modified.nsec.toNat / 1000000 - Instant.epochOffset

/-- Adds what is at a place to files, with all below it. -/
partial def readTree (files : Files) (place : List String) : IO Files := do
  let path ← openPlace place
  if ← path.isDir then
    let mut files := files.put place .directory
    for entry in ← path.readDir do
      files ← readTree files (place ++ [entry.fileName])
    return files
  else if ← path.pathExists then
    return files.put place (.file (.bytes (← IO.FS.readBinFile path).toList))
  else return files

/-- Adds the directories above a place to files. -/
def readParents (files : Files) (place : List String) : IO Files := do
  let mut files := files
  for count in List.range place.length do
    let parent := place.take count
    if (files.node? parent).isNone && (← (← openPlace parent).isDir) then
      files := files.put parent .directory
  return files

/-- The paths that a command may look at. -/
def pathsOf : CommandLine.Command → List String
  | .draft .. => []
  | .run settings => [settings.planFile, settings.artifactsRoot] ++ settings.envFile.toList
  | .replay _ artifactsRoot => [artifactsRoot]
  | .script planFile => [planFile]

def readFiles (home : List String) (arguments : List String) : IO Files := do
  let paths := match CommandLine.Command.parse arguments with
    | .ok command => pathsOf command
    | .error _ => []
  let mut files := Files.empty home
  for path in paths do
    let place := (Path.ofText path).resolve home
    files ← readTree (← readParents files place) place
  return files

/-- Writes what has changed. -/
def writeFiles (before after : Files) : IO Unit := do
  for (place, node) in after.nodes do
    if before.node? place ≠ some node then
      match node with
      | .directory => IO.FS.createDirAll (placeText place)
      | .file (.text s) => IO.FS.writeFile (placeText place) s
      | .file (.bytes bs) => IO.FS.writeBinFile (placeText place) (ByteArray.mk bs.toArray)

/-- A page that no browser shows. -/
def unattached : Page :=
  { Page.blank with faults := [("launch", .browser "No browser is attached")] }

def unreachable : Chat.Service :=
  fun _ => .refused "Connection error."

/-- What is said where a command line is not understood. -/
def usage : String :=
  "usage: testair plan <prompt> | run <plan> | replay <run id> | script <plan>\n"

end Walkthrough.Terminal

open Walkthrough in
def main (arguments : List String) : IO UInt32 := do
  let home := (Path.ofText (← IO.currentDir).toString).parts
  let files ← Terminal.readFiles home arguments
  let host : Host Page := ⟨Page.browser, ← Terminal.environment, none⟩
  let world : World Page :=
    ⟨Terminal.unattached, ← Terminal.startTime, files, .empty Profile.defaultDomain, 0, [], [], []⟩
  let (answer, world) :=
    ((CommandLine.execute host Terminal.unreachable arguments).run).run world
  Terminal.writeFiles files world.files
  IO.print (Text.unlines world.said)
  match answer with
  | .ok outcome =>
    IO.eprint (outcome.complaint.getD Terminal.usage)
    return outcome.code.toUInt32
  | .error failure =>
    IO.eprintln failure.message
    return 1
