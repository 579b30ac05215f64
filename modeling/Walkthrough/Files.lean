import Walkthrough.Failure
import Walkthrough.Files.Path
import Walkthrough.Text.Content

/-!
A tree of files below a working directory. A path is followed part by part, and each part but the
last has to be a directory; what stands in the way is reported under the path that was asked for.
-/

namespace Walkthrough

inductive Node where
  | directory
  | file (content : Text.Content)
  deriving DecidableEq, Inhabited

/-- The nodes by their parts from the root on, and the parts of the working directory, which
exists with all directories above it. -/
structure Files where
  home : List String
  nodes : List (List String × Node)
  deriving Inhabited

namespace Files

def empty (home : List String) : Files :=
  ⟨home, []⟩

def node? (files : Files) (key : List String) : Option Node :=
  if key.isPrefixOf files.home then some .directory
  else (files.nodes.find? fun entry => entry.1 == key).map (·.2)

def put (files : Files) (key : List String) (node : Node) : Files :=
  { files with nodes := (files.nodes.filter fun entry => entry.1 != key) ++ [(key, node)] }

def drop (files : Files) (key : List String) : Files :=
  { files with nodes := files.nodes.filter fun entry => entry.1 != key }

/-- Follows parts from a settled place; `text` names the whole path in failures. -/
def follow (files : Files) (text : String) :
    List String → List String → Except Failure (List String)
  | place, [] => .ok place
  | place, part :: rest =>
    match files.node? place with
    | some .directory => follow files text (Path.step place part) rest
    | some (.file _) => .error (.file (.notDirectory text))
    | none => .error (.file (.missing text))

/-- The place of a path; the node there need not exist. -/
def locate (files : Files) (p : Path) : Except Failure (List String) :=
  if Path.hasNull p.text then .error (.value .nullInPath)
  else follow files p.text (if p.root = "" then files.home else []) p.parts

def at? (files : Files) (p : Path) : Option Node :=
  match files.locate p with
  | .ok key => files.node? key
  | .error _ => none

def isFile (files : Files) (p : Path) : Bool :=
  match files.at? p with
  | some (.file _) => true
  | _ => false

def isDirectory (files : Files) (p : Path) : Bool :=
  match files.at? p with
  | some .directory => true
  | _ => false

def read (files : Files) (p : Path) : Except Failure Text.Content := do
  let key ← files.locate p
  match files.node? key with
  | some (.file content) => .ok content
  | some .directory => .error (.file (.isDirectory p.text))
  | none => .error (.file (.missing p.text))

/-- The text of a file, with line feeds for all line ends. -/
def readText (files : Files) (p : Path) : Except Failure String := do
  let content ← files.read p
  match content.read with
  | .ok s => .ok s
  | .error fault => .error (.notText fault)

/-- Writes a file anew. -/
def write (files : Files) (p : Path) (content : Text.Content) : Except Failure Files := do
  let key ← files.locate p
  match files.node? key with
  | some .directory => .error (.file (.isDirectory p.text))
  | _ =>
    match files.node? key.dropLast with
    | some .directory => .ok (files.put key (.file content))
    | some (.file _) => .error (.file (.notDirectory p.text))
    | none => .error (.file (.missing p.text))

/-- Opens a file for adding to it; one that is missing is made empty. -/
def openForAppend (files : Files) (p : Path) : Except Failure Files := do
  match files.at? p with
  | some (.file _) => .ok files
  | _ => files.write p (.text "")

def append (files : Files) (p : Path) (s : String) : Except Failure Files := do
  let old ← files.read p
  files.write p (old.append s)

/-- Makes a directory whose parent exists. -/
def makeDirectory (files : Files) (p : Path) : Except Failure Files := do
  let key ← files.locate p
  match files.node? key with
  | some _ => .error (.file (.exists p.text))
  | none => .ok (files.put key .directory)

/-- Makes a directory and those above it; one that exists already is as good. The number bounds
how many parts are left to go up. -/
def makeDirectories : Nat → Files → Path → Except Failure Files
  | 0, files, _ => .ok files
  | fuel + 1, files, p =>
    match files.makeDirectory p with
    | .ok made => .ok made
    | .error (.file (.missing text)) =>
      if p.parent = p then .error (.file (.missing text))
      else
        match makeDirectories fuel files p.parent with
        | .error failure => .error failure
        | .ok made =>
          match made.makeDirectory p with
          | .ok done => .ok done
          | .error failure => if made.isDirectory p then .ok made else .error failure
    | .error failure => if files.isDirectory p then .ok files else .error failure

def ensureDirectory (files : Files) (p : Path) : Except Failure Files :=
  makeDirectories (p.parts.length + 1) files p

/-- Makes sure that a directory exists whose parent does. -/
def ensureLeaf (files : Files) (p : Path) : Except Failure Files :=
  match files.makeDirectory p with
  | .ok made => .ok made
  | .error failure => if files.isDirectory p then .ok files else .error failure

def remove (files : Files) (p : Path) : Except Failure Files := do
  let key ← files.locate p
  match files.node? key with
  | some _ => .ok (files.drop key)
  | none => .error (.file (.missing p.text))

/-- The paths of all files from the working directory, in order. -/
def list (files : Files) : List String :=
  let paths := files.nodes.filterMap fun entry =>
    match entry.2 with
    | .directory => none
    | .file _ =>
      if Path.isInside files.home entry.1 then
        some (Text.join "/" (entry.1.drop files.home.length))
      else none
  paths.mergeSort fun a b => a ≤ b

end Files
end Walkthrough
