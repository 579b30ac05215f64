import Walkthrough.Text.Percent
import Walkthrough.Text.Split
import Walkthrough.Url

/-!
Routes: which path of a request stands for what. Runs are submitted under one path, and each run and
each of its artifacts has a path of its own. Leading slashes count as one; other doubled slashes
lead elsewhere if the path without them has a route.
-/

namespace Walkthrough.Http

inductive Route where
  | runs
  | run (runId : String)
  | artifact (runId name : String)
  | fixedFile
  deriving DecidableEq, Repr

namespace Route

/-- Whether a text can be the name of a file at the end of a path: it does not start with a slash,
and no line ends in it. -/
def isName (name : String) : Bool :=
  match name.toList with
  | [] => false
  | c :: cs => c != '/' && !cs.contains '\n'

def ofParts : List String → Option Route
  | ["runs"] => some .runs
  | ["runs", runId] => if runId = "" then none else some (.run runId)
  | "runs" :: runId :: "artifacts" :: rest =>
    let name := Text.join "/" rest
    if runId = "" || !isName name then none else some (.artifact runId name)
  | "static" :: rest => if isName (Text.join "/" rest) then some .fixedFile else none
  | _ => none

def methods : Route → List String
  | .runs => ["OPTIONS", "POST"]
  | _ => ["GET", "HEAD", "OPTIONS"]

/-- The path of a request's target, without its query, with escapes replaced. -/
def pathOf (target : String) : List Char :=
  let (_, rest) := Url.splitScheme (Url.clean target.toList)
  let rest := match rest with
    | '/' :: '/' :: _ => rest.drop ((Url.splitAuthority rest).length + 2)
    | _ => rest
  (Text.percentDecode (String.ofList (rest.takeWhile fun c => c != '?' && c != '#'))).toList

def ofPath (path : List Char) : Option Route :=
  ofParts ((Text.splitAt '/' (path.dropWhile (· = '/'))).map String.ofList)

/-- The path with each two slashes made one. -/
def mergeSlashes : List Char → List Char
  | '/' :: '/' :: cs => '/' :: mergeSlashes cs
  | c :: cs => c :: mergeSlashes cs
  | [] => []

inductive Destination where
  | found (route : Route)
  | moved
  | wrongMethod
  | nowhere
  deriving DecidableEq, Repr

def destination (method : String) (path : List Char) : Destination :=
  let direct := ofPath path
  let merged := ofPath (mergeSlashes (path.dropWhile (· = '/')))
  let knows (route : Route) : Bool := route.methods.contains method
  match direct.filter knows, merged.filter knows with
  | some route, _ => .found route
  | none, some _ => .moved
  | none, none => if direct.isSome || merged.isSome then .wrongMethod else .nowhere

end Route
end Walkthrough.Http
