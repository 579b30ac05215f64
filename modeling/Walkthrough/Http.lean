import Walkthrough.Http.Disposition
import Walkthrough.Http.Envelope
import Walkthrough.Http.Route
import Walkthrough.Http.Submission
import Walkthrough.Plan.Grammar
import Walkthrough.Run
import Walkthrough.Text.Capital

/-!
Serving runs over HTTP: plans are submitted and run at once, and the records and artifacts of runs
are handed out. Only files strictly inside the directory of a run are artifacts, and only
directories strictly inside the root of all artifacts are runs.
-/

namespace Walkthrough.Http

structure Config where
  artifactsRoot : String
  bodyLimit : Option Int
  deriving DecidableEq, Repr, Inhabited

/-- The most bytes of a body where nothing else is set. -/
def defaultBodyLimit : Int := 1024 * 1024

def Config.ofEnvironment (environment : Table String) : Config :=
  ⟨(Table.get? environment "ARTIFACTS_ROOT").getD RunOptions.defaultRoot, some defaultBodyLimit⟩

structure Request where
  method : String
  target : String
  contentType : Option String
  body : String
  deriving DecidableEq, Repr, Inhabited

/-- What is sent back besides a status. -/
inductive Body where
  | empty
  | json (value : Json)
  | file (disposition : String) (content : Text.Content)
  deriving Inhabited

structure Response where
  status : Nat
  body : Body
  deriving Inhabited

/-- An answer with a status only. -/
def bare (status : Nat) : Response :=
  ⟨status, .empty⟩

def refusal (status : Nat) (code message : String) : Response :=
  ⟨status, .json (Envelope.failure (.str code) (.str message) .null)⟩

def delivery (status : Nat) (data : Json) : Response :=
  ⟨status, .json (Envelope.success data .null)⟩

/-- Whether a content type is that of JSON; parameters after it do not matter. -/
def isJsonType (contentType : String) : Bool :=
  let kind := (Text.strip (String.ofList (Text.before ';' contentType.toList))).toList.map
    Char.toLower
  kind = "application/json".toList ||
    ("application/".toList.isPrefixOf kind && "+json".toList.isSuffixOf kind)

/-- The text after a byte order mark. -/
def dropMark (s : String) : String :=
  match s.toList with
  | '\uFEFF' :: cs => String.ofList cs
  | _ => s

/-- The JSON value in the body of a request, null if there is none. A body of JSON may not be too
long. -/
def Request.json? (config : Config) (r : Request) : Option Json :=
  if r.contentType.any isJsonType then
    if config.bodyLimit.any fun limit => limit < (r.body.utf8ByteSize : Int) then none
    else
      match Json.parse (dropMark r.body) with
      | .ok v => some v
      | .error _ => some .null
  else some .null

/-- The place that a name stands for inside a directory, if it lies strictly inside it. -/
def within? (base : List String) (name : String) : Except Failure (Option (List String)) :=
  if Path.hasNull name then .error (.value .nullInPath) else .ok (Path.inside? base name)

variable {σ : Type}

def rootPlace (config : Config) : Work σ (List String) := do
  return (Path.ofText config.artifactsRoot).resolve (← get).files.home

def submit (host : Host σ) (config : Config) (r : Request) : Work σ Response := do
  match r.json? config with
  | none => return bare 413
  | some v =>
    match Submission.ofJson v with
    | .error problem => return refusal 400 "INVALID_REQUEST" problem.message
    | .ok submission =>
      match Plan.validate submission.plan with
      | .error (.grammar path fault) =>
        return refusal 400 "INVALID_PLAN" (Failure.grammar path fault).message
      | .error failure => throw failure
      | .ok plan =>
        let options : RunOptions := { RunOptions.usual with
          artifactsRoot := Path.ofText config.artifactsRoot
          envFile := submission.envFile.map Path.ofText
          dryRun := submission.dryRun }
        Effect.handling
          (do
            let report ← Walkthrough.run host options plan
            return delivery 201 (.obj [("runId", .str report.runId),
              ("status", .str report.verdict.name),
              ("resultPath", .str report.artifacts.resultPath), ("metadata", submission.labels)]))
          (fun failure => failure.isForeseen || failure.isBrowser)
          fun failure => return refusal 500 "RUN_FAILED" failure.message

def sendRecord (config : Config) (runId : String) : Work σ Response := do
  let missing := refusal 404 "RUN_NOT_FOUND" "Run not found"
  let root ← rootPlace config
  match ← Effect.ofExcept (within? root runId) with
  | none => return missing
  | some runDir =>
    let path := Run.reportFile (Path.ofParts runDir)
    if (← get).files.isFile path then
      let s ← Work.look fun files => files.readText path
      match Json.parse s with
      | .ok v => return delivery 200 v
      | .error fault => throw (.notJson fault)
    else return missing

def sendFile (path : Path) : Work σ Response := do
  let content ← Work.look fun files => files.read path
  match Disposition.attachment? (path.parts.getLast?.getD "") with
  | some disposition => return ⟨200, .file disposition content⟩
  | none => throw (.value (.other "Header values must not contain newline characters."))

def sendArtifact (config : Config) (runId name : String) : Work σ Response := do
  let root ← rootPlace config
  let place ← match ← Effect.ofExcept (within? root runId) with
    | none => pure none
    | some runDir => Effect.ofExcept (within? runDir name)
  match place with
  | none => return refusal 400 "INVALID_ARTIFACT_PATH" "Invalid artifact path"
  | some parts =>
    let path := Path.ofParts parts
    if (← get).files.isFile path then sendFile path
    else return refusal 404 "ARTIFACT_NOT_FOUND" "Artifact not found"

/-- The answer to a request that leads to a route. There are no fixed files. -/
def answer (host : Host σ) (config : Config) (r : Request) : Route → Work σ Response
  | .runs => submit host config r
  | .run runId => sendRecord config runId
  | .artifact runId name => sendArtifact config runId name
  | .fixedFile => pure (bare 404)

/-- The answer without its body, as a request for the head alone gets it. -/
def Response.head (r : Response) : Response :=
  match r.body with
  | .file disposition _ => ⟨r.status, .file disposition (.text "")⟩
  | _ => bare r.status

/-- The answer to any request. Whatever fails beyond what an answer tells is a bare 500. -/
def serve (host : Host σ) (config : Config) (r : Request) : Work σ Response := do
  let method := Text.upper r.method
  match Route.destination method (Route.pathOf r.target) with
  | .nowhere => return bare 404
  | .wrongMethod => return bare 405
  | .moved => return bare 308
  | .found route =>
    if method = "OPTIONS" then return bare 200
    else
      match ← Effect.attempt (answer host config r route) with
      | .ok response => return if method = "HEAD" then response.head else response
      | .error _ => return bare 500

end Walkthrough.Http
