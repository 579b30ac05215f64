import Walkthrough.Json.Reader
import Walkthrough.Schema
import Walkthrough.Text.Utf8

/-!
Why something did not work, and how each cause is worded. Causes fall into families, and what
handles a failure handles a whole family.
-/

namespace Walkthrough

open Schema (PathPart Breach)

/-- Why a value is no plan. -/
inductive GrammarFault where
  | breach (breach : Breach)
  | notExactlyOne (tag : String) (keys : List String)
  | notJson (fault : Json.Fault)

/-- A list with `or` before its last entry. -/
def alternatives (keys : List String) : String :=
  Text.join ", " keys.dropLast ++ ", or " ++ keys.getLast?.getD ""

/-- The wording of a grammar fault, without its place. -/
def GrammarFault.message : GrammarFault → String
  | .breach b => b.message
  | .notExactlyOne tag keys => tag ++ " step must set exactly one of " ++ alternatives keys
  | .notJson fault => "Plan file is not valid JSON: " ++ fault.message

/-- A message behind the place that it is about. -/
def placed (path : List PathPart) (message : String) : String :=
  let location := Text.join " -> " (path.map PathPart.text)
  if location = "" then message else location ++ ": " ++ message

/-- Why a patch is refused. -/
inductive PatchFault where
  | breach (path : List PathPart) (breach : Breach)
  | tooMany (count limit : Nat)
  | unknownOp (op : Json)
  | unknownPath (path : String)
  | noSuchStep (index : Nat)
  | spoilsPlan (path : List PathPart) (fault : GrammarFault)

def PatchFault.message : PatchFault → String
  | .breach path b => placed path b.message
  | .tooMany count limit => s!"Patch has {count} operations; at most {limit} allowed"
  | .unknownOp op => "Unsupported patch op: " ++ op.display
  | .unknownPath path => "Unsupported patch path: " ++ path
  | .noSuchStep index => s!"Patch step index out of range: {index}"
  | .spoilsPlan path fault => "Patched plan failed validation: " ++ placed path fault.message

/-- What an action waited for in vain. -/
inductive Wait where
  | navigation (url : String)
  | click (target : String)
  | fill (field : String)
  | address (fragment : String)
  | content (text : String)
  | element (selector : String)
  deriving DecidableEq, Repr

def Wait.message (timeout : String) : Wait → String
  | .navigation url => "Navigation to " ++ url ++ " timed out after " ++ timeout ++ "ms"
  | .click target => "Click on \"" ++ target ++ "\" timed out after " ++ timeout ++ "ms"
  | .fill field => "Fill of \"" ++ field ++ "\" timed out after " ++ timeout ++ "ms"
  | .address fragment => "URL did not include \"" ++ fragment ++ "\" within " ++ timeout ++ "ms"
  | .content text => "Timed out after " ++ timeout ++ "ms waiting for text \"" ++ text ++ "\""
  | .element selector => "Timed out after " ++ timeout ++ "ms waiting for element " ++ selector

/-- What the file system refuses. -/
inductive FileFault where
  | missing (path : String)
  | exists (path : String)
  | notDirectory (path : String)
  | isDirectory (path : String)
  | other (message : String)
  deriving DecidableEq, Repr

def FileFault.message : FileFault → String
  | .missing path => "[Errno 2] No such file or directory: " ++ Text.quote path
  | .exists path => "[Errno 17] File exists: " ++ Text.quote path
  | .notDirectory path => "[Errno 20] Not a directory: " ++ Text.quote path
  | .isDirectory path => "[Errno 21] Is a directory: " ++ Text.quote path
  | .other message => message

/-- Artifacts that may not come about. -/
inductive Artifact where
  | siteProfile (path : String)
  | runRecord (path : String)
  | repairedPlan (path : String)
  | screenshot
  | snapshot
  | traceStart
  | traceEnd
  deriving DecidableEq, Repr

def Artifact.message : Artifact → String
  | .siteProfile path => "Failed to write site profile " ++ path
  | .runRecord path => "Failed to write run result " ++ path
  | .repairedPlan path => "Failed to write repaired plan " ++ path
  | .screenshot => "Screenshot capture failed"
  | .snapshot => "DOM snapshot failed"
  | .traceStart => "Tracing could not start"
  | .traceEnd => "Trace flush failed"

/-- What a language model did not deliver. -/
inductive ModelFault where
  | service (message : String)
  | noChoices
  | noContent
  | notJson (fault : Json.Fault)
  | other (message : String)
  deriving DecidableEq, Repr

def ModelFault.message : ModelFault → String
  | .service message => "OpenAI API error: " ++ message
  | .noChoices => "OpenAI API returned no choices"
  | .noContent => "OpenAI API returned no assistant content"
  | .notJson fault => "OpenAI API returned invalid JSON: " ++ fault.message
  | .other message => message

/-- Values of the right type that do not do. -/
inductive ValueFault where
  | url (fault : Url.Fault)
  | unknownStep (tag : String)
  | missingEntry (key : String)
  | noCondition (tag : String)
  | unknownProvider (name : String)
  | missingVariable (name : String)
  | notInteger (shown : String)
  | hugeInteger (digits : Nat)
  | overlongInteger
  | nullInPath
  | other (message : String)
  deriving DecidableEq, Repr

def ValueFault.message : ValueFault → String
  | .url fault => fault.message
  | .unknownStep tag => "Unsupported step type: " ++ tag
  | .missingEntry key => "Missing " ++ key
  | .noCondition tag => tag ++ " step missing valid payload"
  | .unknownProvider name => "Unsupported provider: " ++ name ++ ". Expected mock|openai"
  | .missingVariable name => "Missing required environment variable: " ++ name
  | .notInteger shown => "invalid literal for int() with base 10: " ++ shown
  | .hugeInteger digits => Json.hugeIntegerMessage digits
  | .overlongInteger => Json.overlongIntegerMessage
  | .nullInPath => "embedded null byte"
  | .other message => message

inductive Failure where
  | grammar (path : List PathPart) (fault : GrammarFault)
  | unresolved (target : String) (tried : List String)
  | timedOut (wait : Wait) (timeout : String)
  | missingSecret (name : String)
  | patchRejected (fault : PatchFault)
  | noArtifact (artifact : Artifact) (cause : String)
  | adapterTimeout (seconds : String)
  | model (fault : ModelFault)
  | browser (message : String)
  | browserTimeout (message : String)
  | expired (message : String)
  | file (fault : FileFault)
  | value (fault : ValueFault)
  | notJson (fault : Json.Fault)
  | notText (fault : Text.Utf8.Fault)
  | other (message : String)
  | missingKey (key : Json)
  | wrongType
  | noField
  | outOfRange
  | overflow

namespace Failure

def message : Failure → String
  | .grammar path fault => placed path fault.message
  | .unresolved target _ =>
    "Could not resolve target \"" ++ target ++ "\" using deterministic locator heuristics"
  | .timedOut wait timeout => wait.message timeout
  | .missingSecret name => "Missing secret value for " ++ name
  | .patchRejected fault => fault.message
  | .noArtifact artifact cause => artifact.message ++ ": " ++ cause
  | .adapterTimeout seconds => "Repair adapter timed out after " ++ seconds ++ "s"
  | .model fault => fault.message
  | .browser message => message
  | .browserTimeout message => message
  | .expired message => message
  | .file fault => fault.message
  | .value fault => fault.message
  | .notJson fault => fault.message
  | .notText fault => fault.message
  | .other message => message
  | .missingKey key => key.shown
  | .wrongType => "a value of another type was expected"
  | .noField => "no such field"
  | .outOfRange => "list index out of range"
  | .overflow => "integer division result too large for a float"

/-- The failures that this library itself foresees. -/
def isForeseen : Failure → Bool
  | .grammar .. | .unresolved .. | .timedOut .. | .missingSecret _ | .patchRejected _
  | .noArtifact .. | .adapterTimeout _ => true
  | _ => false

/-- The failures of the browser. -/
def isBrowser : Failure → Bool
  | .browser _ | .browserTimeout _ => true
  | _ => false

/-- The failures about values, texts and numbers. -/
def isValue : Failure → Bool
  | .value _ | .notJson _ | .notText _ => true
  | _ => false

/-- The failures of the operating system. -/
def isSystem : Failure → Bool
  | .file _ | .expired _ => true
  | _ => false

end Failure
end Walkthrough
