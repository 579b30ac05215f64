import Walkthrough.Locate
import Walkthrough.Run.Report
import Walkthrough.Secret

/-!
Carrying out actions. An action that fails in a foreseen way, by the browser or by its own values,
fails its step, and then the page is kept as a screenshot and a snapshot, as far as that works.
Other failures end the whole run.
-/

namespace Walkthrough

/-- What actions are carried out with: a browser, the time limit in milliseconds, the values of
secrets, and the log and directory of the run. -/
structure Stage (σ : Type) where
  browser : Browser σ
  timeoutMs : Int
  secrets : Secret.Store
  runDir : Path

/-- A list of texts with the name it goes by. -/
abbrev Extract := String × List String

def runLog (runDir : Path) : Path :=
  runDir.child "runner.log"

/-- Writes a line to the log of a run. A log that cannot be written is passed over. -/
def logTo {σ : Type} (runDir : Path) (level : Level) (message : String) : Work σ Unit :=
  modify fun w =>
    match w.files.append (runLog runDir) ((⟨level, message⟩ : LogLine).text w.now []) with
    | .ok files => { w with files := files }
    | .error _ => w

namespace Stage

variable {σ : Type}

def log (stage : Stage σ) (level : Level) (message : String) : Work σ Unit :=
  logTo stage.runDir level message

/-- A text among the arguments of an action that may not be empty. -/
def ensureText (payload : Table Json) (key : String) : Except Failure String :=
  match Table.get? payload key with
  | some (.str s) => if s = "" then .error (.value (.missingEntry key)) else .ok s
  | _ => .error (.value (.missingEntry key))

def text? (payload : Table Json) (key : String) : Option String :=
  (Table.get? payload key).bind Json.str?

/-- Whether a failure is the browser's own running out of time. -/
def isTimeout : Failure → Bool
  | .browserTimeout _ => true
  | _ => false

/-- A call that says in words when it ran out of time. -/
def waiting {α : Type} (wait : Wait) (timeout : String) (x : Work σ α) : Work σ α :=
  Effect.handling x isTimeout fun _ => throw (.timedOut wait timeout)

def goto (stage : Stage σ) (payload : Table Json) : Work σ Unit := do
  let url ← Effect.ofExcept (ensureText payload "url")
  let limit := stage.timeoutMs
  waiting (.navigation url) (toString limit)
    (Work.call (.goto url limit) (stage.browser.goto url limit))

def click (stage : Stage σ) (payload : Table Json) : Work σ Unit := do
  let target ← Effect.ofExcept (ensureText payload "target")
  let limit := stage.timeoutMs
  let found ← Locate.resolve stage.browser target (text? payload "selector") limit
  waiting (.click target) (toString limit)
    (Work.call (.click found.key limit) (stage.browser.click found.key limit))

/-- Fills what a field's name stands for, with the values of secrets. -/
def fill (stage : Stage σ) (payload : Table Json) : Work σ Unit := do
  let field ← Effect.ofExcept (ensureText payload "field")
  let value ← Effect.ofExcept (ensureText payload "value")
  let limit := stage.timeoutMs
  let found ← Locate.resolve stage.browser field (text? payload "selector") limit
  let plain ← Effect.ofExcept (Secret.resolve stage.secrets value)
  waiting (.fill field) (toString limit)
    (Work.call (.fill found.key plain limit) (stage.browser.fill found.key plain limit))

def awaitElement (stage : Stage σ) (key : Key) (presence : Presence) (wait : Wait)
    (timeout : Json) (limit : Int) : Work σ Unit :=
  waiting wait timeout.display
    (Work.call (.waitFor key presence limit) (stage.browser.waitFor key presence limit))

def awaitUrl (stage : Stage σ) (fragment : String) (timeout : Json) (limit : Int) :
    Work σ Unit := do
  let url := stage.browser.url (← get).browser
  let matched := Text.occursIn fragment.toList url.toList
  waiting (.address fragment) timeout.display
    (Work.call (.waitForUrl url matched limit) (stage.browser.waitForUrl matched limit))

/-- The time limit among the arguments of an action, as written and in milliseconds. -/
def limitOf (stage : Stage σ) (payload : Table Json) : Json × Int :=
  match Table.get? payload "timeoutMs" with
  | some v =>
    match v.toInt? with
    | some n => (v, n)
    | none => (.int stage.timeoutMs, stage.timeoutMs)
  | none => (.int stage.timeoutMs, stage.timeoutMs)

def expect (stage : Stage σ) (payload : Table Json) : Work σ Unit :=
  let (timeout, limit) := limitOf stage payload
  match text? payload "textVisible", text? payload "urlIncludes",
      text? payload "elementVisible" with
  | some s, _, _ => awaitElement stage (.textPart s) .visible (.content s) timeout limit
  | none, some fragment, _ => awaitUrl stage fragment timeout limit
  | none, none, some selector =>
    awaitElement stage (.css selector) .visible (.element selector) timeout limit
  | none, none, none => throw (.value (.noCondition "expect"))

def waitFor (stage : Stage σ) (payload : Table Json) : Work σ Unit :=
  let limit := stage.timeoutMs
  match text? payload "textVisible", text? payload "selector",
      (Table.get? payload "timeoutMs").bind Json.toInt? with
  | some s, _, _ => awaitElement stage (.textPart s) .visible (.content s) (.int limit) limit
  | none, some selector, _ =>
    awaitElement stage (.css selector) .attached (.element selector) (.int limit) limit
  | none, none, some ms => Work.call (.pause ms) (stage.browser.pause ms)
  | none, none, none => throw (.value (.noCondition "waitFor"))

/-- The texts of a number of elements from an index on, blanks collapsed and empty ones left out. -/
def readTexts (stage : Stage σ) (key : Key) : Nat → Nat → Work σ (List String)
  | _, 0 => pure []
  | index, n + 1 => do
    let s ← Work.receive (stage.browser.innerText key index)
    let rest ← readTexts stage key (index + 1) n
    let kept := Text.collapse s
    pure (if kept = "" then rest else kept :: rest)

def extract (stage : Stage σ) (payload : Table Json) : Work σ Extract := do
  let selector ← Effect.ofExcept (ensureText payload "selector")
  let outputKey ← Effect.ofExcept (ensureText payload "outputKey")
  let limit := ((Table.get? payload "limit").bind Json.toInt?).getD Action.defaultLimit
  let key := Key.css selector
  let count ← Work.call (.count key) (stage.browser.count key)
  let texts ← readTexts stage key 0 (min limit count).toNat
  return (outputKey, texts)

def act (stage : Stage σ) (action : Action) : Work σ (Option Extract) :=
  match action.kind with
  | "goto" => do goto stage action.payload; return none
  | "click" => do click stage action.payload; return none
  | "fill" => do fill stage action.payload; return none
  | "expect" => do expect stage action.payload; return none
  | "waitFor" => do waitFor stage action.payload; return none
  | "extractTextList" => do return some (← extract stage action.payload)
  | other => throw (.value (.unknownStep other))

/-- How much of a page a snapshot keeps, in characters. -/
def snapshotLimit : Nat := 20000

/-- Whether an artifact that fails so is only noted. -/
def isTolerated (failure : Failure) : Bool :=
  failure.isBrowser || failure.isSystem

/-- Makes an artifact; if that does not work, says so in the log. -/
def tolerating (stage : Stage σ) (artifact : Artifact) (path : String) (x : Work σ Unit) :
    Work σ (Option String) := do
  match ← Effect.attempt x with
  | .ok () => return some path
  | .error failure =>
    if isTolerated failure then
      stage.log .error (Failure.noArtifact artifact failure.message).message
      return none
    else throw failure

def excerpt (html : String) : String :=
  String.ofList (html.toList.take snapshotLimit)

/-- Keeps the page after a failure of a step: a screenshot, and then a snapshot. -/
def keepEvidence (stage : Stage σ) (number : Nat) : Work σ (Option String × Option String) := do
  let image := stage.runDir.child s!"failure-step-{number}.png"
  let dom := stage.runDir.child s!"failure-step-{number}.dom.html"
  let screenshot ← stage.tolerating .screenshot image.text do
    let data ← Work.call (.screenshot image.text) stage.browser.screenshot
    Work.writeFile image data
  let snapshot ← stage.tolerating .snapshot dom.text do
    let html ← Work.call .content stage.browser.content
    Work.writeFile dom (.text (excerpt html))
  return (screenshot, snapshot)

/-- Whether a failure fails its step, and not the whole run. -/
def failsStep (failure : Failure) : Bool :=
  failure.isForeseen || failure.isBrowser || failure.isValue

/-- What carrying out a primitive step comes to: its report, the texts extracted, and after a
failure the evidence kept. -/
structure Outcome where
  report : StepReport
  extract : Option Extract
  evidence : Option (Option String × Option String)
  deriving Inhabited

def run (stage : Stage σ) (p : Primitive) : Work σ Outcome := do
  let started ← Work.now
  stage.log .info s!"Step {p.index + 1}: {p.description}"
  match ← Effect.attempt (stage.act p.toAction) with
  | .ok extract =>
    let ended ← Work.now
    let report : StepReport :=
      ⟨p.index, p.kind, p.description, .passed, started, ended, ended - started, none, none⟩
    return ⟨report, extract, none⟩
  | .error failure =>
    if failsStep failure then
      let duration := (← Work.now) - started
      stage.log .warning s!"Step {p.index + 1} failed: {failure.message}"
      let (screenshot, snapshot) ← stage.keepEvidence (p.index + 1)
      let ended ← Work.now
      let report : StepReport :=
        ⟨p.index, p.kind, p.description, .failed, started, ended, duration, some failure.message,
          some (screenshot.toList ++ snapshot.toList)⟩
      return ⟨report, none, some (screenshot, snapshot)⟩
    else throw failure

end Stage
end Walkthrough
