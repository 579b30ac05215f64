import Walkthrough.Failure
import Walkthrough.Text.Content

/-!
Browsers. A browser answers calls; each call takes some time, may change the browser, and ends with
a value or a failure. Nothing else is assumed here, so a run can be studied with any browser.
-/

namespace Walkthrough

/-- How an element is looked for. -/
inductive Key where
  | role (role name : String)
  | label (text : String)
  | placeholder (text : String)
  | text (text : String)
  | textPart (text : String)
  | css (selector : String)
  deriving DecidableEq, Repr

def Key.name : Key → String
  | .role kind s => "role:" ++ kind ++ ":" ++ s
  | .label s => "label:" ++ s
  | .placeholder s => "placeholder:" ++ s
  | .text s => "text:" ++ s
  | .textPart s => "text~:" ++ s
  | .css selector => "css:" ++ selector

/-- The state of an element that a wait is for. -/
inductive Presence where
  | attached
  | visible
  deriving DecidableEq, Repr

def Presence.name : Presence → String
  | .attached => "attached"
  | .visible => "visible"

/-- A call to a browser, with the time limits in milliseconds. -/
inductive Call where
  | openSession (headless : Bool)
  | closeSession
  | startTrace
  | stopTrace (path : String)
  | goto (url : String) (timeout : Int)
  | waitFor (key : Key) (presence : Presence) (timeout : Int)
  | click (key : Key) (timeout : Int)
  | fill (key : Key) (value : String) (timeout : Int)
  | count (key : Key)
  | waitForUrl (url : String) (matched : Bool) (timeout : Int)
  | pause (ms : Int)
  | screenshot (path : String)
  | content
  deriving DecidableEq, Repr

/-- What a call comes to: the browser after it, the time it takes, and its value or failure. -/
structure Reply (σ α : Type) where
  state : σ
  elapsed : Int
  answer : Except Failure α

/-- What a browser does at each call, from any state. -/
structure Browser (σ : Type) where
  openSession : Bool → σ → Reply σ Unit
  closeSession : σ → Reply σ Unit
  startTrace : σ → Reply σ Unit
  stopTrace : σ → Reply σ Text.Content
  goto : String → Int → σ → Reply σ Unit
  waitFor : Key → Presence → Int → σ → Reply σ Unit
  click : Key → Int → σ → Reply σ Unit
  fill : Key → String → Int → σ → Reply σ Unit
  count : Key → σ → Reply σ Nat
  innerText : Key → Nat → σ → Reply σ String
  url : σ → String
  waitForUrl : Bool → Int → σ → Reply σ Unit
  pause : Int → σ → Reply σ Unit
  screenshot : σ → Reply σ Text.Content
  content : σ → Reply σ String

end Walkthrough
