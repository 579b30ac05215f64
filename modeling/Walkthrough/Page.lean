import Walkthrough.Browser
import Walkthrough.Table

/-!
Pages that follow a script. A page has elements, each with texts and a delay before it is there;
clicks may change the address and the elements; and any call may be scripted to fail.
-/

namespace Walkthrough

/-- What a click changes, besides nothing. -/
structure ClickEffect where
  url : Option String
  add : Table (List String)
  remove : List String
  deriving Inhabited

/-- A page. Elements are named by how they are looked for, and failing calls by labels. -/
structure Page where
  url : String
  html : String
  elements : Table (List String)
  delays : Table Int
  redirects : Table String
  onClick : Table ClickEffect
  faults : Table Failure
  deriving Inhabited

namespace Page

def blank : Page :=
  ⟨"about:blank", "<html></html>", [], [], [], [], []⟩

/-- The failure of waiting in vain. -/
def timedOut (timeout : Int) : Failure :=
  .browserTimeout s!"Timeout {timeout}ms exceeded."

/-- The reply of a call that fails by script; a scripted timeout takes the time limit. -/
def faulty {α : Type} (p : Page) (timeout : Int) : Failure → Reply Page α
  | .browserTimeout message => ⟨p, timeout, .error (.browserTimeout message)⟩
  | failure => ⟨p, 0, .error failure⟩

/-- A reply, unless the call fails by script. -/
def unlessFaulty {α : Type} (p : Page) (label : String) (timeout : Int) (reply : Reply Page α) :
    Reply Page α :=
  match Table.get? p.faults label with
  | some failure => faulty p timeout failure
  | none => reply

def delay? (p : Page) (key : Key) : Option Int :=
  if Table.has p.elements key.name then some ((Table.get? p.delays key.name).getD 0) else none

/-- A reply that waits for an element: it is found after its delay, or the time runs out. -/
def awaiting (p : Page) (key : Key) (timeout : Int) (after : Page) : Reply Page Unit :=
  match p.delay? key with
  | some delay =>
    if delay ≤ timeout then ⟨after, delay, .ok ()⟩ else ⟨p, timeout, .error (timedOut timeout)⟩
  | none => ⟨p, timeout, .error (timedOut timeout)⟩

def clicked (p : Page) (key : Key) : Page :=
  match Table.get? p.onClick key.name with
  | none => p
  | some effect =>
    { p with
      url := effect.url.getD p.url
      elements := effect.remove.foldl Table.erase (Table.update p.elements effect.add) }

def texts (p : Page) (key : Key) : List String :=
  (Table.get? p.elements key.name).getD []

/-- A reply that takes no time and leaves the page as it is. -/
def atOnce {α : Type} (p : Page) (value : α) : Reply Page α :=
  ⟨p, 0, .ok value⟩

/-- The browser that shows a scripted page. -/
def browser : Browser Page where
  openSession _ p := p.unlessFaulty "launch" 0 (p.atOnce ())
  closeSession p := p.atOnce ()
  startTrace p := p.unlessFaulty "start_trace" 0 (p.atOnce ())
  stopTrace p := p.unlessFaulty "stop_trace" 0 (p.atOnce (.text "PK fake trace"))
  goto url timeout p :=
    p.unlessFaulty ("goto:" ++ url) timeout
      ⟨{ p with url := (Table.get? p.redirects url).getD url }, 0, .ok ()⟩
  waitFor key _ timeout p :=
    p.unlessFaulty ("wait:" ++ key.name) timeout (p.awaiting key timeout p)
  click key timeout p :=
    p.unlessFaulty ("click:" ++ key.name) timeout (p.awaiting key timeout (p.clicked key))
  fill key _ timeout p :=
    p.unlessFaulty ("fill:" ++ key.name) timeout (p.awaiting key timeout p)
  count key p := p.unlessFaulty ("count:" ++ key.name) 0 (p.atOnce (p.texts key).length)
  innerText key index p :=
    p.unlessFaulty ("text:" ++ key.name) 0 (p.atOnce ((p.texts key)[index]?.getD ""))
  url p := p.url
  waitForUrl matched timeout p :=
    p.unlessFaulty "url" timeout
      (if matched then p.atOnce () else ⟨p, timeout, .error (timedOut timeout)⟩)
  pause ms p := p.unlessFaulty "pause" 0 ⟨p, ms, .ok ()⟩
  screenshot p := p.unlessFaulty "screenshot" 0 (p.atOnce (.text "PNG fake"))
  content p := p.unlessFaulty "content" 0 (p.atOnce p.html)

end Page
end Walkthrough
