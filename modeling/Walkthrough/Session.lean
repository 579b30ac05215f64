import Walkthrough.Effect

/-!
Browser sessions. A session is set up step by step on an engine, any step of which may fail: the
engine is entered, a browser is launched, and a context and a page are made in it. While the session
is open its trace may be started and stopped. At the end the context and the browser are closed, and
the engine is left. All that happens is kept in order.
-/

namespace Walkthrough.Session

/-- What an engine is asked to do. -/
inductive Act where
  | enter
  | launch (headless : Bool)
  | newContext
  | newPage
  | startTracing
  | stopTracing (path : String)
  | closeContext
  | closeBrowser
  | leave
  deriving DecidableEq, Repr

/-- What is asked of an open session: to start its trace, to stop it and keep it in a file, or to
give the session up. -/
inductive Request where
  | startTrace
  | stopTrace (path : String)
  | giveUp (message : String)
  deriving DecidableEq, Repr

/-- Something that happened: a request, or an act of the engine. -/
inductive Entry where
  | request (request : Request)
  | act (act : Act)
  deriving DecidableEq, Repr

/-- Which acts fail, given all that happened before. -/
abbrev Engine := List Entry → Act → Option Failure

/-- What happened in a session, whether a trace is being taken, and how the requests ended. -/
structure State where
  entries : List Entry
  isTracing : Bool
  results : List (Except Failure Unit)

abbrev Work (α : Type) := Effect State α

def keep (entry : Entry) : Work Unit :=
  modify fun s => { s with entries := s.entries ++ [entry] }

def perform (engine : Engine) (act : Act) : Work Unit := do
  let before := (← get).entries
  keep (.act act)
  match engine before act with
  | none => pure ()
  | some failure => throw failure

def startTrace (engine : Engine) : Work Unit := do
  perform engine .startTracing
  modify fun s => { s with isTracing := true }

/-- Stops the trace; without one there is nothing to do. A trace that cannot be stopped counts as
stopped. -/
def stopTrace (engine : Engine) (path : String) : Work Unit := do
  if (← get).isTracing then
    modify fun s => { s with isTracing := false }
    perform engine (.stopTracing path)

/-- Carries out a request; how it ended does not keep the next one from being made. -/
def serve (x : Work Unit) : Work Unit := do
  let answer ← Effect.attempt x
  modify fun s => { s with results := s.results ++ [answer] }

/-- Carries out requests up to one that gives the session up. -/
def serveAll (engine : Engine) : List Request → Work Unit
  | [] => pure ()
  | request :: rest => do
    keep (.request request)
    match request with
    | .startTrace => serve (startTrace engine)
    | .stopTrace path => serve (stopTrace engine path)
    | .giveUp message => throw (.other message)
    serveAll engine rest

/-- Closes the context and then the browser. -/
def close (engine : Engine) : Work Unit := do
  perform engine .closeContext
  perform engine .closeBrowser

/-- Opens a session, carries out requests in it, and closes it. -/
def use (engine : Engine) (headless : Bool) (requests : List Request) : Work Unit := do
  perform engine .enter
  Effect.andFinally
    (do
      perform engine (.launch headless)
      perform engine .newContext
      Effect.andFinally
        (do
          perform engine .newPage
          serveAll engine requests)
        (close engine))
    (perform engine .leave)

/-- How a session ends, and what happened in it. -/
def run (engine : Engine) (headless : Bool) (requests : List Request) :
    Except Failure Unit × State :=
  (use engine headless requests).run.run ⟨[], false, []⟩

end Walkthrough.Session
