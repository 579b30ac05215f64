import Walkthrough.World

/-!
Finding an element for a target. Candidates are tried in order: the selector of the step, the
selector remembered for the target, and then what people would look for. Each try takes at most two
seconds, and all of them together at most the time limit of the step.
-/

namespace Walkthrough

/-- A way to find an element for a target. -/
structure Candidate where
  strategy : String
  detail : String
  key : Key
  selector : Option String
  deriving DecidableEq, Repr

namespace Candidate

def label (c : Candidate) : String :=
  c.strategy ++ ":" ++ c.detail

/-- A candidate with a selector of its own, which is worth remembering. -/
def learnable (strategy selector : String) : Candidate :=
  ⟨strategy, selector, .css selector, some selector⟩

/-- An attribute selector for a value. -/
def withAttribute (name value : String) : String :=
  "[" ++ name ++ "=" ++ String.ofList (Json.literal .ascii value) ++ "]"

/-- The candidates that come from the words of a target alone. -/
def heuristics (target : String) : List Candidate :=
  let name := withAttribute "name" target
  let aria := withAttribute "aria-label" target
  [⟨"role(button)", target, .role "button" target, none⟩,
    ⟨"role(link)", target, .role "link" target, none⟩,
    ⟨"label", target, .label target, none⟩,
    ⟨"placeholder", target, .placeholder target, none⟩,
    ⟨"text", target, .text target, none⟩,
    ⟨"text-fuzzy", target, .textPart target, none⟩,
    ⟨"css", name, .css name, none⟩,
    ⟨"css", aria, .css aria, none⟩]

/-- All candidates for a target, in the order in which they are tried. -/
def all (target : String) (selector : Option String) (profile : Profile) : List Candidate :=
  let target := Text.strip target
  ((selector.filter (· != "")).map (learnable "explicit")).toList ++
    ((profile.remembered target).map (learnable "profile")).toList ++ heuristics target

end Candidate

namespace Locate

variable {σ : Type}

/-- The longest time for one candidate, in milliseconds. -/
def probeLimit : Int := 2000

/-- Remembers the selector of a candidate that has one. -/
def learn (target : String) (c : Candidate) : Work σ Unit :=
  match c.selector with
  | some selector => modify fun w => { w with profile := w.profile.remember target selector }
  | none => pure ()

/-- Tries candidates in order until a deadline. -/
def probe (b : Browser σ) (target : String) (deadline : Instant) :
    List String → List Candidate → Work σ Candidate
  | tried, [] => throw (.unresolved target tried)
  | tried, c :: rest => do
    let remaining := deadline - (← Work.now)
    if remaining ≤ 0 then throw (.unresolved target tried)
    else
      let limit := min remaining probeLimit
      match ← Effect.attempt (Work.call (.waitFor c.key .attached limit)
          (b.waitFor c.key .attached limit)) with
      | .ok () =>
        learn target c
        pure c
      | .error failure =>
        if failure.isBrowser then probe b target deadline (tried ++ [c.label]) rest
        else throw failure

/-- The first candidate for a target that is there in time. The deadline is set in seconds, so the
time limit must not be too long for that. -/
def resolve (b : Browser σ) (target : String) (selector : Option String) (timeout : Int) :
    Work σ Candidate := do
  let _ ← Effect.ofExcept (Clock.seconds timeout)
  let w ← get
  let target := Text.strip target
  probe b target (w.now + timeout) [] (Candidate.all target selector w.profile)

end Locate
end Walkthrough
