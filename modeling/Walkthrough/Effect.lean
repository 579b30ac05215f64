import Walkthrough.Failure

/-!
Work that changes a state and ends with a value or a failure. What was done before a failure stays
done, and a failure can be looked at, handled, or put off until some last work is done.
-/

namespace Walkthrough

/-- Work on a state. -/
abbrev Effect (S α : Type) := ExceptT Failure (StateM S) α

namespace Effect

variable {S α : Type}

/-- Work that ends with a value or a failure and changes nothing. -/
def ofExcept (x : Except Failure α) : Effect S α :=
  ExceptT.mk (pure x)

/-- Work with its failure, if it fails, as a value. -/
def attempt (x : Effect S α) : Effect S (Except Failure α) :=
  ExceptT.mk fun s => match x.run s with
    | (answer, s) => (.ok answer, s)

/-- Work, and then more work, whether the first fails or not. If the second fails, its failure is
the one that counts. -/
def andFinally (x : Effect S α) (last : Effect S Unit) : Effect S α := do
  let answer ← attempt x
  last
  ofExcept answer

/-- Work whose failures of some kind are handled. -/
def handling (x : Effect S α) (handles : Failure → Bool) (handler : Failure → Effect S α) :
    Effect S α := do
  match ← attempt x with
  | .ok value => pure value
  | .error failure => if handles failure then handler failure else throw failure

end Effect
end Walkthrough
