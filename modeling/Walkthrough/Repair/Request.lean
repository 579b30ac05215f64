import Walkthrough.Files
import Walkthrough.Run.Record

/-!
Asking for a repair. A request shows the plan, the record of the failed run and the page as it was;
an adapter answers it with any JSON value, not at all, or by failing.
-/

namespace Walkthrough.Repair

/-- What an adapter is told. -/
structure Request where
  plan : Plan
  record : Record
  snapshot : Option String
  screenshot : Option String
  deriving Inhabited

/-- How an adapter answers. -/
inductive Answer where
  | value (raw : Json)
  | silence
  | failure (failure : Failure)
  deriving Inhabited

/-- What answers requests: the answer to the request of an attempt, and what happens to files
before it is given. -/
structure Adapter where
  answer : Nat → Request → Answer
  touch : Nat → Request → Files → Files

/-- An adapter that leaves files alone. -/
def Adapter.ofAnswer (answer : Nat → Request → Answer) : Adapter :=
  ⟨answer, fun _ _ files => files⟩

end Walkthrough.Repair
