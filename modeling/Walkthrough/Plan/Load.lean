import Walkthrough.Files
import Walkthrough.Plan.Grammar

/-!
Plans in files.
-/

namespace Walkthrough

def Plan.load (files : Files) (path : Path) : Except Failure Plan :=
  match files.readText path with
  | .error failure => .error failure
  | .ok s => Plan.parse s

end Walkthrough
