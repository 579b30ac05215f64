import Walkthrough.EnvFile
import Walkthrough.Files
import Walkthrough.Secret

/-!
Where the values of secrets come from: the environment of the process, and over it the variables of
an optional file. A file that does not exist is an empty one.
-/

namespace Walkthrough.Secret

/-- The store of secrets for an environment and an optional file of variables. -/
def Store.build (environment : Table String) (files : Files) (file : Option Path) :
    Except Failure Store :=
  match file with
  | none => .ok environment
  | some path =>
    if files.isFile path then
      match files.readText path with
      | .ok s => .ok (Table.update environment (EnvFile.variablesIn environment s))
      | .error failure => .error failure
    else .ok environment

end Walkthrough.Secret
