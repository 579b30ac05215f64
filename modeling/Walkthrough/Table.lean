/-!
Tables: values under text keys, in the order in which the keys were first written. A later write
under a known key replaces the value and keeps the place.
-/

namespace Walkthrough

/-- Entries in order; no key occurs twice in a table built by `Table.set`. -/
abbrev Table (α : Type) := List (String × α)

namespace Table

variable {α : Type}

def get? (t : Table α) (key : String) : Option α :=
  (t.find? fun entry => entry.1 == key).map (·.2)

def has (t : Table α) (key : String) : Bool :=
  t.any fun entry => entry.1 == key

def set : Table α → String → α → Table α
  | [], key, value => [(key, value)]
  | (k, v) :: rest, key, value =>
    if k = key then (k, value) :: rest else (k, v) :: set rest key value

def erase (t : Table α) (key : String) : Table α :=
  t.filter fun entry => entry.1 != key

def update (t : Table α) (other : Table α) : Table α :=
  other.foldl (fun acc entry => set acc entry.1 entry.2) t

def keys (t : Table α) : List String :=
  t.map (·.1)

end Table
end Walkthrough
