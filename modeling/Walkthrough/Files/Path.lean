import Walkthrough.Text.Split

/-!
Paths of files: a root, empty for relative paths, and the parts after it. Empty parts and single
dots are dropped when a text is read, double dots are kept. Resolving a path settles the double dots
too.
-/

namespace Walkthrough

structure Path where
  root : String
  parts : List String
  deriving DecidableEq, Repr, Inhabited

namespace Path

def keptParts (pieces : List (List Char)) : List String :=
  (pieces.filter fun piece => piece ≠ [] && piece ≠ ['.']).map String.ofList

/-- The path that a text names. Exactly two leading slashes are a root of their own. -/
def ofText (s : String) : Path :=
  let cs := s.toList
  let slashes := (cs.takeWhile (· = '/')).length
  let root := if slashes = 0 then "" else if slashes = 2 then "//" else "/"
  ⟨root, keptParts (Text.splitAt '/' cs)⟩

/-- The text of a path; the empty relative path is a dot. -/
def text (p : Path) : String :=
  let body := p.root ++ Text.join "/" p.parts
  if body = "" then "." else body

/-- A path seen from another one; a path with a root stands for itself. -/
def join (p q : Path) : Path :=
  if q.root = "" then ⟨p.root, p.parts ++ q.parts⟩ else q

/-- A path with the text of another one after it. -/
def child (p : Path) (name : String) : Path :=
  p.join (ofText name)

def parent (p : Path) : Path :=
  ⟨p.root, p.parts.dropLast⟩

/-- One part more on a list of settled parts; double dots take one away, and stop at the root. -/
def step (settled : List String) (part : String) : List String :=
  if part = ".." then settled.dropLast else settled ++ [part]

/-- Settles the double dots of a path seen from a working directory. -/
def resolve (p : Path) (home : List String) : List String :=
  p.parts.foldl step (if p.root = "" then home else [])

/-- Whether one list of parts lies strictly inside another. -/
def isInside (base inner : List String) : Bool :=
  base.isPrefixOf inner && base.length < inner.length

/-- The path from the root on with some parts. -/
def ofParts (parts : List String) : Path :=
  ⟨"/", parts⟩

/-- The place that a name stands for inside a base directory, if it lies strictly inside it. -/
def inside? (base : List String) (name : String) : Option (List String) :=
  let place := (ofText name).resolve base
  if isInside base place then some place else none

/-- Whether a text cannot name a file. -/
def hasNull (s : String) : Bool :=
  s.toList.contains '\x00'

end Path
end Walkthrough
