/-!
Paths as commands name them: steps separated by slashes, from the root or from the working folder.
A single point and an empty step say nothing and are dropped; two points lead to the folder above.
Just two slashes at the start stay two, all other runs of slashes are one.
-/

namespace Parlance

/-- Where a path starts. -/
inductive Path.Start where
  | working
  | root
  /-- The root too, written with two slashes. -/
  | doubleRoot
  deriving DecidableEq, Repr, Inhabited

structure Path where
  start : Path.Start
  steps : List String
  deriving DecidableEq, Repr, Inhabited

namespace Path

def Start.ofText (text : List Char) : Start :=
  match (text.takeWhile (· = '/')).length with
  | 0 => .working
  | 2 => .doubleRoot
  | _ => .root

def Start.text : Start → String
  | .working => ""
  | .root => "/"
  | .doubleRoot => "//"

def ofText (text : String) : Path where
  start := .ofText text.toList
  steps := ((text.toList.splitOn '/').map String.ofList).filter fun step => step ≠ "" ∧ step ≠ "."

def text (path : Path) : String :=
  if path.start = .working ∧ path.steps = [] then "."
  else path.start.text ++ "/".intercalate path.steps

def name (path : Path) : String := path.steps.getLast?.getD ""

def parent (path : Path) : Path := { path with steps := path.steps.dropLast }

/-- The place where a path starts, as steps from the root, for one who stands in `working`. -/
def base (working : List String) (path : Path) : List String :=
  if path.start = .working then working else []

/-- The place that a path names, as steps from the root. Whether the folders on the way exist does
not count. -/
def resolve (working : List String) (path : Path) : List String :=
  let step (place : List String) (name : String) :=
    if name = ".." then place.dropLast else place ++ [name]
  path.steps.foldl step (path.base working)

/-- Whether a text can be a path at all; a null would end it early. -/
def isWritable (path : Path) : Bool := !path.steps.any fun step => step.toList.contains '\x00'

end Path

end Parlance
