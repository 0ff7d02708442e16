import Parlance.Console.Width

/-!
Clusters: the smallest parts of a text that a console can show apart. A combining character belongs
to the character before it, a joiner draws the next character into the cluster, and a picture
selector may give the latest character a second cell.
-/

namespace Parlance.Console

/-- The joiner, behind which a character adds to the picture before it. -/
def joiner : Char := '\u200D'

/-- The selector behind a character that is to be shown as a picture. -/
def pictureSelector : Char := '\uFE0F'

/-- The cells that a selector adds to the latest character that takes any. -/
def growth (latest : Option Char) : Nat := if latest.any growsAsPicture then 1 else 0

/-- The cells of a text from a point on; `latest` is the last character before it that takes any
and was not yet shown as a picture. -/
def cellsFrom (latest : Option Char) : List Char → Nat
  | [] => 0
  | c :: rest =>
      if c = joiner then
        match rest with
        | [] => 0
        | _ :: rest => cellsFrom latest rest
      else if c = pictureSelector then growth latest + cellsFrom none rest
      else width c + cellsFrom (if width c = 0 then latest else some c) rest

def cells (text : List Char) : Nat := cellsFrom none text

@[simp] theorem cells_nil : cells [] = 0 := rfl

structure Cluster where
  text : List Char
  size : Nat
  deriving DecidableEq, Repr, Inhabited

namespace Cluster

def grow (cluster : Cluster) (text : List Char) (size : Nat) : Cluster :=
  ⟨cluster.text ++ text, cluster.size + size⟩

/-- The clusters of a text from a point on; `current` is the one that may still grow. A joiner or
selector that has nothing before it stands alone. -/
def splitFrom (current : Cluster) (latest : Option Char) : List Char → List Cluster
  | [] => [current]
  | c :: rest =>
      if c = joiner then
        match rest with
        | [] => [current.grow [c] 0]
        | d :: rest => splitFrom (current.grow [c, d] 0) latest rest
      else if c = pictureSelector then
        let added := growth latest
        splitFrom (current.grow [c] added) (if added = 0 then latest else none) rest
      else if width c = 0 then splitFrom (current.grow [c] 0) latest rest
      else current :: splitFrom ⟨[c], width c⟩ (some c) rest

def split : List Char → List Cluster
  | [] => []
  | c :: rest =>
      if c = joiner ∨ c = pictureSelector then splitFrom ⟨[c], 0⟩ none rest
      else splitFrom ⟨[c], width c⟩ (if width c = 0 then none else some c) rest

/-- As many clusters as fit, and a space for half a cluster that does not. -/
def take (limit : Nat) : List Cluster → List Char
  | [] => []
  | cluster :: rest =>
      if cluster.size ≤ limit then cluster.text ++ take (limit - cluster.size) rest
      else List.replicate limit ' '

/-- Pieces of a text, each of as many clusters as fit; `piece` takes `taken` cells so far. -/
def chopFrom (limit : Nat) (piece : List Char) (taken : Nat) : List Cluster → List (List Char)
  | [] => [piece]
  | cluster :: rest =>
      if limit < taken + cluster.size then
        piece :: chopFrom limit cluster.text cluster.size rest
      else chopFrom limit (piece ++ cluster.text) (taken + cluster.size) rest

end Cluster

/-- The start of a text that takes just so many cells, or all of it if it takes fewer. -/
def takeCells (limit : Nat) (text : List Char) : List Char := Cluster.take limit (Cluster.split text)

def chop (limit : Nat) (text : List Char) : List (List Char) :=
  Cluster.chopFrom limit [] 0 (Cluster.split text)

end Parlance.Console
