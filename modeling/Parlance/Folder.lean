import Parlance.Folder.Path
import Parlance.Text.Lines
import Parlance.Text.Quoted

/-!
The files that commands read. A place is the list of steps that lead to it from the root. There is
a folder wherever a file lies below and at the working folder and those above it.
-/

namespace Parlance

structure Folder where
  /-- Where paths start that do not start at the root. -/
  working : List String
  files : List (List String × String)
  /-- Folders that may be empty. -/
  folders : List (List String)

namespace Folder

inductive Fault where
  | missing
  | notAFolder
  | isAFolder
  | nameTooLong
  /-- The path holds a null. -/
  | nullInPath
  deriving DecidableEq, Repr

def Fault.reason : Fault → String
  | .missing => "[Errno 2] No such file or directory"
  | .notAFolder => "[Errno 20] Not a directory"
  | .isAFolder => "[Errno 21] Is a directory"
  | .nameTooLong => "[Errno 36] File name too long"
  | .nullInPath => "embedded null byte"

def Fault.message (path : Path) (fault : Fault) : String :=
  match fault with
  | .nullInPath => fault.reason
  | fault => "Cannot read " ++ path.text ++ ": " ++ fault.reason ++ ": " ++ Text.quoted path.text

/-- The most bytes that a step of a path may have. -/
def stepLimit : Nat := 255

/-- The most bytes that a path may have. -/
def pathLimit : Nat := 4095

def file? (folder : Folder) (place : List String) : Option String :=
  (folder.files.find? fun file => file.1 = place).map Prod.snd

def isFile (folder : Folder) (place : List String) : Bool := (folder.file? place).isSome

def isFolder (folder : Folder) (place : List String) : Bool :=
  place.isPrefixOf folder.working || folder.folders.contains place ||
    folder.files.any fun file => place.isPrefixOf file.1 && place ≠ file.1

/-- The place that steps lead to; all but the last must lead to folders. -/
def walk (folder : Folder) (place : List String) : List String → Except Fault (List String)
  | [] => .ok place
  | step :: rest =>
      if folder.isFolder place then
        if stepLimit < step.utf8ByteSize then .error .nameTooLong
        else walk folder (if step = ".." then place.dropLast else place ++ [step]) rest
      else if folder.isFile place then .error .notAFolder
      else .error .missing

def read (folder : Folder) (path : Path) : Except Fault String := do
  if !path.isWritable then throw .nullInPath
  if pathLimit < path.text.utf8ByteSize then throw .nameTooLong
  let place ← folder.walk (path.base folder.working) path.steps
  match folder.file? place with
  | some content => .ok (String.ofList (Text.lineFeeds content.toList))
  | none => if folder.isFolder place then .error .isAFolder else .error .missing

/-- A place and all places above it, the nearest first. -/
def upward (place : List String) : List (List String) :=
  (List.range (place.length + 1)).map fun above => place.take (place.length - above)

/-- The nearest file of a name, looked for from a path upward; from a file, next to it. -/
def nearest? (folder : Folder) (name : String) (start : Path) :
    Except Fault (Option (List String)) := do
  if !start.isWritable then throw .nullInPath
  let place := start.resolve folder.working
  if let .error .nameTooLong := folder.walk [] place then throw .nameTooLong
  let place := if folder.isFile place then place.dropLast else place
  return ((upward place).map (· ++ [name])).find? folder.isFile

end Folder

end Parlance
