import Parlance.Folder
import Parlance.Settings.Data
import Parlance.Toml.Document

/-!
Settings files. A file is a TOML document; without an explicit path the nearest file of the
standard name counts, and without any the standard settings do.
-/

namespace Parlance.Settings

/-- Why a settings file cannot be used. -/
inductive Fault where
  | unreadable (path : Path) (fault : Folder.Fault)
  | invalidDocument
  | overlongNumber (digits : Nat)
  | flawed (flaw : Flaw)
  deriving DecidableEq, Repr

def Fault.message : Fault → String
  | .unreadable path fault => fault.message path
  | .invalidDocument => "Invalid TOML"
  | .overlongNumber digits =>
      "Exceeds the limit (" ++ toString Toml.digitLimit ++ " digits) for integer string conversion: "
        ++ "value has " ++ toString digits ++ " digits; use sys.set_int_max_str_digits() to "
        ++ "increase the limit"
  | .flawed flaw => flaw.message

def fileName : String := "azalea.toml"

def ofDocument (text : String) : Except Fault Settings :=
  match Toml.document text with
  | .error .invalid => .error .invalidDocument
  | .error (.overlong digits) => .error (.overlongNumber digits)
  | .ok data => (ofData data).mapError .flawed

def load (folder : Folder) (path : Path) : Except Fault Settings := do
  let text ← (folder.read path).mapError (.unreadable path)
  ofDocument text

/-- The place of the settings file that counts for what starts at a path. -/
def find? (folder : Folder) (start : Path) : Except Folder.Fault (Option (List String)) :=
  folder.nearest? fileName start

/-- The settings at an explicit path, or else those of the nearest file, or else the standard. -/
def choose (folder : Folder) (explicit : Option Path) (start : Path) : Except Fault Settings :=
  match explicit, find? folder start with
  | some path, _ => load folder path
  | none, .error fault => .error (.unreadable start fault)
  | none, .ok (some place) => load folder ⟨.root, place⟩
  | none, .ok none => .ok .standard

end Parlance.Settings
