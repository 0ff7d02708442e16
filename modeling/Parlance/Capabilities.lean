import Parlance.Text.Order
import Parlance.Unicode.Lower

/-!
Names that a program may call without saying so: host modules, and the elements of a user
interface, which one module serves. Names are compared in lower case.
-/

namespace Parlance

structure Capabilities where
  modules : List String
  elements : List String
  elementModule : String
  deriving DecidableEq, Repr, Inhabited

namespace Capabilities

def ofNames (modules elements : List String) (elementModule : String) : Capabilities :=
  ⟨modules.map Unicode.lower, elements.map Unicode.lower, Unicode.lower elementModule⟩

def standardModules : List String := ["net", "file", "vm", "serve", "view", "play"]

def standardElements : List String :=
  ["page", "header", "footer", "section", "box", "big", "text", "button", "link", "textarea",
    "code", "emoji", "grid", "panel"]

def standard : Capabilities := ofNames standardModules standardElements "view"

def isModule (capabilities : Capabilities) (name : String) : Bool :=
  capabilities.modules.contains (Unicode.lower name)

def isElement (capabilities : Capabilities) (name : String) : Bool :=
  capabilities.elements.contains (Unicode.lower name)

def moduleNames (capabilities : Capabilities) : List String :=
  Text.sortedDistinct capabilities.modules

def elementNames (capabilities : Capabilities) : List String :=
  Text.sortedDistinct capabilities.elements

def allowsImplicitCall (capabilities : Capabilities) (name : String) : Bool :=
  capabilities.isModule name || capabilities.isElement name

/-- The same names and these modules besides. -/
def withModules (capabilities : Capabilities) (names : List String) : Capabilities :=
  { capabilities with modules := capabilities.modules ++ names.map Unicode.lower }

end Capabilities

end Parlance
