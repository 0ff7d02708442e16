import Parlance.Program.Node
import Parlance.Text.Quoted

/-!
Programs as JSON documents. Every node is an object on lines of its own, each level two spaces
further in; members that hold nothing are left out.
-/

namespace Parlance

/-- The shortest text that reads back, positional from a hundred-thousandth on and up to ten to the
sixteenth, with no more digits in an exponent than it has. -/
def Decimal.compact : Layout := ⟨-5, 16, true, true, 1⟩

namespace Json

/-- A character inside a string: the double quote, the backslash and control characters are
escaped. -/
def escape (c : Char) : List Char :=
  if c = '"' ∨ c = '\\' then ['\\', c]
  else if c = '\x08' then ['\\', 'b']
  else if c = '\t' then ['\\', 't']
  else if c = '\n' then ['\\', 'n']
  else if c = '\x0c' then ['\\', 'f']
  else if c = '\r' then ['\\', 'r']
  else if c.toNat < 0x20 then '\\' :: 'u' :: Text.hex 4 c.toNat
  else [c]

def string (text : String) : String :=
  String.ofList ('"' :: text.toList.flatMap escape ++ ['"'])

/-- A number; what is not finite has no form in JSON. -/
def number (x : Float) : String :=
  if x.isFinite then Decimal.compact.text Decimal.shortest x else "null"

def scalar : Literal → String
  | .void => "null"
  | .boolean b => if b then "true" else "false"
  | .text s => string s
  | .number x => number x

/-- A value between brackets, each item on a line of its own. -/
def bracketed (margin opening closing : String) (items : List String) : String :=
  opening ++ "\n" ++ ",\n".intercalate items ++ "\n" ++ margin ++ closing

end Json

namespace Node

mutual

/-- The document of a node that begins at a margin. -/
def json (margin : String) : Node → String
  | .mk kind scalar boundName place children =>
      let inner := margin ++ "  "
      let value := match scalar with
        | .void => []
        | scalar => [("value", Json.scalar scalar)]
      let items := match children with
        | [] => []
        | children =>
            [("children", Json.bracketed inner "[" "]" (jsonItems (inner ++ "  ") children))]
      let members := [("kind", Json.string kind.name)] ++ value ++
        (boundName.toList.map fun name => ("bound_name", Json.string name)) ++ items ++
        [("line", toString place.line), ("column", toString place.column)]
      Json.bracketed margin "\x7b" "\x7d"
        (members.map fun member => inner ++ Json.string member.1 ++ ": " ++ member.2)

def jsonItems (margin : String) : List Node → List String
  | [] => []
  | node :: rest => (margin ++ node.json margin) :: jsonItems margin rest

end

end Node

end Parlance
