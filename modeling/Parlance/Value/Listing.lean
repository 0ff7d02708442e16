import Parlance.Program.Node
import Parlance.Text.Quoted
import Parlance.Value.Host

/-!
Listings: host data and nodes written out in full, as reports of calls show their arguments. Texts
are quoted, functions and nodes are written with all their parts.
-/

namespace Parlance

def nameListing : Option String → String
  | none => "None"
  | some name => Text.quoted name

def Literal.listing : Literal → String
  | .void => "None"
  | .boolean b => if b then "True" else "False"
  | .text s => Text.quoted s
  | .number x => Decimal.text x

namespace Node

mutual

def listing : Node → String
  | .mk kind scalar boundName place children =>
      "Node(kind=<NodeKind." ++ kind.name.toUpper ++ ": '" ++ kind.name ++ "'>, value=" ++
        scalar.listing ++ ", bound_name=" ++ nameListing boundName ++ ", children=[" ++
        ", ".intercalate (listings children) ++ "], line=" ++ toString place.line ++
        ", column=" ++ toString place.column ++ ")"

def listings : List Node → List String
  | [] => []
  | node :: rest => node.listing :: listings rest

end

end Node

/-- Items in parentheses; a single one is followed by a comma. -/
def tupleListing : List String → String
  | [item] => "(" ++ item ++ ",)"
  | items => "(" ++ ", ".intercalate items ++ ")"

def Closure.listing (closure : Closure) : String :=
  let body := Node.plain .block closure.bodyPlace (Stmt.toNodes closure.body)
  let scope := match closure.scope with
    | none => "None"
    | some id => toString id
  "Closure(name=" ++ Text.quoted closure.name ++ ", params=" ++
    tupleListing (closure.params.map Text.quoted) ++ ", body=" ++ body.listing ++
    ", scope=" ++ scope ++ ")"

namespace Host

mutual

def listing : Host → String
  | .null => "None"
  | .boolean b => if b then "True" else "False"
  | .integer n => integerText n
  | .float x => Decimal.text x
  | .text s => Text.quoted s
  | .list items => "[" ++ ", ".intercalate (listings items) ++ "]"
  | .dict entries => "\x7b" ++ ", ".intercalate (entryListings entries) ++ "\x7d"
  | .value (.function closure) => closure.listing
  | .value other => other.toText

def listings : List Host → List String
  | [] => []
  | item :: rest => item.listing :: listings rest

def entryListings : List (String × Host) → List String
  | [] => []
  | (key, item) :: rest => (Text.quoted key ++ ": " ++ item.listing) :: entryListings rest

end

end Host

end Parlance
