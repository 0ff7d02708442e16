import Parlance.Table

/-!
Data of a settings file: scalars, lists, and tables of named data.
-/

namespace Parlance

inductive Datum where
  | absent
  | boolean (b : Bool)
  | integer (n : Int)
  | float (x : Float)
  | text (s : String)
  | date
  | time
  | dateTime
  | list (items : List Datum)
  | table (entries : List (String × Datum))

instance : Inhabited Datum := ⟨.absent⟩

namespace Datum

def typeName : Datum → String
  | .absent => "NoneType"
  | .boolean _ => "bool"
  | .integer _ => "int"
  | .float _ => "float"
  | .text _ => "str"
  | .date => "date"
  | .time => "time"
  | .dateTime => "datetime"
  | .list _ => "list"
  | .table _ => "dict"

/-- Changes the table that a path of keys leads to. Tables missing on the way are made; where
`intoLists` is set, a list on the way stands for its last item. -/
def change (intoLists : Bool) (edit : Table String Datum → Option (Table String Datum)) :
    List String → Table String Datum → Option (Table String Datum)
  | [], entries => edit entries
  | key :: path, entries =>
      match Table.get? key entries with
      | none =>
          (change intoLists edit path []).map fun inner => Table.put key (.table inner) entries
      | some (.table inner) =>
          (change intoLists edit path inner).map fun inner => Table.put key (.table inner) entries
      | some (.list items) =>
          match intoLists, items.getLast? with
          | true, some (.table inner) =>
              (change intoLists edit path inner).map fun inner =>
                Table.put key (.list (items.dropLast ++ [.table inner])) entries
          | _, _ => none
      | some _ => none

/-- Adds an entry under a key that is not there yet. -/
def addNew (key : String) (datum : Datum) (entries : Table String Datum) :
    Option (Table String Datum) :=
  if Table.has key entries then none else some (Table.put key datum entries)

end Datum

end Parlance
