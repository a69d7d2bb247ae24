import ContextQuery.Toml.Value

/-!
# Tables under construction

Keys with their values are added to a table one after the other. A key is given once. A dotted key
leads through inner tables: through tables that dotted keys have made, through tables that have no
header of their own, and through the last table of a list of tables; the value itself goes to a
table that dotted keys have made.
-/

namespace ContextQuery.Toml

/-- Changes the table at the end of a list of tables. -/
def changeLast? (change : Entries → Option Entries) (items : List Value) : Option (List Value) :=
  match items.getLast? with
  | some (.table origin inner) =>
    (change inner).map fun inner => items.dropLast ++ [.table origin inner]
  | _ => none

/-- Adds a value under a dotted key. The flag says that the value may go to this very table. -/
def insert? (value : Value) (free : Bool) : List String → Entries → Option Entries
  | [], _ => none
  | [key], entries =>
    if free && (Entries.get? entries key).isNone then some (Entries.set key value entries) else none
  | key :: path, entries =>
    match Entries.get? entries key with
    | none =>
      (insert? value true path []).map fun inner => Entries.set key (.table .dotted inner) entries
    | some (.table .dotted inner) =>
      (insert? value true path inner).map fun inner =>
        Entries.set key (.table .dotted inner) entries
    | some (.table .implied inner) =>
      (insert? value false path inner).map fun inner =>
        Entries.set key (.table .implied inner) entries
    | some (.array true items) =>
      (changeLast? (insert? value false path) items).map fun items =>
        Entries.set key (.array true items) entries
    | some _ => none

/-- A dotted key with its value. -/
structure Pair where
  path : List String
  value : Value

/-- Adds keys with their values to a table. -/
def insertAll? (entries : Entries) : List Pair → Option Entries
  | [] => some entries
  | pair :: rest =>
    match insert? pair.value true pair.path entries with
    | some entries => insertAll? entries rest
    | none => none

end ContextQuery.Toml
