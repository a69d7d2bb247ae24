import ContextQuery.Toml.Statement

/-!
# TOML documents

The table that a document stands for. A header opens a table, and the pairs after it go there. A
table is opened once; what only its inner tables have brought about may still be opened. Lists of
tables grow by one table a header, and paths lead through their last table.

## Main definitions

* `Section`: a header with the pairs after it.
* `define?`: adds a section to the table of the document.
* `Document.parse?`: the table of a document.
-/

namespace ContextQuery.Toml

/-- A header with the pairs after it. -/
structure Section where
  path : List String
  /-- The header opens a table at the end of a list of tables. -/
  isItem : Bool
  pairs : List Pair

/-- The pairs before the first header, and the sections. -/
def sections : List Statement → List Pair × List Section
  | [] => ([], [])
  | statement :: rest =>
    let (pairs, parts) := sections rest
    match statement with
    | .pair pair => (pair :: pairs, parts)
    | .header path => ([], ⟨path, false, pairs⟩ :: parts)
    | .item path => ([], ⟨path, true, pairs⟩ :: parts)

/-- Opens a table under a key and fills it. -/
def openTable? (key : String) (isItem : Bool) (pairs : List Pair) (entries : Entries) :
    Option Entries :=
  match isItem, Entries.get? entries key with
  | false, none =>
    (insertAll? [] pairs).map fun inner => Entries.set key (.table .header inner) entries
  | false, some (.table .implied inner) =>
    (insertAll? inner pairs).map fun inner => Entries.set key (.table .header inner) entries
  | true, none =>
    (insertAll? [] pairs).map fun inner =>
      Entries.set key (.array true [.table .header inner]) entries
  | true, some (.array true items) =>
    (insertAll? [] pairs).map fun inner =>
      Entries.set key (.array true (items ++ [.table .header inner])) entries
  | _, _ => none

/-- Adds a section to a table, following the path of its header. -/
def define? (isItem : Bool) (pairs : List Pair) : List String → Entries → Option Entries
  | [], _ => none
  | [key], entries => openTable? key isItem pairs entries
  | key :: path, entries =>
    match Entries.get? entries key with
    | none =>
      (define? isItem pairs path []).map fun inner =>
        Entries.set key (.table .implied inner) entries
    | some (.table origin inner) =>
      if origin = .inline then none
      else
        (define? isItem pairs path inner).map fun inner =>
          Entries.set key (.table origin inner) entries
    | some (.array true items) =>
      (changeLast? (define? isItem pairs path) items).map fun items =>
        Entries.set key (.array true items) entries
    | some _ => none

/-- Adds sections to a table. -/
def defineAll? (entries : Entries) : List Section → Option Entries
  | [] => some entries
  | part :: rest =>
    match define? part.isItem part.pairs part.path entries with
    | some entries => defineAll? entries rest
    | none => none

/-- The table that statements make. -/
def build? (statements : List Statement) : Option Entries :=
  (insertAll? [] (sections statements).1).bind fun entries =>
    defineAll? entries (sections statements).2

/-- The text without a byte order mark at its front. -/
def dropMark (cs : List Char) : List Char :=
  match cs with
  | '\uFEFF' :: rest => rest
  | _ => cs

/-- The table of a document, if the text is one. -/
def Document.parse? (text : String) : Option Entries :=
  let cs := dropMark text.toList
  (statements? (cs.length + 1) cs).bind build?

end ContextQuery.Toml
