import ContextQuery.Toml.Document
import ContextQuery.Toml.Writer

/-!
# Writing and reading documents

Tables of strings, truth values and numbers, each under a header of its own, are all that is ever
written. A library writes them as the text of a document, and reads any document.

## Main definitions

* `Scalar`, `Tables`: what is written.
* `Tables.write`: the text of a document.
* `Library`: a library that reads and writes documents; `Document.library` is the one that is used.
-/

namespace ContextQuery.Toml

/-- A value that is written. -/
inductive Scalar where
  | string (text : String)
  | boolean (value : Bool)
  | number (value : Nat)
  deriving DecidableEq

/-- Tables by the keys of their headers, and what their keys are given. -/
abbrev Tables := List (String × List (String × Scalar))

/-- The text of a value. -/
def Scalar.write : Scalar → String
  | .string text => writeString text
  | .boolean true => "true"
  | .boolean false => "false"
  | .number value => toString value

/-- The line that gives a key a value. -/
def writePair (key : String) (value : Scalar) : String :=
  writeKey key ++ " = " ++ value.write ++ "\n"

/-- The lines of a table. -/
def writeTable (name : String) (pairs : List (String × Scalar)) : String :=
  "[" ++ writeKey name ++ "]\n" ++
    pairs.foldr (fun pair text => writePair pair.1 pair.2 ++ text) ""

/-- The text of a document, with empty lines between its tables. -/
def Tables.write : Tables → String
  | [] => ""
  | [table] => writeTable table.1 table.2
  | table :: rest => writeTable table.1 table.2 ++ "\n" ++ Tables.write rest

/-- A library that reads and writes documents. -/
class Library where
  /-- The table of a document, unless the library refuses the text. -/
  parse? : String → Option Entries
  /-- The text of a document with the tables. -/
  write : Tables → String

/-- The library that is used unless another one is given. -/
instance Document.library : Library where
  parse? := Document.parse?
  write := Tables.write

end ContextQuery.Toml
