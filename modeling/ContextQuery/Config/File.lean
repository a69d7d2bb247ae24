import ContextQuery.Dialect
import ContextQuery.Toml.Library

/-!
# Configuration files

What a configuration file says. Everything may be left out; keys that mean nothing here are passed
over, though the numbers in their values must have a place in a machine.

## Main definitions

* `Config.File`: what a file says.
* `Config.File.parse?`: reads a file.
-/

namespace ContextQuery.Config

/-- The settings that a file makes. -/
structure Choices where
  version : Option String := none
  refuseEmptyTerm : Option Bool := none
  refuseQuotedName : Option Bool := none
  refuseDuplicatePrefix : Option Bool := none
  combineResultSets : Option Bool := none
  maxDepth : Option Nat := none
  deriving DecidableEq

/-- What a configuration file says. -/
structure File where
  /-- No file further away counts. -/
  root : Option Bool := none
  choices : Option Choices := none
  prefixes : Option PrefixMap := none
  deriving DecidableEq

open Toml (Entries Value)

/-! ## Values -/

/-- A string. -/
def string? : Value → Option String
  | .string text => some text
  | _ => none

/-- A truth value. -/
def boolean? : Value → Option Bool
  | .boolean value => some value
  | _ => none

/-- A number that a word of 64 bits can count to. -/
def count? : Value → Option Nat
  | .integer n => if 0 ≤ n && n < Word.count64 then some n.toNat else none
  | _ => none

/-- The key under which a date stands when it is looked at as a table. -/
def momentKey : String :=
  "$__toml_private_datetime"

/-- The entries of a table. A date is looked at as a table with one entry. -/
def entries? : Value → Option Entries
  | .table _ entries => some entries
  | .moment text => some [(momentKey, .string text)]
  | _ => none

/-! ## Settings -/

namespace Choices

/-- Takes in an entry of the table of settings. -/
def add? (c : Choices) (key : String) (value : Value) : Option Choices :=
  if key = "version" then (string? value).map fun v => { c with version := some v }
  else if key = "error_on_empty_term" then
    (boolean? value).map fun v => { c with refuseEmptyTerm := some v }
  else if key = "error_on_quoted_identifier" then
    (boolean? value).map fun v => { c with refuseQuotedName := some v }
  else if key = "error_on_duplicate_prefix" then
    (boolean? value).map fun v => { c with refuseDuplicatePrefix := some v }
  else if key = "full_result_set_name_check" then
    (boolean? value).map fun v => { c with combineResultSets := some v }
  else if key = "max_depth" then (count? value).map fun v => { c with maxDepth := some v }
  else if value.isRepresentable then some c
  else none

/-- Takes in the entries of the table of settings. -/
def addAll? (c : Choices) : Entries → Option Choices
  | [] => some c
  | entry :: rest => (c.add? entry.1 entry.2).bind fun c => c.addAll? rest

/-- The keys of the settings, in their order. -/
def keys : List String :=
  ["version", "error_on_empty_term", "error_on_quoted_identifier", "error_on_duplicate_prefix",
   "full_result_set_name_check", "max_depth"]

/-- Reads the settings from a table, or from an array that gives them in their order. -/
def ofValue? : Value → Option Choices
  | .array _ items => addAll? {} (keys.zip items)
  | value => (entries? value).bind (addAll? {})

end Choices

/-! ## Files -/

/-- Reads a table of prefixes. -/
def prefixes? (value : Value) : Option PrefixMap :=
  (entries? value).bind fun entries =>
    (entries.mapM fun entry => (string? entry.2).map fun uri => (entry.1, uri)).map .ofList

namespace File

/-- Takes in an entry of a file. -/
def add? (f : File) (key : String) (value : Value) : Option File :=
  if key = "root" then (boolean? value).map fun v => { f with root := some v }
  else if key = "parser" then (Choices.ofValue? value).map fun v => { f with choices := some v }
  else if key = "prefixes" then (prefixes? value).map fun v => { f with prefixes := some v }
  else if value.isRepresentable then some f
  else none

/-- Takes in the entries of a file. -/
def addAll? (f : File) : Entries → Option File
  | [] => some f
  | entry :: rest => (f.add? entry.1 entry.2).bind fun f => f.addAll? rest

/-- Reads a file. -/
def parse? [Toml.Library] (text : String) : Option File :=
  (Toml.Library.parse? text).bind (addAll? {})

/-- The file says that no file further away counts. -/
def isRoot (f : File) : Bool :=
  f.root = some true

end File

end ContextQuery.Config
