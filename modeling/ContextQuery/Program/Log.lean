import ContextQuery.Config.Discovery
import ContextQuery.Query.Journal
import ContextQuery.Text.Escaped
import ContextQuery.Token.Lexer

/-!
# Log records

What the parts of the program note while they work, as lines, and which of these lines are shown.
A filter is a list of directives: each sets the level for the parts whose names start in a certain
way, and of several such directives the one with the longest name counts.
-/

namespace ContextQuery

namespace Log

/-- How weighty a record is, from the weightiest down. -/
inductive Level where
  | error
  | warn
  | info
  | debug
  | trace
  deriving DecidableEq

namespace Level

/-- The name of a level. -/
def name : Level → String
  | error => "ERROR"
  | warn => "WARN"
  | info => "INFO"
  | debug => "DEBUG"
  | trace => "TRACE"

/-- The number of a level. -/
def number : Level → Nat
  | error => 1
  | warn => 2
  | info => 3
  | debug => 4
  | trace => 5

/-- All levels. -/
def all : List Level :=
  [error, warn, info, debug, trace]

end Level

/-- A record: the part that notes it, what it says, and the values that go with it. -/
structure Record where
  level : Level
  target : String
  message : String
  fields : List (String × String) := []
  deriving DecidableEq

/-- The line of a record. -/
def Record.line (r : Record) : String :=
  r.level.name ++ " " ++ r.target ++ ": " ++ r.message ++
    r.fields.foldr (fun field text => " " ++ field.1 ++ "=" ++ field.2 ++ text) "" ++ "\n"

/-! ## Filters -/

/-- Sets the level for the parts whose names start with the target; without a level nothing is
shown. -/
structure Directive where
  target : String
  level : Option Level
  deriving DecidableEq

/-- A list of directives; of two for the same target the later one counts. -/
abbrev Filter := List Directive

/-- The directive that counts for a part. -/
def Filter.directive? (filter : Filter) (target : String) : Option Directive :=
  filter.foldl
    (fun best d =>
      if d.target.toList.isPrefixOf target.toList &&
          best.all fun (b : Directive) => b.target.length ≤ d.target.length then some d
      else best)
    none

/-- A record is shown. -/
def Filter.shows (filter : Filter) (r : Record) : Bool :=
  ((filter.directive? r.target).bind (·.level)).any fun level => r.level.number ≤ level.number

/-- The same level for all parts. -/
def Filter.uniform (level : Option Level) : Filter :=
  [⟨"", level⟩]

/-- Reads a level by its name in any case or by its number; nothing is shown at level `off`. -/
def Level.parse? (text : String) : Option (Option Level) :=
  let word := String.ofList (text.toList.map Char.toUpper)
  if word = "OFF" || word = "0" then some none
  else (Level.all.find? fun l => l.name = word || toString l.number = word).map some

/-- A character that a directive may start with. -/
def startsDirective (c : Char) : Bool :=
  Text.isAlphanumeric c || c = '-' || c = ':' || c = '_'

/-- Reads a directive: a level, a target, or both with an equals sign between them. A target without
a level shows everything. -/
def Directive.parse? (text : String) : Option Directive :=
  let cs := text.toList
  if !(cs.head?.any startsDirective) then none
  else
    match cs.dropWhile (· ≠ '=') with
    | [] =>
      match Level.parse? text with
      | some level => some ⟨"", level⟩
      | none => some ⟨text, some .trace⟩
    | _ :: level =>
      let target := String.ofList (cs.takeWhile (· ≠ '='))
      if level.isEmpty then some ⟨target, some .trace⟩
      else (Level.parse? (String.ofList level)).map fun level => ⟨target, level⟩

/-- Reads a filter: directives set apart by commas. The empty text shows errors only. -/
def Filter.parse? (text : String) : Option Filter :=
  if text.isEmpty then some (.uniform (some .error))
  else ((text.toList.splitOn ',').map String.ofList).mapM Directive.parse?

/-- The level for a number of calls for more messages. -/
def levelOfVerbosity (verbosity : Nat) : Level :=
  if verbosity = 0 then .warn else if verbosity = 1 then .debug else .trace

/-- The name of the level for a number of calls for more messages. -/
def defaultFilter (verbosity : Nat) : String :=
  if verbosity = 0 then "warn" else if verbosity = 1 then "debug" else "trace"

/-- The filter in force: the one given as text, if it can be read, and else the one for a number of
calls for more messages. -/
def Filter.choose (text : Option String) (verbosity : Nat) : Filter :=
  (text.bind Filter.parse?).getD (.uniform (some (levelOfVerbosity verbosity)))

end Log

/-! ## Records -/

open Log (Record)

/-- The record of what a reader notes. -/
def Event.record : Event → Record
  | .token t =>
    ⟨.trace, "cql_parser::lexer", "token",
      [("kind", t.kind.label), ("text", t.text), ("position", toString t.position)]⟩
  | .clause c =>
    ⟨.debug, "cql_parser::ast", "search clause",
      [("index", c.index.display), ("relation", c.relation.display),
       ("term", Text.escaped c.term.value)]⟩
  | .triple b => ⟨.debug, "cql_parser::ast", "triple", [("boolean", b.display)]⟩
  | .declaration name uri =>
    ⟨.debug, "cql_parser::ast", "prefix", [("name", name), ("uri", uri)]⟩
  | .document root => ⟨.debug, "cql_parser::xcql", "xcql document", [("root", Text.escaped root)]⟩

/-- The tokens that are pulled when a text is cut. -/
def TokenStream.events (s : TokenStream) : List Event :=
  s.tokens.map .token ++ (if s.unclosed.isSome then [] else [.token (.finish s.length)])

/-- The records of a search for configuration files. -/
def Config.Discovery.records (d : Config.Discovery) : List Record :=
  let found (message : String) (path : Path) : Record :=
    ⟨.debug, "cql_config::discovery", message, [("path", path.text)]⟩
  d.nearby.map (found "found config file") ++
    (if d.ended then
      [⟨.debug, "cql_config::discovery",
        "root config reached, skipping parents and global config", []⟩]
    else []) ++
    (d.global.map (found "found global config file")).toList

/-- The records of a configuration that was made, and of its warnings. -/
def Config.records (c : Config) : List Record :=
  ⟨.debug, "cql_config::merge", "merged configuration",
    [("files", toString c.files.length), ("prefixes", toString c.prefixes.entries.length)]⟩ ::
    c.warnings.map fun w =>
      ⟨.debug, "cql::cli::context", "configuration warning", [("warning", w.message)]⟩

end ContextQuery
