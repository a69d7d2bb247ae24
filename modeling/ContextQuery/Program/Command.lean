import ContextQuery.Config.Template
import ContextQuery.Highlight
import ContextQuery.Json.Query
import ContextQuery.Program.Arguments
import ContextQuery.Program.Log
import ContextQuery.Terminal.Table
import ContextQuery.Xcql.Reader

/-!
# Commands

What each command does. A command is given its surroundings and the configuration, and answers with
what it emits in the order of time, how it ends, and the file system that it leaves.

## Main definitions

* `Program.Surroundings`: what a run can see.
* `Program.Result`: what a command answers.
* `Program.perform`: performs a command.
-/

namespace ContextQuery.Program

/-- What a run can see. -/
structure Surroundings where
  fileSystem : FileSystem
  /-- The working directory. -/
  cwd : Location
  home : Option Path
  /-- The text of the log filter. -/
  logFilter : Option String
  /-- What can be read from the standard input. -/
  input : ByteArray
  /-- The standard output is a terminal. -/
  isTerminal : Bool := false

/-- Something that a run emits. -/
inductive Emission where
  /-- Text for the standard output. -/
  | output (text : String)
  /-- Text for the standard error. -/
  | error (text : String)
  | log (record : Log.Record)

/-- How a run ends. -/
inductive Exit where
  | success
  | failure
  deriving DecidableEq

/-- The exit status. -/
def Exit.status : Exit → Nat
  | success => 0
  | failure => 1

/-- What a command answers. -/
structure Result where
  emissions : List Emission
  exit : Exit
  fileSystem : FileSystem

/-! ## Pieces -/

/-- A line on the standard output. -/
def say (line : String) : Emission :=
  .output (line ++ "\n")

/-- A line on the standard error that reports an error. -/
def complain (message : String) : Emission :=
  .error ("error: " ++ message ++ "\n")

/-- The records of what readers note. -/
def noted (events : List Event) : List Emission :=
  events.map fun event => .log event.record

/-- A diagnostic and its hint. -/
def report (d : Diagnostic) : List Emission :=
  complain d.message :: d.hint?.toList.map fun hint => .error ("hint: " ++ hint ++ "\n")

/-- A document, in colours if it goes to a terminal. -/
def showDocument (s : Surroundings) (content : String) : Emission :=
  .output (if s.isTerminal then Terminal.document content else content)

/-- The text on the standard input. -/
def readInput (s : Surroundings) : Except String String :=
  (FileSystem.decode s.input).mapError fun fault => "failed to read stdin: " ++ fault.message

/-- The lines of a text that are not blank, without the blanks around them. -/
def queryLines (text : String) : List String :=
  ((text.toList.splitOn '\n').map fun line => Text.trim (String.ofList line)).filter (· ≠ "")

/-- The queries given, or else the lines of the standard input. -/
def queriesOrInput (s : Surroundings) (queries : List String) : Except String (List String) :=
  if queries.isEmpty then (readInput s).map queryLines else .ok queries

/-- Reads a query and gives its journal. -/
def readQuery (d : Dialect) (text : String) : Except Diagnostic Query × List Event :=
  (Query.read d text : Journalled Query).outcome

/-! ## Queries -/

/-- Shows a query. -/
def showQuery (s : Surroundings) (format : Format) (text : String) (q : Query) : Emission :=
  match format with
  | .cql => say q.toCql
  | .xcql => showDocument s (q.toXcql 0)
  | .tree => .output q.outline
  | .json => showDocument s ((q.toJsonDocument text).pretty 0 ++ "\n")

/-- Reads a query and shows it, or reports why it is refused. The flag says that it was read. -/
def parseOne (s : Surroundings) (d : Dialect) (format : Format) (text : String) :
    List Emission × Bool :=
  match readQuery d text with
  | (.ok q, events) => (noted events ++ [showQuery s format text q], true)
  | (.error diagnostic, events) => (noted events ++ report diagnostic, false)

/-- Reads a query, and says whether it is refused. The flag says that it was read. -/
def checkOne (d : Dialect) (text : String) : List Emission × Bool :=
  match readQuery d text with
  | (.ok _, events) =>
    (noted events ++ noted (TokenStream.ofText text).events ++
      [say (Terminal.success "ok" ++ " " ++ highlight text)], true)
  | (.error diagnostic, events) =>
    (noted events ++ say (Terminal.failure "fail" ++ " " ++ text) :: report diagnostic, false)

/-- Everything went well, or something failed. -/
def exitOf (good : Bool) : Exit :=
  if good then .success else .failure

/-- Reads queries and shows them. -/
def runParse (s : Surroundings) (d : Dialect) (queries : List String) (format : Format) :
    List Emission × Exit :=
  match queriesOrInput s queries with
  | .error message => ([complain message], .failure)
  | .ok [] => ([complain "no query given"], .failure)
  | .ok queries =>
    let answers := queries.map (parseOne s d format)
    (answers.flatMap (·.1), exitOf (answers.all (·.2)))

/-- Reads queries and says which of them are refused. -/
def runCheck (s : Surroundings) (d : Dialect) (queries : List String) : List Emission × Exit :=
  match queriesOrInput s queries with
  | .error message => ([complain message], .failure)
  | .ok queries =>
    let answers := queries.map (checkOne d)
    let failed := (answers.filter (!·.2)).length
    let summary :=
      toString queries.length ++ " checked, " ++ toString failed ++ " failed"
    (answers.flatMap (·.1) ++
      (if queries.length > 1 then [say "", say (Terminal.dim summary)] else []),
      exitOf (failed = 0))

/-- The table of tokens. -/
def tokenTable (tokens : List Token) : Terminal.Table :=
  ⟨["Kind", "Text", "Position"], tokens.map fun t => [t.kind.label, t.text, toString t.position]⟩

/-- Shows the tokens of a query. -/
def runTokens (query : String) : List Emission × Exit :=
  let stream := TokenStream.ofText query
  match stream.complete with
  | .error diagnostic => (noted stream.events ++ report diagnostic, .failure)
  | .ok _ => (noted stream.events ++ [say (tokenTable stream.tokens).text], .success)

/-- The text of a file, or of the standard input if no file or a dash is named. -/
def fileOrInput (s : Surroundings) (file : Option String) : Except String String :=
  match file with
  | none => readInput s
  | some file =>
    if file = "-" then readInput s
    else
      (s.fileSystem.readText s.cwd ⟨file⟩).mapError fun fault =>
        "failed to read " ++ file ++ ": " ++ fault.message

/-- Reads a query from its XML form and shows it. -/
def runXcql (s : Surroundings) (d : Dialect) (file : Option String) (asXcql : Bool) :
    List Emission × Exit :=
  match fileOrInput s file with
  | .error message => ([complain message], .failure)
  | .ok text =>
    match (Query.readXml d text : Journalled Query).outcome with
    | (.error diagnostic, events) => (noted events ++ report diagnostic, .failure)
    | (.ok q, events) =>
      (noted events ++ [if asXcql then showDocument s (q.toXcql 0) else say q.toCql], .success)

/-! ## Configuration -/

/-- The files that a configuration was made from. -/
def listFiles (c : Config) : List Emission :=
  if c.files.isEmpty then
    [say (Terminal.dim "No configuration files found."),
     say ("Run " ++ Terminal.subheader "cql init" ++ " to create a configuration file.")]
  else
    say (Terminal.subheader "Config files (highest precedence first):") ::
      c.files.map fun path => say ("   " ++ path.text)

/-- The warnings about a configuration, and what to do about them. -/
def listWarnings (warnings : List Config.Warning) : List Emission :=
  if warnings.isEmpty then []
  else
    [say "", say (Terminal.subheader ("Warnings (" ++ toString warnings.length ++ "):"))] ++
      warnings.map (fun w => say ("   " ++ Terminal.warning w.message)) ++
      warnings.map fun w => say (Terminal.dim w.hint)

/-- Shows a configuration. It fails if there are warnings. -/
def runConfig (c : Config) : List Emission × Exit :=
  (listFiles c ++
    [say "", say (Terminal.subheader "Effective settings:"), say (Terminal.rule 40),
     .output (Terminal.document c.toToml), say (Terminal.rule 40)] ++
    listWarnings c.warnings,
    exitOf c.warnings.isEmpty)

/-- Writes a template to a path. -/
def writeTemplate (s : Surroundings) (force : Bool) (path : Path) (template : String) : Result :=
  if s.fileSystem.holds s.cwd path && !force then
    ⟨[complain ("configuration file already exists: " ++ path.text),
      .error "use --force to overwrite\n"], .failure, s.fileSystem⟩
  else
    match s.fileSystem.write s.cwd path template.toUTF8 with
    | .error fault =>
      ⟨[complain ("failed to write " ++ path.text ++ ": " ++ fault.message)], .failure,
        s.fileSystem⟩
    | .ok fileSystem =>
      ⟨[say ("Created " ++ path.text), say "",
        say (Terminal.subheader "Configuration written:"),
        .output (Terminal.document template)], .success, fileSystem⟩

/-- Writes a configuration file for a start: in the home directory if that is asked for or is the
working directory, and else in the working directory. -/
def runInit (s : Surroundings) (global force : Bool) : Result :=
  let cwd := Location.path s.cwd
  if global || s.home.any cwd.same then
    match s.home with
    | none => ⟨[complain "could not determine home directory"], .failure, s.fileSystem⟩
    | some home => writeTemplate s force (Config.globalPath home) Config.globalTemplate
  else writeTemplate s force (cwd.join Config.fileName) Config.projectTemplate

/-! ## All commands -/

/-- Performs a command. -/
def perform (s : Surroundings) (c : Config) (command : Command) : Result :=
  let settled (answer : List Emission × Exit) : Result := ⟨answer.1, answer.2, s.fileSystem⟩
  match command with
  | .parse queries format => settled (runParse s c.dialect queries format)
  | .tokens query => settled (runTokens query)
  | .xcql file asXcql => settled (runXcql s c.dialect file asXcql)
  | .check queries => settled (runCheck s c.dialect queries)
  | .config => settled (runConfig c)
  | .init global force => runInit s global force

end ContextQuery.Program
