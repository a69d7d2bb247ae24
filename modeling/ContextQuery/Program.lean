import ContextQuery.Program.Command

/-!
# The program

A run of the program as a function of its words and its surroundings.
-/

namespace ContextQuery.Program

/-- What a run leaves behind. -/
structure Outcome where
  exit : Exit
  output : String
  errors : String
  fileSystem : FileSystem

/-- The text that a run writes to the standard output. -/
def outputText (emissions : List Emission) : String :=
  emissions.foldl
    (fun text emission =>
      match emission with
      | .output more => text ++ more
      | _ => text)
    ""

/-- The text that a run writes to the standard error, with the records that a filter shows. -/
def errorText (filter : Log.Filter) (emissions : List Emission) : String :=
  emissions.foldl
    (fun text emission =>
      match emission with
      | .error more => text ++ more
      | .log record => if filter.shows record then text ++ record.line else text
      | .output _ => text)
    ""

/-- A command that needs no configuration. -/
def skipsConfig (arguments : Arguments) : Bool :=
  arguments.noConfig ||
    match arguments.command with
    | .init _ _ => true
    | _ => false

/-- Loads the configuration and performs the command. -/
def performWithConfig (s : Surroundings) (command : Command) : Result :=
  let directory := Location.path s.cwd
  let discovery := Config.Discovery.search s.fileSystem s.cwd s.home directory
  let found := discovery.records.map Emission.log
  match Config.loadFiles s.fileSystem s.cwd discovery.files with
  | .error e =>
    ⟨found ++ [complain ("failed to load configuration: " ++ e.message)], .failure, s.fileSystem⟩
  | .ok config =>
    let result := perform s config command
    { result with emissions := found ++ config.records.map Emission.log ++ result.emissions }

/-! ## What a run looks at -/

/-- A command reads the standard input. -/
def readsInput : Command → Bool
  | .parse queries _ => queries.isEmpty
  | .check queries => queries.isEmpty
  | .xcql file _ => file.isNone || file = some "-"
  | _ => false

/-- The files that a command may look at. -/
def looksAt (cwd : Location) (home : Option Path) (command : Command) : List Path :=
  (Location.path cwd).ancestors.map (·.join Config.fileName) ++
    (home.map Config.globalPath).toList ++
    match command with
    | .xcql (some file) _ => [⟨file⟩]
    | _ => []

/-- The places that names lead through, from a place on. -/
def placesFrom (location : Location) : List String → List Location
  | [] => [location]
  | name :: rest =>
    location :: placesFrom (if name = ".." then location.dropLast else location ++ [name]) rest

/-- The places that a path leads through. -/
def placesOf (cwd : Location) (path : Path) : List Location :=
  match path.parts with
  | (.root, names) => placesFrom [] names
  | (_, names) => placesFrom cwd names

/-! ## Runs -/

/-- A run of the program. Words that cannot be read are refused before anything is done. -/
def run (s : Surroundings) (words : List String) : Except Arguments.Refusal Outcome := do
  let arguments ← Arguments.parse words
  let result :=
    if skipsConfig arguments then perform s {} arguments.command
    else performWithConfig s arguments.command
  let filter := Log.Filter.choose s.logFilter arguments.verbosity
  return ⟨result.exit, outputText result.emissions, errorText filter result.emissions,
    result.fileSystem⟩

end ContextQuery.Program
