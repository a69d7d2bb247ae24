import ContextQuery.Config

/-!
# Finding configuration files

Configuration files are looked for in the working directory and in the directories above it, and
last in the home directory. A file that says so ends the search.

## Main definitions

* `Config.Discovery.search`: looks for the files that apply to a directory.
* `Config.load`: the configuration that applies to a directory.
-/

namespace ContextQuery.Config

/-- The name of a configuration file. -/
def fileName : String :=
  ".cql.toml"

/-- The configuration file in the home directory. -/
def globalPath (home : Path) : Path :=
  home.join fileName

/-- A path is the configuration file in the home directory. -/
def isGlobal (home : Option Path) (path : Path) : Bool :=
  home.any fun home => path.same (globalPath home)

/-- Reads a configuration file. -/
def fileAt [Toml.Library] (fs : FileSystem) (cwd : Location) (path : Path) : Except Error File :=
  match fs.readText cwd path with
  | .error fault => .error (.unreadable path fault)
  | .ok text =>
    match File.parse? text with
    | some file => .ok file
    | none => .error (.malformed path)

/-- The file at a path can be read and ends the search. -/
def endsSearch [Toml.Library] (fs : FileSystem) (cwd : Location) (path : Path) : Bool :=
  match fileAt fs cwd path with
  | .ok file => file.isRoot
  | .error _ => false

/-- What a search has found. -/
structure Discovery where
  /-- The files in the directory and above it, the nearest first. -/
  nearby : List Path
  /-- The last of them ended the search. -/
  ended : Bool
  /-- The file in the home directory, unless it is among the others. -/
  global : Option Path
  deriving DecidableEq

namespace Discovery

/-- The files that were found, the nearest first. -/
def files (d : Discovery) : List Path :=
  d.nearby ++ d.global.toList

/-- Looks for a file in each of some directories, up to one that ends the search. -/
def climb [Toml.Library] (fs : FileSystem) (cwd : Location) : List Path → List Path × Bool
  | [] => ([], false)
  | directory :: rest =>
    let candidate := directory.join fileName
    if fs.isFile cwd candidate then
      if endsSearch fs cwd candidate then ([candidate], true)
      else
        let (found, ended) := climb fs cwd rest
        (candidate :: found, ended)
    else climb fs cwd rest

/-- Looks for the files that apply to a directory. -/
def search [Toml.Library] (fs : FileSystem) (cwd : Location) (home : Option Path)
    (directory : Path) : Discovery :=
  let (nearby, ended) := climb fs cwd directory.ancestors
  let global := (home.map globalPath).filter fun path =>
    !ended && fs.isFile cwd path && !nearby.any (·.same path)
  ⟨nearby, ended, global⟩

end Discovery

/-- Reads files and merges them; the nearest file comes first. -/
def loadFiles [Toml.Library] (fs : FileSystem) (cwd : Location) (paths : List Path) :
    Except Error Config := do
  let sources ← paths.mapM fun path => return ⟨path, ← fileAt fs cwd path⟩
  merge sources

/-- The configuration that applies to a directory. -/
def load [Toml.Library] (fs : FileSystem) (cwd : Location) (home : Option Path)
    (directory : Path) : Except Error Config :=
  loadFiles fs cwd (Discovery.search fs cwd home directory).files

end ContextQuery.Config
