import ContextQuery.FileSystem.Path

/-!
# File systems

Directories and files as a value. Paths are followed from a working directory, one part after the
other; every part but the last must be a directory.

## Main definitions

* `FileSystem.locate`: the place that a path leads to.
* `FileSystem.readText`, `FileSystem.write`: what a path holds, and giving it a new content.
-/

namespace ContextQuery

/-- Why a file cannot be used. -/
inductive Fault where
  | notFound
  | notDirectory
  | isDirectory
  | notText
  deriving DecidableEq

/-- The wording of a fault. -/
def Fault.message : Fault → String
  | notFound => "No such file or directory (os error 2)"
  | notDirectory => "Not a directory (os error 20)"
  | isDirectory => "Is a directory (os error 21)"
  | notText => "stream did not contain valid UTF-8"

/-- A place: the names on the way from the root. -/
abbrev Location := List String

/-- The path of a place. -/
def Location.path (location : Location) : Path :=
  ⟨"/" ++ String.intercalate "/" location⟩

/-- What stands at a place. -/
inductive Item where
  | file (content : ByteArray)
  | directory

/-- What stands at which place. The root is a directory. -/
structure FileSystem where
  items : List (Location × Item) := []

namespace FileSystem

/-- What stands at a place. -/
def item? (fs : FileSystem) (location : Location) : Option Item :=
  if location.isEmpty then some .directory
  else (fs.items.find? fun entry => entry.1 = location).map (·.2)

/-- Follows names from a place. -/
def follow (fs : FileSystem) (location : Location) : List String → Except Fault Location
  | [] => .ok location
  | name :: rest =>
    match fs.item? location with
    | none => .error .notFound
    | some (.file _) => .error .notDirectory
    | some .directory =>
      if name = ".." then fs.follow location.dropLast rest
      else fs.follow (location ++ [name]) rest

/-- The place that a path leads to from a working directory. -/
def locate (fs : FileSystem) (cwd : Location) (path : Path) : Except Fault Location :=
  match path.parts with
  | (.root, names) => fs.follow [] names
  | (_, names) => fs.follow cwd names

/-- A path that ends with a slash can only lead to a directory. -/
def endsInSlash (path : Path) : Bool :=
  path.text.toList.getLast? = some '/'

/-- What a path leads to. -/
def get (fs : FileSystem) (cwd : Location) (path : Path) : Except Fault Item :=
  match fs.locate cwd path with
  | .error fault => .error fault
  | .ok location =>
    match fs.item? location with
    | none => .error .notFound
    | some (.file content) =>
      if endsInSlash path then .error .notDirectory else .ok (.file content)
    | some .directory => .ok .directory

/-- A path leads to a file. -/
def isFile (fs : FileSystem) (cwd : Location) (path : Path) : Bool :=
  match fs.get cwd path with
  | .ok (.file _) => true
  | _ => false

/-- A path leads to something. -/
def holds (fs : FileSystem) (cwd : Location) (path : Path) : Bool :=
  (fs.get cwd path).toBool

/-- The text of bytes. -/
def decode (content : ByteArray) : Except Fault String :=
  match String.fromUTF8? content with
  | some text => .ok text
  | none => .error .notText

/-- The text of a file. -/
def readText (fs : FileSystem) (cwd : Location) (path : Path) : Except Fault String :=
  match fs.get cwd path with
  | .error fault => .error fault
  | .ok .directory => .error .isDirectory
  | .ok (.file content) => decode content

/-- Puts an item at a place. -/
def put (fs : FileSystem) (location : Location) (item : Item) : FileSystem :=
  ⟨(location, item) :: fs.items.filter fun entry => entry.1 ≠ location⟩

/-- Gives a file a new content, and makes the file if need be. -/
def write (fs : FileSystem) (cwd : Location) (path : Path) (content : ByteArray) :
    Except Fault FileSystem :=
  match fs.locate cwd path with
  | .error fault => .error fault
  | .ok location =>
    match fs.item? location with
    | some .directory => .error .isDirectory
    | _ => .ok (fs.put location (.file content))

/-- Makes a directory and the directories that lead to it, from the given place on. -/
def makeDirectories (fs : FileSystem) (location : Location) : List String → FileSystem
  | [] => fs
  | name :: rest =>
    let place := location ++ [name]
    match fs.item? place with
    | some _ => fs.makeDirectories place rest
    | none => (fs.put place .directory).makeDirectories place rest

/-- Removes what stands at a place and below it. -/
def remove (fs : FileSystem) (location : Location) : FileSystem :=
  ⟨fs.items.filter fun entry => !location.isPrefixOf entry.1⟩

end FileSystem

end ContextQuery
