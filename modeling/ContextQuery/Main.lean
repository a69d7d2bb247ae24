import ContextQuery.Program

/-!
# The command line

Takes in what a run looks at, runs the program on it, and writes what the run leaves behind.
-/

namespace ContextQuery.Program

/-- Reads a stream to its end. -/
partial def readAll (stream : IO.FS.Stream) (before : ByteArray) : IO ByteArray := do
  let chunk ← stream.read 65536
  if chunk.isEmpty then return before
  else readAll stream (before ++ chunk)

/-- Takes in what stands at a place. -/
def takeIn (fs : FileSystem) (location : Location) : IO FileSystem := do
  if location.isEmpty then return fs
  let path := (← IO.currentDir) / (Location.path location).text
  if ← path.isDir then return fs.put location .directory
  else if ← path.pathExists then return fs.put location (.file (← IO.FS.readBinFile path))
  else return fs

/-- Writes the files that a run has changed. -/
def writeOut (before after : FileSystem) : IO Unit :=
  after.items.forM fun (location, item) => do
    let old := before.item? location
    match item with
    | .directory => return
    | .file content =>
      let same := match old with
        | some (.file earlier) => earlier == content
        | _ => false
      if !same then
        IO.FS.writeBinFile ((← IO.currentDir) / (Location.path location).text) content

/-- Runs a command of the given words. -/
def runWords (arguments : Arguments) (words : List String) : IO UInt32 := do
  let cwd := (Path.mk (← IO.currentDir).toString).parts.2
  let home := (← IO.getEnv "HOME").map Path.mk
  let places := (looksAt cwd home arguments.command).flatMap (placesOf cwd)
  let fileSystem ← places.foldlM takeIn {}
  let input ←
    if readsInput arguments.command then readAll (← IO.getStdin) ByteArray.empty
    else pure ByteArray.empty
  let surroundings : Surroundings :=
    { fileSystem, cwd, home, logFilter := ← IO.getEnv "RUST_LOG", input,
      isTerminal := ← (← IO.getStdout).isTty }
  match run surroundings words with
  | .error refusal => return refusal.status.toUInt32
  | .ok outcome =>
    writeOut fileSystem outcome.fileSystem
    (← IO.getStdout).putStr outcome.output
    (← IO.getStderr).putStr outcome.errors
    return outcome.exit.status.toUInt32

end ContextQuery.Program

/-- Runs the program on the words after its name. -/
def main (words : List String) : IO UInt32 := do
  match ContextQuery.Arguments.parse words with
  | .ok arguments => ContextQuery.Program.runWords arguments words
  | .error refusal =>
    (← IO.getStderr).putStr
      "Usage: cql [-v]... [--no-config] parse|tokens|xcql|check|config|init [OPTIONS] [ARGUMENTS]\n"
    return refusal.status.toUInt32
