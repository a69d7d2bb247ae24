/-!
# Paths

A path as it is written. Slashes set its parts apart; empty parts and dots mean nothing, except for
a dot at the very front. Two spellings of the same parts are different paths that count as the
same.

## Main definitions

* `Path.parts`: the parts that count.
* `Path.above`: the directories above a path, the nearest first.
* `Path.ancestors`: the path and the directories above it.
-/

namespace ContextQuery

/-- A path as it is written. -/
structure Path where
  text : String
  deriving DecidableEq

namespace Path

/-- Where a path starts. -/
inductive Start where
  /-- At the root, by a slash. -/
  | root
  /-- At the current directory, by a dot. -/
  | dot
  /-- At the current directory, by its first part. -/
  | bare
  deriving DecidableEq

/-- The spelling of a start. -/
def Start.text : Start → String
  | root => "/"
  | dot => "."
  | bare => ""

/-- The pieces between slashes. -/
def pieces (text : String) : List String :=
  (text.toList.splitOn '/').map String.ofList

/-- Where a path starts, and its pieces after that. -/
def split (p : Path) : Start × List String :=
  match pieces p.text with
  | "" :: second :: rest => (.root, second :: rest)
  | "." :: rest => (.dot, rest)
  | all => (.bare, all)

/-- The path with a start and pieces. -/
def ofPieces (start : Start) (pieces : List String) : Path :=
  match start, pieces with
  | start, [] => ⟨start.text⟩
  | .dot, pieces => ⟨"./" ++ String.intercalate "/" pieces⟩
  | start, pieces => ⟨start.text ++ String.intercalate "/" pieces⟩

/-- A piece that means nothing. -/
def isVoid (piece : String) : Bool :=
  piece = "" || piece = "."

/-- Where a path starts, and the parts that count. -/
def parts (p : Path) : Start × List String :=
  (p.split.1, p.split.2.filter (!isVoid ·))

/-- Two paths have the same parts. -/
def same (p q : Path) : Bool :=
  p.parts = q.parts

/-- The paths above the one with a start and pieces, which are given last first. Void pieces at the
end of a path above are dropped. -/
def abovePieces (start : Start) : List String → List Path
  | [] => if start = .dot then [⟨""⟩] else []
  | piece :: rest =>
    if isVoid piece then abovePieces start rest
    else ofPieces start (rest.dropWhile isVoid).reverse :: abovePieces start rest

/-- The directories above a path, the nearest first. -/
def above (p : Path) : List Path :=
  abovePieces p.split.1 p.split.2.reverse

/-- The path and the directories above it, the nearest first. -/
def ancestors (p : Path) : List Path :=
  p :: p.above

/-- The directory of a path. -/
def parent? (p : Path) : Option Path :=
  p.above.head?

/-- The path of an entry of a directory. -/
def join (p : Path) (name : String) : Path :=
  if p.text.isEmpty then ⟨name⟩
  else if p.text.toList.getLast? = some '/' then ⟨p.text ++ name⟩
  else ⟨p.text ++ "/" ++ name⟩

end Path

end ContextQuery
