import Mathlib.Data.List.Infix
import ContextQuery.FileSystem

/-!
# What places hold

A path from the root that does not lead upwards leads to the place that its parts name. What a file
there holds depends on the place alone, neither on the working directory nor on the spelling of the
path.

## Main definitions

* `FileSystem.content?`: what the file at a place holds.
* `FileSystem.contentAt?`: what the file holds that a path leads to.

## Main results

* `FileSystem.contentAt?_eq`: the two agree.
-/

namespace ContextQuery.FileSystem

variable {fs : FileSystem} {cwd place : Location} {path : Path}

/-- A directory stands at a place. -/
def isDirectory (fs : FileSystem) (place : Location) : Bool :=
  match fs.item? place with
  | some .directory => true
  | _ => false

/-- What the file at a place holds, if only directories stand above it. -/
def content? (fs : FileSystem) (place : Location) : Option ByteArray :=
  if place.inits.dropLast.all fs.isDirectory then
    match fs.item? place with
    | some (.file content) => some content
    | _ => none
  else none

/-- What the file holds that a path leads to. -/
def contentAt? (fs : FileSystem) (cwd : Location) (path : Path) : Option ByteArray :=
  match fs.get cwd path with
  | .ok (.file content) => some content
  | _ => none

theorem isFile_eq (fs : FileSystem) (cwd : Location) (path : Path) :
    fs.isFile cwd path = (fs.contentAt? cwd path).isSome := by
  unfold isFile contentAt?
  split <;> simp_all

theorem dropLast_inits_cons (name : String) (names : List String) :
    (name :: names).inits.dropLast = [] :: names.inits.dropLast.map (name :: ·) := by
  have nonempty : names.inits.map (name :: ·) ≠ [] := by
    cases names <;> simp
  rw [List.inits_cons, List.dropLast_cons_of_ne_nil nonempty, List.map_dropLast]

/-- Names that do not lead upwards are followed as long as directories stand on the way. -/
theorem toOption_follow {names : List String} (plain : ".." ∉ names) :
    (fs.follow place names).toOption =
      if names.inits.dropLast.all (fun above => fs.isDirectory (place ++ above)) then
        some (place ++ names)
      else none := by
  induction names generalizing place with
  | nil => simp [follow, Except.toOption]
  | cons name names ih =>
    simp only [List.mem_cons, not_or] at plain
    rw [dropLast_inits_cons, follow]
    cases item : fs.item? place with
    | none => simp [isDirectory, item, Except.toOption]
    | some item' =>
      cases item' with
      | file content => simp [isDirectory, item, Except.toOption]
      | directory =>
        have here : fs.isDirectory place = true := by simp [isDirectory, item]
        simp only [if_neg (Ne.symm plain.1), ih plain.2, List.all_cons, List.append_nil, here,
          Bool.true_and, List.all_map, Function.comp_def, List.append_assoc, List.singleton_append]

theorem contentAt?_eq (parts : path.parts = (.root, place)) (plain : ".." ∉ place)
    (noSlash : endsInSlash path = false) : fs.contentAt? cwd path = fs.content? place := by
  have followed : (fs.follow [] place).toOption = _ := toOption_follow plain
  simp only [List.nil_append] at followed
  have located : fs.locate cwd path = fs.follow [] place := by rw [locate, parts]
  unfold contentAt? get content?
  rw [located]
  split at followed
  · rename_i reached
    cases result : fs.follow [] place with
    | error fault => simp [result, Except.toOption] at followed
    | ok location =>
      obtain rfl : location = place := by simpa [result, Except.toOption] using followed
      rw [if_pos reached]
      cases item : fs.item? location with
      | none => simp [item]
      | some item' => cases item' <;> simp [item, noSlash]
  · rename_i unreached
    cases result : fs.follow [] place with
    | error fault => simp [unreached]
    | ok location => simp [result, Except.toOption] at followed

end ContextQuery.FileSystem
