import Mathlib.Data.List.Nodup
import ContextQuery.Config.Discovery
import ContextQuery.Proofs.FileSystem.Content
import ContextQuery.Proofs.FileSystem.Path

/-!
# What a search finds

A search from an absolute directory finds the configuration files at the places of the directory and
the directories above it, the nearest first, up to one that ends the search. Which files it finds
depends on what these places hold alone.

## Main definitions

* `Config.places`: where configuration files are looked for.
* `Config.upTo`: the front of a list up to and with the first item of a kind.
* `Config.endsAt`: the file at a place ends the search.

## Main results

* `Config.map_parts_nearby`: the files that are found in and above a directory.
* `Config.nodup_files`: no file is found twice.
-/

namespace ContextQuery.Config

open Discovery (climb search)

variable {fs : FileSystem} {cwd : Location} {path directory : Path} {names : List String}

/-! ## The front of a list -/

section UpTo

variable {α β : Type} {p q : α → Bool} {l : List α}

/-- The front of a list up to and with the first item of a kind. -/
def upTo (p : α → Bool) : List α → List α
  | [] => []
  | a :: rest => if p a then [a] else a :: upTo p rest

theorem upTo_sublist (p : α → Bool) (l : List α) : (upTo p l).Sublist l := by
  induction l with
  | nil => exact List.Sublist.slnil
  | cons a rest ih =>
    rw [upTo]
    split
    · exact (List.nil_sublist rest).cons_cons a
    · exact ih.cons_cons a

theorem mem_upTo_cons (p : α → Bool) (a : α) (rest : List α) : a ∈ upTo p (a :: rest) := by
  rw [upTo]
  split <;> simp

theorem upTo_congr (same : ∀ a ∈ l, p a = q a) : upTo p l = upTo q l := by
  induction l with
  | nil => rfl
  | cons a rest ih =>
    obtain ⟨first, others⟩ := List.forall_mem_cons.1 same
    rw [upTo, upTo, first, ih others]

theorem map_upTo (f : α → β) (p : β → Bool) (l : List α) :
    (upTo (fun a => p (f a)) l).map f = upTo p (l.map f) := by
  induction l with
  | nil => rfl
  | cons a rest ih =>
    rw [upTo, List.map_cons, upTo]
    split
    · rfl
    · rw [List.map_cons, ih]

end UpTo

/-! ## Where files are looked for -/

/-- The places of configuration files for a directory: in it, and in those above it. -/
def places (names : List String) : List Location :=
  names.inits.reverse.map (· ++ [fileName])

/-- A file stands at a place. -/
def hasFile (fs : FileSystem) (place : Location) : Bool :=
  (fs.content? place).isSome

/-- The paths of configuration files for a directory. -/
def candidates (directory : Path) : List Path :=
  directory.ancestors.map (·.join fileName)

theorem parts_of_ancestor (absolute : directory.parts = (.root, names))
    (ancestor : path ∈ directory.ancestors) :
    ∃ above, above <+: names ∧ path.parts = (.root, above) := by
  have mem := List.mem_map_of_mem (f := Path.parts) ancestor
  rw [Path.parts_ancestors absolute] at mem
  obtain ⟨above, inside, eq⟩ := List.mem_map.1 mem
  exact ⟨above, (List.mem_inits _ _).1 (List.mem_reverse.1 inside), eq.symm⟩

theorem parts_entry {above : List String} (parts : path.parts = (.root, above)) :
    (path.join fileName).parts = (.root, above ++ [fileName]) :=
  Path.parts_join parts (by decide) (by decide)

theorem parts_candidates (absolute : directory.parts = (.root, names)) :
    (candidates directory).map Path.parts = (places names).map fun place => (.root, place) := by
  have entries : (candidates directory).map Path.parts =
      (directory.ancestors.map Path.parts).map fun parts => (parts.1, parts.2 ++ [fileName]) := by
    simp only [candidates, List.map_map]
    refine List.map_congr_left fun ancestor mem => ?_
    obtain ⟨above, -, parts⟩ := parts_of_ancestor absolute mem
    simp only [Function.comp_apply, parts_entry parts, parts]
  rw [entries, Path.parts_ancestors absolute, places, List.map_map, List.map_map]
  rfl

theorem parts_of_candidate (absolute : directory.parts = (.root, names))
    (candidate : path ∈ candidates directory) :
    ∃ place ∈ places names, path.parts = (.root, place) := by
  have mem := List.mem_map_of_mem (f := Path.parts) candidate
  rw [parts_candidates absolute] at mem
  obtain ⟨place, inside, eq⟩ := List.mem_map.1 mem
  exact ⟨place, inside, eq.symm⟩

theorem exists_candidate {place : Location} (absolute : directory.parts = (.root, names))
    (inside : place ∈ places names) :
    ∃ path ∈ candidates directory, path.parts = (.root, place) := by
  have mem := List.mem_map_of_mem (f := fun place => (Path.Start.root, place)) inside
  rw [← parts_candidates absolute] at mem
  exact List.mem_map.1 mem

theorem contentAt?_candidate (absolute : directory.parts = (.root, names)) (plain : ".." ∉ names)
    (candidate : path ∈ candidates directory) :
    fs.contentAt? cwd path = fs.content? path.parts.2 := by
  obtain ⟨ancestor, mem, rfl⟩ := List.mem_map.1 candidate
  obtain ⟨above, front, parts⟩ := parts_of_ancestor absolute mem
  have entry := parts_entry parts
  rw [entry]
  refine FileSystem.contentAt?_eq entry ?_ ?_
  · have other : ".." ≠ fileName := by decide
    simpa [other] using fun mem => plain (front.subset mem)
  · have last : fileName.toList.getLast? = some 'l' := by decide
    simp [FileSystem.endsInSlash, Path.getLast?_join (by decide : fileName ≠ ""), last]

theorem isFile_candidate (absolute : directory.parts = (.root, names)) (plain : ".." ∉ names)
    (candidate : path ∈ candidates directory) :
    fs.isFile cwd path = hasFile fs path.parts.2 := by
  rw [FileSystem.isFile_eq, contentAt?_candidate absolute plain candidate, hasFile]

theorem map_parts_filter (absolute : directory.parts = (.root, names)) (p : Location → Bool) :
    ((candidates directory).filter fun path => p path.parts.2).map Path.parts =
      ((places names).filter p).map fun place => (.root, place) :=
  calc ((candidates directory).filter fun path => p path.parts.2).map Path.parts
      = ((candidates directory).map Path.parts).filter (fun parts => p parts.2) :=
        by rw [List.filter_map]; rfl
    _ = ((places names).filter p).map fun place => (.root, place) := by
        rw [parts_candidates absolute, List.filter_map]
        rfl

theorem nodup_inits {α : Type} (l : List α) : l.inits.Nodup := by
  induction l with
  | nil => simp
  | cons a l ih =>
    rw [List.inits_cons]
    exact List.nodup_cons.2 ⟨by simp, ih.map fun _ _ same => (List.cons.inj same).2⟩

theorem nodup_places (names : List String) : (places names).Nodup :=
  (List.nodup_reverse.2 (nodup_inits names)).map fun _ _ => List.append_cancel_right

/-! ## What files say -/

theorem toOption_readText (fs : FileSystem) (cwd : Location) (path : Path) :
    (fs.readText cwd path).toOption =
      (fs.contentAt? cwd path).bind fun content => (FileSystem.decode content).toOption := by
  unfold FileSystem.readText FileSystem.contentAt?
  cases fs.get cwd path with
  | error fault => rfl
  | ok item => cases item <;> rfl

variable [Toml.Library]

/-- What a file with the content says, if it can be read. -/
def fileIn? (content : ByteArray) : Option File :=
  (FileSystem.decode content).toOption.bind File.parse?

theorem toOption_fileAt (fs : FileSystem) (cwd : Location) (path : Path) :
    (fileAt fs cwd path).toOption = (fs.contentAt? cwd path).bind fileIn? := by
  have text := toOption_readText fs cwd path
  have parsed : (fileAt fs cwd path).toOption =
      (fs.readText cwd path).toOption.bind File.parse? := by
    unfold fileAt
    cases fs.readText cwd path with
    | error fault => rfl
    | ok text => cases parsed : File.parse? text <;> simp [parsed, Except.toOption]
  rw [parsed, text, Option.bind_assoc]
  rfl

theorem endsSearch_eq (fs : FileSystem) (cwd : Location) (path : Path) :
    endsSearch fs cwd path = ((fs.contentAt? cwd path).bind fileIn?).any File.isRoot := by
  rw [endsSearch, ← toOption_fileAt]
  cases fileAt fs cwd path <;> rfl

/-- The file at a place ends the search. -/
def endsAt (fs : FileSystem) (place : Location) : Bool :=
  ((fs.content? place).bind fileIn?).any File.isRoot

/-! ## The search -/

theorem climb_eq (fs : FileSystem) (cwd : Location) (directories : List Path) :
    climb fs cwd directories =
      (upTo (endsSearch fs cwd) ((directories.map (·.join fileName)).filter (fs.isFile cwd)),
        ((directories.map (·.join fileName)).filter (fs.isFile cwd)).any (endsSearch fs cwd)) := by
  induction directories with
  | nil => rfl
  | cons directory directories ih =>
    rw [climb, List.map_cons]
    dsimp only
    split
    · rename_i present
      rw [List.filter_cons_of_pos present, upTo, List.any_cons]
      split
      · simp_all
      · simp_all
    · rename_i absent
      rw [List.filter_cons_of_neg absent, ih]

theorem endsSearch_candidate (absolute : directory.parts = (.root, names)) (plain : ".." ∉ names)
    (candidate : path ∈ candidates directory) :
    endsSearch fs cwd path = endsAt fs path.parts.2 := by
  rw [endsSearch_eq, contentAt?_candidate absolute plain candidate, endsAt]

/-- The files that are found in and above a directory, by their places. -/
theorem map_parts_nearby (absolute : directory.parts = (.root, names)) (plain : ".." ∉ names)
    (home : Option Path) :
    (search fs cwd home directory).nearby.map Path.parts =
      (upTo (endsAt fs) ((places names).filter (hasFile fs))).map fun place => (.root, place) := by
  have present : (candidates directory).filter (fs.isFile cwd) =
      (candidates directory).filter (fun path => hasFile fs path.parts.2) :=
    List.filter_congr fun path mem => isFile_candidate absolute plain mem
  have ended : ∀ path ∈ (candidates directory).filter (fs.isFile cwd),
      endsSearch fs cwd path = endsAt fs path.parts.2 := fun path mem =>
    endsSearch_candidate absolute plain (List.mem_of_mem_filter mem)
  have found : (search fs cwd home directory).nearby =
      upTo (endsSearch fs cwd) ((candidates directory).filter (fs.isFile cwd)) := by
    simp only [search, climb_eq, candidates]
  rw [found, upTo_congr ended, map_upTo Path.parts (fun parts => endsAt fs parts.2), present,
    map_parts_filter absolute,
    ← map_upTo (fun place => (Path.Start.root, place)) (fun parts => endsAt fs parts.2)]

/-- The search is ended by a file in or above the directory. -/
theorem climb_ended (absolute : directory.parts = (.root, names)) (plain : ".." ∉ names) :
    (climb fs cwd directory.ancestors).2 = true ↔
      ∃ place ∈ places names, endsAt fs place = true := by
  have ended : (climb fs cwd directory.ancestors).2 =
      ((candidates directory).filter (fs.isFile cwd)).any (endsSearch fs cwd) := by
    rw [climb_eq, candidates]
  rw [ended, List.any_eq_true]
  constructor
  · rintro ⟨path, mem, ends⟩
    have candidate := List.mem_of_mem_filter mem
    obtain ⟨place, inside, parts⟩ := parts_of_candidate absolute candidate
    rw [endsSearch_candidate absolute plain candidate, parts] at ends
    exact ⟨place, inside, ends⟩
  · rintro ⟨place, inside, ends⟩
    obtain ⟨path, candidate, parts⟩ := exists_candidate absolute inside
    have file : hasFile fs place = true := by
      unfold endsAt at ends
      unfold hasFile
      cases content : fs.content? place <;> simp_all
    refine ⟨path, List.mem_filter.2 ⟨candidate, ?_⟩, ?_⟩
    · rw [isFile_candidate absolute plain candidate, parts, file]
    · rw [endsSearch_candidate absolute plain candidate, parts, ends]

theorem global_eq (fs : FileSystem) (cwd : Location) (home : Option Path) (directory : Path) :
    (search fs cwd home directory).global =
      (home.map globalPath).filter fun path =>
        !(climb fs cwd directory.ancestors).2 && fs.isFile cwd path &&
          !(search fs cwd home directory).nearby.any (·.same path) := rfl

/-- The file in the home directory is found if no other file ends the search and it is none of
them. -/
theorem global_eq_some (absolute : directory.parts = (.root, names)) (plain : ".." ∉ names)
    (home : Option Path) (path : Path) :
    (search fs cwd home directory).global = some path ↔
      home.map globalPath = some path ∧ (∀ place ∈ places names, endsAt fs place = false) ∧
        fs.isFile cwd path = true ∧
          path.parts ∉ (search fs cwd home directory).nearby.map Path.parts := by
  have ended : (climb fs cwd directory.ancestors).2 = false ↔
      ∀ place ∈ places names, endsAt fs place = false := by
    have ends : (climb fs cwd directory.ancestors).2 = true ↔ _ := climb_ended absolute plain
    simpa using not_congr ends
  have listed : (search fs cwd home directory).nearby.any (·.same path) = false ↔
      path.parts ∉ (search fs cwd home directory).nearby.map Path.parts := by
    simp [Path.same]
  rw [global_eq, Option.filter_eq_some_iff, Bool.and_eq_true, Bool.and_eq_true, Bool.not_eq_true',
    Bool.not_eq_true', ended, listed, and_assoc]

/-- No file is found twice. -/
theorem nodup_files (absolute : directory.parts = (.root, names)) (plain : ".." ∉ names)
    (home : Option Path) : ((search fs cwd home directory).files.map Path.parts).Nodup := by
  have nearby : ((search fs cwd home directory).nearby.map Path.parts).Nodup := by
    rw [map_parts_nearby absolute plain]
    refine List.Nodup.map (fun _ _ same => congrArg Prod.snd same) ?_
    exact (nodup_places names).sublist ((upTo_sublist _ _).trans List.filter_sublist)
  rw [Discovery.files, List.map_append]
  refine List.nodup_append.2 ⟨nearby, ?_, ?_⟩
  · cases (search fs cwd home directory).global <;> simp
  · intro parts mem parts' last same
    obtain ⟨path, global, rfl⟩ := List.mem_map.1 last
    have other := (global_eq_some absolute plain home path).1 (Option.mem_toList.1 global)
    exact other.2.2.2 (same ▸ mem)

end ContextQuery.Config
