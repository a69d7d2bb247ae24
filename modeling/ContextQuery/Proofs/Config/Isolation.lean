import ContextQuery.Proofs.Config.Discovery

/-!
# Projects on their own

Two file systems in which a directory and the directories above it have the same configuration files
load the same configuration. Only files up to the first one that ends the search or that is no
configuration file need be the same; if there is such a file, the home directory does not matter.

## Main definitions

* `Config.settlesAt`: the file at a place settles which files count.
* `Config.Alike`: how two searches may turn out.

## Main results

* `Config.alike_climb`: searches that meet the same files turn out alike.
* `Config.search_isolates`: what a search finds, and that nothing else matters to what is loaded.
-/

namespace ContextQuery.Config

open Discovery (climb search)

variable {fs fs' : FileSystem} {cwd cwd' : Location} {path directory : Path} {names : List String}
  {directories : List Path}

/-! ## Reading files -/

theorem readText_eq {content : ByteArray} (holds : fs.contentAt? cwd path = some content) :
    fs.readText cwd path = FileSystem.decode content := by
  unfold FileSystem.contentAt? at holds
  unfold FileSystem.readText
  split at holds
  · rename_i found
    obtain rfl := Option.some.inj holds
    rw [found]
  · cases holds

section Library

variable [Toml.Library]

/-- What reading a file gives depends on its content alone. -/
theorem fileAt_congr {content : ByteArray} (holds : fs.contentAt? cwd path = some content)
    (holds' : fs'.contentAt? cwd' path = some content) :
    fileAt fs' cwd' path = fileAt fs cwd path := by
  rw [fileAt, fileAt, readText_eq holds, readText_eq holds']

/-- The files at some paths. -/
def sourcesAt (fs : FileSystem) (cwd : Location) (paths : List Path) : Except Error (List Source) :=
  paths.mapM fun path => return ⟨path, ← fileAt fs cwd path⟩

theorem sourcesAt_cons (fs : FileSystem) (cwd : Location) (path : Path) (paths : List Path) :
    sourcesAt fs cwd (path :: paths) =
      (fileAt fs cwd path).bind fun file =>
        (sourcesAt fs cwd paths).bind fun sources => .ok (⟨path, file⟩ :: sources) := by
  rw [sourcesAt, List.mapM_cons]
  cases fileAt fs cwd path <;> rfl

theorem sourcesAt_congr {paths : List Path}
    (same : ∀ path ∈ paths, fileAt fs' cwd' path = fileAt fs cwd path) :
    sourcesAt fs' cwd' paths = sourcesAt fs cwd paths := by
  induction paths with
  | nil => rfl
  | cons path paths ih =>
    obtain ⟨first, others⟩ := List.forall_mem_cons.1 same
    rw [sourcesAt_cons, sourcesAt_cons, first, ih others]

theorem load_eq (fs : FileSystem) (cwd : Location) (home : Option Path) (directory : Path) :
    load fs cwd home directory =
      (sourcesAt fs cwd (search fs cwd home directory).files).bind merge := rfl

/-! ## Files that settle which files count -/

/-- The file with the content ends the search, or is no configuration file. -/
def settles (content : ByteArray) : Bool :=
  (fileIn? content).all File.isRoot

/-- The file at a place settles which files count. -/
def settlesAt (fs : FileSystem) (place : Location) : Bool :=
  (fs.content? place).any settles

/-- How two searches may turn out: both come upon a file that cannot be used, the same one behind
the same files, or both find the same files. -/
inductive Alike (fs fs' : FileSystem) (cwd cwd' : Location) (directories : List Path) : Prop where
  | refused (e : Error)
      (one : ∀ rest, sourcesAt fs cwd ((climb fs cwd directories).1 ++ rest) = .error e)
      (other : ∀ rest, sourcesAt fs' cwd' ((climb fs' cwd' directories).1 ++ rest) = .error e)
  | found (same : climb fs' cwd' directories = climb fs cwd directories)
      (files : ∀ path ∈ (climb fs cwd directories).1, fileAt fs' cwd' path = fileAt fs cwd path)
      (settled : (climb fs cwd directories).2 = true ∨ ∀ directory ∈ directories,
        (fs.contentAt? cwd (directory.join fileName)).any settles = false)

/-! ## One directory -/

section Climb

variable {content : ByteArray}

theorem climb_none (absent : fs.contentAt? cwd (directory.join fileName) = none) :
    climb fs cwd (directory :: directories) = climb fs cwd directories := by
  have missing : fs.isFile cwd (directory.join fileName) = false := by
    rw [FileSystem.isFile_eq, absent, Option.isSome_none]
  simp [climb, missing]

theorem climb_some (holds : fs.contentAt? cwd (directory.join fileName) = some content) :
    climb fs cwd (directory :: directories) =
      if (fileIn? content).any File.isRoot then ([directory.join fileName], true)
      else
        (directory.join fileName :: (climb fs cwd directories).1,
          (climb fs cwd directories).2) := by
  have present : fs.isFile cwd (directory.join fileName) = true := by
    rw [FileSystem.isFile_eq, holds, Option.isSome_some]
  have ends : endsSearch fs cwd (directory.join fileName) = (fileIn? content).any File.isRoot := by
    rw [endsSearch_eq, holds, Option.bind_some]
  simp [climb, present, ends]

theorem Alike.none (alike : Alike fs fs' cwd cwd' directories)
    (absent : fs.contentAt? cwd (directory.join fileName) = none)
    (absent' : fs'.contentAt? cwd' (directory.join fileName) = none) :
    Alike fs fs' cwd cwd' (directory :: directories) := by
  have same : climb fs cwd (directory :: directories) = climb fs cwd directories :=
    climb_none absent
  have same' : climb fs' cwd' (directory :: directories) = climb fs' cwd' directories :=
    climb_none absent'
  cases alike with
  | refused e one other => exact .refused e (by rwa [same]) (by rwa [same'])
  | found eq files settled =>
    refine .found (by rw [same, same', eq]) (by rwa [same]) ?_
    rw [same]
    exact settled.imp_right fun others =>
      List.forall_mem_cons.2 ⟨by rw [absent, Option.any_none], others⟩

variable (holds : fs.contentAt? cwd (directory.join fileName) = some content)
  (holds' : fs'.contentAt? cwd' (directory.join fileName) = some content)

include holds holds'

/-- A file that is no configuration file is refused, whatever comes behind it. -/
theorem alike_unusable (unusable : fileIn? content = none) :
    Alike fs fs' cwd cwd' (directory :: directories) := by
  have reads : (fileAt fs cwd (directory.join fileName)).toOption = none := by
    rw [toOption_fileAt, holds, Option.bind_some, unusable]
  cases failed : fileAt fs cwd (directory.join fileName) with
  | ok file => simp [failed, Except.toOption] at reads
  | error e =>
    have failed' := (fileAt_congr holds holds').trans failed
    have passes : ¬(fileIn? content).any File.isRoot = true := by simp [unusable]
    refine .refused e (fun rest => ?_) fun rest => ?_
    · rw [climb_some holds, if_neg passes, List.cons_append, sourcesAt_cons, failed]
      rfl
    · rw [climb_some holds', if_neg passes, List.cons_append, sourcesAt_cons, failed']
      rfl

/-- A file that ends the search is the last one. -/
theorem alike_root (root : (fileIn? content).any File.isRoot = true) :
    Alike fs fs' cwd cwd' (directory :: directories) := by
  have one : climb fs cwd (directory :: directories) = ([directory.join fileName], true) := by
    rw [climb_some holds, if_pos root]
  have other : climb fs' cwd' (directory :: directories) = ([directory.join fileName], true) := by
    rw [climb_some holds', if_pos root]
  refine .found (other.trans one.symm) ?_ (.inl (by rw [one]))
  rw [one]
  exact List.forall_mem_singleton.2 (fileAt_congr holds holds')

/-- Behind any other file, the search goes on. -/
theorem Alike.some {file : File} (alike : Alike fs fs' cwd cwd' directories)
    (read : fileIn? content = some file) (passes : file.isRoot = false) :
    Alike fs fs' cwd cwd' (directory :: directories) := by
  have notRoot : ¬(fileIn? content).any File.isRoot = true := by simp [read, passes]
  have reads : fileAt fs cwd (directory.join fileName) = .ok file := by
    have reading := toOption_fileAt fs cwd (directory.join fileName)
    rw [holds, Option.bind_some, read] at reading
    cases found : fileAt fs cwd (directory.join fileName) <;> simp_all [Except.toOption]
  have reads' := (fileAt_congr holds holds').trans reads
  cases alike with
  | refused e one other =>
    refine .refused e (fun rest => ?_) fun rest => ?_
    · rw [climb_some holds, if_neg notRoot, List.cons_append, sourcesAt_cons, reads, Except.bind,
        one]
      rfl
    · rw [climb_some holds', if_neg notRoot, List.cons_append, sourcesAt_cons, reads', Except.bind,
        other]
      rfl
  | found same files settled =>
    have one : climb fs cwd (directory :: directories) =
        (directory.join fileName :: (climb fs cwd directories).1,
          (climb fs cwd directories).2) := by
      rw [climb_some holds, if_neg notRoot]
    have other : climb fs' cwd' (directory :: directories) =
        (directory.join fileName :: (climb fs' cwd' directories).1,
          (climb fs' cwd' directories).2) := by
      rw [climb_some holds', if_neg notRoot]
    refine .found (by rw [one, other, same]) ?_ ?_
    · rw [one]
      exact List.forall_mem_cons.2 ⟨reads'.trans reads.symm, files⟩
    · rw [one]
      refine settled.imp_right fun others => List.forall_mem_cons.2 ⟨?_, others⟩
      rw [holds, Option.any_some, settles, read, Option.all_some, passes]

end Climb

/-- Searches that meet the same files turn out alike. -/
theorem alike_climb (agree : ∀ path ∈ upTo (fun path => (fs.contentAt? cwd path).any settles)
      (directories.map (·.join fileName)),
      fs'.contentAt? cwd' path = fs.contentAt? cwd path) :
    Alike fs fs' cwd cwd' directories := by
  -- What the nearest directory holds decides whether the agreement reaches the next one.
  induction directories with
  | nil => exact .found rfl (fun _ mem => nomatch mem) (.inr fun _ mem => nomatch mem)
  | cons directory directories ih =>
    have first := agree _ (mem_upTo_cons _ _ _)
    have later (passes : (fs.contentAt? cwd (directory.join fileName)).any settles = false) :
        Alike fs fs' cwd cwd' directories := ih fun path mem => agree path <| by
      rw [List.map_cons, upTo, if_neg (by simp [passes])]
      exact List.mem_cons_of_mem _ mem
    cases holds : fs.contentAt? cwd (directory.join fileName) with
    | none => exact (later (by rw [holds, Option.any_none])).none holds (first.trans holds)
    | some content =>
      have holds' := first.trans holds
      cases read : fileIn? content with
      | none => exact alike_unusable holds holds' read
      | some file =>
        cases root : file.isRoot with
        | true => exact alike_root holds holds' (by rw [read, Option.any_some, root])
        | false =>
          refine (later ?_).some holds holds' read root
          rw [holds, Option.any_some, settles, read, Option.all_some, root]

/-! ## Loading -/

variable {home home' : Option Path}

theorem global_eq_none (home : Option Path)
    (ended : (climb fs cwd directory.ancestors).2 = true) :
    (search fs cwd home directory).global = none := by
  rw [global_eq, ended]
  simp

theorem global_congr (same : climb fs' cwd' directory.ancestors = climb fs cwd directory.ancestors)
    (agree : ∀ path ∈ home.map globalPath, fs'.contentAt? cwd' path = fs.contentAt? cwd path) :
    (search fs' cwd' home directory).global = (search fs cwd home directory).global := by
  have nearby : (search fs' cwd' home directory).nearby =
      (search fs cwd home directory).nearby := congrArg Prod.fst same
  rw [global_eq, global_eq, nearby, same]
  cases home with
  | none => rfl
  | some home =>
    have file : fs'.isFile cwd' (globalPath home) = fs.isFile cwd (globalPath home) := by
      rw [FileSystem.isFile_eq, FileSystem.isFile_eq, agree _ rfl]
    simp only [Option.map_some, Option.filter_some, file]

theorem fileAt_global
    (agree : ∀ path ∈ home.map globalPath, fs'.contentAt? cwd' path = fs.contentAt? cwd path)
    (found : path ∈ (search fs cwd home directory).global) :
    fileAt fs' cwd' path = fileAt fs cwd path := by
  rw [global_eq, Option.mem_def, Option.filter_eq_some_iff] at found
  obtain ⟨inside, kept⟩ := found
  simp only [Bool.and_eq_true, FileSystem.isFile_eq] at kept
  obtain ⟨content, holds⟩ := Option.isSome_iff_exists.1 kept.1.2
  exact fileAt_congr holds ((agree path inside).trans holds)

/-- What is loaded after searches that turn out alike. The home directory matters only if no file
settles which files count. -/
theorem load_eq_of_alike (alike : Alike fs fs' cwd cwd' directory.ancestors)
    (homes : (∀ ancestor ∈ directory.ancestors,
        (fs.contentAt? cwd (ancestor.join fileName)).any settles = false) →
      home' = home ∧ ∀ path ∈ home.map globalPath,
        fs'.contentAt? cwd' path = fs.contentAt? cwd path) :
    load fs' cwd' home' directory = load fs cwd home directory := by
  cases alike with
  | refused e one other =>
    have failed : sourcesAt fs cwd (search fs cwd home directory).files = .error e := one _
    have failed' : sourcesAt fs' cwd' (search fs' cwd' home' directory).files = .error e := other _
    rw [load_eq, load_eq, failed, failed']
  | found same files settled =>
    have nearby : (search fs' cwd' home' directory).nearby =
        (search fs cwd home directory).nearby := congrArg Prod.fst same
    have global : (search fs' cwd' home' directory).global =
        (search fs cwd home directory).global ∧
          ∀ path ∈ (search fs cwd home directory).global,
            fileAt fs' cwd' path = fileAt fs cwd path := by
      -- A file that ends the search hides the home directory; without one, it is the same in both.
      rcases settled with ended | passes
      · have none := global_eq_none home ended
        have none' := global_eq_none home' ((congrArg Prod.snd same).trans ended)
        exact ⟨none'.trans none.symm, fun path mem => by simp [none] at mem⟩
      · obtain ⟨rfl, agree⟩ := homes passes
        exact ⟨global_congr same agree, fun path mem => fileAt_global agree mem⟩
    have listed : (search fs' cwd' home' directory).files =
        (search fs cwd home directory).files := by
      rw [Discovery.files, Discovery.files, nearby, global.1]
    have read : ∀ path ∈ (search fs cwd home directory).files,
        fileAt fs' cwd' path = fileAt fs cwd path := by
      intro path mem
      rcases List.mem_append.1 mem with mem | mem
      · exact files path mem
      · exact global.2 path (Option.mem_toList.1 mem)
    rw [load_eq, load_eq, listed, sourcesAt_congr read]

/-! ## Places -/

theorem agree_candidates (absolute : directory.parts = (.root, names)) (plain : ".." ∉ names)
    (agree : ∀ place ∈ upTo (settlesAt fs) (places names), fs'.content? place = fs.content? place) :
    ∀ path ∈ upTo (fun path => (fs.contentAt? cwd path).any settles) (candidates directory),
      fs'.contentAt? cwd' path = fs.contentAt? cwd path := by
  have settled : upTo (fun path => (fs.contentAt? cwd path).any settles) (candidates directory) =
      upTo (fun path => settlesAt fs path.parts.2) (candidates directory) :=
    upTo_congr fun path mem => by rw [contentAt?_candidate absolute plain mem, settlesAt]
  have located : (upTo (fun path => settlesAt fs path.parts.2) (candidates directory)).map
      Path.parts = (upTo (settlesAt fs) (places names)).map fun place => (.root, place) := by
    rw [map_upTo Path.parts (fun parts => settlesAt fs parts.2), parts_candidates absolute,
      ← map_upTo (fun place => (Path.Start.root, place)) (fun parts => settlesAt fs parts.2)]
  rw [settled]
  intro path mem
  have candidate := (upTo_sublist _ _).subset mem
  obtain ⟨place, inside, parts⟩ := List.mem_map.1 (located ▸ List.mem_map_of_mem mem)
  rw [contentAt?_candidate absolute plain candidate, contentAt?_candidate absolute plain candidate,
    ← parts]
  exact agree place inside

theorem unsettled_places (absolute : directory.parts = (.root, names)) (plain : ".." ∉ names)
    (unsettled : ∀ ancestor ∈ directory.ancestors,
      (fs.contentAt? cwd (ancestor.join fileName)).any settles = false) :
    ∀ place ∈ places names, settlesAt fs place = false := by
  intro place inside
  obtain ⟨path, candidate, parts⟩ := exists_candidate absolute inside
  obtain ⟨ancestor, mem, rfl⟩ := List.mem_map.1 candidate
  have passes := unsettled ancestor mem
  rwa [contentAt?_candidate absolute plain candidate, parts] at passes

/-- A search from an absolute directory finds the files in and above the directory up to the first
one that ends the search, and else the one in the home directory too, each file once. What is loaded
depends on the files up to the first one that ends the search or is no configuration file, and on
the home directory only if there is no such file. -/
theorem search_isolates (absolute : directory.parts = (.root, names)) (plain : ".." ∉ names) :
    (∀ (fs : FileSystem) (cwd : Location) (home : Option Path),
      let found := search fs cwd home directory
      let nearby : List (Path.Start × Location) :=
        (upTo (endsAt fs) ((places names).filter (hasFile fs))).map fun place => (.root, place)
      found.files.map Path.parts = nearby ++ found.global.toList.map Path.parts ∧
      (∀ path, found.global = some path ↔
        home.map globalPath = some path ∧ (∀ place ∈ places names, endsAt fs place = false) ∧
          fs.isFile cwd path = true ∧ path.parts ∉ nearby) ∧
      (found.files.map Path.parts).Nodup) ∧
    ∀ (fs fs' : FileSystem) (cwd cwd' : Location) (home home' : Option Path),
      (∀ place ∈ upTo (settlesAt fs) (places names), fs'.content? place = fs.content? place) →
      ((∀ place ∈ places names, settlesAt fs place = false) →
        home' = home ∧ ∀ path ∈ home.map globalPath,
          fs'.contentAt? cwd' path = fs.contentAt? cwd path) →
      load fs' cwd' home' directory = load fs cwd home directory := by
  refine ⟨fun fs cwd home => ?_, fun fs fs' cwd cwd' home home' agree homes => ?_⟩
  · have nearby : (search fs cwd home directory).nearby.map Path.parts = _ :=
      map_parts_nearby absolute plain home
    refine ⟨?_, fun path => ?_, nodup_files absolute plain home⟩
    · rw [Discovery.files, List.map_append, nearby]
    · rw [← nearby]
      exact global_eq_some absolute plain home path
  · exact load_eq_of_alike (alike_climb (agree_candidates absolute plain agree))
      fun unsettled => homes (unsettled_places absolute plain unsettled)

end Library

/-- A project with a file that ends the search, alone and below a file that cannot be read. -/
theorem search_isolates_project :
    let directory : Path := ⟨"/p//q/."⟩
    let project : List (Location × Item) :=
      [(["p"], .directory), (["p", "q"], .directory),
       (["p", ".cql.toml"], .file "root = true".toUTF8)]
    let alone : FileSystem := ⟨project⟩
    let below : FileSystem := ⟨([".cql.toml"], .file "root = [".toUTF8) :: project⟩
    (directory.parts = (.root, ["p", "q"]) ∧ ".." ∉ ["p", "q"]) ∧
      (∀ place ∈ upTo (settlesAt alone) (places ["p", "q"]),
        below.content? place = alone.content? place) ∧
      settlesAt alone ["p", ".cql.toml"] = true ∧
      load below [] (some ⟨"/"⟩) directory = load alone ["p"] none directory := by
  refine ⟨⟨?absolute, ?plain⟩, ?agree, ?settled,
    (search_isolates ?absolute ?plain).2 _ _ _ _ _ _ ?agree (absurd ?settled ∘ ?other)⟩
  case absolute => decide +kernel
  case plain => decide
  case agree => decide +kernel
  case settled => decide +kernel
  case other =>
    intro unsettled
    exact Bool.eq_false_iff.1 (unsettled ["p", ".cql.toml"] (by decide))

end ContextQuery.Config
