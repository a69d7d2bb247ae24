import Mathlib.Data.List.Infix
import ContextQuery.FileSystem.Path

/-!
# The parts of paths

The parts of a path that starts at the root are the names on the way to the place that it leads to,
however the path is spelled. The directories above it lead to the places above, and an entry of a
directory to the place below with its name.

## Main definitions

* `Path.solid`: the parts that count in a text.

## Main results

* `Path.parts_join`: the parts of an entry of a directory.
* `Path.parts_ancestors`: the parts of a path and of the directories above it.
-/

namespace ContextQuery.Path

/-! ## Parts of a text -/

/-- The parts that count in a text. -/
def solid (cs : List Char) : List String :=
  ((cs.splitOn '/').map String.ofList).filter (!isVoid ·)

@[simp] theorem solid_nil : solid [] = [] := rfl

@[simp] theorem solid_append_slash (cs ds : List Char) :
    solid (cs ++ '/' :: ds) = solid cs ++ solid ds := by
  simp [solid, List.splitOn_append_cons_self]

theorem solid_of_plain {name : String} (plain : '/' ∉ name.toList) (counts : isVoid name = false) :
    solid name.toList = [name] := by
  simp [solid, List.splitOn_eq_singleton plain, counts]

/-- Pieces that slashes set apart are found again. -/
theorem solid_intercalate {pieces : List String} (plain : ∀ piece ∈ pieces, '/' ∉ piece.toList) :
    solid (String.intercalate "/" pieces).toList = pieces.filter (!isVoid ·) := by
  cases pieces with
  | nil => rfl
  | cons piece pieces =>
    have apart : (['/'].intercalate ((piece :: pieces).map String.toList)).splitOn '/' =
        (piece :: pieces).map String.toList :=
      List.splitOn_intercalate '/' (by simpa using plain) (by simp)
    have slash : "/".toList = ['/'] := rfl
    rw [String.toList_intercalate, slash, solid, apart]
    simp [Function.comp_def]

theorem plain_of_mem_splitOn {cs piece : List Char} (h : piece ∈ cs.splitOn '/') :
    '/' ∉ piece := by
  induction cs generalizing piece with
  | nil => simp_all
  | cons c cs ih =>
    rw [List.splitOn_cons_eq_if_modifyHead] at h
    split at h
    · rcases List.mem_cons.1 h with rfl | h
      · simp
      · exact ih h
    · cases pieces : cs.splitOn '/' with
      | nil => exact absurd pieces (List.splitOn_ne_nil '/' cs)
      | cons first others =>
        rw [pieces] at h ih
        rcases List.mem_cons.1 h with rfl | h
        · rename_i other
          have outside := ih List.mem_cons_self
          simp only [List.mem_cons, not_or]
          exact ⟨fun same => other (beq_iff_eq.2 same.symm), outside⟩
        · exact ih (List.mem_cons_of_mem _ h)

/-! ## Paths from the root -/

variable {p : Path} {cs : List Char} {names : List String}

theorem split_of_slash (h : p.text.toList = '/' :: cs) :
    p.split = (.root, (cs.splitOn '/').map String.ofList) := by
  have front : pieces p.text = "" :: (cs.splitOn '/').map String.ofList := by
    rw [pieces, h, ← List.nil_append ('/' :: cs), List.splitOn_append_cons_self]
    rfl
  cases others : cs.splitOn '/' with
  | nil => exact absurd others (List.splitOn_ne_nil '/' cs)
  | cons first others => simp [split, front, others]

theorem exists_slash (h : p.split.1 = .root) : ∃ cs, p.text.toList = '/' :: cs := by
  unfold split at h
  split at h
  · rename_i second rest front
    obtain ⟨first, others, apart, empty, more⟩ := List.map_eq_cons_iff.1 front
    obtain ⟨next, others, rfl, -, -⟩ := List.map_eq_cons_iff.1 more
    obtain rfl : first = [] := by simpa using congrArg String.toList empty
    have joined : ['/'].intercalate (p.text.toList.splitOn '/') = p.text.toList :=
      List.intercalate_splitOn '/'
    rw [apart, List.intercalate_cons_cons] at joined
    exact ⟨_, joined.symm⟩
  · cases h
  · cases h

theorem parts_of_slash (h : p.text.toList = '/' :: cs) : p.parts = (.root, solid cs) := by
  rw [parts, split_of_slash h]
  rfl

/-! ## Entries -/

theorem parts_join {name : String} (h : p.parts = (.root, names)) (plain : '/' ∉ name.toList)
    (counts : isVoid name = false) : (p.join name).parts = (.root, names ++ [name]) := by
  obtain ⟨cs, text⟩ := exists_slash (congrArg Prod.fst h)
  obtain rfl : solid cs = names := congrArg Prod.snd ((parts_of_slash text).symm.trans h)
  have named := solid_of_plain plain counts
  have nonempty : p.text ≠ "" := fun empty => by simp [empty] at text
  unfold join
  rw [if_neg (by simpa using nonempty)]
  -- Only the root and paths with a slash at their end are joined without another slash.
  split
  · rename_i slash
    obtain ⟨front, ends⟩ := List.getLast?_eq_some_iff.1 slash
    cases front with
    | nil =>
      obtain rfl : cs = [] := by simpa [text] using ends
      have joined : (p.text ++ name).toList = '/' :: name.toList := by simp [text]
      rw [parts_of_slash joined, named]
      rfl
    | cons c front =>
      obtain ⟨rfl, rfl⟩ : '/' = c ∧ cs = front ++ ['/'] := by simpa [text] using ends
      have joined : (p.text ++ name).toList = '/' :: (front ++ '/' :: name.toList) := by simp [text]
      rw [parts_of_slash joined, solid_append_slash, solid_append_slash, named, solid_nil,
        List.append_nil]
  · have joined : (p.text ++ "/" ++ name).toList = '/' :: (cs ++ '/' :: name.toList) := by
      simp [text]
    rw [parts_of_slash joined, solid_append_slash, named]

theorem getLast?_join {name : String} (nonempty : name ≠ "") :
    (p.join name).text.toList.getLast? = name.toList.getLast? := by
  have some' : name.toList ≠ [] := by simpa using nonempty
  unfold join
  split
  · rfl
  split
  · rw [String.toList_append, List.getLast?_append_of_ne_nil _ some']
  · rw [String.toList_append, List.getLast?_append_of_ne_nil _ some']

/-! ## Directories above -/

theorem parts_ofPieces {pieces : List String} (plain : ∀ piece ∈ pieces, '/' ∉ piece.toList) :
    (ofPieces .root pieces).parts = (.root, pieces.filter (!isVoid ·)) := by
  cases pieces with
  | nil => rfl
  | cons piece pieces =>
    have text : (ofPieces .root (piece :: pieces)).text.toList =
        '/' :: (String.intercalate "/" (piece :: pieces)).toList := by
      simp [ofPieces, Start.text]
    rw [parts_of_slash text, solid_intercalate plain]

theorem filter_dropWhile_isVoid (pieces : List String) :
    (pieces.dropWhile isVoid).filter (!isVoid ·) = pieces.filter (!isVoid ·) := by
  induction pieces with
  | nil => rfl
  | cons piece pieces ih => by_cases void : isVoid piece <;> simp [void, ih]

/-- The directories above a path lead to the places above, the nearest first. -/
theorem map_parts_abovePieces {pieces : List String}
    (plain : ∀ piece ∈ pieces, '/' ∉ piece.toList) :
    (.root, (pieces.filter (!isVoid ·)).reverse) :: (abovePieces .root pieces).map parts =
      (pieces.filter (!isVoid ·)).tails.map fun names => (.root, names.reverse) := by
  induction pieces with
  | nil => rfl
  | cons piece pieces ih =>
    obtain ⟨-, others⟩ := List.forall_mem_cons.1 plain
    rw [abovePieces]
    split
    · rename_i void
      rw [List.filter_cons_of_neg (by simp [void]), ih others]
    · rename_i counts
      have kept : ∀ piece ∈ (pieces.dropWhile isVoid).reverse, '/' ∉ piece.toList := by
        intro piece mem
        exact others piece (List.dropWhile_subset _ (List.mem_reverse.1 mem))
      have next : (ofPieces .root (pieces.dropWhile isVoid).reverse).parts =
          (.root, (pieces.filter (!isVoid ·)).reverse) := by
        rw [parts_ofPieces kept, List.filter_reverse, filter_dropWhile_isVoid]
      rw [List.filter_cons_of_pos (by simp [counts]), List.map_cons, next, ih others,
        List.tails_cons, List.map_cons]

theorem parts_ancestors (h : p.parts = (.root, names)) :
    p.ancestors.map parts = names.inits.reverse.map fun names => (.root, names) := by
  obtain ⟨cs, text⟩ := exists_slash (congrArg Prod.fst h)
  obtain rfl : solid cs = names := congrArg Prod.snd ((parts_of_slash text).symm.trans h)
  have plain : ∀ piece ∈ ((cs.splitOn '/').map String.ofList).reverse, '/' ∉ piece.toList := by
    simp only [List.mem_reverse, List.mem_map, forall_exists_index, and_imp]
    rintro _ piece mem rfl
    simpa using plain_of_mem_splitOn mem
  have above := map_parts_abovePieces plain
  rw [List.filter_reverse, List.reverse_reverse, List.tails_reverse] at above
  rw [ancestors, Path.above, split_of_slash text, List.map_cons, h]
  refine above.trans ?_
  simp [solid, Function.comp_def]

end ContextQuery.Path
