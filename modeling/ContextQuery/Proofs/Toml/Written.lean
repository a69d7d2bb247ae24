import ContextQuery.Proofs.Toml.Lines
import ContextQuery.Proofs.Toml.Tables

/-!
# Documents read back

A library that writes tables as a document is relied on to read that document as those tables. The
library of this project does: what it writes is a header and a line for each key, table by table,
and the lines read back as statements.

## Main definitions

* `Tables.WellFormed`: tables that a document can hold.
* `Library.Faithful`: a library reads what it has written.

## Main results

* `Document.faithful`: the library that is used reads what it has written.
-/

namespace ContextQuery.Toml

/-! ## What is relied on -/

/-- What a written value is read as. -/
def Scalar.value : Scalar → Value
  | .string text => .string text
  | .boolean value => .boolean value
  | .number value => .integer value

/-- Numbers have a place in a word of 64 bits. -/
def Scalar.Fits : Scalar → Prop
  | .number value => value < Word.count64
  | _ => True

/-- What written pairs are read as. -/
def readPairs (pairs : List (String × Scalar)) : Entries :=
  pairs.map fun pair => (pair.1, pair.2.value)

/-- What written tables are read as. -/
def Tables.entries (tables : Tables) : Entries :=
  tables.map fun table => (table.1, .table .header (readPairs table.2))

/-- No table and no key of a table stands twice, and all numbers have a place in a word. -/
structure Tables.WellFormed (tables : Tables) : Prop where
  names : (tables.map Prod.fst).Nodup
  keys : ∀ table ∈ tables, (table.2.map Prod.fst).Nodup
  fits : ∀ table ∈ tables, ∀ pair ∈ table.2, pair.2.Fits

/-- The library reads what it has written. -/
def Library.Faithful [Library] : Prop :=
  ∀ tables : Tables, tables.WellFormed → parse? (write tables) = some tables.entries

/-! ## Tables on lines -/

theorem isValue_write (value : Scalar) : IsValue value.write.toList value.value := by
  cases value with
  | string text => exact isValue_string text
  | boolean value => exact isValue_boolean value
  | number value => exact isValue_number value

/-- The lines of a table, with the statements on them. -/
def tableLines (table : String × List (String × Scalar)) : List (List Char × Statement) :=
  ('[' :: ((writeKey table.1).toList ++ [']']), .header [table.1]) ::
    table.2.map fun pair =>
      ((writeKey pair.1).toList ++ " = ".toList ++ pair.2.write.toList,
        .pair ⟨[pair.1], pair.2.value⟩)

theorem isStatement_tableLines (table : String × List (String × Scalar)) :
    ∀ line ∈ tableLines table, IsStatement line.1 line.2 := by
  intro line mem
  rcases List.mem_cons.1 mem with rfl | mem
  · exact isStatement_header table.1
  · obtain ⟨pair, -, rfl⟩ := List.mem_map.1 mem
    exact isStatement_pair (isValue_write pair.2)

theorem toList_writeTable (table : String × List (String × Scalar)) :
    (writeTable table.1 table.2).toList =
      (tableLines table).flatMap fun line => line.1 ++ ['\n'] := by
  obtain ⟨name, pairs⟩ := table
  have written : (pairs.foldr (fun pair text => writePair pair.1 pair.2 ++ text) "").toList =
      pairs.flatMap fun pair => (writePair pair.1 pair.2).toList := by
    induction pairs with
    | nil => rfl
    | cons pair pairs ih => simp [ih]
  rw [writeTable, String.toList_append, written]
  simp [tableLines, writePair, List.flatMap_map]

/-- The statements of tables. -/
theorem statementsOf_eq (tables : Tables) :
    statementsOf (tables.map fun table => (table.1, readPairs table.2)) =
      (tables.flatMap tableLines).map (·.2) := by
  simp [statementsOf, tableLines, readPairs, List.flatMap_map, List.map_flatMap, Function.comp_def]

/-! ## Documents -/

/-- A table is followed by an empty line and the other tables, or by nothing. -/
theorem toList_write_cons (table : String × List (String × Scalar)) (rest : Tables) :
    (Tables.write (table :: rest)).toList =
      (tableLines table).flatMap (fun line => line.1 ++ ['\n']) ++
        if rest = [] then [] else '\n' :: (Tables.write rest).toList := by
  cases rest with
  | nil => simp [Tables.write, toList_writeTable]
  | cons => simp [Tables.write, toList_writeTable]

/-- Each statement takes up a line, so a document has characters enough. -/
theorem length_tableLines_le (tables : Tables) :
    (tables.flatMap tableLines).length ≤ (Tables.write tables).toList.length := by
  have lines (ls : List (List Char × Statement)) :
      ls.length ≤ (ls.flatMap fun line => line.1 ++ ['\n']).length := by
    induction ls with
    | nil => simp
    | cons l ls ih =>
      simp only [List.flatMap_cons, List.length_append, List.length_cons, List.length_nil]
      omega
  induction tables with
  | nil => simp
  | cons table rest ih =>
    have first := lines (tableLines table)
    rw [toList_write_cons, List.flatMap_cons, List.length_append, List.length_append]
    split
    · simp_all
    · rw [List.length_cons]
      omega

/-- A document reads as the statements of its tables. -/
theorem statements?_write (tables : Tables) (rounds : Nat) :
    statements? (rounds + 1 + (tables.flatMap tableLines).length) (Tables.write tables).toList =
      some ((tables.flatMap tableLines).map (·.2)) := by
  induction tables with
  | nil => rfl
  | cons table rest ih =>
    have read := statements?_lines (isStatement_tableLines table)
      (rounds + 1 + (rest.flatMap tableLines).length)
    rw [toList_write_cons, List.flatMap_cons, List.length_append, List.map_append,
      Nat.add_comm (tableLines table).length, ← Nat.add_assoc, read]
    split
    · rename_i last
      subst last
      rfl
    · rw [Nat.add_right_comm, statements?_blank, Nat.add_right_comm, ih]
      rfl

/-- The library that is used reads what it has written. -/
theorem Document.faithful : Library.Faithful := by
  intro tables wellFormed
  have unmarked : dropMark (Tables.write tables).toList = (Tables.write tables).toList := by
    cases tables with
    | nil => rfl
    | cons table rest => rw [toList_write_cons]; rfl
  obtain ⟨rounds, enough⟩ : ∃ rounds, (Tables.write tables).toList.length + 1 =
      rounds + 1 + (tables.flatMap tableLines).length := by
    have low := length_tableLines_le tables
    exact ⟨(Tables.write tables).toList.length - (tables.flatMap tableLines).length, by omega⟩
  have read := statements?_write tables rounds
  rw [← enough, ← statementsOf_eq] at read
  have built : build? (statementsOf (tables.map fun table => (table.1, readPairs table.2))) =
      some tables.entries := by
    rw [build?_statementsOf, Tables.entries, List.map_map]
    · rfl
    · simpa [Function.comp_def] using wellFormed.names
    · intro _ mem
      obtain ⟨table, inside, rfl⟩ := List.mem_map.1 mem
      simpa [readPairs, Function.comp_def] using wellFormed.keys table inside
  calc Document.parse? (Tables.write tables)
    _ = (statements? ((Tables.write tables).toList.length + 1)
          (Tables.write tables).toList).bind build? := by
      rw [Document.parse?, unmarked]
    _ = some tables.entries := by
      rw [read, Option.bind_some, built]

end ContextQuery.Toml
