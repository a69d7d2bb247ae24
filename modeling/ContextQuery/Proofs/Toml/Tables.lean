import Mathlib.Data.List.Nodup
import ContextQuery.Toml.Document

/-!
# Tables from plain sections

A document whose keys have no dots, whose headers name one table each, and which names no table and
no key of a table twice, stands for the tables that it lists, in their order.

## Main definitions

* `statementsOf`: the statements of such a document.

## Main results

* `build?_statementsOf`: the table of such a document.
-/

namespace ContextQuery.Toml

variable {key : String} {value : Value} {entries : Entries}

/-! ## Entries -/

theorem get?_eq_none (h : key ∉ entries.map Prod.fst) : Entries.get? entries key = none := by
  simp only [Entries.get?, Option.map_eq_none_iff, List.find?_eq_none, decide_eq_true_eq]
  exact fun entry mem same => h (same ▸ List.mem_map_of_mem mem)

theorem set_eq_append (h : key ∉ entries.map Prod.fst) :
    Entries.set key value entries = entries ++ [(key, value)] := by
  induction entries with
  | nil => rfl
  | cons entry entries ih =>
    simp only [List.map_cons, List.mem_cons, not_or] at h
    rw [Entries.set, if_neg (Ne.symm h.1), ih h.2]
    rfl

/-- Keys that are new each are added in order. -/
theorem insertAll?_distinct (entries : Entries) {pairs : List (String × Value)}
    (distinct : ((entries ++ pairs).map Prod.fst).Nodup) :
    insertAll? entries (pairs.map fun pair => ⟨[pair.1], pair.2⟩) = some (entries ++ pairs) := by
  induction pairs generalizing entries with
  | nil => simp [insertAll?]
  | cons pair pairs ih =>
    have fresh : pair.1 ∉ entries.map Prod.fst := fun mem => by
      simp only [List.map_append, List.map_cons] at distinct
      exact List.disjoint_of_nodup_append distinct mem List.mem_cons_self
    have inserted : insert? pair.2 true [pair.1] entries = some (entries ++ [pair]) := by
      simp [insert?, get?_eq_none fresh, set_eq_append fresh]
    simp only [List.map_cons, insertAll?, inserted]
    rw [ih _ (by simpa using distinct)]
    simp

/-! ## Sections -/

/-- The statements of tables with a header each. -/
def statementsOf (tables : List (String × Entries)) : List Statement :=
  tables.flatMap fun table =>
    .header [table.1] :: table.2.map fun entry => .pair ⟨[entry.1], entry.2⟩

theorem sections_pairs (pairs : List (String × Value)) (rest : List Statement) :
    sections (pairs.map (fun entry => .pair ⟨[entry.1], entry.2⟩) ++ rest) =
      (pairs.map (fun entry => ⟨[entry.1], entry.2⟩) ++ (sections rest).1, (sections rest).2) := by
  induction pairs with
  | nil => rfl
  | cons pair pairs ih =>
    rw [List.map_cons, List.cons_append, sections, ih]
    rfl

theorem sections_statementsOf (tables : List (String × Entries)) :
    sections (statementsOf tables) = ([], tables.map fun table =>
      ⟨[table.1], false, table.2.map fun entry => ⟨[entry.1], entry.2⟩⟩) := by
  induction tables with
  | nil => rfl
  | cons table tables ih =>
    have front : statementsOf (table :: tables) = .header [table.1] ::
        (table.2.map (fun entry => .pair ⟨[entry.1], entry.2⟩) ++ statementsOf tables) := by
      simp [statementsOf]
    rw [front, sections, sections_pairs, ih]
    simp

/-- Tables that are new each are added in order. -/
theorem defineAll?_distinct (entries : Entries) {tables : List (String × Entries)}
    (distinct : (entries.map Prod.fst ++ tables.map Prod.fst).Nodup)
    (keys : ∀ table ∈ tables, (table.2.map Prod.fst).Nodup) :
    defineAll? entries (tables.map fun table =>
        ⟨[table.1], false, table.2.map fun entry => ⟨[entry.1], entry.2⟩⟩) =
      some (entries ++ tables.map fun table => (table.1, .table .header table.2)) := by
  induction tables generalizing entries with
  | nil => simp [defineAll?]
  | cons table tables ih =>
    obtain ⟨own, keys⟩ := List.forall_mem_cons.1 keys
    have fresh : table.1 ∉ entries.map Prod.fst := fun mem =>
      List.disjoint_of_nodup_append distinct mem List.mem_cons_self
    have filled : insertAll? [] (table.2.map fun entry => ⟨[entry.1], entry.2⟩) = some table.2 :=
      insertAll?_distinct [] (by simpa using own)
    have defined : define? false (table.2.map fun entry => ⟨[entry.1], entry.2⟩) [table.1] entries =
        some (entries ++ [(table.1, .table .header table.2)]) := by
      simp [define?, openTable?, get?_eq_none fresh, filled, set_eq_append fresh]
    simp only [List.map_cons, defineAll?, defined]
    rw [ih _ (by simpa using distinct) keys]
    simp

/-- The tables of a document are those that it lists. -/
theorem build?_statementsOf {tables : List (String × Entries)}
    (distinct : (tables.map Prod.fst).Nodup)
    (keys : ∀ table ∈ tables, (table.2.map Prod.fst).Nodup) :
    build? (statementsOf tables) =
      some (tables.map fun table => (table.1, .table .header table.2)) := by
  rw [build?, sections_statementsOf]
  exact defineAll?_distinct [] distinct keys

end ContextQuery.Toml
