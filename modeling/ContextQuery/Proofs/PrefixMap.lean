import ContextQuery.PrefixMap

/-!
# Laws of prefix maps

A map is rebuilt from its entries, which is what makes printed declarations read back as the map
they were printed from. What is bound in a map that declarations built, one of them has bound.
-/

namespace ContextQuery

namespace PrefixMap

theorem insertEntry_ne_nil {name uri : String} {entries : List (String × String)} :
    insertEntry name uri entries ≠ [] := by
  cases entries with
  | nil => simp [insertEntry]
  | cons => grind [insertEntry]

theorem mem_insertEntry {name uri : String} {entries : List (String × String)}
    {e : String × String} (h : e ∈ insertEntry name uri entries) :
    e = (name, uri) ∨ e ∈ entries := by
  induction entries with
  | nil => simpa [insertEntry] using h
  | cons entry rest ih =>
    unfold insertEntry at h
    grind

/-- A name after all others is put at the end. -/
theorem insertEntry_eq_append {name uri : String} {entries : List (String × String)}
    (h : ∀ e ∈ entries, e.1 < name) : insertEntry name uri entries = entries ++ [(name, uri)] := by
  induction entries with
  | nil => rfl
  | cons entry rest ih =>
    have before : entry.1 < name := h entry List.mem_cons_self
    have after : ¬name < entry.1 := String.lt_asymm before
    have ne : name ≠ entry.1 := fun eq => String.lt_irrefl _ (eq ▸ before)
    simp only [insertEntry, after, ne, if_false, List.cons_append]
    rw [ih fun e he => h e (List.mem_cons_of_mem _ he)]

@[ext] theorem ext {a b : PrefixMap} (h : a.entries = b.entries) : a = b := by
  cases a
  cases b
  simp_all

/-- Binds each entry of a list, later ones replacing earlier ones. -/
def insertAll (map : PrefixMap) (entries : List (String × String)) : PrefixMap :=
  entries.foldl (fun map entry => map.insert entry.1 entry.2) map

theorem ofList_eq (entries : List (String × String)) : ofList entries = empty.insertAll entries :=
  rfl

@[simp] theorem insertAll_nil (map : PrefixMap) : map.insertAll [] = map := rfl

@[simp] theorem insertAll_cons (map : PrefixMap) (entry : String × String)
    (entries : List (String × String)) :
    map.insertAll (entry :: entries) = (map.insert entry.1 entry.2).insertAll entries := rfl

theorem mem_insertAll {map : PrefixMap} {entries : List (String × String)} {e : String × String}
    (h : e ∈ (map.insertAll entries).entries) : e ∈ map.entries ∨ e ∈ entries := by
  induction entries generalizing map with
  | nil => exact .inl h
  | cons entry entries ih =>
    rcases ih h with h | h
    · rcases mem_insertEntry h with rfl | h
      · exact .inr List.mem_cons_self
      · exact .inl h
    · exact .inr (List.mem_cons_of_mem _ h)

theorem insertAll_entries_eq_append {map : PrefixMap} {entries : List (String × String)}
    (h : Ordered (map.entries ++ entries)) :
    (map.insertAll entries).entries = map.entries ++ entries := by
  induction entries generalizing map with
  | nil => simp
  | cons entry entries ih =>
    have before : ∀ e ∈ map.entries, e.1 < entry.1 := fun e he =>
      (List.pairwise_append.1 h).2.2 e he entry List.mem_cons_self
    have inserted : (map.insert entry.1 entry.2).entries = map.entries ++ [entry] :=
      insertEntry_eq_append before
    rw [insertAll_cons, ih (by simpa [inserted] using h), inserted, List.append_assoc]
    rfl

/-- A map is the one that its entries build. -/
@[simp] theorem empty_insertAll_entries (map : PrefixMap) : empty.insertAll map.entries = map :=
  ext (insertAll_entries_eq_append map.ordered)

/-- Names that are all new are bound whether or not bound names are passed over. -/
theorem foldl_insertIfNew {map : PrefixMap} {entries : List (String × String)}
    (h : Ordered (map.entries ++ entries)) :
    entries.foldl (fun map entry => map.insertIfNew entry.1 entry.2) map =
      map.insertAll entries := by
  induction entries generalizing map with
  | nil => rfl
  | cons entry entries ih =>
    have before : ∀ e ∈ map.entries, e.1 < entry.1 := fun e he =>
      (List.pairwise_append.1 h).2.2 e he entry List.mem_cons_self
    have fresh : map.contains entry.1 = false := by
      simp only [contains, get?, Option.isSome_map, List.find?_isSome, decide_eq_true_eq,
        Bool.eq_false_iff, ne_eq, not_exists, not_and]
      exact fun e he same => String.lt_irrefl _ (same ▸ before e he)
    have inserted : (map.insert entry.1 entry.2).entries = map.entries ++ [entry] :=
      insertEntry_eq_append before
    rw [List.foldl_cons, insertIfNew, fresh, if_neg Bool.false_ne_true,
      ih (by simpa [inserted] using h), insertAll_cons]

theorem isEmpty_insertAll {map : PrefixMap} {entries : List (String × String)} :
    (map.insertAll entries).isEmpty = (map.isEmpty && entries.isEmpty) := by
  induction entries generalizing map with
  | nil => simp
  | cons entry entries ih =>
    have : (map.insert entry.1 entry.2).isEmpty = false := by
      simpa [isEmpty, insert] using insertEntry_ne_nil
    rw [insertAll_cons, ih, this]
    simp

theorem find?_insertEntry {name uri key : String} {entries : List (String × String)}
    (h : Ordered entries) :
    (insertEntry name uri entries).find? (fun entry => entry.1 = key) =
      if name = key then some (name, uri) else entries.find? fun entry => entry.1 = key := by
  induction entries with
  | nil => by_cases eq : name = key <;> simp [insertEntry, eq]
  | cons entry rest ih =>
    obtain ⟨head, tail⟩ := List.pairwise_cons.1 h
    unfold insertEntry
    split
    · by_cases eq : name = key <;> simp [eq]
    split
    · by_cases eq : name = key <;> simp_all
    · by_cases eq : entry.1 = key
      · have ne : name ≠ key := by rintro rfl; simp_all
        simp [eq, ne]
      · simp [eq, ih tail]

theorem get?_insert (map : PrefixMap) (name uri key : String) :
    (map.insert name uri).get? key = if name = key then some uri else map.get? key := by
  simp only [get?, insert, find?_insertEntry map.ordered]
  split <;> rfl

@[simp] theorem get?_empty (key : String) : empty.get? key = none := rfl

/-- What is bound already stays. -/
theorem get?_insertIfNew (map : PrefixMap) (name uri key : String) :
    (map.insertIfNew name uri).get? key =
      (map.get? key).or (if name = key then some uri else none) := by
  unfold insertIfNew contains
  by_cases bound : (map.get? name).isSome
  · by_cases same : name = key
    · subst same
      obtain ⟨old, eq⟩ := Option.isSome_iff_exists.1 bound
      simp [eq]
    · simp [bound, same]
  · by_cases same : name = key
    · subst same
      simp_all [get?_insert]
    · simp [bound, same, get?_insert]

/-- The last entry of a name counts, and what was bound before if the name has none. -/
theorem get?_insertAll (map : PrefixMap) (entries : List (String × String)) (key : String) :
    (map.insertAll entries).get? key =
      ((entries.reverse.find? fun entry => entry.1 = key).map (·.2)).or (map.get? key) := by
  induction entries generalizing map with
  | nil => simp
  | cons entry entries ih =>
    rw [insertAll_cons, ih, get?_insert, List.reverse_cons, List.find?_append]
    cases entries.reverse.find? fun entry => entry.1 = key with
    | some later => simp
    | none => by_cases eq : entry.1 = key <;> simp [eq]

/-- The bindings of a map replace those that were there before. -/
theorem get?_insertAll_entries (map other : PrefixMap) (key : String) :
    (map.insertAll other.entries).get? key = (other.get? key).or (map.get? key) := by
  have own := get?_insertAll empty other.entries key
  rw [empty_insertAll_entries, get?_empty, Option.or_none] at own
  rw [get?_insertAll, own]

/-- Each name is bound once. -/
theorem nodup_names (map : PrefixMap) : (map.entries.map (·.1)).Nodup := by
  refine List.pairwise_map.2 (map.ordered.imp fun {a b} lt eq => ?_)
  exact String.lt_irrefl _ (eq ▸ lt)

end PrefixMap

end ContextQuery
