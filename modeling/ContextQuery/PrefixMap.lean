/-!
# Prefix maps

A finite map from prefix names to context set identifiers, listed in the order of its names
(by code point). The order is part of the type, so two maps with the same bindings are equal.

## Main definitions

* `PrefixMap.insert`: binds a name, replacing what it was bound to.
* `PrefixMap.get?`: what a name is bound to.
-/

namespace ContextQuery

namespace PrefixMap

/-- The entries are listed by name, each name once. -/
def Ordered (entries : List (String × String)) : Prop :=
  entries.Pairwise fun a b => a.1 < b.1

/-- Puts a binding in its place, replacing a binding of the same name. -/
def insertEntry (name uri : String) : List (String × String) → List (String × String)
  | [] => [(name, uri)]
  | entry :: rest =>
    if name < entry.1 then (name, uri) :: entry :: rest
    else if name = entry.1 then (name, uri) :: rest
    else entry :: insertEntry name uri rest

theorem fst_mem_insertEntry {name uri : String} {entries : List (String × String)}
    {e : String × String} (h : e ∈ insertEntry name uri entries) :
    e.1 = name ∨ e ∈ entries := by
  induction entries with
  | nil => simp_all [insertEntry]
  | cons entry rest ih =>
    unfold insertEntry at h
    split at h
    · simp only [List.mem_cons] at h ⊢
      rcases h with rfl | h | h <;> simp_all
    · split at h
      · simp only [List.mem_cons] at h ⊢
        rcases h with rfl | h <;> simp_all
      · simp only [List.mem_cons] at h ⊢
        rcases h with rfl | h
        · simp
        · rcases ih h with h | h <;> simp_all

theorem ordered_insertEntry (name uri : String) {entries : List (String × String)}
    (h : Ordered entries) : Ordered (insertEntry name uri entries) := by
  induction entries with
  | nil => simp [insertEntry, Ordered]
  | cons entry rest ih =>
    obtain ⟨head, tail⟩ := List.pairwise_cons.1 h
    unfold insertEntry
    split
    · rename_i lt
      refine List.pairwise_cons.2 ⟨fun e he => ?_, h⟩
      rcases List.mem_cons.1 he with rfl | he
      · exact lt
      · exact String.lt_trans lt (head e he)
    · split
      · rename_i eq
        exact List.pairwise_cons.2 ⟨fun e he => eq ▸ head e he, tail⟩
      · rename_i nlt ne
        refine List.pairwise_cons.2 ⟨fun e he => ?_, ih tail⟩
        rcases fst_mem_insertEntry he with eq | he
        · exact eq ▸ Std.lt_of_le_of_ne (String.not_lt.1 nlt) (Ne.symm ne)
        · exact head e he

end PrefixMap

/-- A map from prefix names to context set identifiers, in the order of the names. -/
structure PrefixMap where
  entries : List (String × String)
  ordered : PrefixMap.Ordered entries

namespace PrefixMap

instance : DecidableEq PrefixMap := fun a b =>
  if h : a.entries = b.entries then
    isTrue (by cases a; cases b; simp_all)
  else isFalse fun eq => h (eq ▸ rfl)

/-- The map without bindings. -/
def empty : PrefixMap :=
  ⟨[], List.Pairwise.nil⟩

/-- The map has no bindings. -/
def isEmpty (map : PrefixMap) : Bool :=
  map.entries.isEmpty

/-- Binds a name, replacing what it was bound to. -/
def insert (map : PrefixMap) (name uri : String) : PrefixMap :=
  ⟨insertEntry name uri map.entries, ordered_insertEntry name uri map.ordered⟩

/-- What a name is bound to. -/
def get? (map : PrefixMap) (name : String) : Option String :=
  (map.entries.find? fun entry => entry.1 = name).map (·.2)

/-- A name is bound. -/
def contains (map : PrefixMap) (name : String) : Bool :=
  (map.get? name).isSome

/-- Binds a name unless it is bound already. -/
def insertIfNew (map : PrefixMap) (name uri : String) : PrefixMap :=
  if map.contains name then map else map.insert name uri

/-- The map with the given bindings, later ones replacing earlier ones. -/
def ofList (entries : List (String × String)) : PrefixMap :=
  entries.foldl (fun map entry => map.insert entry.1 entry.2) empty

end PrefixMap

end ContextQuery
