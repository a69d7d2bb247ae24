import ContextQuery.Proofs.Query.Printing

/-!
# Booleans that meet declarations

Canonical text puts no parentheses around a right operand that is a clause with declarations. After
a boolean whose last modifier has no value, that modifier takes the first declaration for its
comparison. This is what is then read of a tree, apart from any reader.

## Main definitions

* `Node.clashes`: somewhere in a tree a declaration is taken.
* `Node.meet`: a boolean and its right operand, as they are read.
* `Node.reread`: what is read of the canonical text of a tree, if anything is.

## Main results

* `Node.reread_of_clear`: a tree where nothing clashes is read as it is.
* `Node.meet_eq_some`, `Node.meet_eq_none`: what may happen to a declaration.
-/

namespace ContextQuery

/-- Somewhere a clause with declarations follows a modifier without a value, which would take the
first declaration for its comparison. -/
def Node.clashes : Node → Bool
  | clause _ _ => false
  | triple _ b l r =>
    b.modifiers.getLast?.any (·.value.isNone) && r.declares || l.clashes || r.clashes

/-- The map without the declaration that is written first. -/
def PrefixMap.tail (map : PrefixMap) : PrefixMap :=
  ⟨map.entries.tail, map.ordered.tail⟩

/-- The boolean whose last modifier has taken `>` and a value. -/
def Boolean.withLast (b : Boolean) (value : String) : Boolean :=
  ⟨b.op, b.modifiers.dropLast ++
    b.modifiers.getLast?.toList.map fun m => ⟨m.name, some .gt, some value⟩⟩

namespace Node

/-- A boolean and its right operand as they are read one after the other. If the last modifier has
no value, it takes the identifier of a declaration without a name. Of another declaration it takes
the name, and what is left then starts with a sign, as no operand does. -/
def meet (b : Boolean) (r : Node) : Option (Boolean × Node) :=
  if b.modifiers.getLast?.any (·.value.isNone) && r.declares then
    match r with
    | triple _ _ _ _ => none
    | clause p c =>
      p.entries.head?.bind fun (name, uri) =>
        if name = "" then some (b.withLast uri, clause p.tail c) else none
  else some (b, r)

/-- What is read of the canonical text of a node, if anything is. -/
def reread : Node → Option Node
  | clause p c => some (clause p c)
  | triple p b l r =>
    l.reread.bind fun l => r.reread.bind fun r =>
      (meet b r).map fun (b, r) => triple p b l r

variable {n n' : Node} {b b' : Boolean} {r r' : Node}

theorem meet_of_clear (clear : (b.modifiers.getLast?.any (·.value.isNone) && r.declares) = false) :
    meet b r = some (b, r) := by
  unfold meet
  rw [clear]
  rfl

/-- A modifier takes the first declaration of a clause: whole, or only its name. -/
theorem meet_of_taken (taken : (b.modifiers.getLast?.any (·.value.isNone) && r.declares) = true) :
    ∃ m p c name uri, b.modifiers.getLast? = some m ∧ m.value = none ∧ r = clause p c ∧
      p.entries = (name, uri) :: p.tail.entries ∧
      meet b r = if name = "" then some (b.withLast uri, clause p.tail c) else none := by
  have whole := taken
  simp only [Bool.and_eq_true, Option.any_eq_true, Option.isNone_iff_eq_none] at taken
  obtain ⟨⟨m, last, noValue⟩, declared⟩ := taken
  cases r with
  | triple => simp at declared
  | clause p c =>
    obtain ⟨⟨name, uri⟩, rest, entries⟩ := List.exists_cons_of_ne_nil (l := p.entries)
      (by simpa [PrefixMap.isEmpty] using declared)
    refine ⟨m, p, c, name, uri, last, noValue, rfl, by simp [PrefixMap.tail, entries], ?_⟩
    rw [meet, if_pos whole]
    simp [entries]

/-- A boolean that has met its operand has left it as it was, or taken a declaration from it. -/
theorem meet_eq_some (h : meet b r = some (b', r')) :
    (b.modifiers.getLast?.any (·.value.isNone) && r.declares) = false ∧ b' = b ∧ r' = r ∨
      ∃ m uri p c, b.modifiers.getLast? = some m ∧ m.value = none ∧ r = clause p c ∧
        p.entries = ("", uri) :: p.tail.entries ∧ b' = b.withLast uri ∧ r' = clause p.tail c := by
  cases taken : b.modifiers.getLast?.any (·.value.isNone) && r.declares with
  | false =>
    rw [meet_of_clear taken] at h
    cases h
    exact .inl ⟨rfl, rfl, rfl⟩
  | true =>
    obtain ⟨m, p, c, name, uri, last, noValue, rfl, entries, met⟩ := meet_of_taken taken
    rw [met] at h
    split at h
    · rename_i unnamed
      cases h
      exact .inr ⟨m, uri, p, c, last, noValue, rfl, unnamed ▸ entries, rfl, rfl⟩
    · cases h

/-- A boolean that cannot be read with its operand has taken the name of a declaration. -/
theorem meet_eq_none (h : meet b r = none) : ∃ m p c name uri rest,
    b.modifiers.getLast? = some m ∧ m.value = none ∧ r = clause p c ∧
      p.entries = (name, uri) :: rest ∧ name ≠ "" := by
  cases taken : b.modifiers.getLast?.any (·.value.isNone) && r.declares with
  | false => simp [meet_of_clear taken] at h
  | true =>
    obtain ⟨m, p, c, name, uri, last, noValue, rfl, entries, met⟩ := meet_of_taken taken
    refine ⟨m, p, c, name, uri, _, last, noValue, rfl, entries, fun unnamed => ?_⟩
    simp [met, unnamed] at h

/-- A tree where nothing clashes is read as it is. -/
theorem reread_of_clear (clear : n.clashes = false) : n.reread = some n := by
  induction n with
  | clause => rfl
  | triple p b l r ihl ihr =>
    simp only [clashes, Bool.or_eq_false_iff] at clear
    rw [reread, ihl clear.1.2, ihr clear.2, Option.bind_some, Option.bind_some, meet_of_clear]
    · rfl
    · exact clear.1.1

theorem reread_triple_eq_some {p : PrefixMap} {l : Node}
    (h : (triple p b l r).reread = some n') : ∃ l' r' b' r'', l.reread = some l' ∧
      r.reread = some r' ∧ meet b r' = some (b', r'') ∧ n' = triple p b' l' r'' := by
  simp only [reread, Option.bind_eq_some_iff, Option.map_eq_some_iff, Prod.exists] at h
  obtain ⟨l', left, r', right, b', r'', met, rfl⟩ := h
  exact ⟨l', r', b', r'', left, right, met, rfl⟩

theorem eq_clause_of_reread {p : PrefixMap} {c : SearchClause}
    (h : n.reread = some (clause p c)) : n = clause p c := by
  cases n with
  | clause => simpa [reread] using h
  | triple => simp [reread, Option.bind_eq_some_iff] at h

theorem declares_reread (h : n.reread = some n') : n'.declares = n.declares := by
  cases n with
  | clause =>
    cases h
    rfl
  | triple p b l r =>
    obtain ⟨l', r', b', r'', -, -, -, rfl⟩ := reread_triple_eq_some h
    rfl

theorem height_meet (h : meet b r = some (b', r')) : r'.height = r.height := by
  obtain ⟨-, -, rfl⟩ | ⟨_, _, _, _, -, -, rfl, -, -, rfl⟩ := meet_eq_some h
  · rfl
  · rfl

theorem height_reread (h : n.reread = some n') : n'.height = n.height := by
  induction n generalizing n' with
  | clause =>
    cases h
    rfl
  | triple p b l r ihl ihr =>
    obtain ⟨l', r', b', r'', left, right, met, rfl⟩ := reread_triple_eq_some h
    rw [height, height, height_meet met, ihl left, ihr right]

end Node

end ContextQuery
