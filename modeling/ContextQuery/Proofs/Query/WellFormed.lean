import ContextQuery.Proofs.Xcql.Reading

/-!
# The form of accepted trees

What printers and look-ups rely on in a tree, whichever reader it comes from: names are in lower
case and have one dot at most, modifiers have a comparison and a value or neither, and what the
dialect refuses is not there. A text also keeps backslashes in terms for masking characters only,
and anchors never stand alone; a document may hold any term.

## Main definitions

* `Node.WellFormed`: the form of a tree from either reader.
* `Term.Masked`: each backslash is taken with the masking character after it.
* `Term.Searchable`: the form of a term from a text.

## Main results

* `Query.wellFormed_of_read`: every tree that is read is well formed.
-/

namespace ContextQuery

/-! ## Form -/

/-- The name is in lower case, and at most one dot parts its value from a context set that is
there. -/
structure Name.WellFormed (n : Name) : Prop where
  full : Text.lowerCase n.fullName = n.fullName
  value : Text.lowerCase n.value = n.value ∧ '.' ∉ n.value.toList
  set : ∀ set ∈ n.set, Text.lowerCase set = set ∧ set ≠ "" ∧ '.' ∉ set.toList

/-- The modifier has a comparison if it has a value. -/
structure Modifier.WellFormed (m : Modifier) : Prop where
  name : m.name.WellFormed
  whole : m.comparison.isSome = true ↔ m.value.isSome = true

/-- The names of the clause are well formed, and its term is not refused for being empty. -/
structure SearchClause.WellFormed (d : Dialect) (c : SearchClause) : Prop where
  index : c.index.WellFormed
  relation : c.relation.name.WellFormed
  modifiers : ∀ m ∈ c.relation.modifiers, m.WellFormed
  term : d.refuseEmptyTerm = true → c.term.value ≠ ""

/-- The names of the declarations are in lower case, and none is refused for being reserved. -/
structure PrefixMap.WellFormed (d : Dialect) (map : PrefixMap) : Prop where
  lower : ∀ e ∈ map.entries, Text.lowerCase e.1 = e.1
  allowed : d.refuseDuplicatePrefix = true →
    map.contains "cql" = false ∧ map.contains "srw" = false

/-- All that the nodes of the tree hold is well formed. -/
def Node.WellFormed (d : Dialect) : Node → Prop :=
  Node.Each (PrefixMap.WellFormed d) (SearchClause.WellFormed d)
    fun b => ∀ m ∈ b.modifiers, m.WellFormed

namespace Term

/-- Read from the left, each backslash is followed by a masking character or by another backslash,
which it is taken with. -/
inductive Masked : List Char → Prop where
  | nil : Masked []
  | plain {c : Char} {cs : List Char} (ordinary : c ≠ '\\') (rest : Masked cs) : Masked (c :: cs)
  | pair {e : Char} {cs : List Char} (masking : e ∈ ['\\', '?', '*', '^']) (rest : Masked cs) :
      Masked ('\\' :: e :: cs)

/-- The term has its backslashes in place, and more in it than anchors. -/
structure Searchable (t : Term) : Prop where
  masked : Masked t.value.toList
  anchored : t.value ≠ "" → ¬∀ c ∈ t.value.toList, c = '^'

end Term

/-! ## Names, modifiers and declarations -/

namespace Name

/-- A name is split at its only dot, which nothing or something stands before. -/
theorem split_inv {cs : List Char} {n : Name} (h : split cs = .ok n) :
    '.' ∉ n.value.toList ∧ ∀ set ∈ n.set, set ≠ "" ∧ '.' ∉ set.toList := by
  unfold split at h
  split at h
  · cases h
  rename_i single
  have whole := List.takeWhile_append_dropWhile (p := (· != '.')) (l := cs)
  split at h
  · rename_i noDot
    cases h
    rw [noDot, List.append_nil] at whole
    refine ⟨fun mem => ?_, by simp⟩
    rw [String.toList_ofList, ← whole] at mem
    simpa using List.all_eq_true.1 List.all_takeWhile _ mem
  · rename_i dot value dropped
    split at h
    · cases h
    rename_i noHead
    cases h
    have isDot : dot = '.' := by
      have := List.head_dropWhile_not (l := cs) (· != '.') (by simp [dropped])
      simpa [dropped] using this
    rw [dropped, isDot] at whole
    simp only [String.toList_ofList, Option.mem_def, Option.some.injEq, forall_eq']
    refine ⟨fun mem => ?_, fun empty => ?_, fun mem => ?_⟩
    · -- The dot that parts the name is one, a dot in the value would be another.
      rw [← whole, List.count_append, List.count_cons_self] at single
      have := List.count_pos_iff.2 mem
      omega
    · have none : cs.takeWhile (· != '.') = [] := by simpa using empty
      rw [none] at whole
      simp [← whole] at noHead
    · simpa using List.all_eq_true.1 List.all_takeWhile _ mem

theorem Canonical.wellFormed {n : Name} (h : n.Canonical) : n.WellFormed := by
  obtain ⟨value, set⟩ := split_inv h.split
  have settled := h.settled
  obtain ⟨_ | s, v⟩ := n
  · exact ⟨Text.lowerCase_eq_self settled, ⟨Text.lowerCase_eq_self settled, value⟩, nofun⟩
  · have settledValue : ∀ c ∈ v.toList, Text.Settled c := fun c hc =>
      settled c (by simp [fullName, hc])
    have settledSet : ∀ c ∈ s.toList, Text.Settled c := fun c hc =>
      settled c (by simp [fullName, hc])
    refine ⟨Text.lowerCase_eq_self settled, ⟨Text.lowerCase_eq_self settledValue, value⟩, ?_⟩
    rintro _ ⟨⟩
    exact ⟨Text.lowerCase_eq_self settledSet, set s rfl⟩

end Name

theorem Modifier.Readable.wellFormed {m : Modifier} (h : m.Readable) : m.WellFormed :=
  ⟨h.name.wellFormed, Bool.eq_iff_iff.1 h.whole⟩

theorem SearchClause.Canonical.wellFormed {d : Dialect} {c : SearchClause} (h : c.Canonical)
    (term : d.refuseEmptyTerm = true → c.term.value ≠ "") : c.WellFormed d :=
  ⟨h.index.wellFormed, h.relation.wellFormed, fun m hm => (h.modifiers m hm).wellFormed, term⟩

theorem PrefixMap.Readable.wellFormed {d : Dialect} {map : PrefixMap} (h : map.Readable d) :
    map.WellFormed d := by
  refine ⟨fun e he => Text.lowerCase_eq_self (h.canonical e he), fun strict => ?_⟩
  have unbound {name : String} (reserved : ContextSet.isReserved name = true) :
      map.contains name = false := by
    simp only [contains, get?, Option.isSome_map, Option.isSome_eq_false_iff,
      Option.isNone_iff_eq_none, List.find?_eq_none, decide_eq_true_eq]
    rintro e he rfl
    simp [h.allowed strict e he] at reserved
  exact ⟨unbound rfl, unbound rfl⟩

/-! ## Terms of texts -/

namespace Term

theorem masked_of_readEscapes {cs value : List Char} (h : readEscapes cs = some value) :
    Masked value := by
  fun_induction readEscapes cs generalizing value with
  | case1 =>
    cases h
    exact .nil
  | case2 => simp at h
  | case3 rest ih =>
    obtain ⟨v, read, rfl⟩ := Option.map_eq_some_iff.1 h
    exact .plain (by decide) (ih read)
  | case4 e rest noQuote masked ih =>
    obtain ⟨v, read, rfl⟩ := Option.map_eq_some_iff.1 h
    exact .pair (by simpa [isMasked, or_assoc] using masked) (ih read)
  | case5 => simp at h
  | case6 c rest noBackslash ih =>
    obtain ⟨v, read, rfl⟩ := Option.map_eq_some_iff.1 h
    exact .plain noBackslash (ih read)

theorem searchable_of_parse {d : Dialect} {raw : String} {t : Term} (h : parse d raw = .ok t) :
    t.Searchable := by
  obtain ⟨-, anchors, read, -⟩ := parse_eq_ok.1 h
  refine ⟨masked_of_readEscapes read, fun nonempty only => ?_⟩
  have only : t.value.toList.all (· = '^') = true := by simpa using only
  rw [all_anchors_of_readEscapes read only] at anchors
  rcases anchors with empty | other
  · exact nonempty (by simpa using empty)
  · simp [only] at other

theorem nonempty_of_parse {d : Dialect} {raw : String} {t : Term} (h : parse d raw = .ok t)
    (strict : d.refuseEmptyTerm = true) : t.value ≠ "" :=
  (literal_eq_ok.1 (parse_eq_ok.1 h).2.2.2).2 strict

end Term

/-! ## Trees -/

theorem Node.Readable.wellFormed {d : Dialect} {n : Node} (h : n.Readable d) : n.WellFormed d :=
  h.mono PrefixMap.Readable.wellFormed
    (fun h => h.toCanonical.wellFormed (Term.nonempty_of_parse h.term))
    fun h m hm => (h m hm).wellFormed

theorem Node.Readable.searchable {d : Dialect} {n : Node} (h : n.Readable d) :
    n.Each (fun _ => True) (·.term.Searchable) fun _ => True :=
  h.mono (fun _ => trivial) (fun h => Term.searchable_of_parse h.term) fun _ => trivial

namespace Xcql

variable {d : Dialect}

/-- A declaration that is not refused is well formed with the ones before it. -/
theorem readable_insert {p : PrefixMap} (h : p.Readable d) {name : String} (uri : String)
    (declarable : d.refuseDuplicatePrefix = true →
      ContextSet.isReserved (Text.lowerCase name) = false) :
    (p.insert (Text.lowerCase name) uri).Readable d := by
  refine ⟨canonical_insert h.canonical name uri, fun strict e he => ?_⟩
  rcases PrefixMap.fst_mem_insertEntry he with eq | he
  · rw [eq]
    exact declarable strict
  · exact h.allowed strict e he

theorem invariant_wellFormed : Invariant d (PrefixMap.Readable d) (SearchClause.WellFormed d)
    fun b => ∀ m ∈ b.modifiers, m.WellFormed where
  empty := Grammar.invariant_readable.empty
  declare uri declarable h := readable_insert h uri declarable
  clause read := by
    obtain ⟨canonical, term⟩ := canonical_readClause read
    exact canonical.wellFormed term
  boolean read m hm := (readable_readBoolean read m hm).wellFormed

end Xcql

/-- All trees that are read are well formed, and those from texts have searchable terms. -/
theorem Query.wellFormed_of_read [Xml.Library] (d : Dialect) :
    (∀ text q, Query.parse d text = .ok q → q.root.WellFormed d ∧
      q.root.Each (fun _ => True) (·.term.Searchable) fun _ => True) ∧
    ∀ document q, Query.parseXml d document = .ok q → q.root.WellFormed d := by
  constructor
  · intro text q parsed
    have readable := Query.readable_of_parse parsed
    exact ⟨readable.wellFormed, readable.searchable⟩
  · intro document q read
    have each := (Xcql.each_parseXml Xcql.invariant_wellFormed read).2
    exact each.mono PrefixMap.Readable.wellFormed id id

/-- A name in upper case with its prefix, a masked character, and a document whose term has a
backslash that masks nothing. -/
theorem Query.wellFormed_of_read_strict :
    (∃ q, Query.parse .strict ">X=u X.Y any/m=1 \"a\\*\"" = .ok q ∧ q.root.WellFormed .strict ∧
      q.root.Each (fun _ => True) (·.term.Searchable) fun _ => True) ∧
    ∃ q, Query.parseXml .strict ("<searchClause><index>T</index><relation><value>=</value>" ++
        "</relation><term>a\\</term></searchClause>") = .ok q ∧ q.root.WellFormed .strict := by
  constructor
  · let q : Query := ⟨.clause (.ofList [("x", "u")]) ⟨⟨some "x", "y"⟩,
      ⟨⟨none, "any"⟩, [⟨⟨none, "m"⟩, some .eq, some "1"⟩]⟩, ⟨"a\\*"⟩⟩, .strict⟩
    have parsed : Query.parse .strict ">X=u X.Y any/m=1 \"a\\*\"" = .ok q := by
      decide +kernel
    exact ⟨q, parsed, (Query.wellFormed_of_read .strict).1 _ _ parsed⟩
  · let q : Query := ⟨.clause .empty ⟨⟨none, "t"⟩, ⟨⟨none, "="⟩, []⟩, ⟨"a\\"⟩⟩, .strict⟩
    have read : Query.parseXml .strict ("<searchClause><index>T</index><relation>" ++
        "<value>=</value></relation><term>a\\</term></searchClause>") = .ok q := by
      decide +kernel
    exact ⟨q, read, (Query.wellFormed_of_read .strict).2 _ _ read⟩

end ContextQuery
