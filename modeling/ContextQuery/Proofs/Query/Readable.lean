import ContextQuery.Proofs.Query.Acceptance
import ContextQuery.Proofs.Query.Printing

/-!
# What a derivation puts in a tree

Properties of all declarations, clauses and booleans of a tree follow from what the parts that do
not nest are read from, by one induction over the derivation. Two properties are derived that way:
what was read can be read back, and it can be put in quotes.

## Main definitions

* `Grammar.Invariant`: properties that hold of what is read from tokens of some kind.
* `Node.Canonical`: all names are canonical.
* `Node.Readable`: all names are canonical, all terms read back, all declarations are allowed.
* `Node.Quotable`: all strings can be put in quotes.
-/

namespace ContextQuery

namespace Node

variable {maps : PrefixMap → Prop} {clauses : SearchClause → Prop} {booleans : Boolean → Prop}

theorem Each.prefixes {n : Node} (h : n.Each maps clauses booleans) : maps n.prefixes := by
  cases n with
  | clause | triple => exact h.1

theorem Each.withPrefixes {n : Node} {p : PrefixMap} (h : n.Each maps clauses booleans)
    (hp : maps p) : (n.withPrefixes p).Each maps clauses booleans := by
  cases n with
  | clause | triple => exact ⟨hp, h.2⟩

theorem Each.mono {maps' : PrefixMap → Prop} {clauses' : SearchClause → Prop}
    {booleans' : Boolean → Prop} {n : Node} (h : n.Each maps clauses booleans)
    (hm : ∀ {p}, maps p → maps' p) (hc : ∀ {c}, clauses c → clauses' c)
    (hb : ∀ {b}, booleans b → booleans' b) : n.Each maps' clauses' booleans' := by
  induction n with
  | clause => exact ⟨hm h.1, hc h.2⟩
  | triple _ _ _ _ ihl ihr => exact ⟨hm h.1, hb h.2.1, ihl h.2.2.1, ihr h.2.2.2⟩

theorem Each.and {maps' : PrefixMap → Prop} {clauses' : SearchClause → Prop}
    {booleans' : Boolean → Prop} {n : Node} (h : n.Each maps clauses booleans)
    (h' : n.Each maps' clauses' booleans') :
    n.Each (fun p => maps p ∧ maps' p) (fun c => clauses c ∧ clauses' c)
      fun b => booleans b ∧ booleans' b := by
  induction n with
  | clause => exact ⟨⟨h.1, h'.1⟩, h.2, h'.2⟩
  | triple _ _ _ _ ihl ihr =>
    exact ⟨⟨h.1, h'.1⟩, ⟨h.2.1, h'.2.1⟩, ihl h.2.2.1 h'.2.2.1, ihr h.2.2.2 h'.2.2.2⟩

end Node

namespace Grammar

/-- What is read from tokens that satisfy `tokens` satisfies the other properties. -/
structure Invariant (d : Dialect) (tokens : Token → Prop) (maps : PrefixMap → Prop)
    (clauses : SearchClause → Prop) (booleans : Boolean → Prop) : Prop where
  empty : maps .empty
  declare {ts rest : List Token} {ds : List (String × String)} {p : PrefixMap}
    (all : ∀ t ∈ ts, tokens t) (group : Declarations ts ds rest)
    (declarable : Declarable d (bindings ds)) (h : maps p) :
    maps (p.insertAll (bindings ds).entries)
  clause {ts rest : List Token} {c : SearchClause} (all : ∀ t ∈ ts, tokens t)
    (reads : Clause d ts c rest) : clauses c
  boolean {ts rest : List Token} {op : Connective} {ms : List Modifier}
    (all : ∀ t ∈ ts, tokens t) (mods : Modifiers d ts ms rest) : booleans ⟨op, ms⟩

/-- What was there before the part is read satisfies the properties. -/
def Part.Each (maps : PrefixMap → Prop) (clauses : SearchClause → Prop)
    (booleans : Boolean → Prop) : Part → Prop
  | .tail left => left.Each maps clauses booleans
  | _ => True

theorem Derives.each {d : Dialect} {tokens : Token → Prop} {maps : PrefixMap → Prop}
    {clauses : SearchClause → Prop} {booleans : Boolean → Prop}
    (invariant : Invariant d tokens maps clauses booleans) {limit opens : ℕ∞} {part : Part}
    {ts rest : List Token} {n : Node} (h : Derives d limit part opens ts n rest)
    (all : ∀ t ∈ ts, tokens t) (left : part.Each maps clauses booleans) :
    n.Each maps clauses booleans := by
  induction h with
  | group _ _ _ ih => exact ih (fun t ht => all t (List.mem_cons_of_mem _ ht)) trivial
  | clause reads => exact ⟨invariant.empty, invariant.clause all reads⟩
  | declared group _ _ _ declarable ih =>
    have each := ih (fun t ht => all t (group.suffix.subset ht)) trivial
    rw [Node.declareMap_eq]
    exact each.withPrefixes (invariant.declare all group declarable each.prefixes)
  | done => exact left
  | joined _ _ mods operand _ _ ih_operand ih_more =>
    have all' := fun t ht => all t (List.mem_cons_of_mem _ ht)
    have all'' := fun t ht => all' t (mods.suffix.subset ht)
    refine ih_more (fun t ht => all'' t (operand.suffix.subset ht)) ?_
    exact ⟨invariant.empty, invariant.boolean all' mods, left, ih_operand all'' trivial⟩
  | query _ group _ operand _ declarable ih_operand ih_more =>
    have all' := fun t ht => all t (group.suffix.subset ht)
    have each := ih_more (fun t ht => all' t (operand.suffix.subset ht)) (ih_operand all' trivial)
    rw [Node.declareMap_eq]
    exact each.withPrefixes (invariant.declare all group declarable each.prefixes)

theorem mem_bindings {ds : List (String × String)} {e : String × String}
    (h : e ∈ (bindings ds).entries) : ∃ e' ∈ ds, e = (Text.lowerCase e'.1, e'.2) := by
  rw [bindings, PrefixMap.ofList_eq] at h
  rcases PrefixMap.mem_insertAll h with h | h
  · simp [PrefixMap.empty] at h
  · simpa [eq_comm] using h

end Grammar

/-! ## Reading back -/

/-- The modifier can be read back. -/
structure Modifier.Readable (m : Modifier) : Prop where
  name : m.name.Canonical
  whole : m.Whole

/-- The names of the clause are canonical. -/
structure SearchClause.Canonical (c : SearchClause) : Prop where
  index : c.index.Canonical
  relation : c.relation.name.Canonical
  modifiers : ∀ m ∈ c.relation.modifiers, m.Readable

/-- The clause can be read back. -/
structure SearchClause.Readable (d : Dialect) (c : SearchClause) : Prop extends c.Canonical where
  term : Term.parse d c.term.display = .ok c.term

/-- Lower-casing keeps the names of the declarations. -/
def PrefixMap.Canonical (map : PrefixMap) : Prop :=
  ∀ e ∈ map.entries, ∀ c ∈ e.1.toList, Text.Settled c

/-- The declarations can be read back. -/
structure PrefixMap.Readable (d : Dialect) (map : PrefixMap) : Prop where
  canonical : map.Canonical
  allowed (strict : d.refuseDuplicatePrefix = true) :
    ∀ e ∈ map.entries, ContextSet.isReserved e.1 = false

/-- The names of the tree are canonical, as are those of its declarations. -/
def Node.Canonical : Node → Prop :=
  Node.Each PrefixMap.Canonical SearchClause.Canonical fun b => ∀ m ∈ b.modifiers, m.Readable

theorem Node.Canonical.whole {n : Node} (h : n.Canonical) : n.Whole :=
  h.mono (fun _ => trivial) (fun h m hm => (h.modifiers m hm).whole) fun h m hm => (h m hm).whole

/-- All names of the tree are canonical, all terms read back, all declarations are allowed. -/
def Node.Readable (d : Dialect) : Node → Prop :=
  Node.Each (PrefixMap.Readable d) (SearchClause.Readable d) fun b => ∀ m ∈ b.modifiers, m.Readable

theorem Node.Readable.canonical {d : Dialect} {n : Node} (h : n.Readable d) : n.Canonical :=
  h.mono PrefixMap.Readable.canonical SearchClause.Readable.toCanonical id

theorem Name.canonical_serverChoice : Name.serverChoice.Canonical :=
  ⟨by decide +kernel, by decide⟩

theorem Version.canonical_impliedRelation (v : Version) :
    Name.Canonical ⟨none, v.impliedRelation⟩ := by
  cases v with
  | v11 | v12 => exact ⟨by decide +kernel, by decide⟩

namespace Grammar

variable {d : Dialect} {ts rest : List Token}

theorem Modifiers.readable {ms : List Modifier} (h : Modifiers d ts ms rest)
    (genuine : ∀ t ∈ ts, t.Genuine) : ∀ m ∈ ms, m.Readable := by
  induction h with
  | done => simp
  | bare _ _ parsed _ _ ih =>
    refine List.forall_mem_cons.2 ⟨⟨(Name.canonical_of_parse parsed).1, rfl⟩, ih fun t ht => ?_⟩
    exact genuine t (by simp [ht])
  | @valued _ _ c _ _ _ _ _ _ _ parsed isComparison _ _ ih =>
    have sign := (genuine c (by simp)).comparison isComparison
    refine List.forall_mem_cons.2 ⟨⟨(Name.canonical_of_parse parsed).1, ?_⟩, ih fun t ht => ?_⟩
    · simpa [Modifier.Whole] using sign
    · exact genuine t (by simp [ht])

theorem Clause.readable {c : SearchClause} (h : Clause d ts c rest)
    (genuine : ∀ t ∈ ts, t.Genuine) : c.Readable d := by
  cases h with
  | full _ _ index_parsed _ relation_parsed mods term =>
    have mods := mods.readable fun t ht => genuine t (by simp [ht])
    exact ⟨⟨(Name.canonical_of_parse index_parsed).1,
      (Name.canonical_of_parse relation_parsed).1, mods⟩, (Term.parse_display term.2.2).1⟩
  | short _ _ term =>
    exact ⟨⟨Name.canonical_serverChoice, d.version.canonical_impliedRelation,
      by simp [SearchClause.serverChoice]⟩, (Term.parse_display term.2.2).1⟩

theorem invariant_readable : Invariant d Token.Genuine (PrefixMap.Readable d)
    (SearchClause.Readable d) fun b => ∀ m ∈ b.modifiers, m.Readable where
  empty := ⟨nofun, fun _ => nofun⟩
  declare all group declarable h := by
    refine ⟨fun e he => ?_, fun strict e he => ?_⟩
    · rcases PrefixMap.mem_insertAll he with he | he
      · exact h.canonical e he
      · obtain ⟨e', -, rfl⟩ := mem_bindings he
        exact fun c => Text.settled_of_mem_lowerCase
    · rcases PrefixMap.mem_insertAll he with he | he
      · exact h.allowed strict e he
      · exact declarable strict e he
  clause all reads := reads.readable all
  boolean all mods := mods.readable all

end Grammar

/-- What was read can be read back. -/
theorem Query.readable_of_parse {d : Dialect} {text : String} {q : Query}
    (parsed : Query.parse d text = .ok q) : q.root.Readable d := by
  obtain ⟨-, -, derives⟩ := Query.parse_eq_ok_iff.1 parsed
  exact derives.each Grammar.invariant_readable (fun t ht => TokenStream.genuine_of_mem_scan ht)
    trivial

/-! ## Quoting -/

/-- The type and the value of the modifier can be put in quotes. -/
structure Modifier.Quotable (m : Modifier) : Prop where
  name : ContextQuery.Quotable m.name.fullName.toList
  value : ∀ value ∈ m.value, ContextQuery.Quotable value.toList

/-- The names, values and the term of the clause can be put in quotes. -/
structure SearchClause.Quotable (c : SearchClause) : Prop where
  index : ContextQuery.Quotable c.index.fullName.toList
  relation : ContextQuery.Quotable c.relation.name.fullName.toList
  modifiers : ∀ m ∈ c.relation.modifiers, m.Quotable
  term : ContextQuery.Quotable c.term.value.toList

/-- The names and identifiers of the map can be put in quotes. -/
def PrefixMap.Quotable (map : PrefixMap) : Prop :=
  ∀ e ∈ map.entries, ContextQuery.Quotable e.1.toList ∧ ContextQuery.Quotable e.2.toList

/-- All strings of the tree can be put in quotes. -/
def Node.Quotable : Node → Prop :=
  Node.Each PrefixMap.Quotable SearchClause.Quotable fun b => ∀ m ∈ b.modifiers, m.Quotable

namespace Grammar

variable {d : Dialect} {ts rest : List Token}

theorem Modifiers.quotable {ms : List Modifier} (h : Modifiers d ts ms rest)
    (tidy : ∀ t ∈ ts, t.Tidy) : ∀ m ∈ ms, m.Quotable := by
  induction h with
  | done => simp
  | @bare _ n _ _ _ _ _ isName parsed _ _ ih =>
    have name := (tidy n (by simp)).quotable_name (by simp [isName]) parsed
    refine List.forall_mem_cons.2 ⟨⟨name, nofun⟩, ih fun t ht => tidy t (by simp [ht])⟩
  | @valued _ n _ v _ _ _ _ _ isName parsed _ isValue _ ih =>
    have name := (tidy n (by simp)).quotable_name (by simp [isName]) parsed
    have value := (tidy v (by simp)).quotable_unquote isValue
    refine List.forall_mem_cons.2 ⟨⟨name, by simpa using value⟩, ih fun t ht => ?_⟩
    exact tidy t (by simp [ht])

theorem Clause.quotable {c : SearchClause} (h : Clause d ts c rest)
    (tidy : ∀ t ∈ ts, t.Tidy) : c.Quotable := by
  cases h with
  | @full i r _ _ _ _ _ _ _ isName _ index_parsed isRelation relation_parsed mods term =>
    have index := (tidy i (by simp)).quotable_name (by simp [isName]) index_parsed
    have relation := (tidy r (by simp)).quotable_name isRelation relation_parsed
    have mods := mods.quotable fun t ht => tidy t (by simp [ht])
    exact ⟨index, relation, mods, (Term.parse_display term.2.2).2⟩
  | short _ _ term =>
    have relation : '\\' ∉ d.version.impliedRelation.toList := by
      cases d.version <;> decide
    have index : '\\' ∉ Name.serverChoice.fullName.toList := by decide
    exact ⟨quotable_of_not_mem index, quotable_of_not_mem relation,
      by simp [SearchClause.serverChoice], (Term.parse_display term.2.2).2⟩

theorem Declarations.quotable {ds : List (String × String)} (h : Declarations ts ds rest)
    (tidy : ∀ t ∈ ts, t.Tidy) : ∀ e ∈ ds, Quotable e.1.toList ∧ Quotable e.2.toList := by
  induction h with
  | done => simp
  | @named _ a _ i _ _ _ _ isName _ isIdentifier _ ih =>
    have name := (tidy a (by simp)).quotable_unquote isName
    have identifier := (tidy i (by simp)).quotable_unquote isIdentifier
    exact List.forall_mem_cons.2 ⟨⟨name, identifier⟩, ih fun t ht => tidy t (by simp [ht])⟩
  | @unnamed _ i _ _ _ _ isIdentifier _ _ ih =>
    have identifier := (tidy i (by simp)).quotable_unquote isIdentifier
    exact List.forall_mem_cons.2 ⟨⟨.nil, identifier⟩, ih fun t ht => tidy t (by simp [ht])⟩

theorem invariant_quotable : Invariant d Token.Tidy PrefixMap.Quotable SearchClause.Quotable
    fun b => ∀ m ∈ b.modifiers, m.Quotable where
  empty := by simp [PrefixMap.Quotable, PrefixMap.empty]
  declare all group declarable h := by
    intro e he
    rcases PrefixMap.mem_insertAll he with he | he
    · exact h e he
    · obtain ⟨e', he', rfl⟩ := mem_bindings he
      obtain ⟨name, identifier⟩ := group.quotable all e' he'
      exact ⟨by simpa [Text.lowerCase] using name.lower, identifier⟩
  clause all reads := reads.quotable all
  boolean all mods := mods.quotable all

end Grammar

end ContextQuery
