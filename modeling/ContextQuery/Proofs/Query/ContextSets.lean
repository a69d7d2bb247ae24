import ContextQuery.Proofs.Query.Taking
import ContextQuery.Query.Scope

/-!
# Canonical text and context sets

A query whose strings are all plain keeps its context sets in canonical text, whatever its dialect
refuses: none of its names needs quotes. One thing is in the way, a declaration that a modifier
takes. What is read then is `Node.reread`, if anything is.

## Main definitions

* `Node.isPlain`: all strings are of lower-case letters and digits.
* `Node.Worded`: names that a dialect without quoted names can have read.
* `Query.contextSets`: the context sets of the clauses.

## Main results

* `Query.contextSets_toCql`: canonical text keeps the context sets, or a declaration is taken.
-/

namespace ContextQuery

/-! ## Plain strings -/

/-- Only lower-case letters and digits. -/
def Text.isPlain (s : String) : Bool :=
  s.toList.all fun c => c.isLower || c.isDigit

/-- Both parts of the name are plain. -/
def Name.isPlain (n : Name) : Bool :=
  n.set.all Text.isPlain && Text.isPlain n.value

/-- The type and the value of the modifier are plain. -/
def Modifier.isPlain (m : Modifier) : Bool :=
  m.name.isPlain && m.value.all Text.isPlain

/-- The relation is a sign or a plain name, and its modifiers are plain. -/
def Relation.isPlain (r : Relation) : Bool :=
  (r.comparison?.isSome || r.name.isPlain) && r.modifiers.all Modifier.isPlain

/-- The index, the relation and the term are plain. -/
def SearchClause.isPlain (c : SearchClause) : Bool :=
  c.index.isPlain && c.relation.isPlain && Text.isPlain c.term.value

/-- The names and identifiers of the map are plain. -/
def PrefixMap.isPlain (map : PrefixMap) : Bool :=
  map.entries.all fun e => Text.isPlain e.1 && Text.isPlain e.2

/-- All strings of the tree are plain. -/
def Node.isPlain : Node → Bool
  | clause p c => p.isPlain && c.isPlain
  | triple p b l r => p.isPlain && b.modifiers.all Modifier.isPlain && l.isPlain && r.isPlain

theorem Text.isWordChar_of_plain {c : Char} (h : (c.isLower || c.isDigit) = true) :
    isWordChar c = true ∧ c ≠ '\\' := by
  have table : ∀ n < 0x80, ((Char.ofNat n).isLower || (Char.ofNat n).isDigit) = true →
      isWordChar (Char.ofNat n) = true ∧ Char.ofNat n ≠ '\\' := by
    decide +kernel
  -- Both classes are intervals of ASCII, for which the table decides.
  have ascii : c.toNat < 0x80 := by
    have h : (decide ('a'.val ≤ c.val) && decide (c.val ≤ 'z'.val) ||
      decide ('0'.val ≤ c.val) && decide (c.val ≤ '9'.val)) = true := h
    simp only [Bool.or_eq_true, Bool.and_eq_true, decide_eq_true_eq, UInt32.le_iff_toNat_le] at h
    change (_ ∧ c.toNat ≤ 122) ∨ (_ ∧ c.toNat ≤ 57) at h
    omega
  simpa [h] using table c.toNat ascii

/-- All characters are those of words, and none is a backslash. -/
def Text.Sound (s : String) : Prop :=
  ∀ c ∈ s.toList, isWordChar c = true ∧ c ≠ '\\'

theorem Text.sound_of_isPlain {s : String} (h : isPlain s = true) : Sound s :=
  fun c hc => isWordChar_of_plain (List.all_eq_true.1 h c hc)

theorem Text.Sound.quotable {s : String} (h : Sound s) : Quotable s.toList :=
  quotable_of_not_mem fun mem => (h _ mem).2 rfl

/-- A sound text that is not empty needs no quotes. -/
theorem Text.Sound.bare {s : String} (h : Sound s) (nonempty : s ≠ "") :
    (Lexeme.ofText s).Bare := by
  have noQuotes : needsQuotes s = false := by
    simp only [needsQuotes, Bool.or_eq_false_iff, Bool.not_eq_false', List.all_eq_true]
    exact ⟨by simpa using nonempty, fun c hc => (h c hc).1⟩
  rw [Lexeme.ofText, if_neg (by simp [noQuotes])]
  exact isQuotedText_eq_false (head_ne_quote_of_not_needsQuotes noQuotes)

theorem Name.sound_of_isPlain {n : Name} (h : n.isPlain = true) : Text.Sound n.fullName := by
  obtain ⟨set, value⟩ := n
  simp only [isPlain, Bool.and_eq_true] at h
  have value := Text.sound_of_isPlain h.2
  cases set with
  | none => exact value
  | some set =>
    have set := Text.sound_of_isPlain (s := set) (by simpa using h.1)
    intro c hc
    simp only [fullName, String.toList_append, List.mem_append] at hc
    obtain (hc | hc) | hc := hc
    · exact set c hc
    · obtain rfl : c = '.' := by simpa using hc
      decide +kernel
    · exact value c hc

/-! ## Plain strings in quotes -/

theorem Modifier.quotable_of_isPlain {m : Modifier} (h : m.isPlain = true) : m.Quotable := by
  simp only [isPlain, Bool.and_eq_true] at h
  refine ⟨(Name.sound_of_isPlain h.1).quotable, fun value isValue => ?_⟩
  have plain := h.2
  rw [Option.mem_def.1 isValue] at plain
  exact (Text.sound_of_isPlain plain).quotable

/-- The relation of a plain clause is a sign, or it has a sound name. -/
theorem Relation.cases_of_isPlain {r : Relation} (h : r.isPlain = true) :
    (∃ c, Comparison.ofSign? r.name.fullName = some c) ∨ Text.Sound r.name.fullName := by
  simp only [isPlain, Bool.and_eq_true, Bool.or_eq_true] at h
  obtain sign | plain := h.1
  · obtain ⟨⟨_ | set, value⟩, ms⟩ := r
    · exact .inl (Option.isSome_iff_exists.1 sign)
    · simp [comparison?] at sign
  · exact .inr (Name.sound_of_isPlain plain)

theorem SearchClause.quotable_of_isPlain {c : SearchClause} (h : c.isPlain = true) :
    c.Quotable := by
  simp only [isPlain, Bool.and_eq_true] at h
  obtain ⟨⟨index, relation⟩, term⟩ := h
  refine ⟨(Name.sound_of_isPlain index).quotable, ?_, fun m hm => ?_,
    (Text.sound_of_isPlain term).quotable⟩
  · obtain ⟨s, isSign⟩ | sound := Relation.cases_of_isPlain relation
    · rw [← Comparison.sign_of_ofSign? isSign]
      cases s <;> decide +kernel
    · exact sound.quotable
  · simp only [Relation.isPlain, Bool.and_eq_true, List.all_eq_true] at relation
    exact Modifier.quotable_of_isPlain (relation.2 m hm)

theorem PrefixMap.quotable_of_isPlain {map : PrefixMap} (h : map.isPlain = true) :
    map.Quotable := by
  intro e he
  have plain := List.all_eq_true.1 h e he
  simp only [Bool.and_eq_true] at plain
  exact ⟨(Text.sound_of_isPlain plain.1).quotable, (Text.sound_of_isPlain plain.2).quotable⟩

theorem Node.quotable_of_isPlain {n : Node} (h : n.isPlain = true) : n.Quotable := by
  induction n with
  | clause =>
    simp only [isPlain, Bool.and_eq_true] at h
    exact ⟨PrefixMap.quotable_of_isPlain h.1, SearchClause.quotable_of_isPlain h.2⟩
  | triple _ _ _ _ ihl ihr =>
    simp only [isPlain, Bool.and_eq_true, List.all_eq_true] at h
    exact ⟨PrefixMap.quotable_of_isPlain h.1.1.1,
      fun m hm => Modifier.quotable_of_isPlain (h.1.1.2 m hm), ihl h.1.2, ihr h.2⟩

/-! ## Names read from words -/

/-- The names of the clause are not empty, and its relation is no connective. -/
structure SearchClause.Worded (c : SearchClause) : Prop where
  index : c.index.fullName ≠ ""
  relation : c.relation.name.fullName ≠ "" ∧
    Connective.ofKeyword? c.relation.name.fullName = none
  modifiers : ∀ m ∈ c.relation.modifiers, m.name.fullName ≠ ""

/-- The names of the tree are not empty, and no relation is a connective. -/
def Node.Worded : Node → Prop :=
  Node.Each (fun _ => True) SearchClause.Worded fun b => ∀ m ∈ b.modifiers, m.name.fullName ≠ ""

theorem Connective.ofKeyword?_lowerCase (s : String) :
    ofKeyword? (Text.lowerCase s) = ofKeyword? s := by
  rw [ofKeyword?, ofKeyword?, Text.lowerCase_lowerCase]

/-- Where quoted names are refused, a name is the text of its token in lower case. -/
theorem Token.Genuine.fullName_of_parse {d : Dialect} {t : Token} {n : Name} (genuine : t.Genuine)
    (refuse : d.refuseQuotedName = true) (parsed : Name.parse d t.text = .ok n) :
    t.kind ≠ .quoted ∧ n.fullName = Text.lowerCase t.text := by
  have noQuotes : isQuotedText (Text.lower t.text.toList) = false := by
    refine Bool.eq_false_iff.2 fun quoted => ?_
    simp [Name.parse, quoted, refuse] at parsed
  constructor
  · intro quoted
    obtain ⟨inside, escaped, eq⟩ := genuine.quoted quoted
    obtain ⟨lowered, -, eq'⟩ := lower_quoted escaped
    rw [eq, eq', isQuotedText_quoted] at noQuotes
    exact absurd noQuotes (by decide)
  · rw [← String.toList_inj, (Name.canonical_of_parse parsed).2, unquoteText, noQuotes]
    simp [Text.lowerCase]

namespace Grammar

variable {d : Dialect} {ts rest : List Token}

/-- A token that has the shape of its class, which is never empty. -/
def Solid (t : Token) : Prop :=
  t.Genuine ∧ t.text ≠ ""

theorem Solid.fullName_ne_empty {t : Token} {n : Name} (solid : Solid t)
    (refuse : d.refuseQuotedName = true) (parsed : Name.parse d t.text = .ok n) :
    n.fullName ≠ "" := by
  rw [(solid.1.fullName_of_parse refuse parsed).2]
  exact Text.lowerCase_ne_empty solid.2

theorem Modifiers.worded {ms : List Modifier} (h : Modifiers d ts ms rest)
    (refuse : d.refuseQuotedName = true) (solid : ∀ t ∈ ts, Solid t) :
    ∀ m ∈ ms, m.name.fullName ≠ "" := by
  induction h with
  | done => simp
  | @bare _ n _ _ _ _ _ _ parsed _ _ ih | @valued _ n _ _ _ _ _ _ _ _ parsed _ _ _ ih =>
    have name := (solid n (by simp)).fullName_ne_empty refuse parsed
    exact List.forall_mem_cons.2 ⟨name, ih fun t ht => solid t (by simp [ht])⟩

theorem Clause.worded {c : SearchClause} (h : Clause d ts c rest)
    (refuse : d.refuseQuotedName = true) (solid : ∀ t ∈ ts, Solid t) : c.Worded := by
  cases h with
  | @full i r _ _ _ _ _ _ _ _ goesOn index_parsed isRelation relation_parsed mods =>
    have solidRelation := solid r (by simp)
    refine ⟨(solid i (by simp)).fullName_ne_empty refuse index_parsed,
      ⟨solidRelation.fullName_ne_empty refuse relation_parsed, ?_⟩,
      mods.worded refuse fun t ht => solid t (by simp [ht])⟩
    obtain ⟨unquoted, full⟩ := solidRelation.1.fullName_of_parse refuse relation_parsed
    rw [full, Connective.ofKeyword?_lowerCase]
    have kind : r.kind = .word ∨ r.kind = .comparison := by
      simpa [Token.isName, unquoted] using isRelation
    obtain word | comparison := kind
    · simp only [Reader.endsClause, Reader.isConnective, word, Bool.or_eq_false_iff] at goesOn
      simpa using goesOn.1.1
    · obtain ⟨s, isSign⟩ := Option.isSome_iff_exists.1 (solidRelation.1.comparison comparison)
      rw [← Comparison.sign_of_ofSign? isSign]
      cases s <;> decide
  | short =>
    have index : Name.serverChoice.fullName ≠ "" := by decide
    have relation : ∀ v : Version, v.impliedRelation ≠ "" ∧
        Connective.ofKeyword? v.impliedRelation = none := by
      rintro (_ | _) <;> decide +kernel
    exact ⟨index, relation d.version, by simp [SearchClause.serverChoice]⟩

theorem invariant_worded : Invariant d Solid (fun _ => True)
    (fun c => d.refuseQuotedName = true → c.Worded)
    fun b => d.refuseQuotedName = true → ∀ m ∈ b.modifiers, m.name.fullName ≠ "" where
  empty := trivial
  declare _ _ _ _ := trivial
  clause solid reads refuse := reads.worded refuse solid
  boolean solid mods refuse := mods.worded refuse solid

end Grammar

theorem Query.worded_of_parse {d : Dialect} {text : String} {q : Query}
    (parsed : Query.parse d text = .ok q) (refuse : d.refuseQuotedName = true) :
    q.root.Worded := by
  obtain ⟨-, -, derives⟩ := Query.parse_eq_ok_iff.1 parsed
  have each := derives.each Grammar.invariant_worded (fun t ht =>
    ⟨TokenStream.genuine_of_mem_scan ht, TokenStream.text_ne_empty_of_mem_scan ht⟩) trivial
  exact each.mono id (fun h => h refuse) fun h => h refuse

/-! ## Plain names are bare -/

theorem Modifier.bare_of_isPlain {m : Modifier} (plain : m.isPlain = true)
    (worded : m.name.fullName ≠ "") : m.Bare := by
  simp only [isPlain, Bool.and_eq_true] at plain
  exact (Name.sound_of_isPlain plain.1).bare worded

theorem SearchClause.bare_of_isPlain {c : SearchClause} (plain : c.isPlain = true)
    (worded : c.Worded) : c.Bare := by
  simp only [isPlain, Bool.and_eq_true] at plain
  obtain ⟨⟨index, relation⟩, -⟩ := plain
  refine ⟨(Name.sound_of_isPlain index).bare worded.index, ?_, fun m hm => ?_⟩
  · obtain ⟨nonempty, noKeyword⟩ := worded.relation
    unfold Relation.nameLexeme
    split
    · rename_i s _
      cases s <;> rfl
    · rename_i noSign
      obtain ⟨s, isSign⟩ | sound := Relation.cases_of_isPlain relation
      · simp [noSign] at isSign
      · simpa [noKeyword] using sound.bare nonempty
  · simp only [Relation.isPlain, Bool.and_eq_true, List.all_eq_true] at relation
    exact Modifier.bare_of_isPlain (relation.2 m hm) (worded.modifiers m hm)

theorem Node.bare_of_isPlain {n : Node} (plain : n.isPlain = true) (worded : n.Worded) :
    n.Bare := by
  induction n with
  | clause =>
    simp only [isPlain, Bool.and_eq_true] at plain
    exact ⟨trivial, SearchClause.bare_of_isPlain plain.2 worded.2⟩
  | triple _ _ _ _ ihl ihr =>
    simp only [isPlain, Bool.and_eq_true, List.all_eq_true] at plain
    obtain ⟨-, mods, left, right⟩ := worded
    exact ⟨trivial, fun m hm => Modifier.bare_of_isPlain (plain.1.1.2 m hm) (mods m hm),
      ihl plain.1.2 left, ihr plain.2 right⟩

/-! ## Context sets -/

/-- The context sets of the index and of the relation of each clause, from left to right. -/
def Query.contextSets (q : Query) : List (Option String × Option String) :=
  q.clauses.map fun l => (l.indexSet? q.dialect, l.relationSet? q.dialect)

/-- The canonical text of a plain query is read again, with the same context sets, if no modifier
takes a declaration. Otherwise `Node.reread` tells what is read, if anything is. -/
theorem Query.contextSets_toCql {d : Dialect} {text : String} {q : Query}
    (parsed : Query.parse d text = .ok q) (plain : q.root.isPlain = true)
    (low : q.root.height + 2 ≤ d.maxDepth) :
    (q.root.clashes = false →
      ∃ q', Query.parse d q.toCql = .ok q' ∧ q'.contextSets = q.contextSets) ∧
    ∀ q', Query.parse d q.toCql = .ok q' ↔ ∃ n, q.root.reread = some n ∧ q' = ⟨n, d⟩ := by
  have dialect : q.dialect = d := (Query.parse_eq_ok_iff.1 parsed).1
  have reads (q' : Query) :
      Query.parse d q.toCql = .ok q' ↔ ∃ n, q.root.reread = some n ∧ q' = ⟨n, d⟩ :=
    Query.parse_toCql_iff (Query.readable_of_parse parsed)
      (fun refuse => Node.bare_of_isPlain plain (Query.worded_of_parse parsed refuse))
      (Node.quotable_of_isPlain plain).closed low
  refine ⟨fun clear => ⟨q, (reads q).2 ⟨q.root, Node.reread_of_clear clear, ?_⟩, rfl⟩, reads⟩
  rw [← dialect]

/-- Under the strict dialect, a declaration after a modifier with a value keeps its context set. -/
theorem Query.contextSets_toCql_strict : ∃ q,
    Query.parse .strict ">dc=v dc.x any/m a or/k=1 (>u b = c)" = .ok q ∧
      ∃ q', Query.parse .strict q.toCql = .ok q' ∧ q'.contextSets = q.contextSets := by
  let q : Query := ⟨.triple (.ofList [("dc", "v")]) ⟨.or, [⟨⟨none, "k"⟩, some .eq, some "1"⟩]⟩
    (.clause .empty ⟨⟨some "dc", "x"⟩, ⟨⟨none, "any"⟩, [⟨⟨none, "m"⟩, none, none⟩]⟩, ⟨"a"⟩⟩)
    (.clause (.ofList [("", "u")]) ⟨⟨none, "b"⟩, ⟨⟨none, "="⟩, []⟩, ⟨"c"⟩⟩), .strict⟩
  have parsed : Query.parse .strict ">dc=v dc.x any/m a or/k=1 (>u b = c)" = .ok q := by
    decide +kernel
  exact ⟨q, parsed, (Query.contextSets_toCql parsed (by decide) (by decide)).1 (by decide)⟩

/-- A modifier may take a declaration silently, and the clause after it loses its context sets. Or
it takes the name of one, and the text is refused. -/
theorem Query.contextSets_toCql_taken :
    (∃ q q', Query.parse {} "a or/m (>u x = y)" = .ok q ∧ q.root.isPlain = true ∧
      q.root.height + 2 ≤ ({} : Dialect).maxDepth ∧ Query.parse {} q.toCql = .ok q' ∧
      q.contextSets = [(some ContextSet.cql, none), (some "u", some "u")] ∧
      q'.contextSets = [(some ContextSet.cql, none), (none, none)]) ∧
    ∃ q, Query.parse {} "a or/m (>dc=u dc.x = y)" = .ok q ∧ q.root.isPlain = true ∧
      q.root.height + 2 ≤ ({} : Dialect).maxDepth ∧
      Query.parse {} q.toCql = .error ⟨.querySyntax, "Expected index, got: ="⟩ := by
  let clause (map : PrefixMap) (index : Name) : Node :=
    .clause map ⟨index, ⟨⟨none, "="⟩, []⟩, ⟨"y"⟩⟩
  let query (m : Modifier) (right : Node) : Query :=
    ⟨.triple .empty ⟨.or, [m]⟩ (.clause .empty (.serverChoice {} ⟨"a"⟩)) right, {}⟩
  refine ⟨⟨query ⟨⟨none, "m"⟩, none, none⟩ (clause (.ofList [("", "u")]) ⟨none, "x"⟩),
    query ⟨⟨none, "m"⟩, some .gt, some "u"⟩ (clause .empty ⟨none, "x"⟩), ?_⟩,
    query ⟨⟨none, "m"⟩, none, none⟩ (clause (.ofList [("dc", "u")]) ⟨some "dc", "x"⟩), ?_⟩
  · exact ⟨by decide +kernel, by decide, by decide, by decide +kernel, by decide, by decide⟩
  · exact ⟨by decide +kernel, by decide, by decide, by decide +kernel⟩

end ContextQuery
