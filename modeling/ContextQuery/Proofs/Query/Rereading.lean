import ContextQuery.Proofs.Query.Meeting
import ContextQuery.Proofs.Query.Readable

/-!
# Canonical text reads back

Tokens that are spelled like the lexemes of a tree derive the tree. Since canonical text is cut
into these lexemes, reading it gives the query that it was printed from, prefixes included, or the
tree that is left when a modifier has taken a declaration.

## Main definitions

* `Node.Bare`: no name of a tree is printed in quotes.
* `Grammar.Rereads`: the lexemes of a node are read as another node where they may stand.

## Main results

* `Grammar.rereads_of_reread`: the lexemes of a tree derive what `Node.reread` says.
* `Query.parse_toCql`: canonical text reads back.
-/

namespace ContextQuery

/-! ## Names without quotes -/

/-- The lexeme has no quotes around it. -/
def Lexeme.Bare (l : Lexeme) : Prop :=
  isQuotedText l.text.toList = false

/-- The type of the modifier is printed without quotes. -/
def Modifier.Bare (m : Modifier) : Prop :=
  (Lexeme.ofText m.name.fullName).Bare

/-- The names of the clause are printed without quotes. -/
structure SearchClause.Bare (c : SearchClause) : Prop where
  index : (Lexeme.ofText c.index.fullName).Bare
  relation : (Relation.nameLexeme c.relation.name).Bare
  modifiers : ∀ m ∈ c.relation.modifiers, m.Bare

/-- The names of the tree are printed without quotes. -/
def Node.Bare : Node → Prop :=
  Node.Each (fun _ => True) SearchClause.Bare fun b => ∀ m ∈ b.modifiers, m.Bare

namespace Token

/-! ## Tokens spelled like lexemes -/

variable {t : Token}

theorem of_lexeme_eq_quoted {s : String} (h : t.lexeme = .quoted s) :
    t.kind = .quoted ∧ t.text = quote s := by
  simpa [lexeme, Lexeme.quoted] using h

theorem of_lexeme_eq_sign {c : Comparison} (h : t.lexeme = .sign c) :
    t.kind = .comparison ∧ t.text = c.sign := by
  simpa [lexeme, Lexeme.sign] using h

theorem of_lexeme_eq_ofText {s : String} (h : t.lexeme = .ofText s) :
    (t.kind = .quoted ∨ t.kind = .word) ∧ t.text = quoteIfNeeded s := by
  unfold Lexeme.ofText at h
  unfold quoteIfNeeded
  split at h
  · obtain ⟨kind, text⟩ := of_lexeme_eq_quoted h
    exact ⟨.inl kind, by simp_all⟩
  · simp only [lexeme, Lexeme.mk.injEq] at h
    exact ⟨.inr h.1, by simp_all⟩

theorem isName_of_lexeme {s : String} (h : t.lexeme = .ofText s) : t.isName = true := by
  rcases (of_lexeme_eq_ofText h).1 with kind | kind <;> simp [isName, kind]

theorem unquote_of_lexeme {s : String} (h : t.lexeme = .ofText s) : unquote t.text = s := by
  rw [(of_lexeme_eq_ofText h).2, unquote_quoteIfNeeded]

theorem isSign_of_lexeme {c : Comparison} (h : t.lexeme = .sign c) (c' : Comparison) :
    t.isSign c' = decide (c = c') := by
  obtain ⟨kind, text⟩ := of_lexeme_eq_sign h
  rw [isSign, kind, text]
  cases c <;> cases c' <;> decide

end Token

/-- The lexeme is a way to write the name. -/
structure Name.SpelledBy (n : Name) (l : Lexeme) : Prop where
  settled : ∀ c ∈ l.text.toList, Text.Settled c
  unquote_text : unquote l.text = n.fullName

namespace Name.Canonical

variable {n : Name}

theorem spelledBy_quoted (h : n.Canonical) : n.SpelledBy (.quoted n.fullName) :=
  ⟨h.settled_quote, unquote_quote _⟩

theorem spelledBy_ofText (h : n.Canonical) : n.SpelledBy (.ofText n.fullName) := by
  unfold Lexeme.ofText
  split
  · exact h.spelledBy_quoted
  · rename_i bare
    refine ⟨h.settled, ?_⟩
    rw [unquote, unquoteText_of_head (head_ne_quote_of_not_needsQuotes (by simpa using bare)),
      String.ofList_toList]

theorem spelledBy_nameLexeme (h : n.Canonical) : n.SpelledBy (Relation.nameLexeme n) := by
  unfold Relation.nameLexeme
  split
  · rename_i c isSign
    have sign := Comparison.sign_of_ofSign? isSign
    have head : c.sign.toList.head? ≠ some '"' := by cases c <;> decide
    refine ⟨by rw [Lexeme.sign, sign]; exact h.settled, ?_⟩
    rw [Lexeme.sign, unquote, unquoteText_of_head head, String.ofList_toList, sign]
  split
  · exact h.spelledBy_quoted
  · exact h.spelledBy_ofText

theorem parse_of_spelled {d : Dialect} {t : Token} {l : Lexeme} (h : n.Canonical)
    (bare : d.refuseQuotedName = true → l.Bare) (spelled : n.SpelledBy l) (eq : t.lexeme = l) :
    Name.parse d t.text = .ok n := by
  subst eq
  refine Name.parse_of_unquote h spelled.settled spelled.unquote_text fun quoted => ?_
  refine Bool.eq_false_iff.2 fun refuse => ?_
  exact Bool.false_ne_true ((bare refuse).symm.trans quoted)

end Name.Canonical

namespace Grammar

open Reader (atKind atSign endsClause)

variable {d : Dialect} {ts rest : List Token}

theorem atKind_comparison_of_lexemes {ms : List Modifier} {m : Modifier}
    (spelled : ts.map Token.lexeme = (m :: ms).flatMap Modifier.lexemes) (rest : List Token) :
    atKind .comparison (ts ++ rest) = false := by
  obtain ⟨t, _, rfl, isSlash, -⟩ := List.map_eq_cons_iff.1 spelled
  have kind : t.kind = .slash := congrArg Lexeme.kind isSlash
  simp [atKind, kind]

/-- Modifiers are read from their lexemes, and others after them, unless a comparison follows one
without a value. -/
theorem modifiers_of_lexemes {ms others : List Modifier} {after : List Token}
    (readable : ∀ m ∈ ms, m.Readable) (bare : d.refuseQuotedName = true → ∀ m ∈ ms, m.Bare)
    (spelled : ts.map Token.lexeme = ms.flatMap Modifier.lexemes)
    (free : atKind .comparison after = true → ms.getLast?.any (·.value.isNone) = false)
    (more : Modifiers d after others rest) : Modifiers d (ts ++ after) (ms ++ others) rest := by
  induction ms generalizing ts with
  | nil =>
    obtain rfl : ts = [] := by simpa using spelled
    exact more
  | cons m ms ih =>
    obtain ⟨⟨canonical, whole⟩, readable⟩ := List.forall_mem_cons.1 readable
    have bareName refuse := (List.forall_mem_cons.1 (bare refuse)).1
    rw [List.flatMap_cons, List.map_eq_append_iff] at spelled
    obtain ⟨first, ts', rfl, spelled, spelled'⟩ := spelled
    have free' : atKind .comparison after = true → ms.getLast?.any (·.value.isNone) = false := by
      cases ms with
      | nil => exact fun _ => rfl
      | cons => simpa using free
    have more := ih readable (fun refuse => (List.forall_mem_cons.1 (bare refuse)).2) spelled' free'
    obtain ⟨name, comparison, value⟩ := m
    cases value with
    | none =>
      obtain rfl : comparison = none := by simpa [Modifier.Whole] using whole
      simp only [Modifier.lexemes, List.map_eq_cons_iff, List.map_eq_nil_iff] at spelled
      obtain ⟨s, _, rfl, isSlash, n, _, rfl, isName, rfl⟩ := spelled
      have noValue : atKind .comparison (ts' ++ after) = false := by
        cases ms with
        | nil =>
          obtain rfl : ts' = [] := by simpa using spelled'
          simpa using free
        | cons => exact atKind_comparison_of_lexemes spelled' after
      exact .bare (congrArg Lexeme.kind isSlash) (Token.isName_of_lexeme isName)
        (canonical.parse_of_spelled bareName canonical.spelledBy_ofText isName) noValue more
    | some value =>
      obtain ⟨c, rfl⟩ : ∃ c, comparison = some c := by
        simpa [Modifier.Whole, Option.isSome_iff_exists] using whole
      simp only [Modifier.lexemes, List.map_eq_cons_iff, List.map_eq_nil_iff] at spelled
      obtain ⟨s, _, rfl, isSlash, n, _, rfl, isName, k, _, rfl, isSign, v, _, rfl, isValue, rfl⟩ :=
        spelled
      obtain ⟨kind, text⟩ := Token.of_lexeme_eq_sign isSign
      have read := Modifiers.valued (congrArg Lexeme.kind isSlash) (Token.isName_of_lexeme isName)
        (canonical.parse_of_spelled bareName canonical.spelledBy_ofText isName) kind
        (Token.isName_of_lexeme isValue) more
      rwa [text, Comparison.ofSign?_sign, Token.unquote_of_lexeme isValue] at read

/-- The last modifier takes a comparison that follows it, and the name after the comparison. -/
theorem modifiers_taken {ms : List Modifier} {m : Modifier} {sign v : Token}
    (readable : ∀ m ∈ ms, m.Readable) (bare : d.refuseQuotedName = true → ∀ m ∈ ms, m.Bare)
    (spelled : ts.map Token.lexeme = ms.flatMap Modifier.lexemes) (last : ms.getLast? = some m)
    (noValue : m.value = none) (isSign : sign.kind = .comparison) (isValue : v.isName = true)
    (stop : atKind .slash rest = false) :
    Modifiers d (ts ++ sign :: v :: rest)
      (ms.dropLast ++ [⟨m.name, Comparison.ofSign? sign.text, some (unquote v.text)⟩]) rest := by
  obtain ⟨init, rfl⟩ := List.getLast?_eq_some_iff.1 last
  rw [List.dropLast_concat]
  rw [List.flatMap_append, List.map_eq_append_iff] at spelled
  obtain ⟨its, mts, rfl, spelled, isLast⟩ := spelled
  have readableLast := readable m (by simp)
  have bareLast refuse := bare refuse m (by simp)
  obtain ⟨name, comparison, value⟩ := m
  obtain rfl : value = none := noValue
  obtain rfl : comparison = none := by simpa [Modifier.Whole] using readableLast.whole
  simp only [List.flatMap_cons, List.flatMap_nil, List.append_nil, Modifier.lexemes,
    List.map_eq_cons_iff, List.map_eq_nil_iff] at isLast
  obtain ⟨s, _, rfl, isSlash, n, _, rfl, isName, rfl⟩ := isLast
  have spelledName := readableLast.name.spelledBy_ofText
  have parsed := readableLast.name.parse_of_spelled bareLast spelledName isName
  have isSlash : s.kind = .slash := congrArg Lexeme.kind isSlash
  rw [List.append_assoc]
  refine modifiers_of_lexemes (fun m hm => readable m (by simp [hm]))
    (fun refuse m hm => bare refuse m (by simp [hm])) spelled ?_
    (.valued isSlash (Token.isName_of_lexeme isName) parsed isSign isValue (.done stop))
  simp [atKind, isSlash]

/-- The name of a relation never ends a clause. -/
theorem relation_of_lexeme {n : Name} {r : Token} (spelled : r.lexeme = Relation.nameLexeme n)
    (ts : List Token) :
    (r.isName || r.kind = .comparison) = true ∧ endsClause (r :: ts) = false := by
  unfold Relation.nameLexeme at spelled
  split at spelled
  · obtain ⟨kind, text⟩ := Token.of_lexeme_eq_sign spelled
    simp [endsClause, Reader.isConnective, kind]
  split at spelled
  · obtain ⟨kind, text⟩ := Token.of_lexeme_eq_quoted spelled
    simp [Token.isName, endsClause, Reader.isConnective, kind]
  · rename_i noKeyword
    refine ⟨by simp [Token.isName_of_lexeme spelled], ?_⟩
    unfold Lexeme.ofText at spelled
    split at spelled
    · have kind := (Token.of_lexeme_eq_quoted spelled).1
      simp [endsClause, Reader.isConnective, kind]
    · simp only [Token.lexeme, Lexeme.mk.injEq] at spelled
      simp [endsClause, Reader.isConnective, spelled, noKeyword]

/-- A clause is read from its lexemes, whatever follows it. -/
theorem clause_of_lexemes {c : SearchClause} (readable : c.Readable d)
    (bare : d.refuseQuotedName = true → c.Bare) (spelled : ts.map Token.lexeme = c.lexemes) :
    Clause d (ts ++ rest) c rest := by
  obtain ⟨index, ⟨name, ms⟩, term⟩ := c
  simp only [SearchClause.lexemes, List.map_eq_cons_iff, List.map_eq_append_iff,
    List.map_eq_nil_iff] at spelled
  obtain ⟨i, _, rfl, isIndex, r, _, rfl, isRelation, mts, _, rfl, mods, t, _, rfl, isTerm, rfl⟩ :=
    spelled
  obtain ⟨kind, text⟩ := Token.of_lexeme_eq_quoted isTerm
  have mods : Modifiers d (mts ++ t :: rest) (ms ++ []) (t :: rest) :=
    modifiers_of_lexemes readable.modifiers (fun refuse => (bare refuse).modifiers) mods
      (by simp [atKind, kind]) (.done (by simp [atKind, kind]))
  rw [List.append_nil] at mods
  have reads : ReadsTerm d t term := by
    refine ⟨by simp [kind], by simp [kind], ?_⟩
    rw [text]
    exact readable.term
  obtain ⟨starts, goesOn⟩ := relation_of_lexeme isRelation (mts ++ t :: rest)
  have whole := Clause.full (Token.isName_of_lexeme isIndex) goesOn
    (readable.index.parse_of_spelled (fun refuse => (bare refuse).index)
      readable.index.spelledBy_ofText isIndex) starts
    (readable.relation.parse_of_spelled (fun refuse => (bare refuse).relation)
      readable.relation.spelledBy_nameLexeme isRelation)
    mods reads
  simpa using whole

theorem kind_ofText (s : String) :
    (Lexeme.ofText s).kind = .quoted ∨ (Lexeme.ofText s).kind = .word := by
  unfold Lexeme.ofText
  split
  · exact .inl rfl
  · exact .inr rfl

theorem kind_ofText_ne (s : String) :
    (Lexeme.ofText s).kind ≠ .comparison ∧ (Lexeme.ofText s).kind ≠ .slash := by
  rcases kind_ofText s with kind | kind <;> simp [kind]

theorem atSign_of_lexeme {l : Lexeme} {ls : List Lexeme} (spelled : ts.map Token.lexeme = l :: ls)
    (other : l.kind ≠ .comparison) (c : Comparison) (rest : List Token) :
    atSign c (ts ++ rest) = false := by
  obtain ⟨t, _, rfl, rfl, -⟩ := List.map_eq_cons_iff.1 spelled
  simp [atSign, Token.isSign, show t.kind ≠ .comparison from other]

theorem declarations_start (e : String × String) (entries : List (String × String)) :
    ∃ ls, (e :: entries).flatMap declarationLexemes = .sign .gt :: ls := by
  rw [List.flatMap_cons, declarationLexemes]
  split <;> exact ⟨_, rfl⟩

theorem atSign_eq_of_declarations {e : String × String} {entries : List (String × String)}
    (spelled : ts.map Token.lexeme = (e :: entries).flatMap declarationLexemes)
    (rest : List Token) : atSign .eq (ts ++ rest) = false := by
  obtain ⟨ls, eq⟩ := declarations_start e entries
  rw [eq] at spelled
  obtain ⟨t, _, rfl, isSign, -⟩ := List.map_eq_cons_iff.1 spelled
  simp [atSign, Token.isSign_of_lexeme isSign]

/-- Declarations are read from their lexemes. -/
theorem declarations_of_lexemes {entries : List (String × String)}
    (spelled : ts.map Token.lexeme = entries.flatMap declarationLexemes)
    (stop : ∀ c, atSign c rest = false) : Declarations (ts ++ rest) entries rest := by
  induction entries generalizing ts with
  | nil =>
    obtain rfl : ts = [] := by simpa using spelled
    exact .done (stop _)
  | cons e entries ih =>
    obtain ⟨name, uri⟩ := e
    rw [List.flatMap_cons, List.map_eq_append_iff] at spelled
    obtain ⟨first, others, rfl, spelled, spelled'⟩ := spelled
    have more := ih spelled'
    unfold declarationLexemes at spelled
    split at spelled
    · rename_i unnamed
      simp only [List.map_eq_cons_iff, List.map_eq_nil_iff] at spelled
      obtain ⟨o, _, rfl, opens, i, _, rfl, isIdentifier, rfl⟩ := spelled
      obtain ⟨kind, text⟩ := Token.of_lexeme_eq_quoted isIdentifier
      have noName : atSign .eq (others ++ rest) = false := by
        cases entries with
        | nil =>
          obtain rfl : others = [] := by simpa using spelled'
          exact stop _
        | cons => exact atSign_eq_of_declarations spelled' rest
      have opens : o.isSign .gt = true := by simp [Token.isSign_of_lexeme opens]
      have isIdentifier : i.isName = true := by simp [Token.isName, kind]
      have read := Declarations.unnamed opens isIdentifier noName more
      obtain rfl : name = "" := by simpa using unnamed
      simpa [text] using read
    · simp only [List.map_eq_cons_iff, List.map_eq_nil_iff] at spelled
      obtain ⟨o, _, rfl, opens, a, _, rfl, isName, k, _, rfl, isSign, i, _, rfl, isIdentifier,
        rfl⟩ := spelled
      obtain ⟨kind, text⟩ := Token.of_lexeme_eq_quoted isIdentifier
      have opens : o.isSign .gt = true := by simp [Token.isSign_of_lexeme opens]
      have isSign : k.isSign .eq = true := by simp [Token.isSign_of_lexeme isSign]
      have isIdentifier : i.isName = true := by simp [Token.isName, kind]
      have read := Declarations.named opens (Token.isName_of_lexeme isName) isSign isIdentifier more
      simpa [text, Token.unquote_of_lexeme isName] using read

theorem bindings_entries {map : PrefixMap} (canonical : map.Canonical) :
    bindings map.entries = map := by
  have same : map.entries.map (fun e => (Text.lowerCase e.1, e.2)) = map.entries := by
    refine (List.map_congr_left fun e he => ?_).trans (List.map_id _)
    rw [Text.lowerCase_eq_self (canonical e he)]
    rfl
  rw [bindings, same, PrefixMap.ofList_eq, PrefixMap.empty_insertAll_entries]

theorem distinct_entries (map : PrefixMap) : Distinct d map.entries :=
  fun _ => map.nodup_names

theorem declarable_entries {map : PrefixMap} (readable : map.Readable d) :
    Declarable d (bindings map.entries) := by
  rw [bindings_entries readable.canonical]
  exact readable.allowed

theorem declareMap_entries {map : PrefixMap} {n : Node} (canonical : map.Canonical)
    (undeclared : n.prefixes = .empty) :
    n.declareMap (bindings map.entries) = n.withPrefixes map := by
  rw [bindings_entries canonical, Node.declareMap_eq, undeclared, PrefixMap.empty_insertAll_entries]

/-- A query is read from the declarations of a map, an operand and what is joined to it. -/
theorem Derives.query_of_parts {limit : ℕ∞} {opens : Nat} {ts' ts'' : List Token}
    {map : PrefixMap} {first n : Node} (readable : map.Readable d)
    (group : Declarations ts map.entries ts')
    (operand : Derives d limit (.operand false) opens ts' first ts'')
    (more : Derives d limit (.tail first) opens ts'' n rest) (undeclared : n.prefixes = .empty) :
    Derives d limit .query (opens + 1 : Nat) ts (n.withPrefixes map) rest := by
  have open_le : (opens : ℕ∞) + 1 ≤ (opens + 1 : Nat) := by simp
  rw [← declareMap_entries readable.canonical undeclared]
  exact .query open_le group (distinct_entries map) operand more (declarable_entries readable)

/-- The lexemes of a node are read as another node where they may stand: as a left operand, as a
right operand, and as a whole query. -/
structure Rereads (d : Dialect) (limit : ℕ∞) (n n' : Node) : Prop where
  left {ts : List Token} (rest : List Token)
      (spelled : ts.map Token.lexeme = Lexeme.enclose n.declares n.lexemes) :
    Derives d limit (.operand false) (n.height + 1 : Nat) (ts ++ rest) n' rest
  right {ts rest : List Token} (spelled : ts.map Token.lexeme = n.lexemes)
      (closed : atKind .rightParen rest = true) :
    Derives d limit (.operand true) (n.height + 1 : Nat) (ts ++ rest) n' rest
  root {ts : List Token} (spelled : ts.map Token.lexeme = n.lexemes) :
    Derives d limit .query (n.height + 2 : Nat) ts n' []

theorem atConnective_of_atKind (h : atKind .rightParen ts = true) : atConnective ts = false := by
  cases ts with
  | nil => rfl
  | cons t ts =>
    have kind : t.kind = .rightParen := by simpa [atKind] using h
    simp [atConnective, Reader.isConnective, kind]

/-- The lexemes of a clause with its declarations are read as a query. -/
theorem query_of_clause_lexemes {limit : ℕ∞} {p : PrefixMap} {c : SearchClause}
    (readable : (Node.clause p c).Readable d) (bare : d.refuseQuotedName = true → c.Bare)
    (spelled : ts.map Token.lexeme = (Node.clause p c).lexemes)
    (stop : atConnective rest = false) :
    Derives d limit .query (1 : Nat) (ts ++ rest) (.clause p c) rest := by
  obtain ⟨dts, cts, rfl, declared, reads⟩ := List.map_eq_append_iff.1 spelled
  have group : Declarations (dts ++ (cts ++ rest)) p.entries (cts ++ rest) :=
    declarations_of_lexemes declared fun c => atSign_of_lexeme reads (kind_ofText_ne _).1 c rest
  have operand : Derives d limit (.operand false) (0 : Nat) (cts ++ rest) _ rest :=
    .clause (clause_of_lexemes readable.2 bare reads)
  rw [List.append_assoc]
  exact .query_of_parts readable.1 group operand (.done stop) rfl

/-- What stands in parentheses is read as an operand. -/
theorem Derives.group_of_query {limit opens : ℕ∞} {later : Bool} {n : Node} {ls : List Lexeme}
    (spelled : ts.map Token.lexeme = .leftParen :: (ls ++ [.rightParen]))
    (inner : ∀ {ts rest}, ts.map Token.lexeme = ls → atKind .rightParen rest = true →
      Derives d limit .query opens (ts ++ rest) n rest) (rest : List Token) :
    Derives d limit (.operand later) opens (ts ++ rest) n rest := by
  simp only [List.map_eq_cons_iff, List.map_eq_append_iff, List.map_eq_nil_iff] at spelled
  obtain ⟨l, _, rfl, isLeft, inside, _, rfl, spelled, r, _, rfl, isRight, rfl⟩ := spelled
  have isRight : r.kind = .rightParen := congrArg Lexeme.kind isRight
  have read : Derives d limit .query opens (inside ++ r :: rest) n (r :: rest) :=
    inner spelled (by simp [atKind, isRight])
  have group : Derives d limit (.operand later) opens (l :: (inside ++ r :: rest)) n rest :=
    .group (congrArg Lexeme.kind isLeft) read isRight
  simpa using group

theorem readable_empty : PrefixMap.Readable d .empty :=
  invariant_readable.empty

theorem eq_empty_of_not_declares {p : PrefixMap} {c : SearchClause}
    (h : (Node.clause p c).declares = false) : p = .empty := by
  exact PrefixMap.ext (by simpa [PrefixMap.isEmpty, PrefixMap.empty] using h)

theorem rereads_clause {limit : ℕ∞} {p : PrefixMap} {c : SearchClause}
    (readable : (Node.clause p c).Readable d) (bare : d.refuseQuotedName = true → c.Bare) :
    Rereads d limit (.clause p c) (.clause p c) where
  left rest spelled := by
    cases declared : (Node.clause p c).declares with
    | true =>
      rw [declared] at spelled
      exact .group_of_query spelled (fun spelled closed =>
        query_of_clause_lexemes readable bare spelled (atConnective_of_atKind closed)) rest
    | false =>
      rw [declared] at spelled
      obtain rfl := eq_empty_of_not_declares declared
      exact .clause (clause_of_lexemes readable.2 bare spelled)
  right {ts rest} spelled closed := by
    cases declared : (Node.clause p c).declares with
    | true =>
      obtain ⟨dts, cts, rfl, spelled, reads⟩ := List.map_eq_append_iff.1 spelled
      have group : Declarations (dts ++ (cts ++ rest)) p.entries (cts ++ rest) :=
        declarations_of_lexemes spelled fun c => atSign_of_lexeme reads (kind_ofText_ne _).1 c rest
      have inner : Derives d limit .query (1 : Nat) (cts ++ rest) (.clause .empty c) rest :=
        query_of_clause_lexemes ⟨readable_empty, readable.2⟩ bare reads
          (atConnective_of_atKind closed)
      have nonempty : p.entries ≠ [] := by
        simpa [PrefixMap.isEmpty] using declared
      have read := Derives.declared group nonempty (distinct_entries p) inner
        (declarable_entries readable.1)
      rwa [declareMap_entries readable.1.canonical rfl, ← List.append_assoc] at read
    | false =>
      obtain rfl := eq_empty_of_not_declares declared
      exact .clause (clause_of_lexemes readable.2 bare spelled)
  root {ts} spelled := by
    have read : Derives d limit .query (1 : Nat) (ts ++ []) (.clause p c) [] :=
      query_of_clause_lexemes readable bare spelled rfl
    simpa using read.mono le_rfl (by simp [Node.height])

/-- The lexemes of a left operand start with no comparison. -/
theorem left_lexemes_starts (n : Node) :
    ∃ l ls, Lexeme.enclose n.declares n.lexemes = l :: ls ∧ l.kind ≠ .comparison := by
  cases declared : n.declares with
  | true => exact ⟨_, _, rfl, nofun⟩
  | false =>
    cases n with
    | triple => exact ⟨_, _, rfl, nofun⟩
    | clause p c =>
      obtain rfl := eq_empty_of_not_declares declared
      exact ⟨_, _, rfl, (kind_ofText_ne _).1⟩

theorem lexemes_of_declares {p : PrefixMap} {c : SearchClause}
    (h : (Node.clause p c).declares = true) :
    ∃ ls, (Node.clause p c).lexemes = .sign .gt :: ls := by
  obtain ⟨e, entries, eq⟩ := List.exists_cons_of_ne_nil (l := p.entries)
    (by simpa [PrefixMap.isEmpty] using h)
  obtain ⟨ls, starts⟩ := declarations_start e entries
  exact ⟨ls ++ c.lexemes, by rw [Node.lexemes, PrefixMap.lexemes, eq, starts, List.cons_append]⟩

/-- The lexemes of a right operand start with a comparison if it declares prefixes, and never with
a slash. -/
theorem right_lexemes_starts (n : Node) : ∃ l ls, n.lexemes = l :: ls ∧
    (l.kind = .comparison ↔ n.declares = true) ∧ l.kind ≠ .slash := by
  cases n with
  | triple => exact ⟨_, _, rfl, by simp [Lexeme.leftParen], by simp [Lexeme.leftParen]⟩
  | clause p c =>
    cases declared : (Node.clause p c).declares with
    | false =>
      obtain rfl := eq_empty_of_not_declares declared
      exact ⟨_, _, rfl, by simp [(kind_ofText_ne _).1], (kind_ofText_ne _).2⟩
    | true =>
      obtain ⟨ls, starts⟩ := lexemes_of_declares declared
      exact ⟨_, ls, starts, by simp [Lexeme.sign], by simp [Lexeme.sign]⟩

/-- The parts of a triple are written one after the other. -/
theorem triple_parts {p : PrefixMap} {b : Boolean} {l r : Node}
    (spelled : ts.map Token.lexeme = p.lexemes ++ (Lexeme.enclose l.declares l.lexemes ++
      (b.lexemes ++ r.lexemes))) :
    ∃ dts lts w mts rts, ts = dts ++ (lts ++ w :: (mts ++ rts)) ∧
      (∀ rest, Declarations (dts ++ (lts ++ rest)) p.entries (lts ++ rest)) ∧
      lts.map Token.lexeme = Lexeme.enclose l.declares l.lexemes ∧
      (w.kind = .word ∧ Connective.ofKeyword? w.text = some b.op) ∧
      mts.map Token.lexeme = b.modifiers.flatMap Modifier.lexemes ∧
      rts.map Token.lexeme = r.lexemes := by
  obtain ⟨dts, _, rfl, declared, spelled⟩ := List.map_eq_append_iff.1 spelled
  obtain ⟨lts, _, rfl, isLeft, spelled⟩ := List.map_eq_append_iff.1 spelled
  obtain ⟨bts, rts, rfl, isBoolean, isRight⟩ := List.map_eq_append_iff.1 spelled
  obtain ⟨w, mts, rfl, isWord, mods⟩ := List.map_eq_cons_iff.1 isBoolean
  simp only [Token.lexeme, Lexeme.mk.injEq] at isWord
  obtain ⟨first, firsts, starts, noSign⟩ := left_lexemes_starts l
  have keyword : Connective.ofKeyword? w.text = some b.op := by
    rw [isWord.2]
    cases b.op <;> decide
  refine ⟨dts, lts, w, mts, rts, rfl, fun rest => ?_, isLeft, ⟨isWord.1, keyword⟩, mods, isRight⟩
  exact declarations_of_lexemes declared fun c =>
    atSign_of_lexeme (isLeft.trans starts) noSign c rest

theorem atKind_slash_of_lexemes {n : Node} (spelled : ts.map Token.lexeme = n.lexemes)
    (rest : List Token) : atKind .slash (ts ++ rest) = false := by
  obtain ⟨l, ls, starts, -, noSlash⟩ := right_lexemes_starts n
  rw [starts] at spelled
  obtain ⟨t, _, rfl, rfl, -⟩ := List.map_eq_cons_iff.1 spelled
  simpa [atKind, Token.lexeme] using noSlash

/-- The modifiers of a boolean are read up to an operand that they leave as it is. -/
theorem modifiers_of_clear {ms : List Modifier} {r : Node} {mts rts : List Token}
    (readable : ∀ m ∈ ms, m.Readable) (bare : d.refuseQuotedName = true → ∀ m ∈ ms, m.Bare)
    (mods : mts.map Token.lexeme = ms.flatMap Modifier.lexemes)
    (isRight : rts.map Token.lexeme = r.lexemes)
    (clear : (ms.getLast?.any (·.value.isNone) && r.declares) = false) (rest : List Token) :
    Modifiers d (mts ++ (rts ++ rest)) ms (rts ++ rest) := by
  have free : atKind .comparison (rts ++ rest) = true →
      ms.getLast?.any (·.value.isNone) = false := by
    intro comparison
    obtain ⟨l, ls, starts, declares, -⟩ := right_lexemes_starts r
    rw [starts] at isRight
    obtain ⟨t, _, rfl, rfl, -⟩ := List.map_eq_cons_iff.1 isRight
    have declares := declares.1 (by simpa [atKind, Token.lexeme] using comparison)
    simpa [declares] using clear
  have read := modifiers_of_lexemes readable bare mods free
    (.done (atKind_slash_of_lexemes isRight rest))
  rwa [List.append_nil] at read

theorem readable_tail {p : PrefixMap} (readable : p.Readable d) : p.tail.Readable d :=
  ⟨fun e he => readable.canonical e (List.mem_of_mem_tail he),
    fun strict e he => readable.allowed strict e (List.mem_of_mem_tail he)⟩

/-- The modifiers of a boolean and its right operand are read as they have met. -/
theorem right_of_meet {limit : ℕ∞} {b b' : Boolean} {r r' r'' : Node} {mts rts rest : List Token}
    (readable : ∀ m ∈ b.modifiers, m.Readable) (readableRight : r.Readable d)
    (bare : d.refuseQuotedName = true → ∀ m ∈ b.modifiers, m.Bare)
    (bareRight : d.refuseQuotedName = true → r.Bare) (right : Rereads d limit r r')
    (reread : r.reread = some r') (met : Node.meet b r' = some (b', r''))
    (mods : mts.map Token.lexeme = b.modifiers.flatMap Modifier.lexemes)
    (isRight : rts.map Token.lexeme = r.lexemes) (closed : atKind .rightParen rest = true) :
    b'.op = b.op ∧ ∃ ts, Modifiers d (mts ++ (rts ++ rest)) b'.modifiers ts ∧
      Derives d limit (.operand true) (r.height + 1 : Nat) ts r'' rest := by
  obtain ⟨clear, rfl, rfl⟩ | ⟨m, uri, p, c, last, noValue, rfl, entries, rfl, rfl⟩ :=
    Node.meet_eq_some met
  · rw [Node.declares_reread reread] at clear
    exact ⟨rfl, _, modifiers_of_clear readable bare mods isRight clear rest,
      right.right isRight closed⟩
  · obtain rfl := Node.eq_clause_of_reread reread
    have first : declarationLexemes ("", uri) = [.sign .gt, .quoted uri] := rfl
    rw [Node.lexemes, PrefixMap.lexemes, entries, List.flatMap_cons, first] at isRight
    simp only [List.cons_append, List.nil_append, List.map_eq_cons_iff] at isRight
    obtain ⟨sign, _, rfl, isSign, v, rts, rfl, isValue, isRight⟩ := isRight
    obtain ⟨kind, text⟩ := Token.of_lexeme_eq_sign isSign
    obtain ⟨quoted, value⟩ := Token.of_lexeme_eq_quoted isValue
    have isRight : rts.map Token.lexeme = (Node.clause p.tail c).lexemes := isRight
    have isName : v.isName = true := by simp [Token.isName, quoted]
    have taken : Modifiers d (mts ++ sign :: v :: (rts ++ rest)) _ (rts ++ rest) :=
      modifiers_taken readable bare mods last noValue kind isName
        (atKind_slash_of_lexemes isRight rest)
    rw [text, Comparison.ofSign?_sign, value, unquote_quote] at taken
    have others : Rereads d limit (.clause p.tail c) (.clause p.tail c) :=
      rereads_clause ⟨readable_tail readableRight.1, readableRight.2⟩
        fun refuse => (bareRight refuse).2
    refine ⟨rfl, rts ++ rest, ?_, others.right isRight closed⟩
    simpa [Boolean.withLast, last] using taken

/-- What stands in the parentheses of a triple is read as a query. -/
theorem query_of_triple_lexemes {limit : ℕ∞} {p : PrefixMap} {b b' : Boolean}
    {l l' r r' r'' : Node} (readable : (Node.triple p b l r).Readable d)
    (bare : d.refuseQuotedName = true → (Node.triple p b l r).Bare)
    (low : (Node.triple p b l r).height ≤ limit) (left : Rereads d limit l l')
    (leftReread : l.reread = some l') (right : Rereads d limit r r')
    (rightReread : r.reread = some r') (met : Node.meet b r' = some (b', r''))
    (spelled : ts.map Token.lexeme = p.lexemes ++ (Lexeme.enclose l.declares l.lexemes ++
      (b.lexemes ++ r.lexemes)))
    (closed : atKind .rightParen rest = true) :
    Derives d limit .query ((Node.triple p b l r).height + 1 : Nat) (ts ++ rest)
      (.triple p b' l' r'') rest := by
  obtain ⟨dts, lts, w, mts, rts, rfl, group, isLeft, ⟨isWord, keyword⟩, mods, isRight⟩ :=
    triple_parts spelled
  obtain ⟨op, ts, mods, operand⟩ := right_of_meet readable.2.1 readable.2.2.2
    (fun refuse => (bare refuse).2.1) (fun refuse => (bare refuse).2.2.2) right rightReread met
    mods isRight closed
  have height : (Node.triple p b l r).height = max l.height r.height + 1 := rfl
  have low : (Node.triple .empty b' l' r'').height ≤ limit := by
    rwa [Node.height, Node.height_meet met, Node.height_reread leftReread,
      Node.height_reread rightReread]
  have left : Derives d limit (.operand false) (max l.height r.height + 1 : Nat) _ l' _ :=
    (left.left (w :: (mts ++ (rts ++ rest))) isLeft).mono le_rfl (by simp)
  have right : Derives d limit (.operand true) (max l.height r.height + 1 : Nat) ts r'' rest :=
    operand.mono le_rfl (by simp)
  have more := Derives.joined isWord (keyword.trans (congrArg some op.symm)) mods right low
    (.done (atConnective_of_atKind closed))
  have read := Derives.query_of_parts readable.1 (group _) left more rfl
  simpa [height, Node.withPrefixes] using read

/-- The lexemes of a tree are read as the tree that its declarations leave. -/
theorem rereads_of_reread {limit : ℕ∞} {n n' : Node} (readable : n.Readable d)
    (bare : d.refuseQuotedName = true → n.Bare) (h : n.reread = some n')
    (low : n.height ≤ limit) : Rereads d limit n n' := by
  induction n generalizing n' with
  | clause =>
    cases h
    exact rereads_clause readable fun refuse => (bare refuse).2
  | triple p b l r ihl ihr =>
    obtain ⟨l', r', b', r'', leftReread, rightReread, met, rfl⟩ := Node.reread_triple_eq_some h
    have height : (Node.triple p b l r).height = max l.height r.height + 1 := rfl
    have lower : ∀ {k : Nat}, k ≤ (Node.triple p b l r).height → (k : ℕ∞) ≤ limit :=
      fun le => (Nat.cast_le.2 le).trans low
    have left := ihl readable.2.2.1 (fun refuse => (bare refuse).2.2.1) leftReread
      (lower (by omega))
    have right := ihr readable.2.2.2 (fun refuse => (bare refuse).2.2.2) rightReread
      (lower (by omega))
    have inner : ∀ {ts rest : List Token}, _ → atKind .rightParen rest = true →
        Derives d limit .query ((Node.triple p b l r).height + 1 : Nat) (ts ++ rest) _ rest :=
      fun spelled closed => query_of_triple_lexemes readable bare low left leftReread right
        rightReread met spelled closed
    refine ⟨fun rest spelled => .group_of_query spelled inner rest,
      fun {_ rest} spelled _ => .group_of_query spelled inner rest, fun {ts} spelled => ?_⟩
    have operand : Derives d limit (.operand false) _ (ts ++ []) _ [] :=
      .group_of_query spelled inner []
    rw [List.append_nil] at operand
    have group : Declarations ts [] ts := .done (by
      simpa using atSign_of_lexeme spelled nofun .gt [])
    have open_le : (((Node.triple p b l r).height + 1 : Nat) : ℕ∞) + 1 ≤
        ((Node.triple p b l r).height + 2 : Nat) := by
      simp [add_assoc, one_add_one_eq_two]
    exact .query open_le group (by simp [Distinct]) operand (.done rfl)
      fun _ e he => by simp [bindings, PrefixMap.ofList, PrefixMap.empty] at he

/-- The lexemes of a tree without the shape that is apart are read as the tree. -/
theorem rereads {limit : ℕ∞} {n : Node} (readable : n.Readable d)
    (lenient : d.refuseQuotedName = false) (clear : n.clashes = false) (low : n.height ≤ limit) :
    Rereads d limit n n :=
  rereads_of_reread readable (fun refuse => by simp [lenient] at refuse)
    (Node.reread_of_clear clear) low

end Grammar

/-! ## Texts -/

theorem Agrees.spelled {ls : List Lexeme} {ts : List Token} {open? : Option String}
    (h : Agrees ls ts open?) (closed : Closed ls) : open? = none ∧ ts.map Token.lexeme = ls := by
  induction h with
  | nil => simp
  | cons _ _ ih => simpa using ih (closed_cons.1 closed).2
  | astray broken | unclosed broken =>
    exact absurd (closed_quoted.1 (closed_cons.1 closed).1) broken

theorem Modifier.Quotable.closed {m : Modifier} (h : m.Quotable) : Closed m.lexemes := by
  obtain ⟨name, comparison, value⟩ := m
  refine closed_cons.2 ⟨closed_slash, closed_cons.2 ⟨closed_ofText h.name, ?_⟩⟩
  split
  · rename_i isValue
    exact closed_cons.2 ⟨closed_sign _, closed_ofText (h.value _ isValue)⟩
  · exact closed_nil

theorem Relation.closed_nameLexeme {n : Name} (h : Quotable n.fullName.toList) :
    Closed [nameLexeme n] := by
  unfold nameLexeme
  split
  · exact closed_sign _
  split
  · exact closed_quoted.2 h
  · exact closed_ofText h

theorem SearchClause.Quotable.closed {c : SearchClause} (h : c.Quotable) : Closed c.lexemes := by
  rw [lexemes, closed_cons, closed_cons (l := Relation.nameLexeme _), closed_append, closed_flatMap]
  exact ⟨closed_ofText h.index, Relation.closed_nameLexeme h.relation,
    fun m hm => (h.modifiers m hm).closed, closed_quoted.2 h.term⟩

theorem PrefixMap.Quotable.closed {map : PrefixMap} (h : map.Quotable) : Closed map.lexemes := by
  refine closed_flatMap.2 fun e he => ?_
  obtain ⟨name, identifier⟩ := h e he
  have identifier := closed_quoted.2 identifier
  unfold declarationLexemes
  split
  · exact closed_cons.2 ⟨closed_sign _, identifier⟩
  · exact closed_cons.2 ⟨closed_sign _,
      closed_cons.2 ⟨closed_ofText name, closed_cons.2 ⟨closed_sign _, identifier⟩⟩⟩

theorem closed_boolean {b : Boolean} :
    Closed b.lexemes ↔ ∀ m ∈ b.modifiers, Closed m.lexemes := by
  have word : Closed [(⟨.word, b.op.keyword⟩ : Lexeme)] := closed_of_kind (by simp)
  rw [Boolean.lexemes, closed_cons, and_iff_right word, closed_flatMap]

theorem Node.closed_triple {p : PrefixMap} {b : Boolean} {l r : Node} :
    Closed (triple p b l r).lexemes ↔ Closed p.lexemes ∧ Closed l.lexemes ∧
      Closed b.lexemes ∧ Closed r.lexemes := by
  rw [lexemes, closed_cons]
  simp

theorem Node.Quotable.closed {n : Node} (h : n.Quotable) : Closed n.lexemes := by
  induction n with
  | clause => exact closed_append.2 ⟨PrefixMap.Quotable.closed h.1, h.2.closed⟩
  | triple _ _ _ _ ihl ihr =>
    obtain ⟨hp, hb, hl, hr⟩ := h
    exact closed_triple.2 ⟨PrefixMap.Quotable.closed hp, ihl hl,
      closed_boolean.2 fun m hm => (hb m hm).closed, ihr hr⟩

/-- Canonical text reads back, with the prefixes of all nodes. -/
theorem Query.parse_toCql {d : Dialect} {text : String} {q : Query}
    (lenient : d.refuseQuotedName = false) (parsed : Query.parse d text = .ok q)
    (inside : ∀ t ∈ (TokenStream.ofText text).tokens, '\\' ∈ t.text.toList → t.kind = .quoted)
    (low : q.root.height + 2 ≤ d.maxDepth) (clear : q.root.clashes = false) :
    Query.parse d q.toCql = .ok q := by
  obtain ⟨rfl, closed, derives⟩ := Query.parse_eq_ok_iff.1 parsed
  have genuine : ∀ t ∈ (TokenStream.ofText text).tokens, t.Genuine := fun t ht =>
    TokenStream.genuine_of_mem_scan ht
  have readable := Query.readable_of_parse parsed
  have quotable : q.root.Quotable :=
    derives.each Grammar.invariant_quotable (fun t ht => ⟨genuine t ht, inside t ht⟩) trivial
  have cuts := Node.cuts_toCql readable.canonical.whole Cuts.nil 0
  rw [List.append_nil, List.append_nil] at cuts
  obtain ⟨closed', spelled⟩ := cuts.spelled quotable.closed
  have height : q.root.height ≤ q.dialect.maxDepth := by omega
  have again := (Grammar.rereads readable lenient clear (Nat.cast_le.2 height)).root spelled
  exact Query.parse_eq_ok_iff.2 ⟨rfl, closed', again.mono le_rfl (Nat.cast_le.2 low)⟩

/-- A declaration, a modifier with a value and an escaped quote read back. -/
theorem Query.parse_toCql_declared : ∃ q,
    Query.parse {} ">x=u x.y any/z \"a \\\"b\" or/m>=1 c" = .ok q ∧
      Query.parse {} q.toCql = .ok q := by
  let q : Query := ⟨.triple (.ofList [("x", "u")]) ⟨.or, [⟨⟨none, "m"⟩, some .ge, some "1"⟩]⟩
    (.clause .empty
      ⟨⟨some "x", "y"⟩, ⟨⟨none, "any"⟩, [⟨⟨none, "z"⟩, none, none⟩]⟩, ⟨"a \"b"⟩⟩)
    (.clause .empty (.serverChoice {} ⟨"c"⟩)), {}⟩
  have parsed : Query.parse {} ">x=u x.y any/z \"a \\\"b\" or/m>=1 c" = .ok q := by
    decide +kernel
  exact ⟨q, parsed, Query.parse_toCql rfl parsed (by decide +kernel) (by decide) (by decide)⟩

end ContextQuery
