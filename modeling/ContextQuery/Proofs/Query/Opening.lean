import ContextQuery.Proofs.Query.Fate
import ContextQuery.Proofs.Query.Nesting

/-!
# Canonical text and the nesting limit

A chain of connectives is read in one query, but its canonical text has a pair of parentheses for
each triple, and each pair opens a query. So a tree within the nesting limit may have canonical
text that is not. What decides is the number of queries that the canonical text opens.

## Main definitions

* `Query.opens`: how many queries are open at a time while the canonical text is read.

## Main results

* `Query.height_lt_opens`, `Query.opens_le_height_add_two`: the two counts lie close together.
* `Grammar.fates`: what becomes of a tree wherever it may stand.
* `Query.reread_within_limit`: canonical text is only refused for the nesting limit if it opens more
  queries than the limit allows, and then it is, if nothing else is in the way.
-/

namespace ContextQuery

/-! ## How many queries canonical text opens -/

/-- How many queries the text of an operand opens one inside the other: one for each pair of
parentheses, and one for the declarations of a clause. -/
def Node.opens : Node → Nat
  | clause p _ => if p.isEmpty then 0 else 1
  | triple _ _ l r => max l.opens r.opens + 1

/-- How many queries the canonical text opens one inside the other. The declarations of a single
clause are those of the whole query. -/
def Query.opens (q : Query) : Nat :=
  if q.root.isClause then 1 else q.root.opens + 1

theorem Node.height_le_opens (n : Node) : n.height ≤ n.opens := by
  induction n with
  | clause => exact Nat.zero_le _
  | triple p b l r ihl ihr =>
    simp only [height, opens]
    omega

theorem Node.opens_le_succ_height (n : Node) : n.opens ≤ n.height + 1 := by
  induction n with
  | clause =>
    unfold opens
    split <;> simp [height]
  | triple p b l r ihl ihr =>
    simp only [height, opens]
    omega

/-- A tree as high as the nesting limit allows opens at least one query too many. -/
theorem Query.height_lt_opens (q : Query) : q.root.height < q.opens := by
  obtain ⟨n, d⟩ := q
  cases n with
  | clause => exact Nat.zero_lt_one
  | triple p b l r => exact Nat.lt_succ_of_le (Node.triple p b l r).height_le_opens

theorem Query.opens_le_height_add_two (q : Query) : q.opens ≤ q.root.height + 2 := by
  have := q.root.opens_le_succ_height
  unfold opens
  split <;> omega

namespace Grammar

open Reader

variable {s : Source} {ls : List Lexeme} {ts rest : List Token}

/-! ## Trees -/

/-- Modifiers whose strings are closed are read as they were printed, unless the last one has no
value and takes what follows for its comparison and its value. -/
theorem modifiers_rest {d : Dialect} {ms ms' : List Modifier}
    (readable : ∀ m ∈ ms, m.Readable) (noSlash : ls.head?.any (·.kind = .slash) = false)
    (closed : Closed (ms.flatMap Modifier.lexemes))
    (agrees : Agrees (ms.flatMap Modifier.lexemes ++ ls) ts none)
    (read : Modifiers d ts ms' rest) :
    Agrees ls rest none ∨ clash ms ls = true ∧ ∃ sign value ts' ms'',
      Agrees ls (sign :: value :: ts') none ∧ Modifiers d ts' ms'' rest := by
  induction ms generalizing ts ms' with
  | nil =>
    have stop : atKind .slash ts = false := (atKind_of_agrees agrees .slash).trans noSlash
    cases read with
    | done => exact .inl agrees
    | bare isSlash | valued isSlash => simp [atKind, isSlash] at stop
  | cons m ms ih =>
    obtain ⟨first, others⟩ := List.forall_mem_cons.1 readable
    rw [List.flatMap_cons, List.append_assoc] at agrees
    rw [List.flatMap_cons, closed_append] at closed
    rw [clash_cons]
    obtain ⟨ms', ts, rfl, -, kept, more⟩ | ⟨-, broken⟩ := modifier_kept first agrees read
    · obtain kept | ⟨taken, rest⟩ := ih others closed.2 kept more
      · exact .inl kept
      · exact .inr ⟨by rw [taken, Bool.or_true], rest⟩
    · have taken : clash [m] (ms.flatMap Modifier.lexemes ++ ls) = true := by
        by_contra clear
        exact broken ⟨closed.1, by simpa using clear⟩
      refine .inr ⟨by rw [taken, Bool.true_or], ?_⟩
      cases ms with
      | cons m' ms => simp [clash, Modifier.lexemes, Lexeme.slash] at taken
      | nil =>
        obtain ⟨name, comparison, value⟩ := m
        obtain rfl : value = none := by
          simpa using (Bool.and_eq_true_iff.1 taken).1
        obtain rfl : comparison = none := by simpa [Modifier.Whole] using first.whole
        have slash : atKind .slash ts = true := atKind_of_agrees agrees .slash
        obtain ⟨s, n, ts, name', ms', rfl, -, forms⟩ := read.slash_inv slash
        obtain ⟨-, agrees⟩ := agrees.head_of_kind (by simp)
        obtain ⟨-, agrees⟩ := agrees.head_of_closed (closed_cons.1 closed.1).2
        obtain ⟨stop, -, -⟩ | ⟨sign, v, ts, rfl, -, -, more⟩ := forms
        · have follows := atKind_of_agrees agrees .comparison
          simp_all [clash]
        · exact ⟨sign, v, ts, _, agrees, more⟩

/-- What can become of a tree that is read where it may stand: as a left operand or as a right
one. -/
structure Fates (s : Source) (n : Node) : Prop where
  left {levels : Nat} {ls : List Lexeme} {ts : List Token}
    (agrees : Agrees (Lexeme.enclose n.declares n.lexemes ++ ls) ts none) :
    Fate s.dialect.maxDepth levels n.opens n.height (n.clashes = false) ls
      (operand s (query s levels) ts)
  right {levels : Nat} {ls : List Lexeme} {ts : List Token} (ends : Ends ls)
    (agrees : Agrees (n.lexemes ++ ls) ts none) :
    Fate s.dialect.maxDepth levels n.opens n.height (n.clashes = false) ls
      (operand s (query s levels) ts)

section Trees

variable (complete : s.unclosed = none)
include complete

theorem fates_clause {p : PrefixMap} {c : SearchClause} (canonical : c.Canonical)
    (closed : Closed (Node.clause p c).lexemes) : Fates s (.clause p c) where
  left {levels ls ts} agrees := by
    obtain ⟨closedMap, closed⟩ := closed_append.1 closed
    cases declared : p.isEmpty with
    | true =>
      rw [Node.declares_clause, declared] at agrees
      obtain rfl := eq_empty_of_not_declares (p := p) (c := c) (by simp [declared])
      rw [Node.opens, if_pos declared]
      exact fate_operand_clause canonical closed agrees
    | false =>
      rw [Node.declares_clause, declared] at agrees
      rw [Node.opens, declared]
      refine fate_group (by simpa [Lexeme.enclose] using agrees) fun ts agrees => ?_
      refine fate_clause_query complete canonical closedMap closed ends_rightParen ?_
      simpa [Node.lexemes, PrefixMap.lexemes] using agrees
  right ends agrees := by
    obtain ⟨closedMap, closed⟩ := closed_append.1 closed
    rw [Node.lexemes, List.append_assoc] at agrees
    exact fate_operand_declared complete canonical closedMap closed ends agrees

/-- A right operand after the modifiers of a boolean. -/
theorem fate_right {ms ms' : List Modifier} {r : Node} {levels : Nat} (right : Fates s r)
    (canonical : r.Canonical) (readable : ∀ m ∈ ms, m.Readable)
    (closedMods : Closed (ms.flatMap Modifier.lexemes)) (closed : Closed r.lexemes)
    (ends : Ends ls)
    (agrees : Agrees (ms.flatMap Modifier.lexemes ++ (r.lexemes ++ ls)) ts none)
    (read : Modifiers s.dialect ts ms' rest) :
    Fate s.dialect.maxDepth levels r.opens r.height
      (clash ms (r.lexemes ++ ls) = false ∧ r.clashes = false) ls
      (operand s (query s levels) rest) := by
  obtain ⟨second, seconds, starts, -, noSlash⟩ := right_lexemes_starts r
  obtain kept | ⟨taken, first, value, ts, ms', kept, read⟩ :=
    modifiers_rest readable (by simp [starts, noSlash]) closedMods agrees read
  · exact (right.right ends kept).mono (Nat.le_refl _) fun clear => ⟨clear.2, Nat.le_refl _⟩
  have declares : r.declares = true := by
    rw [clash_right] at taken
    exact (Bool.and_eq_true_iff.1 taken).2
  cases r with
  | triple => cases declares
  | clause p c =>
    obtain ⟨closedMap, closed⟩ := closed_append.1 closed
    have declared : p.isEmpty = false := by simpa using declares
    rw [Node.lexemes, List.append_assoc] at kept
    rw [Node.opens, declared]
    exact fate_operand_robbed complete canonical.2 declared closedMap closed ends kept read
      fun clear => by simp [clear.1] at taken

/-- The boolean and the right operand of a triple are joined to the left operand. -/
theorem fate_chain_joined {b : Boolean} {left r : Node} {levels height : Nat} {exact : Prop}
    (readable : ∀ m ∈ b.modifiers, m.Readable) (canonical : r.Canonical)
    (closedBoolean : Closed b.lexemes) (closed : Closed r.lexemes)
    (same : max left.height r.height + 1 = height) (low : height ≤ s.dialect.maxDepth)
    (right : Fates s r) (ends : Ends ls)
    (sharp : exact → clash b.modifiers (r.lexemes ++ ls) = false ∧ r.clashes = false)
    (agrees : Agrees (b.lexemes ++ (r.lexemes ++ ls)) ts none) :
    Fate s.dialect.maxDepth levels r.opens height exact ls
      (chain s (operand s (query s levels)) ts.length left ts) := by
  rw [Boolean.lexemes, List.cons_append] at agrees
  cases ts with
  | nil => exact absurd agrees Agrees.not_nil
  | cons w ts =>
    obtain ⟨isWord, agrees⟩ := agrees.head_of_kind (by simp)
    simp only [Token.lexeme, Lexeme.mk.injEq] at isWord
    refine .of_shallow (shallow_boolean? _) fun joint read => ?_
    obtain ⟨boolean, ts'⟩ := joint
    cases boolean with
    | none =>
      have keyword : Connective.ofKeyword? w.text = some b.op := by
        rw [isWord.2]
        cases b.op <;> decide
      have stop := (boolean?_eq_none.1 read).1
      simp [atConnective, isConnective, isWord.1, keyword] at stop
    | some b' =>
      obtain ⟨_, _, ⟨⟩, -, -, -, mods⟩ := boolean?_eq_some.1 read
      obtain ⟨mods, -⟩ := modifiers_sound (.inl complete) mods
      have operand : Fate s.dialect.maxDepth levels r.opens r.height exact ls
          (operand s (query s levels) ts') :=
        (fate_right complete right canonical readable (closed_cons.1 closedBoolean).2 closed ends
          agrees mods).mono (Nat.le_refl _) fun h => ⟨sharp h, Nat.le_refl _⟩
      refine operand.bind id fun n ts sameRight agrees enough => .of_shallow .pure fun _ _ => ?_
      have sameHeight : (Node.triple .empty b' left n).height = height := by
        rw [Node.height, sameRight, same]
      refine .ite (fun high => ?_) fun _ => fate_chain_done sameHeight ends agrees enough _
      omega

/-- What stands in the parentheses of a triple. -/
theorem fate_triple_query {p : PrefixMap} {b : Boolean} {l r : Node} {levels : Nat}
    (canonical : (Node.triple p b l r).Canonical)
    (closed : Closed (Node.triple p b l r).lexemes)
    (low : (Node.triple p b l r).height ≤ s.dialect.maxDepth) (left : Fates s l)
    (right : Fates s r) (ends : Ends ls)
    (agrees : Agrees (p.lexemes ++ (Lexeme.enclose l.declares l.lexemes ++
      (b.lexemes ++ (r.lexemes ++ ls)))) ts none) :
    Fate s.dialect.maxDepth levels (Node.triple p b l r).opens (Node.triple p b l r).height
      ((Node.triple p b l r).clashes = false) ls (query s levels ts) := by
  obtain ⟨closedMap, -, closedBoolean, closedRight⟩ := Node.closed_triple.1 closed
  cases levels with
  | zero => exact ⟨fun _ => Nat.succ_pos _, nofun⟩
  | succ levels =>
    obtain ⟨first, firsts, starts, noSign⟩ := left_lexemes_starts l
    refine fate_declarations complete closedMap (by simp [starts, noSign]) agrees
      fun ts agrees => ?_
    have opens : (Node.triple p b l r).opens = max l.opens r.opens + 1 := rfl
    have sharp (clear : (Node.triple p b l r).clashes = false) :
        l.clashes = false ∧ clash b.modifiers (r.lexemes ++ ls) = false ∧ r.clashes = false := by
      rw [Node.clashes, Bool.or_eq_false_iff, Bool.or_eq_false_iff, ← clash_right _ r ls] at clear
      exact ⟨clear.1.2, clear.1.1, clear.2⟩
    refine (left.left agrees).bind (fun few => by omega) fun first ts same agrees enough => ?_
    have joined : Fate s.dialect.maxDepth levels _ _ _ ls
        (chain s (operand s (query s levels)) ts.length first ts) :=
      fate_chain_joined complete canonical.2.1 canonical.2.2.2 closedBoolean closedRight
        (by rw [same, Node.height]) low right ends (fun clear => (sharp clear).2) agrees
    refine joined.bind (fun few => by omega) fun n ts same agrees enough' => ?_
    refine fate_declareAll same agrees (fun clear => ?_) _
    have := enough (sharp clear).1
    have := enough' clear
    omega

theorem fates_triple {p : PrefixMap} {b : Boolean} {l r : Node}
    (canonical : (Node.triple p b l r).Canonical)
    (closed : Closed (Node.triple p b l r).lexemes)
    (low : (Node.triple p b l r).height ≤ s.dialect.maxDepth) (left : Fates s l)
    (right : Fates s r) : Fates s (.triple p b l r) := by
  have operand {levels : Nat} {ls : List Lexeme} {ts : List Token}
      (agrees : Agrees ((Node.triple p b l r).lexemes ++ ls) ts none) :
      Fate s.dialect.maxDepth levels (Node.triple p b l r).opens (Node.triple p b l r).height
        ((Node.triple p b l r).clashes = false) ls (operand s (query s levels) ts) := by
    simp only [Node.lexemes, List.cons_append, List.append_assoc] at agrees
    exact fate_group agrees fun ts agrees =>
      fate_triple_query complete canonical closed low left right ends_rightParen agrees
  exact ⟨operand, fun _ agrees => operand agrees⟩

/-- What can become of a tree whose strings are closed. -/
theorem fates {n : Node} (canonical : n.Canonical) (closed : Closed n.lexemes)
    (low : n.height ≤ s.dialect.maxDepth) : Fates s n := by
  induction n with
  | clause p c => exact fates_clause complete canonical.2 closed
  | triple p b l r ihl ihr =>
    obtain ⟨-, closedLeft, -, closedRight⟩ := Node.closed_triple.1 closed
    have height : (Node.triple p b l r).height = max l.height r.height + 1 := rfl
    exact fates_triple complete canonical closed low
      (ihl canonical.2.2.1 closedLeft (by omega)) (ihr canonical.2.2.2 closedRight (by omega))

/-- What can become of the whole canonical text. -/
theorem fate_root {q : Query} {levels : Nat} (canonical : q.root.Canonical)
    (closed : Closed q.root.lexemes) (low : q.root.height ≤ s.dialect.maxDepth)
    (agrees : Agrees q.root.lexemes ts none) :
    Fate s.dialect.maxDepth levels q.opens q.root.height (q.root.clashes = false) []
      (query s levels ts) := by
  obtain ⟨n, d⟩ := q
  cases n with
  | clause p c =>
    obtain ⟨closedMap, closed⟩ := closed_append.1 closed
    refine fate_clause_query complete canonical.2 closedMap closed rfl ?_
    rwa [List.append_nil]
  | triple p b l r =>
    cases levels with
    | zero => exact ⟨fun _ => Nat.succ_pos _, nofun⟩
    | succ levels =>
      have noEntries : Closed (([] : List (String × String)).flatMap declarationLexemes) :=
        closed_nil
      refine fate_declarations complete noEntries rfl agrees fun ts agrees => ?_
      have agrees : Agrees ((Node.triple p b l r).lexemes ++ []) ts none := by
        rwa [List.append_nil]
      have ends : Ends [] := rfl
      have first : Fate s.dialect.maxDepth levels _ _ _ [] (operand s (query s levels) ts) :=
        (fates complete canonical closed low).right ends agrees
      refine first.bind Nat.succ_lt_succ fun n ts same agrees enough => ?_
      have joined : Fate s.dialect.maxDepth levels _ _ _ []
          (chain s (operand s (query s levels)) ts.length n ts) :=
        fate_chain_done same ends agrees enough ts.length
      refine joined.bind Nat.succ_lt_succ fun n ts same agrees enough => ?_
      exact fate_declareAll same agrees (fun clear => Nat.succ_le_succ (enough clear)) _

end Trees

end Grammar

/-! ## Texts -/

namespace Query

open Grammar Reader

variable {d : Dialect} {q : Query}

/-- A text whose strings are closed is only refused by what reads its tokens. -/
theorem parse_of_complete {text : String}
    (complete : (TokenStream.ofText text).unclosed = none) :
    let source : Source := ⟨d, (TokenStream.ofText text).length, none⟩
    parse d text = (query source d.maxDepth (TokenStream.ofText text).tokens >>= fun (n, rest) =>
      finish d n rest : Except Diagnostic Query) := by
  have pulled (ts : List Token) :
      (pull ⟨d, (TokenStream.ofText text).length, none⟩ ts : Except Diagnostic Unit) = .ok () :=
    pull_eq_ok.2 (.inl rfl)
  simp only [parse, read, complete, pulled]
  rfl

/-- The tokens of canonical text whose strings are closed. -/
theorem tokens_toCql (canonical : q.root.Canonical) (closed : Closed q.root.lexemes) :
    (TokenStream.ofText q.toCql).unclosed = none ∧
      Agrees q.root.lexemes (TokenStream.ofText q.toCql).tokens none := by
  have agrees := agrees_toCql canonical
  obtain ⟨complete, -⟩ := agrees.spelled closed
  exact ⟨complete, complete ▸ agrees⟩

/-- With levels enough, canonical text is read to its end as the tree. -/
theorem query_toCql (readable : q.root.Readable d) (lenient : d.refuseQuotedName = false)
    (clear : q.root.clashes = false) (closed : Closed q.root.lexemes)
    (low : q.root.height ≤ d.maxDepth) {s : Source} (dialect : s.dialect = d)
    (complete : s.unclosed = none) {levels : Nat} (enough : q.root.height + 2 ≤ levels) :
    (query s levels (TokenStream.ofText q.toCql).tokens : Except Diagnostic _) =
      .ok (q.root, []) := by
  subst dialect
  obtain ⟨-, agrees⟩ := tokens_toCql readable.canonical closed
  have derives := (rereads readable lenient clear (Nat.cast_le.2 low)).root
    (agrees.spelled closed).2
  exact query_of_derives complete derives (Nat.cast_le.2 enough)

/-- What becomes of the canonical text of a query that was read. If all its strings are closed, it
is only refused for the nesting limit if it opens more queries than the limit allows. If nothing
else is in the way, the query is read again just if it opens no more. -/
theorem reread_within_limit [Xml.Library]
    (read : (∃ text, parse d text = .ok q) ∨ ∃ document, parseXml d document = .ok q)
    (closed : Closed q.root.lexemes) :
    (parse d q.toCql = .error (Diagnostic.tooDeep d.maxDepth) → d.maxDepth < q.opens) ∧
      (q.root.Readable d → d.refuseQuotedName = false → q.root.clashes = false →
        parse d q.toCql = if q.opens ≤ d.maxDepth then .ok q
          else .error (Diagnostic.tooDeep d.maxDepth)) := by
  obtain ⟨dialect, canonical, low⟩ :
      q.dialect = d ∧ q.root.Canonical ∧ q.root.height ≤ d.maxDepth := by
    obtain ⟨text, parsed⟩ | ⟨document, parsed⟩ := read
    · obtain ⟨dialect, -, derives⟩ := parse_eq_ok_iff.1 parsed
      exact ⟨dialect, (readable_of_parse parsed).canonical,
        by exact_mod_cast derives.height_le_limit nofun⟩
    · obtain ⟨dialect, canonical⟩ := Xcql.canonical_parseXml parsed
      exact ⟨dialect, canonical, height_le_of_parseXml parsed⟩
  obtain ⟨complete, agrees⟩ := tokens_toCql canonical closed
  rw [parse_of_complete complete]
  generalize hs : (⟨d, (TokenStream.ofText q.toCql).length, none⟩ : Source) = s
  have hd : s.dialect = d := by rw [← hs]
  have hu : s.unclosed = none := by rw [← hs]
  have fate : Fate d.maxDepth d.maxDepth q.opens q.root.height (q.root.clashes = false) []
      (query s d.maxDepth (TokenStream.ofText q.toCql).tokens) := by
    subst hd
    exact fate_root hu canonical closed low agrees
  refine ⟨fun refused => ?_, fun readable lenient clear => ?_⟩
  · cases result : (query s d.maxDepth (TokenStream.ofText q.toCql).tokens :
        Except Diagnostic _) with
    | ok r =>
      rw [result] at refused
      exact absurd refused (shallow_finish d r.1 r.2)
    | error e =>
      rw [result] at refused
      exact fate.refused (result.trans (congrArg Except.error (Except.error.inj refused)))
  · have enough := query_toCql readable lenient clear closed low hd hu
      (Nat.le_max_right d.maxDepth (q.root.height + 2))
    have fewer : Within s.dialect.maxDepth _ _ :=
      query_within (s := s) (Nat.le_max_left d.maxDepth (q.root.height + 2))
        (TokenStream.ofText q.toCql).tokens
    rw [hd, enough] at fewer
    obtain result | result := fewer
    · rw [result, if_pos ((fate.read _ _ result).2.2 clear), ← dialect]
      rfl
    · rw [result, if_neg (Nat.not_le.2 (fate.refused result))]
      rfl

/-- Two open queries are enough for one triple, and a single clause needs one. -/
theorem reread_within_limit_joined :
    (∃ q, parse { maxDepth := 2 } "a or b" = .ok q ∧ Closed q.root.lexemes ∧ q.opens = 2 ∧
      parse { maxDepth := 2 } q.toCql = .ok q) ∧
    ∃ q, parseXml { maxDepth := 0 } ("<searchClause><index>t</index><relation>" ++
        "<value>=</value></relation><term>a</term></searchClause>") = .ok q ∧
      Closed q.root.lexemes ∧ parse { maxDepth := 0 } q.toCql = .error (Diagnostic.tooDeep 0) ∧
      0 < q.opens := by
  constructor
  · let plain (term : String) : Node := .clause .empty (.serverChoice {} ⟨term⟩)
    let q : Query := ⟨.triple .empty ⟨.or, []⟩ (plain "a") (plain "b"), { maxDepth := 2 }⟩
    have parsed : parse { maxDepth := 2 } "a or b" = .ok q := by
      decide +kernel
    have closed : Closed q.root.lexemes := by decide +kernel
    exact ⟨q, parsed, closed, rfl,
      (reread_within_limit (.inl ⟨_, parsed⟩) closed).2 (readable_of_parse parsed) rfl rfl⟩
  · let q : Query := ⟨.clause .empty ⟨⟨none, "t"⟩, ⟨⟨none, "="⟩, []⟩, ⟨"a"⟩⟩, { maxDepth := 0 }⟩
    have parsed : parseXml { maxDepth := 0 } ("<searchClause><index>t</index><relation>" ++
        "<value>=</value></relation><term>a</term></searchClause>") = .ok q := by
      decide +kernel
    have closed : Closed q.root.lexemes := by decide +kernel
    have refused : parse { maxDepth := 0 } q.toCql = .error (Diagnostic.tooDeep 0) := by
      decide +kernel
    exact ⟨q, parsed, closed, refused,
      (reread_within_limit (.inr ⟨_, parsed⟩) closed).1 refused⟩

/-- A query that was read may have canonical text that is refused for the nesting limit. -/
theorem reread_over_limit : ∃ q, parse { maxDepth := 1 } "a or b" = .ok q ∧
    parse { maxDepth := 1 } q.toCql = .error (Diagnostic.tooDeep 1) := by
  let plain (term : String) : Node := .clause .empty (.serverChoice {} ⟨term⟩)
  let q : Query := ⟨.triple .empty ⟨.or, []⟩ (plain "a") (plain "b"), { maxDepth := 1 }⟩
  exact ⟨q, by decide +kernel, by decide +kernel⟩

end Query

end ContextQuery
