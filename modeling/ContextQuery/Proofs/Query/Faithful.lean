import ContextQuery.Proofs.Query.Keeping

/-!
# When canonical text keeps the query

A query need not come from a text. If a string in it is not closed where it was meant to be, what
follows the string is read as part of the query; and a declaration that follows a modifier without
a value is taken for its value. Where the text is accepted all the same, the query that is read
differs from the one that was printed at the place where the first such part stood. Declarations
are not compared, so their strings are taken to be closed here.

## Main definitions

* `Node.Faithful`: all strings that are printed in quotes are `Quotable`, and nothing clashes.
* `Node.items`: the clauses and booleans of a tree from left to right.
* `Diverge`: two lists differ at a place up to which they agree.
* `Grammar.Kept`: what becomes of a node wherever it may stand.
* `Query.outcome_toCql`: canonical text that is read keeps the query, or the queries diverge.
-/

namespace ContextQuery

/-! ## Items -/

/-- A clause or a boolean. -/
inductive Node.Item where
  | clause (clause : SearchClause)
  | boolean (boolean : Boolean)

/-- Two lists differ at a place up to which they agree. -/
def Diverge (xs ys : List Node.Item) : Prop :=
  ∃ common x y xs' ys', x ≠ y ∧ xs = common ++ x :: xs' ∧ ys = common ++ y :: ys'

namespace Diverge

variable {xs ys : List Node.Item}

theorem head {x y : Node.Item} (ne : x ≠ y) (xs ys : List Node.Item) :
    Diverge (x :: xs) (y :: ys) :=
  ⟨[], x, y, xs, ys, ne, rfl, rfl⟩

theorem append (h : Diverge xs ys) (xs' ys' : List Node.Item) :
    Diverge (xs ++ xs') (ys ++ ys') := by
  obtain ⟨common, x, y, zs, zs', ne, rfl, rfl⟩ := h
  exact ⟨common, x, y, zs ++ xs', zs' ++ ys', ne, by simp, by simp⟩

theorem append_left (h : Diverge xs ys) (common : List Node.Item) :
    Diverge (common ++ xs) (common ++ ys) := by
  obtain ⟨common', x, y, zs, zs', ne, rfl, rfl⟩ := h
  exact ⟨common ++ common', x, y, zs, zs', ne, by simp, by simp⟩

theorem ne (h : Diverge xs ys) : xs ≠ ys := by
  obtain ⟨common, x, y, zs, zs', ne, rfl, rfl⟩ := h
  intro eq
  simp only [List.append_cancel_left_eq, List.cons.injEq] at eq
  exact ne eq.1

end Diverge

namespace Node

/-- The clauses and booleans from left to right. -/
def items : Node → List Item
  | clause _ c => [.clause c]
  | triple _ b l r => l.items ++ .boolean b :: r.items

@[simp] theorem items_withPrefixes (n : Node) (p : PrefixMap) :
    (n.withPrefixes p).items = n.items := by
  cases n <;> rfl

@[simp] theorem items_declareMap (n : Node) (p : PrefixMap) : (n.declareMap p).items = n.items := by
  rw [declareMap_eq, items_withPrefixes]

theorem items_eq_of_sameAs {n n' : Node} (h : n.sameAs n' = true) : n.items = n'.items := by
  induction n generalizing n' with
  | clause p c =>
    cases n' with
    | clause => simpa [sameAs, items] using h
    | triple => simp [sameAs] at h
  | triple p b l r ihl ihr =>
    cases n' with
    | clause => simp [sameAs] at h
    | triple p' b' l' r' =>
      simp only [sameAs, Bool.and_eq_true, decide_eq_true_eq] at h
      rw [items, items, ihl h.1.2, ihr h.2, h.1.1]

/-! ## Faithful trees -/

/-- The canonical text of the tree keeps all that is in it. -/
@[mk_iff]
structure Faithful (n : Node) : Prop where
  closed : Closed n.lexemes
  clear : n.clashes = false

instance : DecidablePred Faithful :=
  fun n => decidable_of_iff' _ (faithful_iff n)

/-- The strings of all declarations are closed. -/
def DeclarationsClosed : Node → Prop :=
  Node.Each (fun p => Closed p.lexemes) (fun _ => True) fun _ => True

instance : DecidablePred DeclarationsClosed :=
  inferInstanceAs (DecidablePred (Node.Each _ _ _))

end Node

theorem Node.faithful_clause {p : PrefixMap} {c : SearchClause} :
    (clause p c).Faithful ↔ Closed p.lexemes ∧ Closed c.lexemes := by
  constructor
  · rintro ⟨closed, -⟩
    exact closed_append.1 closed
  · exact fun closed => ⟨closed_append.2 closed, rfl⟩

theorem Node.faithful_triple {p : PrefixMap} {b : Boolean} {l r : Node} :
    (triple p b l r).Faithful ↔ Closed p.lexemes ∧ l.Faithful ∧
      (Closed (b.modifiers.flatMap Modifier.lexemes) ∧
        (b.modifiers.getLast?.any (·.value.isNone) && r.declares) = false) ∧ r.Faithful := by
  rw [closed_flatMap, ← closed_boolean]
  constructor
  · rintro ⟨closed, clear⟩
    obtain ⟨hp, hl, hb, hr⟩ := closed_triple.1 closed
    simp only [clashes, Bool.or_eq_false_iff] at clear
    exact ⟨hp, ⟨hl, clear.1.2⟩, ⟨hb, clear.1.1⟩, hr, clear.2⟩
  · rintro ⟨hp, hl, ⟨hb, clear⟩, hr⟩
    refine ⟨closed_triple.2 ⟨hp, hl.closed, hb, hr.closed⟩, ?_⟩
    simp only [clashes, clear, hl.clear, hr.clear, Bool.or_self]

theorem Node.Faithful.declarationsClosed {n : Node} (h : n.Faithful) : n.DeclarationsClosed := by
  induction n with
  | clause => exact ⟨(faithful_clause.1 h).1, trivial⟩
  | triple _ _ _ _ ihl ihr =>
    obtain ⟨closed, left, -, right⟩ := faithful_triple.1 h
    exact ⟨closed, trivial, ihl left, ihr right⟩

/-! ## What is read of a tree -/

namespace Grammar

open Reader (atKind atSign)

variable {d : Dialect} {limit opens : ℕ∞} {ls : List Lexeme} {ts rest : List Token}

/-- What is printed of a node is read as the node, and the tokens after it are in step; or the
queries diverge, and the node is not faithful. -/
def Outcome (n n' : Node) (ls : List Lexeme) (rest : List Token) : Prop :=
  n' = n ∧ n.Faithful ∧ Agrees ls rest none ∨ ¬n.Faithful ∧ Diverge n.items n'.items

theorem Derives.items_tail {left n : Node} (h : Derives d limit (.tail left) opens ts n rest) :
    ∃ more, n.items = left.items ++ more := by
  generalize hp : Part.tail left = part at h
  induction h generalizing left with
  | done => cases hp; exact ⟨[], by simp⟩
  | joined _ _ _ _ _ _ _ ih =>
    cases hp
    obtain ⟨more, eq⟩ := ih rfl
    exact ⟨_, by simpa [Node.items] using eq⟩
  | group | clause | declared | query => cases hp

/-- What is joined to a node, and declared on the result, keeps a difference in the node. -/
theorem diverge_tail {left n : Node} {xs : List Node.Item} (diverge : Diverge xs left.items)
    (h : Derives d limit (.tail left) opens ts n rest) (map : PrefixMap) :
    Diverge xs (n.declareMap map).items := by
  obtain ⟨others, items⟩ := h.items_tail
  have tails := diverge.append [] others
  rwa [List.append_nil, ← items, ← Node.items_declareMap n map] at tails

/-- Nothing is joined where no connective stands. -/
theorem Derives.tail_inv {left n : Node} (h : Derives d limit (.tail left) opens ts n rest)
    (stop : atConnective ts = false) : n = left ∧ rest = ts := by
  cases h with
  | done => exact ⟨rfl, rfl⟩
  | joined isWord isKeyword =>
    simp [atConnective, Reader.isConnective, isWord, isKeyword] at stop

/-- A closing parenthesis, or nothing, is due. -/
def Ends (ls : List Lexeme) : Prop :=
  ls.head?.all (·.kind = .rightParen) = true

theorem atConnective_of_ends (ends : Ends ls) (agrees : Agrees ls ts none) :
    atConnective ts = false := by
  cases ls with
  | nil =>
    rw [agrees.eq_nil]
    rfl
  | cons l ls =>
    cases ts with
    | nil => rfl
    | cons t ts =>
      have kind : l.kind = .rightParen := by simpa [Ends] using ends
      simp [atConnective, Reader.isConnective, agrees.head_kind, kind]

/-- An operand that starts with the text of a name is a clause. -/
theorem Derives.operand_clause_inv {later : Bool} {n : Node} {s : String}
    (h : Derives d limit (.operand later) opens ts n rest)
    (agrees : Agrees (.ofText s :: ls) ts none) :
    ∃ c, Clause d ts c rest ∧ n = .clause .empty c := by
  have kind := kind_ofText s
  cases h with
  | clause reads => exact ⟨_, reads, rfl⟩
  | group isLeft =>
    rw [agrees.head_kind] at isLeft
    simp [isLeft] at kind
  | declared group nonempty =>
    have starts := (group.starts nonempty).1
    cases ts with
    | nil => exact absurd agrees Agrees.not_nil
    | cons t ts => simp [atSign, Token.isSign, agrees.head_kind, (kind_ofText_ne s).1] at starts

/-- What stands in parentheses is read as a query. -/
theorem Derives.operand_group_inv {later : Bool} {n : Node}
    (h : Derives d limit (.operand later) opens ts n rest)
    (agrees : Agrees (.leftParen :: ls) ts none) :
    ∃ ts' u, Agrees ls ts' none ∧ Derives d limit .query opens ts' n (u :: rest) := by
  have isLeft : atKind .leftParen ts = true := atKind_of_agrees agrees .leftParen
  cases h with
  | group _ inner => exact ⟨_, _, (agrees.head_of_kind (by simp)).2, inner⟩
  | clause reads => simp [reads.starts.2] at isLeft
  | declared group nonempty => simp [(group.starts nonempty).2] at isLeft

/-- A right operand that starts with a declaration has a group of them. -/
theorem Derives.operand_declared_inv {n : Node}
    (h : Derives d limit (.operand true) opens ts n rest) (sign : atSign .gt ts = true) :
    ∃ ds ts' inner, Declarations ts ds ts' ∧ Derives d limit .query opens ts' inner rest ∧
      n = inner.declareMap (bindings ds) := by
  cases h with
  | declared group _ _ inner => exact ⟨_, _, _, group, inner, rfl⟩
  | clause reads => simp [reads.starts.1] at sign
  | group isLeft => simp [atSign, Token.isSign, isLeft] at sign

/-- A closing parenthesis is not missed. -/
theorem Outcome.of_group {n n' : Node} {u : Token}
    (h : Outcome n n' (.rightParen :: ls) (u :: rest)) : Outcome n n' ls rest := by
  rcases h with ⟨eq, faithful, agrees⟩ | diverge
  · exact .inl ⟨eq, faithful, (agrees.head_of_kind (by simp)).2⟩
  · exact .inr diverge

theorem head_clause_lexemes (c : SearchClause) (ls : List Lexeme) :
    (c.lexemes ++ ls).head?.any (·.kind = .comparison) = false := by
  simp [SearchClause.lexemes, (kind_ofText_ne _).1]

theorem query_clause_kept {p : PrefixMap} {c : SearchClause} {n : Node}
    (canonical : (Node.clause p c).Canonical) (closed : Closed p.lexemes) (ends : Ends ls)
    (agrees : Agrees (p.lexemes ++ (c.lexemes ++ ls)) ts none)
    (read : Derives d limit .query opens ts n rest) : Outcome (.clause p c) n ls rest := by
  cases read with
  | query _ group _ operand more =>
    obtain ⟨rfl, agrees⟩ := declarations_kept closed (head_clause_lexemes c ls) agrees group
    obtain ⟨c', reads, rfl⟩ := operand.operand_clause_inv agrees
    rcases clause_kept canonical.2 agrees reads with ⟨rfl, closed', agrees⟩ | ⟨ne, broken⟩
    · obtain ⟨rfl, rfl⟩ := more.tail_inv (atConnective_of_ends ends agrees)
      exact .inl ⟨declareMap_entries canonical.1 rfl, Node.faithful_clause.2 ⟨closed, closed'⟩,
        agrees⟩
    · refine .inr ⟨fun faithful => broken (Node.faithful_clause.1 faithful).2, ?_⟩
      exact diverge_tail (.head (by simpa using ne.symm) [] []) more _

/-- What becomes of a node that is read where it may stand: as a left operand, as a right operand,
and as a whole query. -/
structure Kept (d : Dialect) (limit : ℕ∞) (n : Node) : Prop where
  left {opens : ℕ∞} {ls : List Lexeme} {ts rest : List Token} {n' : Node}
      (agrees : Agrees (Lexeme.enclose n.declares n.lexemes ++ ls) ts none)
      (read : Derives d limit (.operand false) opens ts n' rest) : Outcome n n' ls rest
  right {opens : ℕ∞} {ls : List Lexeme} {ts rest : List Token} {n' : Node} (ends : Ends ls)
      (agrees : Agrees (n.lexemes ++ ls) ts none)
      (read : Derives d limit (.operand true) opens ts n' rest) : Outcome n n' ls rest
  root {opens : ℕ∞} {ts rest : List Token} {n' : Node} (agrees : Agrees n.lexemes ts none)
      (read : Derives d limit .query opens ts n' rest) : Outcome n n' [] rest

theorem ends_rightParen : Ends (.rightParen :: ls) := by
  simp [Ends, Lexeme.rightParen]

/-- A clause without declarations is the same wherever it stands. -/
theorem operand_clause_kept {later : Bool} {c : SearchClause} {n : Node}
    (canonical : c.Canonical) (agrees : Agrees (c.lexemes ++ ls) ts none)
    (read : Derives d limit (.operand later) opens ts n rest) :
    Outcome (.clause .empty c) n ls rest := by
  obtain ⟨c', reads, rfl⟩ := read.operand_clause_inv agrees
  rcases clause_kept canonical agrees reads with ⟨rfl, closed, agrees⟩ | ⟨ne, broken⟩
  · exact .inl ⟨rfl, Node.faithful_clause.2 ⟨closed_nil, closed⟩, agrees⟩
  · exact .inr ⟨fun faithful => broken (Node.faithful_clause.1 faithful).2,
      .head (by simpa using ne.symm) [] []⟩

theorem kept_clause {p : PrefixMap} {c : SearchClause} (canonical : (Node.clause p c).Canonical)
    (closed : Closed p.lexemes) : Kept d limit (.clause p c) where
  left agrees read := by
    cases declared : (Node.clause p c).declares with
    | true =>
      rw [declared] at agrees
      simp only [Lexeme.enclose, reduceIte, Node.lexemes, List.cons_append, List.append_assoc]
        at agrees
      obtain ⟨ts, u, agrees, inner⟩ := read.operand_group_inv agrees
      exact (query_clause_kept canonical closed ends_rightParen agrees inner).of_group
    | false =>
      rw [declared] at agrees
      obtain rfl := eq_empty_of_not_declares declared
      exact operand_clause_kept canonical.2 agrees read
  right {opens ls ts rest n'} ends agrees read := by
    cases declared : (Node.clause p c).declares with
    | true =>
      obtain ⟨ls', starts⟩ := lexemes_of_declares declared
      have sign : atSign .gt ts = true := by
        rw [starts] at agrees
        exact atSign_of_agrees_sign agrees
      obtain ⟨ds, ts, inner, group, within, rfl⟩ := read.operand_declared_inv sign
      rw [Node.lexemes, List.append_assoc] at agrees
      obtain ⟨rfl, agrees⟩ := declarations_kept closed (head_clause_lexemes c ls) agrees group
      have undeclared : (Node.clause .empty c).Canonical :=
        ⟨(readable_empty (d := d)).canonical, canonical.2⟩
      rcases query_clause_kept undeclared closed_nil ends agrees within with
        ⟨rfl, faithful, agrees⟩ | ⟨unfaithful, diverge⟩
      · exact .inl ⟨declareMap_entries canonical.1 rfl,
          Node.faithful_clause.2 ⟨closed, (Node.faithful_clause.1 faithful).2⟩, agrees⟩
      · refine .inr ⟨fun faithful => unfaithful (Node.faithful_clause.2 ⟨closed_nil,
          (Node.faithful_clause.1 faithful).2⟩), ?_⟩
        rwa [Node.items_declareMap]
    | false =>
      obtain rfl := eq_empty_of_not_declares declared
      exact operand_clause_kept canonical.2 agrees read
  root agrees read := by
    refine query_clause_kept canonical closed rfl ?_ read
    simpa [Node.lexemes] using agrees

/-- The last modifier of a boolean clashes just with a declaration that opens the right operand. -/
theorem clash_right (ms : List Modifier) (r : Node) (ls : List Lexeme) :
    clash ms (r.lexemes ++ ls) = (ms.getLast?.any (·.value.isNone) && r.declares) := by
  obtain ⟨l, ls', starts, declares, -⟩ := right_lexemes_starts r
  rw [clash, starts]
  cases declared : r.declares <;> simp_all

/-- What is joined at the keyword of a boolean. -/
theorem Derives.tail_boolean_inv {left n : Node} {op : Connective}
    (h : Derives d limit (.tail left) opens ts n rest)
    (agrees : Agrees (⟨.word, op.keyword⟩ :: ls) ts none) :
    ∃ ms ts' ts'' ts''' right, Agrees ls ts' none ∧ Modifiers d ts' ms ts'' ∧
      Derives d limit (.operand true) opens ts'' right ts''' ∧
      Derives d limit (.tail (.triple .empty ⟨op, ms⟩ left right)) opens ts''' n rest := by
  cases ts with
  | nil => exact absurd agrees Agrees.not_nil
  | cons t ts =>
    obtain ⟨spelled, follows⟩ := agrees.head_of_kind (by simp)
    simp only [Token.lexeme, Lexeme.mk.injEq] at spelled
    have keyword : Connective.ofKeyword? t.text = some op := by
      rw [spelled.2]
      cases op <;> decide
    cases h with
    | done stop => simp [atConnective, Reader.isConnective, spelled.1, keyword] at stop
    | joined _ isKeyword mods operand _ more =>
      obtain rfl : _ = op := Option.some.inj (isKeyword.symm.trans keyword)
      exact ⟨_, _, _, _, _, follows, mods, operand, more⟩

/-- The parts of a triple tell one after another what becomes of it. -/
theorem query_triple_kept {p : PrefixMap} {b : Boolean} {l r n : Node}
    (canonical : (Node.triple p b l r).Canonical) (closed : Closed p.lexemes)
    (left : Kept d limit l) (right : Kept d limit r) (ends : Ends ls)
    (agrees : Agrees (p.lexemes ++ (Lexeme.enclose l.declares l.lexemes ++
      (b.lexemes ++ (r.lexemes ++ ls)))) ts none)
    (read : Derives d limit .query opens ts n rest) : Outcome (.triple p b l r) n ls rest := by
  cases read with
  | query _ group _ operand more =>
    obtain ⟨first, firsts, starts, noSign⟩ := left_lexemes_starts l
    obtain ⟨rfl, agrees⟩ := declarations_kept closed (by simp [starts, noSign]) agrees group
    rcases left.left agrees operand with ⟨rfl, faithfulLeft, agrees⟩ | ⟨unfaithful, diverge⟩
    swap
    · refine .inr ⟨fun faithful => unfaithful (Node.faithful_triple.1 faithful).2.1, ?_⟩
      have diverge := diverge.append (.boolean b :: r.items) []
      rw [List.append_nil] at diverge
      exact diverge_tail diverge more _
    obtain ⟨ms, _, _, _, r', agrees, mods, operand, more⟩ := more.tail_boolean_inv agrees
    obtain ⟨second, seconds, starts, -, noSlash⟩ := right_lexemes_starts r
    rcases modifiers_kept canonical.2.1 (by simp [starts, noSlash]) agrees mods with
      ⟨rfl, kept, agrees⟩ | ⟨ne, unfaithful⟩
    swap
    · rw [clash_right] at unfaithful
      refine .inr ⟨fun faithful => unfaithful (Node.faithful_triple.1 faithful).2.2.1, ?_⟩
      have differ : Node.Item.boolean b ≠ .boolean ⟨b.op, ms⟩ := by
        intro same
        exact ne (congrArg Boolean.modifiers (Node.Item.boolean.inj same)).symm
      exact diverge_tail ((Diverge.head differ r.items r'.items).append_left _) more _
    rw [clash_right] at kept
    rcases right.right ends agrees operand with ⟨rfl, faithfulRight, agrees⟩ | ⟨unfaithful, diverge⟩
    · obtain ⟨rfl, rfl⟩ := more.tail_inv (atConnective_of_ends ends agrees)
      exact .inl ⟨declareMap_entries canonical.1 rfl,
        Node.faithful_triple.2 ⟨closed, faithfulLeft, kept, faithfulRight⟩, agrees⟩
    · refine .inr ⟨fun faithful => unfaithful (Node.faithful_triple.1 faithful).2.2.2, ?_⟩
      exact diverge_tail ((diverge.append_left [.boolean b]).append_left _) more _

theorem kept_triple {p : PrefixMap} {b : Boolean} {l r : Node}
    (canonical : (Node.triple p b l r).Canonical) (closed : Closed p.lexemes)
    (left : Kept d limit l) (right : Kept d limit r) : Kept d limit (.triple p b l r) := by
  have operand : ∀ {later : Bool} {opens : ℕ∞} {ls : List Lexeme} {ts rest : List Token}
      {n' : Node}, Agrees ((Node.triple p b l r).lexemes ++ ls) ts none →
      Derives d limit (.operand later) opens ts n' rest →
      Outcome (.triple p b l r) n' ls rest := by
    intro later opens ls ts rest n' agrees read
    simp only [Node.lexemes, List.cons_append, List.append_assoc] at agrees
    obtain ⟨ts, u, agrees, inner⟩ := read.operand_group_inv agrees
    exact (query_triple_kept canonical closed left right ends_rightParen agrees inner).of_group
  refine ⟨fun agrees read => operand agrees read, fun _ agrees read => operand agrees read, ?_⟩
  intro opens ts rest n' agrees read
  cases read with
  | query _ group _ first more =>
    have empty : Closed (([] : List (String × String)).flatMap declarationLexemes) := closed_nil
    obtain ⟨rfl, agrees⟩ := declarations_kept empty rfl agrees group
    have outcome : Outcome (.triple p b l r) _ [] _ :=
      operand (by rw [List.append_nil]; exact agrees) first
    rcases outcome with ⟨rfl, faithful, agrees⟩ | ⟨unfaithful, diverge⟩
    · have ends : Ends [] := rfl
      obtain ⟨rfl, rfl⟩ := more.tail_inv (atConnective_of_ends ends agrees)
      exact .inl ⟨rfl, faithful, agrees⟩
    · exact .inr ⟨unfaithful, diverge_tail diverge more _⟩

theorem kept {n : Node} (canonical : n.Canonical) (closed : n.DeclarationsClosed) :
    Kept d limit n := by
  induction n with
  | clause => exact kept_clause canonical closed.1
  | triple _ _ _ _ ihl ihr =>
    exact kept_triple canonical closed.1 (ihl canonical.2.2.1 closed.2.2.1)
      (ihr canonical.2.2.2 closed.2.2.2)

end Grammar

/-- Canonical text is cut into tokens that follow the lexemes of the tree. -/
theorem Query.agrees_toCql {q : Query} (canonical : q.root.Canonical) :
    Agrees q.root.lexemes (TokenStream.ofText q.toCql).tokens
      (TokenStream.ofText q.toCql).unclosed := by
  have cuts := Node.cuts_toCql canonical.whole Cuts.nil 0
  rw [List.append_nil, List.append_nil] at cuts
  exact cuts

/-- What is read of canonical text, wherever the query comes from. -/
theorem Query.outcome_toCql {d : Dialect} {q q' : Query} (canonical : q.root.Canonical)
    (closed : q.root.DeclarationsClosed) (parsed : Query.parse d q.toCql = .ok q') :
    Grammar.Outcome q.root q'.root [] [] := by
  obtain ⟨-, complete, derives⟩ := Query.parse_eq_ok_iff.1 parsed
  have agrees := Query.agrees_toCql canonical
  rw [complete] at agrees
  exact (Grammar.kept canonical closed).root agrees derives

/-- A declaration that is not closed may go unnoticed, as here, where another one is read. -/
example :
    let q : Query := ⟨.clause (.ofList [("", "x\\"), ("a", "> b = c")])
      ⟨⟨none, "t"⟩, ⟨⟨none, "="⟩, []⟩, ⟨"v"⟩⟩, {}⟩
    (Query.parse {} q.toCql).toOption.map (·.sameAs q) = some true ∧ ¬q.root.Faithful ∧
      ¬q.root.DeclarationsClosed := by
  decide +kernel

end ContextQuery
