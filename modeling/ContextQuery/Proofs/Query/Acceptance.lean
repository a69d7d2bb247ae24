import ContextQuery.Proofs.Query.Continuing
import ContextQuery.Proofs.Query.Reading
import ContextQuery.Proofs.Token.Tokenization

/-!
# The reader accepts the grammar

Reading a text and deriving its tokens are the same thing, for every dialect: the nesting limit of
the dialect bounds both the queries that are open at a time and the height of the tree. A text that
is no longer than the limit cannot reach it, so there the grammar alone decides.

The tokens of a part are read alike before any others that it does not go on with, even if the
reader fails there: it comes to the last token of the part, and is left to step over it.

## Main results

* `Reader.arrives_of_derives`: the tokens of a part before other tokens.
* `Query.parse_eq_ok_iff`: the reader under any nesting limit.
* `Query.parse_iff_accepts`: the reader of texts no longer than the nesting limit.
-/

namespace ContextQuery

namespace Reader

open Grammar

variable {s : Source} {ts rest : List Token}

/-- Reads a query one level down as the grammar says. -/
def Sound (s : Source) (limit opens : ℕ∞)
    (inner : List Token → Except Diagnostic (Node × List Token)) : Prop :=
  ∀ {ts n rest}, Ahead s ts → inner ts = .ok (n, rest) →
    Derives s.dialect limit .query opens ts n rest ∧ Ahead s rest

theorem operand_sound {inner : List Token → Except Diagnostic (Node × List Token)}
    {limit opens : ℕ∞} {later : Bool} {n : Node} (inner_sound : Sound s limit opens inner)
    (ahead : Ahead s ts) (starts : later = true ∨ atSign .gt ts = false)
    (h : operand s inner ts = .ok (n, rest)) :
    Derives s.dialect limit (.operand later) opens ts n rest ∧ Ahead s rest := by
  unfold operand at h
  by_cases paren : atKind .leftParen ts
  · obtain - | ⟨t, ts⟩ := ts
    · simp [atKind] at paren
    simp only [paren, reduceIte, bind_eq_ok, step_eq_ok, List.tail_cons, Prod.exists] at h
    obtain ⟨-, ahead, n', ts', inner_ok, h⟩ := h
    obtain ⟨derives, -⟩ := inner_sound ahead inner_ok
    obtain - | ⟨u, ts'⟩ := ts'
    · simp [closeGroup, refuse_eq_ok] at h
    unfold closeGroup at h
    by_cases right : u.kind = .rightParen
    · simp only [right, reduceIte, bind_eq_ok, step_eq_ok, pure_eq_ok, Prod.mk.injEq] at h
      obtain ⟨-, ahead, rfl, rfl⟩ := h
      exact ⟨.group (by simpa [atKind] using paren) derives right, ahead⟩
    · simp [right, refuse_eq_ok] at h
  simp only [paren, Bool.false_eq_true, reduceIte, bind_eq_ok, Prod.exists] at h
  obtain ⟨map, ts', read, h⟩ := h
  obtain ⟨ds, group, distinct, rfl, ahead'⟩ := group_sound ahead read
  rw [isEmpty_bindings] at h
  by_cases empty : ds = []
  · subst empty
    cases group with
    | done stop =>
      obtain ⟨c, reads, rfl, ahead⟩ := clause_sound h
      exact ⟨.clause reads, ahead⟩
  · simp only [List.isEmpty_iff, empty, reduceIte, bind_eq_ok, pure_eq_ok, declareAll_eq_ok,
      Prod.exists, Prod.mk.injEq] at h
    obtain ⟨n', _, inner_ok, _, ⟨declarable, rfl⟩, rfl, rfl⟩ := h
    obtain ⟨derives, ahead⟩ := inner_sound ahead' inner_ok
    obtain rfl | stop := starts
    · exact ⟨.declared group empty distinct derives declarable, ahead⟩
    · cases group with
      | done => exact absurd rfl empty
      | named opens | unnamed opens => simp [atSign, opens] at stop

theorem chain_sound {inner : List Token → Except Diagnostic (Node × List Token)} {opens : ℕ∞}
    {rounds : Nat} {left n : Node} (inner_sound : Sound s s.dialect.maxDepth opens inner)
    (ahead : Ahead s ts) (enough : ts.length ≤ rounds)
    (h : chain s (operand s inner) rounds left ts = .ok (n, rest)) :
    Derives s.dialect s.dialect.maxDepth (.tail left) opens ts n rest ∧ Ahead s rest := by
  induction rounds generalizing left ts with
  | zero =>
    simp only [chain, pure_eq_ok, Prod.mk.injEq] at h
    obtain ⟨rfl, rfl⟩ := h
    exact ⟨.done (by simp [List.length_eq_zero_iff.1 (Nat.le_zero.1 enough), atConnective]), ahead⟩
  | succ rounds ih =>
    simp only [chain, bind_eq_ok, Prod.exists] at h
    obtain ⟨b, ts', isBoolean, h⟩ := h
    cases b with
    | none =>
      obtain ⟨stop, rfl⟩ := boolean?_eq_none.1 isBoolean
      simp only [pure_eq_ok, Prod.mk.injEq] at h
      obtain ⟨rfl, rfl⟩ := h
      exact ⟨.done stop, ahead⟩
    | some b =>
      obtain ⟨t, ts₁, rfl, word, keyword, ahead, mods⟩ := boolean?_eq_some.1 isBoolean
      obtain ⟨mods, ahead⟩ := modifiers_sound ahead mods
      simp only [bind_eq_ok, Prod.exists] at h
      obtain ⟨right, ts₂, operand_ok, -, -, h⟩ := h
      obtain ⟨derives, ahead⟩ := operand_sound inner_sound ahead (.inl rfl) operand_ok
      by_cases high : (Node.triple .empty b left right).height > s.dialect.maxDepth
      · simp [high, throw_eq_ok] at h
      · simp only [high, reduceIte] at h
        have shorter := mods.suffix.length_le
        have shorter' := derives.suffix.length_le
        obtain ⟨more, ahead⟩ := ih ahead (by simp only [List.length_cons] at enough; omega) h
        exact ⟨.joined word keyword mods derives (by simpa using high) more, ahead⟩

theorem query_sound (levels : Nat) : Sound s s.dialect.maxDepth levels (query s levels) := by
  induction levels with
  | zero =>
    intro ts n rest _ h
    simp [query, throw_eq_ok] at h
  | succ levels ih =>
    intro ts n rest ahead h
    simp only [query, bind_eq_ok, pure_eq_ok, declareAll_eq_ok, Prod.exists, Prod.mk.injEq] at h
    obtain ⟨map, ts₁, declared, first, ts₂, operand_ok, n', ts₃, chain_ok, _, ⟨declarable, rfl⟩,
      rfl, rfl⟩ := h
    obtain ⟨ds, group, distinct, rfl, ahead⟩ := group_sound ahead declared
    obtain ⟨first_derives, ahead⟩ := operand_sound ih ahead (.inr group.stop) operand_ok
    obtain ⟨more, ahead⟩ := chain_sound ih ahead (Nat.le_refl _) chain_ok
    exact ⟨.query (by simp) group distinct first_derives more declarable, ahead⟩

/-! ## The parts that nest, before other tokens -/

theorem chain_stop {op : List Token → Except Diagnostic (Node × List Token)}
    (stop : atConnective ts = false) (rounds : Nat) (left : Node) :
    chain s op rounds left ts = .ok (left, ts) := by
  cases rounds with
  | zero => rfl
  | succ rounds =>
    rw [chain, bind_of_eq_ok (boolean?_eq_none.2 ⟨stop, rfl⟩)]
    rfl

/-- Each round takes a token at least, so more rounds than tokens change nothing. -/
theorem chain_rounds {inner : List Token → Except Diagnostic (Node × List Token)}
    {limit opens : ℕ∞} (inner_sound : Sound s limit opens inner) (ahead : Ahead s ts)
    {rounds rounds' : Nat} (enough : ts.length ≤ rounds) (enough' : ts.length ≤ rounds')
    (left : Node) :
    chain s (operand s inner) rounds left ts = chain s (operand s inner) rounds' left ts := by
  induction rounds generalizing rounds' ts left with
  | zero =>
    obtain rfl := List.length_eq_zero_iff.1 (Nat.le_zero.1 enough)
    rw [chain_stop rfl, chain_stop rfl]
  | succ rounds ih =>
    obtain _ | rounds' := rounds'
    · obtain rfl := List.length_eq_zero_iff.1 (Nat.le_zero.1 enough')
      rw [chain_stop rfl, chain_stop rfl]
    rw [chain, chain]
    cases isBoolean : (boolean? s ts : Except Diagnostic _) with
    | error => rfl
    | ok r =>
      obtain ⟨_ | b, ts'⟩ := r
      · rfl
      obtain ⟨t, ts₁, rfl, -, -, ahead, mods⟩ := boolean?_eq_some.1 isBoolean
      obtain ⟨mods, ahead⟩ := modifiers_sound ahead mods
      cases isOperand : (operand s inner ts' : Except Diagnostic _) with
      | error => simp [bind, Except.bind, isOperand]
      | ok r =>
        obtain ⟨right, ts₂⟩ := r
        obtain ⟨derives, ahead⟩ := operand_sound inner_sound ahead (.inl rfl) isOperand
        have shorter := mods.suffix.length_le
        have shorter' := derives.suffix.length_le
        simp only [List.length_cons] at enough enough'
        have same := @ih _ ahead rounds' (by omega) (by omega) (.triple .empty b left right)
        simp only [bind, Except.bind, isOperand, same]

/-- Steps over the last token of a node and goes on with the operands that are joined to it. -/
def resume (s : Source) (levels : Nat) (left : Node) (ts : List Token) :
    Except Diagnostic (Node × List Token) :=
  step s ts >>= fun _ => chain s (operand s (query s levels)) ts.length left ts

theorem resume_stop {levels : Nat} {left : Node} (stop : atConnective ts = false) :
    resume s levels left ts = arrive s left ts := by
  rw [resume, chain_stop stop]
  rfl

theorem resume_of_ahead {levels rounds : Nat} {left : Node} (ahead : Ahead s ts)
    (enough : ts.length ≤ rounds) :
    chain s (operand s (query s levels)) rounds left ts = resume s levels left ts := by
  rw [resume, bind_of_eq_ok (step_of_ahead ahead)]
  exact chain_rounds (query_sound levels) ahead enough le_rfl left

/-- What is joined to an operand after its last token. -/
theorem arrive_chain {β : Type} {levels : Nat} {left : Node}
    {f : Node × List Token → Except Diagnostic β} :
    (arrive s left ts >>= fun (n, ts) =>
      chain s (operand s (query s levels)) ts.length n ts >>= f) =
      (resume s levels left ts >>= f) := by
  unfold arrive resume
  cases (step s ts : Except Diagnostic Unit) <;> rfl

theorem arrive_declare {n : Node} {map : PrefixMap} (declarable : Declarable s.dialect map) :
    (arrive s n ts >>= fun (n, ts) =>
      declareAll s.dialect n map.entries >>= fun n => pure (n, ts)) =
      arrive s (n.declareMap map) ts := by
  unfold arrive
  cases (step s ts : Except Diagnostic Unit) with
  | error => rfl
  | ok =>
    have declared := declareAll_eq_ok (n := n).2 ⟨declarable, rfl⟩
    simp [declared, bind, Except.bind, pure, Except.pure, Node.declareMap]

section Operands

variable {inner : List Token → Except Diagnostic (Node × List Token)}

theorem operand_enclosed {t u : Token} {n : Node} (isLeft : t.kind = .leftParen)
    (isRight : u.kind = .rightParen) (ahead : Ahead s ts) (ahead' : Ahead s (u :: rest))
    (inner_read : inner ts = arrive s n (u :: rest)) :
    operand s inner (t :: ts) = arrive s n rest := by
  rw [operand, if_pos (by simpa [atKind] using isLeft), List.tail_cons,
    bind_of_eq_ok (step_of_ahead ahead), inner_read, arrive_of_ahead ahead']
  simp only [bind, Except.bind, closeGroup, isRight, reduceIte]
  rfl

theorem operand_clause {c : SearchClause} (ahead : Ahead s ts)
    (room : ∀ t, Ahead s (t :: rest)) (reads : Clause s.dialect ts c rest) :
    operand s inner ts = arrive s (.clause .empty c) rest := by
  rw [operand, if_neg (by simp [reads.starts.2]),
    bind_of_eq_ok (group_complete ahead (.done reads.starts.1) (by simp [Distinct]))]
  simp only [isEmpty_bindings, List.isEmpty_nil, reduceIte]
  exact clause_arrives room reads

theorem operand_declared {ts' : List Token} {ds : List (String × String)} {n : Node}
    (ahead : Ahead s ts') (group : Declarations ts ds ts') (nonempty : ds ≠ [])
    (distinct : Distinct s.dialect ds) (declarable : Declarable s.dialect (bindings ds))
    (inner_read : inner ts' = arrive s n rest) :
    operand s inner ts = arrive s (n.declareMap (bindings ds)) rest := by
  rw [operand, if_neg (by simp [(group.starts nonempty).2]),
    bind_of_eq_ok (group_complete ahead group distinct)]
  simp only [isEmpty_bindings, List.isEmpty_iff, nonempty, reduceIte]
  rw [inner_read]
  exact arrive_declare declarable

end Operands

/-- One more operand is joined, after a connective that can be stepped over. -/
theorem resume_joined {levels : Nat} {left right : Node} {t : Token} {ts' ts'' : List Token}
    {op : Connective} {ms : List Modifier} (isWord : t.kind = .word)
    (isKeyword : Connective.ofKeyword? t.text = some op) (ahead : Ahead s ts)
    (ahead' : Ahead s ts') (mods : Modifiers s.dialect ts ms ts') (fits : ts''.length ≤ ts.length)
    (low : (Node.triple .empty ⟨op, ms⟩ left right).height ≤ s.dialect.maxDepth)
    (right_read : operand s (query s levels) ts' = arrive s right ts'') :
    resume s levels left (t :: ts) = resume s levels (.triple .empty ⟨op, ms⟩ left right) ts'' := by
  have isBoolean : (boolean? s (t :: ts) : Except Diagnostic _) = .ok (some ⟨op, ms⟩, ts') :=
    boolean?_eq_some.2 ⟨t, ts, rfl, isWord, isKeyword, ahead, modifiers_complete ahead' mods⟩
  rw [resume, bind_of_eq_ok (step_of_ahead (ahead.mono (List.suffix_cons t ts))), List.length_cons,
    chain, bind_of_eq_ok isBoolean]
  simp only [right_read]
  unfold arrive
  cases stepped : (step s ts'' : Except Diagnostic Unit) with
  | error => simp [resume, stepped, bind, Except.bind]
  | ok =>
    rw [← resume_of_ahead (step_eq_ok.1 stepped) fits]
    simp [bind, Except.bind, pure, Except.pure, Journal.note, not_lt.2 low]

/-- A query is what is joined to its first operand, with the declarations in front. -/
theorem query_of_operand {levels : Nat} {ts' ts'' : List Token} {ds : List (String × String)}
    {first : Node} (ahead : Ahead s ts') (group : Declarations ts ds ts')
    (distinct : Distinct s.dialect ds)
    (first_read : operand s (query s levels) ts' = arrive s first ts'') :
    query s (levels + 1) ts = (resume s levels first ts'' >>= fun (n, ts) =>
      declareAll s.dialect n (bindings ds).entries >>= fun n => pure (n, ts)) := by
  rw [query, bind_of_eq_ok (group_complete ahead group distinct)]
  dsimp only
  rw [first_read]
  exact arrive_chain

/-- How a reader with the given levels left comes from the front of a part to its end. -/
def Arrives (s : Source) (levels : Nat) : Part → List Token → Node → List Token → Prop
  | .query, ts, n, rest => query s levels ts = arrive s n rest
  | .operand _, ts, n, rest => operand s (query s levels) ts = arrive s n rest
  | .tail left, ts, n, rest => resume s levels left ts = resume s levels n rest

/-- The tokens of a part are read alike before other tokens that it does not go on with. A
connective is one of them for a query, and for an operand with declarations in front. -/
theorem arrives_of_derives {part : Part} {opens : ℕ∞} {n : Node} {after : List Token}
    (h : Derives s.dialect s.dialect.maxDepth part opens ts n rest) {levels : Nat}
    (enough : opens ≤ levels) (closes : Closes after) (room : ∀ t, Ahead s (t :: after))
    (apart : atConnective after = false ∨ rest ≠ [] ∨ part ≠ .query ∧ n.undeclared = true) :
    Arrives s levels part (ts ++ after) n (rest ++ after) := by
  have roomy {ts : List Token} : ts ≠ [] → Ahead s (ts ++ after) := ahead_append room
  induction h generalizing levels with
  | @group _ _ t u ts rest n isLeft inner isRight ih =>
    have inner_read := ih enough (.inr (.inl (List.cons_ne_nil u rest)))
    exact operand_enclosed isLeft isRight (roomy (inner.ne_nil rfl))
      (roomy (List.cons_ne_nil u rest)) inner_read
  | @clause _ _ ts rest c reads =>
    have nonempty : ts ≠ [] := List.length_pos_iff.1 (Nat.zero_lt_of_lt reads.length_lt)
    exact operand_clause (roomy nonempty) (fun t => roomy (List.cons_ne_nil t rest))
      (reads.append closes)
  | declared group nonempty distinct inner declarable ih =>
    have inner_read := ih enough (by simpa [nonempty] using apart)
    exact operand_declared (roomy (inner.ne_nil rfl)) (group.append closes) nonempty distinct
      declarable inner_read
  | done stop => rfl
  | @joined _ left right n t ts ts' ts'' rest op ms isWord isKeyword mods operand bounded more
      ih_operand ih_more =>
    have of_joined (undeclared : n.undeclared = true) : right.undeclared = true := by
      have := more.undeclared_left undeclared
      simp_all [Node.undeclared]
    have apart : atConnective after = false ∨ rest ≠ [] ∨ n.undeclared = true := by
      simpa using apart
    have apart_right : atConnective after = false ∨ ts'' ≠ [] ∨ right.undeclared = true :=
      apart.imp_right (Or.imp more.suffix.ne_nil of_joined)
    have right_read := ih_operand enough (by simpa using apart_right)
    have more_read := ih_more enough (by simpa using apart)
    have ahead' : Ahead s (ts' ++ after) := roomy (operand.ne_nil rfl)
    have ahead : Ahead s (ts ++ after) := roomy (mods.suffix.ne_nil (operand.ne_nil rfl))
    have fits : (ts'' ++ after).length ≤ (ts ++ after).length := by
      simpa using (operand.suffix.trans mods.suffix).length_le
    exact (resume_joined isWord isKeyword ahead ahead' (mods.append closes) fits
      (Nat.cast_le.1 bounded) right_read).trans more_read
  | @query _ inner ts ts' ts'' rest ds first n open_le group distinct operand more declarable
      ih_operand ih_more =>
    obtain _ | levels := levels
    · simpa using open_le.trans enough
    have enough := open_le.trans enough
    rw [Nat.cast_add, Nat.cast_one, ENat.add_le_add_iff_right (by simp)] at enough
    have apart : atConnective after = false ∨ rest ≠ [] := by
      simpa using apart
    have stop : atConnective (rest ++ after) = false := by
      cases rest with
      | nil => simpa using apart
      | cons => exact more.stop (by simp)
    have first_read := ih_operand enough (apart.imp_right (.inl ∘ more.suffix.ne_nil))
    have more_read := ih_more enough (apart.imp_right .inl)
    simp only [Arrives] at first_read more_read ⊢
    rw [query_of_operand (roomy (operand.ne_nil rfl)) (group.append closes) distinct first_read,
      more_read, resume_stop stop]
    exact arrive_declare declarable

/-- A query that takes all tokens is read to the end of them. -/
theorem query_of_derives {opens : ℕ∞} {n : Node} (closed : s.unclosed = none)
    (h : Derives s.dialect s.dialect.maxDepth .query opens ts n []) {levels : Nat}
    (enough : opens ≤ levels) : (query s levels ts : Except Diagnostic _) = .ok (n, []) := by
  have arrives := arrives_of_derives h enough closes_nil (fun _ => .inl closed) (.inl rfl)
  simp only [Arrives, List.append_nil] at arrives
  rw [arrives, arrive_of_ahead (.inl closed)]

theorem finish_eq_ok {d : Dialect} {n : Node} {q : Query} :
    (finish d n ts : Except Diagnostic Query) = .ok q ↔ ts = [] ∧ ⟨n, d⟩ = q := by
  cases ts with
  | nil => simp [finish, pure_eq_ok]
  | cons t ts => by_cases right : t.kind = .rightParen <;> simp [finish, right, refuse_eq_ok]

end Reader

namespace Query

open Reader Grammar

/-- A text reads as a query if its tokens derive the tree within the nesting limit. -/
theorem parse_eq_ok_iff {d : Dialect} {text : String} {q : Query} :
    parse d text = .ok q ↔ q.dialect = d ∧ (TokenStream.ofText text).unclosed = none ∧
      Derives d d.maxDepth .query d.maxDepth (TokenStream.ofText text).tokens q.root [] := by
  generalize hs : TokenStream.ofText text = stream
  let source : Source := ⟨d, stream.length, stream.unclosed⟩
  simp only [parse, read, hs, bind_eq_ok, pull_eq_ok, finish_eq_ok, Prod.exists]
  constructor
  · rintro ⟨-, -, -, ahead, root, _, read, rfl, rfl⟩
    obtain ⟨derives, ahead⟩ := query_sound (s := source) d.maxDepth ahead read
    exact ⟨rfl, by simpa [Ahead] using ahead, derives⟩
  · rintro ⟨rfl, closed, derives⟩
    have read := query_of_derives (s := source) closed derives le_rfl
    exact ⟨(), .inl closed, (), .inl closed, _, _, read, rfl, rfl⟩

/-- The reader accepts the texts whose tokens the grammar accepts, and builds the tree of the
derivation, unless the nesting limit is smaller than the text. -/
theorem parse_iff_accepts {d : Dialect} {text : String} {q : Query}
    (fits : text.utf8ByteSize ≤ d.maxDepth) :
    parse d text = .ok q ↔ ∃ ts, tokenize text = .ok ts ∧ Accepts d ts q := by
  have length_le := (TokenStream.length_tokens_ofText_le text).trans fits
  simp only [parse_eq_ok_iff, tokenize_eq_ok]
  constructor
  · rintro ⟨rfl, closed, derives⟩
    exact ⟨_, ⟨closed, rfl⟩, rfl, _, _, rfl, rfl, derives.mono le_top le_top⟩
  · rintro ⟨_, ⟨closed, rfl⟩, rfl, body, mark, split, -, derives⟩
    obtain ⟨rfl, -⟩ := List.append_inj' split rfl
    refine ⟨rfl, closed, derives.bounded ?_ (by simpa [Part.slack] using length_le)⟩
    have high := derives.two_mul_height_lt
    omega

/-- The second word is a connective, so both others are terms. -/
theorem accepts_a_or_b : "a or b".utf8ByteSize ≤ ({} : Dialect).maxDepth ∧
    ∃ q ts, tokenize "a or b" = .ok ts ∧ Accepts {} ts q := by
  have parsed : parse {} "a or b" = .ok ⟨.triple .empty ⟨.or, []⟩
      (.clause .empty (.serverChoice {} ⟨"a"⟩)) (.clause .empty (.serverChoice {} ⟨"b"⟩)), {}⟩ := by
    decide +kernel
  exact ⟨by decide, _, (parse_iff_accepts (by decide)).1 parsed⟩

end Query

end ContextQuery
