import ContextQuery.Proofs.Query.Faithful
import ContextQuery.Proofs.Query.Phrase

/-!
# Declarations that modifiers take

Where a clause with declarations follows a modifier without a value, its first declaration is read
as a comparison. A declaration without a name is taken whole, and the rest is read as it was
printed. Of a declaration with a name the sign and the identifier are left, which start no operand.
So `Node.reread` tells all that can be read of canonical text.

## Main results

* `Grammar.Derives.unique`: tokens derive one node at most.
* `Grammar.unread_of_reread`: what derives no node.
* `Query.parse_toCql_iff`: canonical text is read as `Node.reread` says, or not at all.
-/

namespace ContextQuery

namespace Grammar

open Reader (atKind atSign)

variable {d : Dialect} {limit limit' opens opens' : ℕ∞} {ts ts' rest rest' : List Token}
  {n n' : Node}

/-! ## One node -/

/-- Tokens derive one node at most, whatever the bounds. -/
theorem Derives.unique {f : Phrase.Part} (h : Derives d limit f.toGrammar opens ts n rest)
    (h' : Derives d limit' f.toGrammar opens' ts n' rest') : n = n' ∧ rest = rest' := by
  obtain ⟨p, rfl, writes⟩ := h.writes rfl
  obtain ⟨p', rfl, writes'⟩ := h'.writes rfl
  obtain ⟨rfl, rfl⟩ := writes.unique writes'
  exact ⟨rfl, rfl⟩

/-- A query has an operand after its declarations, and others joined to it. -/
theorem Derives.query_inv {ds : List (String × String)} (h : Derives d limit .query opens ts n rest)
    (group : Declarations ts ds ts') : ∃ inner first ts'' m,
      Derives d limit (.operand false) inner ts' first ts'' ∧
        Derives d limit (.tail first) inner ts'' m rest := by
  cases h with
  | query _ group' _ operand more =>
    obtain ⟨rfl, rfl⟩ := group.unique group'
    exact ⟨_, _, _, _, operand, more⟩

/-- After a connective and its modifiers an operand is due. -/
theorem Derives.tail_joined_inv {left : Node} {w : Token} {op : Connective} {ms : List Modifier}
    (h : Derives d limit (.tail left) opens (w :: ts) n rest) (isWord : w.kind = .word)
    (keyword : Connective.ofKeyword? w.text = some op) (mods : Modifiers d ts ms ts') :
    ∃ right ts'', Derives d limit (.operand true) opens ts' right ts'' := by
  cases h with
  | done stop => simp [atConnective, Reader.isConnective, isWord, keyword] at stop
  | joined _ _ mods' operand =>
    obtain ⟨-, rfl⟩ := mods.unique mods'
    exact ⟨_, _, operand⟩

/-- What starts with a parenthesis is a query in parentheses. -/
theorem Derives.group_inv {later : Bool} {t : Token}
    (h : Derives d limit (.operand later) opens (t :: ts) n rest) (isLeft : t.kind = .leftParen) :
    ∃ u, Derives d limit .query opens ts n (u :: rest) := by
  cases h with
  | group _ inner => exact ⟨_, inner⟩
  | clause reads => simpa [atKind, isLeft] using reads.starts.2
  | declared group nonempty => simpa [atKind, isLeft] using (group.starts nonempty).2

/-- No operand starts with an equality sign. -/
theorem not_operand_of_sign {later : Bool} {t : Token} (isSign : t.lexeme = .sign .eq) :
    ¬Derives d limit (.operand later) opens (t :: ts) n rest := by
  obtain ⟨kind, text⟩ := Token.of_lexeme_eq_sign isSign
  intro h
  cases h with
  | group isLeft => simp [kind] at isLeft
  | declared group nonempty =>
    have starts := (group.starts nonempty).1
    simp [atSign, Token.isSign_of_lexeme isSign] at starts
  | clause reads =>
    cases reads with
    | full isName => simp [Token.isName, kind] at isName
    | short _ _ term =>
      have parsed := term.2.2
      simp [Term.parse, text, Comparison.sign, Term.bareOperators] at parsed

/-! ## Trees that are not read -/

/-- The lexemes of a node derive nothing where they may stand. -/
structure Unread (d : Dialect) (n : Node) : Prop where
  left {limit opens : ℕ∞} {ts rest rest' : List Token} {n' : Node}
      (spelled : ts.map Token.lexeme = Lexeme.enclose n.declares n.lexemes) :
    ¬Derives d limit (.operand false) opens (ts ++ rest) n' rest'
  right {limit opens : ℕ∞} {ts rest rest' : List Token} {n' : Node}
      (spelled : ts.map Token.lexeme = n.lexemes) :
    ¬Derives d limit (.operand true) opens (ts ++ rest) n' rest'
  root {limit opens : ℕ∞} {ts rest' : List Token} {n' : Node}
      (spelled : ts.map Token.lexeme = n.lexemes) : ¬Derives d limit .query opens ts n' rest'

/-- One part of a triple that is not read stops the whole. -/
theorem not_query_of_triple {p : PrefixMap} {b : Boolean} {l r : Node}
    (readable : (Node.triple p b l r).Readable d)
    (bare : d.refuseQuotedName = true → (Node.triple p b l r).Bare)
    (h : (Node.triple p b l r).reread = none) (left : l.reread = none → Unread d l)
    (right : r.reread = none → Unread d r)
    (spelled : ts.map Token.lexeme = p.lexemes ++ (Lexeme.enclose l.declares l.lexemes ++
      (b.lexemes ++ r.lexemes))) :
    ¬Derives d limit .query opens (ts ++ rest) n rest' := by
  obtain ⟨-, readableMods, readableLeft, readableRight⟩ := readable
  obtain ⟨dts, lts, w, mts, rts, rfl, group, isLeft, ⟨isWord, keyword⟩, mods, isRight⟩ :=
    triple_parts spelled
  intro read
  simp only [List.append_assoc, List.cons_append] at read
  obtain ⟨inner, first, ts, m, operand, more⟩ := read.query_inv (group _)
  -- The first part that is not read decides: the left operand, the right one, or where they meet.
  cases leftReread : l.reread with
  | none => exact (left leftReread).left isLeft operand
  | some l' =>
    have reads : Rereads d ⊤ l l' :=
      rereads_of_reread readableLeft (fun refuse => (bare refuse).2.2.1) leftReread le_top
    obtain ⟨rfl, rfl⟩ := operand.unique (f := .operand false) (reads.left _ isLeft)
    have bareMods refuse := (bare refuse).2.1
    cases rightReread : r.reread with
    | none =>
      have clear : (b.modifiers.getLast?.any (·.value.isNone) && r.declares) = false := by
        cases r with
        | clause => simp [Node.reread] at rightReread
        | triple => simp
      obtain ⟨_, _, operand⟩ := more.tail_joined_inv isWord keyword
        (modifiers_of_clear readableMods bareMods mods isRight clear rest)
      exact (right rightReread).right isRight operand
    | some r' =>
      have met : Node.meet b r' = none := by
        simpa [Node.reread, leftReread, rightReread] using h
      obtain ⟨m, p', c, name, uri, _, last, noValue, rfl, entries, named⟩ := Node.meet_eq_none met
      obtain rfl := Node.eq_clause_of_reread rightReread
      have written : declarationLexemes (name, uri) =
          [.sign .gt, .ofText name, .sign .eq, .quoted uri] := if_neg (by simpa using named)
      rw [Node.lexemes, PrefixMap.lexemes, entries, List.flatMap_cons, written] at isRight
      simp only [List.cons_append, List.map_eq_cons_iff] at isRight
      obtain ⟨sign, _, rfl, isSign, v, _, rfl, isName, equals, rts, rfl, isEquals, -⟩ := isRight
      -- The modifier takes the sign and the name, and an operand is due where the equality sign is.
      have stop : atKind .slash (equals :: (rts ++ rest)) = false := by
        simp [atKind, (Token.of_lexeme_eq_sign isEquals).1]
      obtain ⟨_, _, operand⟩ := more.tail_joined_inv isWord keyword
        (modifiers_taken readableMods bareMods mods last noValue (Token.of_lexeme_eq_sign isSign).1
          (Token.isName_of_lexeme isName) stop)
      exact not_operand_of_sign isEquals operand

/-- What cannot be read of a tree derives nothing. -/
theorem unread_of_reread (readable : n.Readable d) (bare : d.refuseQuotedName = true → n.Bare)
    (h : n.reread = none) : Unread d n := by
  induction n with
  | clause => simp [Node.reread] at h
  | triple p b l r ihl ihr =>
    have operand {limit opens : ℕ∞} {later : Bool} {ts rest rest' : List Token} {n' : Node}
        (spelled : ts.map Token.lexeme = (Node.triple p b l r).lexemes) :
        ¬Derives d limit (.operand later) opens (ts ++ rest) n' rest' := by
      intro read
      obtain ⟨t, _, rfl, isLeft, spelled⟩ := List.map_eq_cons_iff.1 spelled
      obtain ⟨inside, closing, rfl, spelled, -⟩ := List.map_eq_append_iff.1 spelled
      rw [List.cons_append, List.append_assoc] at read
      obtain ⟨u, inner⟩ := read.group_inv (congrArg Lexeme.kind isLeft)
      exact not_query_of_triple readable bare h
        (ihl readable.2.2.1 fun refuse => (bare refuse).2.2.1)
        (ihr readable.2.2.2 fun refuse => (bare refuse).2.2.2) spelled inner
    refine ⟨operand, operand, fun {limit opens ts rest' n'} spelled read => ?_⟩
    have group : Declarations ts [] ts := .done (by
      simpa using atSign_of_lexeme spelled (by simp) .gt [])
    obtain ⟨_, _, _, _, first, -⟩ := read.query_inv group
    rw [← List.append_nil ts] at first
    exact operand spelled first

end Grammar

/-- Canonical text is read as the tree that its declarations leave, or not at all, if its strings
are closed and the dialect lets its names be as they are printed. -/
theorem Query.parse_toCql_iff {d : Dialect} {q q' : Query} (readable : q.root.Readable d)
    (bare : d.refuseQuotedName = true → q.root.Bare) (closed : Closed q.root.lexemes)
    (low : q.root.height + 2 ≤ d.maxDepth) :
    Query.parse d q.toCql = .ok q' ↔ ∃ n, q.root.reread = some n ∧ q' = ⟨n, d⟩ := by
  obtain ⟨complete, spelled⟩ := (Query.agrees_toCql readable.canonical).spelled closed
  have height : (q.root.height : ℕ∞) ≤ d.maxDepth := Nat.cast_le.2 (by omega)
  rw [Query.parse_eq_ok_iff]
  constructor
  · rintro ⟨rfl, -, derives⟩
    cases reread : q.root.reread with
    | none => exact absurd derives ((Grammar.unread_of_reread readable bare reread).root spelled)
    | some n =>
      have again := (Grammar.rereads_of_reread readable bare reread height).root spelled
      obtain ⟨rfl, -⟩ := again.unique (f := .query) derives
      exact ⟨_, rfl, rfl⟩
  · rintro ⟨n, reread, rfl⟩
    have again := (Grammar.rereads_of_reread readable bare reread height).root spelled
    exact ⟨rfl, complete, again.mono le_rfl (Nat.cast_le.2 low)⟩

end ContextQuery
