import ContextQuery.Proofs.Query.Acceptance

/-!
# Phrases

A query as it is written: each group of declarations and each pair of parentheses still stands in
front of, or around, what it was written for. The tree of a query has neither. Its nodes hold one
map each, where the groups written for the same node are merged.

The tokens of a text write one phrase at most, and a text that is read writes a phrase that stands
for the tree.

## Main definitions

* `Phrase`: the written form of a query.
* `Grammar.Writes`: the first tokens write a phrase.

## Main results

* `Grammar.Writes.unique`: what tokens write.
* `Query.writes_of_parse`: what a text that is read writes.
-/

namespace ContextQuery

/-- Declarations that stand one after the other, with their names as written. -/
abbrev DeclarationGroup := List (String × String)

/-- A query as it is written. -/
inductive Phrase where
  | clause (clause : SearchClause)
  /-- A query in parentheses. -/
  | enclosed (inner : Phrase)
  /-- A query with the declarations in front of it; there may be none. -/
  | declared (group : DeclarationGroup) (inner : Phrase)
  | joined (boolean : Boolean) (left right : Phrase)

namespace Phrase

/-- The tree that the phrase stands for. -/
def node : Phrase → Node
  | clause c => .clause .empty c
  | enclosed p => p.node
  | declared ds p => p.node.declareMap (Grammar.bindings ds)
  | joined b l r => .triple .empty b l.node r.node

/-- The parts of a query that nest, with phrases for nodes. -/
inductive Part where
  | query
  | operand (afterBoolean : Bool)
  | tail (left : Phrase)

/-- The part of a tree that is written by the part of a phrase. -/
def Part.toGrammar : Part → Grammar.Part
  | query => .query
  | operand afterBoolean => .operand afterBoolean
  | tail left => .tail left.node

end Phrase

namespace Grammar

open Reader (atKind atSign)

variable {d : Dialect} {ts rest rest' : List Token}

/-- The first tokens write a phrase and leave the others over. -/
inductive Writes (d : Dialect) : Phrase.Part → List Token → Phrase → List Token → Prop where
  | enclosed {later : Bool} {t u : Token} {ts rest : List Token} {p : Phrase}
      (isLeft : t.kind = .leftParen) (inner : Writes d .query ts p (u :: rest))
      (isRight : u.kind = .rightParen) : Writes d (.operand later) (t :: ts) (.enclosed p) rest
  | clause {later : Bool} {ts rest : List Token} {c : SearchClause} (reads : Clause d ts c rest) :
      Writes d (.operand later) ts (.clause c) rest
  | declared {ts ts' rest : List Token} {ds : DeclarationGroup} {p : Phrase}
      (group : Declarations ts ds ts') (nonempty : ds ≠ []) (distinct : Distinct d ds)
      (inner : Writes d .query ts' p rest) (declarable : Declarable d (bindings ds)) :
      Writes d (.operand true) ts (.declared ds p) rest
  | done {left : Phrase} {ts : List Token} (stop : atConnective ts = false) :
      Writes d (.tail left) ts left ts
  | joined {left right p : Phrase} {t : Token} {ts ts' ts'' rest : List Token} {op : Connective}
      {ms : List Modifier} (isWord : t.kind = .word)
      (isKeyword : Connective.ofKeyword? t.text = some op) (mods : Modifiers d ts ms ts')
      (operand : Writes d (.operand true) ts' right ts'')
      (more : Writes d (.tail (.joined ⟨op, ms⟩ left right)) ts'' p rest) :
      Writes d (.tail left) (t :: ts) p rest
  | query {ts ts' ts'' rest : List Token} {ds : DeclarationGroup} {first p : Phrase}
      (group : Declarations ts ds ts') (distinct : Distinct d ds)
      (operand : Writes d (.operand false) ts' first ts'')
      (more : Writes d (.tail first) ts'' p rest) (declarable : Declarable d (bindings ds)) :
      Writes d .query ts (.declared ds p) rest

/-! ## One phrase -/

theorem Modifiers.unique {ms ms' : List Modifier} (h : Modifiers d ts ms rest)
    (h' : Modifiers d ts ms' rest') : ms = ms' ∧ rest = rest' := by
  have read := Reader.modifiers_complete (s := ⟨d, 0, none⟩) (.inl rfl) h
  have read' := Reader.modifiers_complete (s := ⟨d, 0, none⟩) (.inl rfl) h'
  simpa [read] using read'

theorem Clause.unique {c c' : SearchClause} (h : Clause d ts c rest) (h' : Clause d ts c' rest') :
    c = c' ∧ rest = rest' := by
  have read := Reader.clause_complete (s := ⟨d, 0, none⟩) rfl h
  have read' := Reader.clause_complete (s := ⟨d, 0, none⟩) rfl h'
  simpa [read] using read'

theorem Declarations.unique {ds ds' : DeclarationGroup} (h : Declarations ts ds rest)
    (h' : Declarations ts ds' rest') : ds = ds' ∧ rest = rest' := by
  induction h generalizing ds' with
  | done stop =>
    cases h' with
    | done => exact ⟨rfl, rfl⟩
    | named opens | unnamed opens => simp [atSign, opens] at stop
  | named opens _ isSign _ _ ih =>
    cases h' with
    | done stop => simp [atSign, opens] at stop
    | unnamed _ _ stop => simp [atSign, isSign] at stop
    | named _ _ _ _ more =>
      obtain ⟨rfl, rfl⟩ := ih more
      exact ⟨rfl, rfl⟩
  | unnamed opens _ stop _ ih =>
    cases h' with
    | done stop => simp [atSign, opens] at stop
    | named _ _ isSign => simp [atSign, isSign] at stop
    | unnamed _ _ _ more =>
      obtain ⟨rfl, rfl⟩ := ih more
      exact ⟨rfl, rfl⟩

/-- Tokens write one phrase at most: what they start with tells the forms of a part apart. -/
theorem Writes.unique {part : Phrase.Part} {p p' : Phrase} (h : Writes d part ts p rest)
    (h' : Writes d part ts p' rest') : p = p' ∧ rest = rest' := by
  induction h generalizing p' rest' with
  | enclosed isLeft _ _ ih =>
    cases h' with
    | enclosed _ inner =>
      obtain ⟨rfl, eq⟩ := ih inner
      exact ⟨rfl, List.tail_eq_of_cons_eq eq⟩
    | clause reads => simpa [atKind, isLeft] using reads.starts.2
    | declared group nonempty => simpa [atKind, isLeft] using (group.starts nonempty).2
  | clause reads =>
    cases h' with
    | enclosed isLeft => simpa [atKind, isLeft] using reads.starts.2
    | clause reads' =>
      obtain ⟨rfl, rfl⟩ := reads.unique reads'
      exact ⟨rfl, rfl⟩
    | declared group nonempty => simpa [reads.starts.1] using (group.starts nonempty).1
  | declared group nonempty _ _ _ ih =>
    have starts := group.starts nonempty
    cases h' with
    | enclosed isLeft => simpa [atKind, isLeft] using starts.2
    | clause reads => simp [reads.starts.1] at starts
    | declared group' _ _ inner =>
      obtain ⟨rfl, rfl⟩ := group.unique group'
      obtain ⟨rfl, rfl⟩ := ih inner
      exact ⟨rfl, rfl⟩
  | done stop =>
    cases h' with
    | done => exact ⟨rfl, rfl⟩
    | joined isWord isKeyword =>
      simp [atConnective, Reader.isConnective, isWord, isKeyword] at stop
  | joined isWord isKeyword mods _ _ ih_operand ih_more =>
    cases h' with
    | done stop => simp [atConnective, Reader.isConnective, isWord, isKeyword] at stop
    | joined _ isKeyword' mods' operand more =>
      obtain rfl := Option.some.inj (isKeyword.symm.trans isKeyword')
      obtain ⟨rfl, rfl⟩ := mods.unique mods'
      obtain ⟨rfl, rfl⟩ := ih_operand operand
      exact ih_more more
  | query group _ _ _ _ ih_operand ih_more =>
    cases h' with
    | query group' _ operand more =>
      obtain ⟨rfl, rfl⟩ := group.unique group'
      obtain ⟨rfl, rfl⟩ := ih_operand operand
      obtain ⟨rfl, rfl⟩ := ih_more more
      exact ⟨rfl, rfl⟩

/-! ## Phrases and trees -/

/-- What derives a node writes a phrase that stands for it. -/
theorem Derives.writes {limit opens : ℕ∞} {part : Part} {n : Node}
    (h : Derives d limit part opens ts n rest) {f : Phrase.Part}
    (same : f.toGrammar = part) : ∃ p, p.node = n ∧ Writes d f ts p rest := by
  induction h generalizing f with
  | group isLeft _ isRight ih =>
    cases f <;> cases same
    obtain ⟨p, rfl, inner⟩ := ih (f := .query) rfl
    exact ⟨.enclosed p, rfl, .enclosed isLeft inner isRight⟩
  | clause reads =>
    cases f <;> cases same
    exact ⟨.clause _, rfl, .clause reads⟩
  | declared group nonempty distinct _ declarable ih =>
    cases f <;> cases same
    obtain ⟨p, rfl, inner⟩ := ih (f := .query) rfl
    exact ⟨.declared _ p, rfl, .declared group nonempty distinct inner declarable⟩
  | done stop =>
    cases f <;> cases same
    exact ⟨_, rfl, .done stop⟩
  | joined isWord isKeyword mods _ _ _ ih_operand ih_more =>
    cases f <;> cases same
    obtain ⟨right, rfl, operand⟩ := ih_operand (f := .operand true) rfl
    obtain ⟨p, eq, more⟩ := ih_more (f := .tail (.joined _ _ right)) rfl
    exact ⟨p, eq, .joined isWord isKeyword mods operand more⟩
  | query _ group distinct _ _ declarable ih_operand ih_more =>
    cases f <;> cases same
    obtain ⟨first, rfl, operand⟩ := ih_operand (f := .operand false) rfl
    obtain ⟨p, rfl, more⟩ := ih_more (f := .tail first) rfl
    exact ⟨.declared _ p, rfl, .query group distinct operand more declarable⟩

end Grammar

/-- The tokens of a text write the phrase. -/
def Phrase.WrittenBy (d : Dialect) (text : String) (p : Phrase) : Prop :=
  Grammar.Writes d .query (TokenStream.ofText text).tokens p []

/-- A text that is read writes one phrase, which stands for the tree that was read. -/
theorem Query.writes_of_parse {d : Dialect} {text : String} {q : Query}
    (parsed : Query.parse d text = .ok q) :
    ∃ p : Phrase, (∀ p', p'.WrittenBy d text ↔ p' = p) ∧ p.node = q.root := by
  obtain ⟨-, -, derives⟩ := Query.parse_eq_ok_iff.1 parsed
  obtain ⟨p, node, writes⟩ := derives.writes (f := .query) rfl
  refine ⟨p, fun p' => ⟨fun writes' => (Grammar.Writes.unique writes' writes).1, ?_⟩, node⟩
  rintro rfl
  exact writes

end ContextQuery
