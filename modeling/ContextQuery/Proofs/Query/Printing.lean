import ContextQuery.Proofs.Clause
import ContextQuery.Query.Printer

/-!
# The lexemes of canonical text

Canonical text is written as a sequence of lexemes, and the lexer cuts it into just these. The only
thing that can go wrong is a string that is not `Quotable`.

## Main definitions

* `Node.lexemes`: the lexemes of the canonical text of a node.
* `Node.cuts_toCql`: canonical text is cut into its lexemes.
-/

namespace ContextQuery

/-! ## The lexemes of each part -/

/-- The lexemes of a modifier, with the slash before it. -/
def Modifier.lexemes (m : Modifier) : List Lexeme :=
  .slash :: .ofText m.name.fullName ::
    match m.comparison, m.value with
    | some c, some value => [.sign c, .ofText value]
    | _, _ => []

/-- The lexeme of the name of a relation. -/
def Relation.nameLexeme (n : Name) : Lexeme :=
  match Comparison.ofSign? n.fullName with
  | some c => .sign c
  | none =>
    if (Connective.ofKeyword? n.fullName).isSome then .quoted n.fullName else .ofText n.fullName

/-- The lexemes of a search clause. -/
def SearchClause.lexemes (c : SearchClause) : List Lexeme :=
  .ofText c.index.fullName :: Relation.nameLexeme c.relation.name ::
    (c.relation.modifiers.flatMap Modifier.lexemes ++ [.quoted c.term.value])

/-- The lexemes of a boolean. -/
def Boolean.lexemes (b : Boolean) : List Lexeme :=
  ⟨.word, b.op.keyword⟩ :: b.modifiers.flatMap Modifier.lexemes

/-- The lexemes of a declaration. -/
def declarationLexemes (entry : String × String) : List Lexeme :=
  if entry.1.isEmpty then [.sign .gt, .quoted entry.2]
  else [.sign .gt, .ofText entry.1, .sign .eq, .quoted entry.2]

/-- The lexemes of the declarations of a map. -/
def PrefixMap.lexemes (map : PrefixMap) : List Lexeme :=
  map.entries.flatMap declarationLexemes

/-- Lexemes in parentheses if need be. -/
def Lexeme.enclose (needed : Bool) (ls : List Lexeme) : List Lexeme :=
  if needed then .leftParen :: (ls ++ [.rightParen]) else ls

@[simp] theorem closed_enclose {needed : Bool} {ls : List Lexeme} :
    Closed (Lexeme.enclose needed ls) ↔ Closed ls := by
  unfold Lexeme.enclose
  split
  · rw [closed_cons, closed_append]
    simp
  · rfl

namespace Node

/-- A clause with declarations, which is put in parentheses where it is a left operand. -/
def declares (n : Node) : Bool :=
  n.isClause && !n.prefixes.isEmpty

@[simp] theorem declares_clause (p : PrefixMap) (c : SearchClause) :
    (clause p c).declares = !p.isEmpty := rfl

@[simp] theorem declares_triple (p : PrefixMap) (b : Boolean) (l r : Node) :
    (triple p b l r).declares = false := rfl

/-- The lexemes of the canonical text of a node. -/
def lexemes : Node → List Lexeme
  | clause p c => p.lexemes ++ c.lexemes
  | triple p b l r =>
    .leftParen :: (p.lexemes ++ (Lexeme.enclose l.declares l.lexemes ++
      (b.lexemes ++ r.lexemes)) ++ [.rightParen])

/-- Holds of the declarations, the clauses and the booleans of all nodes. -/
def Each (maps : PrefixMap → Prop) (clauses : SearchClause → Prop) (booleans : Boolean → Prop) :
    Node → Prop
  | clause p c => maps p ∧ clauses c
  | triple p b l r =>
    maps p ∧ booleans b ∧ l.Each maps clauses booleans ∧ r.Each maps clauses booleans

instance decidableEach (maps : PrefixMap → Prop) (clauses : SearchClause → Prop)
    (booleans : Boolean → Prop) [DecidablePred maps] [DecidablePred clauses]
    [DecidablePred booleans] : DecidablePred (Each maps clauses booleans)
  | .clause p c => inferInstanceAs (Decidable (maps p ∧ clauses c))
  | .triple p b l r =>
    have := decidableEach maps clauses booleans l
    have := decidableEach maps clauses booleans r
    inferInstanceAs (Decidable (maps p ∧ booleans b ∧ l.Each maps clauses booleans ∧
      r.Each maps clauses booleans))

end Node

/-- The modifier has a value just if it has a comparison. -/
def Modifier.Whole (m : Modifier) : Prop :=
  m.comparison.isSome = m.value.isSome

/-- All modifiers of a node and below have a value just if they have a comparison. -/
def Node.Whole : Node → Prop :=
  Node.Each (fun _ => True) (fun c => ∀ m ∈ c.relation.modifiers, m.Whole)
    fun b => ∀ m ∈ b.modifiers, m.Whole

/-! ## Cutting the parts -/

variable {cs : List Char} {ls : List Lexeme}

theorem head_quoteIfNeeded (s : String) (cs : List Char) :
    ((quoteIfNeeded s).toList ++ cs).head? ≠ some '=' ∧
      ((quoteIfNeeded s).toList ++ cs).head? ≠ some '>' := by
  unfold quoteIfNeeded
  split
  · simp [toList_quote]
  · rename_i bare
    simp only [Bool.not_eq_true, needsQuotes, Bool.or_eq_false_iff, Bool.not_eq_false',
      List.all_eq_true] at bare
    obtain ⟨c, body, eq⟩ := List.exists_cons_of_ne_nil (l := s.toList) (by simpa using bare.1)
    have isWord := bare.2 c (by simp [eq])
    rw [eq]
    constructor <;> rintro ⟨⟩ <;> simp [isWordChar_of_mark] at isWord

theorem endsWord_sign (c : Comparison) (cs : List Char) :
    endsWord (c.sign.toList ++ cs) = true := by
  cases c <;> rfl

theorem endsWord_blank (cs : List Char) : endsWord (" ".toList ++ cs) = true := by
  rfl

namespace Modifier

theorem cuts_display {m : Modifier} (whole : m.Whole) (ends : endsWord cs = true)
    (h : Cuts cs ls) : Cuts ('/' :: (m.display.toList ++ cs)) (m.lexemes ++ ls) := by
  obtain ⟨name, comparison, value⟩ := m
  refine .char (.inr (.inr rfl)) ?_
  cases value with
  | none =>
    cases comparison with
    | some c => simp [Whole] at whole
    | none => exact .text _ ends h
  | some value =>
    cases comparison with
    | none => simp [Whole] at whole
    | some c =>
      simp only [display, Option.map_some, Option.getD_some, String.toList_append,
        List.append_assoc]
      exact .text _ (endsWord_sign c _) (.sign c (head_quoteIfNeeded value cs) (.text _ ends h))

theorem displayAll_cons (m : Modifier) (ms : List Modifier) (cs : List Char) :
    (displayAll (m :: ms)).toList ++ cs =
      '/' :: (m.display.toList ++ ((displayAll ms).toList ++ cs)) := by
  simp [displayAll]

theorem endsWord_displayAll (ms : List Modifier) (ends : endsWord cs = true) :
    endsWord ((displayAll ms).toList ++ cs) = true := by
  cases ms with
  | nil => exact ends
  | cons m ms =>
    rw [displayAll_cons]
    rfl

theorem cuts_displayAll {ms : List Modifier} (whole : ∀ m ∈ ms, m.Whole)
    (ends : endsWord cs = true) (h : Cuts cs ls) :
    Cuts ((displayAll ms).toList ++ cs) (ms.flatMap lexemes ++ ls) := by
  induction ms with
  | nil => exact h
  | cons m ms ih =>
    rw [displayAll_cons, List.flatMap_cons, List.append_assoc]
    exact cuts_display (whole m List.mem_cons_self) (endsWord_displayAll ms ends)
      (ih fun m hm => whole m (List.mem_cons_of_mem _ hm))

end Modifier

theorem Relation.cuts_displayName (n : Name) (ends : endsWord cs = true)
    (noSign : cs.head? ≠ some '=' ∧ cs.head? ≠ some '>') (h : Cuts cs ls) :
    Cuts ((displayName n).toList ++ cs) (nameLexeme n :: ls) := by
  unfold displayName nameLexeme
  cases found : Comparison.ofSign? n.fullName with
  | some c =>
    simpa [← Comparison.sign_of_ofSign? found, Comparison.ofSign?_sign] using Cuts.sign c noSign h
  | none =>
    by_cases keyword : (Connective.ofKeyword? n.fullName).isSome
    · simpa [found, keyword] using Cuts.quoted _ h
    · simpa [found, keyword] using Cuts.text _ ends h

theorem SearchClause.cuts_display {c : SearchClause}
    (whole : ∀ m ∈ c.relation.modifiers, m.Whole) (h : Cuts cs ls) :
    Cuts (c.display.toList ++ cs) (c.lexemes ++ ls) := by
  obtain ⟨index, ⟨name, ms⟩, term⟩ := c
  simp only [display, Relation.display, Name.display, Term.display, String.toList_append,
    List.append_assoc, lexemes, List.cons_append, List.nil_append]
  refine .text _ (endsWord_blank _) (.blank (Relation.cuts_displayName _ ?_ ?_ ?_))
  · exact Modifier.endsWord_displayAll ms (endsWord_blank _)
  · cases ms <;> simp [Modifier.displayAll]
  · exact Modifier.cuts_displayAll whole (endsWord_blank _) (.blank (.quoted _ h))

theorem Boolean.cuts_display {b : Boolean} (whole : ∀ m ∈ b.modifiers, m.Whole)
    (ends : endsWord cs = true) (h : Cuts cs ls) :
    Cuts (b.display.toList ++ cs) (b.lexemes ++ ls) := by
  have bare : needsQuotes b.op.keyword = false := by
    cases b.op <;> decide
  rw [display, String.toList_append, List.append_assoc, lexemes, List.cons_append]
  exact .word bare (Modifier.endsWord_displayAll _ ends) (Modifier.cuts_displayAll whole ends h)

theorem cuts_displayDeclaration (entry : String × String) (h : Cuts cs ls) :
    Cuts ((displayDeclaration entry.1 entry.2).toList ++ cs) (declarationLexemes entry ++ ls) := by
  unfold displayDeclaration declarationLexemes
  split
  · rw [String.toList_append, List.append_assoc]
    exact .sign .gt (by simp [toList_quote]) (.quoted _ h)
  · simp only [String.toList_append, List.append_assoc]
    refine .sign .gt (head_quoteIfNeeded _ _) (.text _ (endsWord_sign .eq _) ?_)
    exact .sign .eq (by simp [toList_quote]) (.quoted _ h)

theorem cuts_displayDeclarations (map : PrefixMap) (h : Cuts cs ls) :
    Cuts ((displayDeclarations map).toList ++ cs) (map.lexemes ++ ls) := by
  unfold displayDeclarations PrefixMap.lexemes
  induction map.entries with
  | nil => exact h
  | cons entry entries ih =>
    simp only [List.foldr_cons, String.toList_append, List.append_assoc, List.flatMap_cons]
    exact cuts_displayDeclaration entry (.blank ih)

/-- Canonical text is cut into its lexemes. -/
theorem Node.cuts_toCql {n : Node} (whole : n.Whole) (h : Cuts cs ls) :
    Cuts (n.toCql.toList ++ cs) (n.lexemes ++ ls) := by
  induction n generalizing cs ls with
  | clause p c =>
    simp only [toCql, String.toList_append, List.append_assoc, lexemes]
    exact cuts_displayDeclarations p (SearchClause.cuts_display whole.2 h)
  | triple p b l r ihl ihr =>
    obtain ⟨-, wholeBoolean, wholeLeft, wholeRight⟩ := whole
    have paren : ∀ {cs ls}, Cuts cs ls → Cuts ("(".toList ++ cs) (.leftParen :: ls) :=
      fun h => .char (.inl rfl) h
    have closing : ∀ {cs ls}, Cuts cs ls → Cuts (")".toList ++ cs) (.rightParen :: ls) :=
      fun h => .char (.inr (.inl rfl)) h
    simp only [toCql, String.toList_append, List.append_assoc, lexemes, List.cons_append,
      List.nil_append]
    refine paren (cuts_displayDeclarations p ?_)
    have rest := Cuts.blank
      (Boolean.cuts_display wholeBoolean (endsWord_blank _) (.blank (ihr wholeRight (closing h))))
    rw [show (l.isClause && !l.prefixes.isEmpty) = l.declares from rfl]
    by_cases declared : l.declares
    · simp only [declared, Lexeme.enclose, reduceIte, String.toList_append, List.append_assoc,
        List.cons_append, List.nil_append]
      exact paren (ihl wholeLeft (closing rest))
    · simp only [declared, Lexeme.enclose, Bool.false_eq_true, reduceIte]
      exact ihl wholeLeft rest

end ContextQuery
