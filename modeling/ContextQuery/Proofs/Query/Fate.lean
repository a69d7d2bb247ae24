import ContextQuery.Proofs.Query.Faithful
import ContextQuery.Proofs.Query.Refusal

/-!
# What becomes of canonical text

The reader may stop at any point of a text, for its strings, its names or the nesting limit. So what
can become of a part is said for each end that the reading may come to. Canonical text whose strings
are closed leaves no doubt what is read, as far as the levels last.

## Main definitions

* `Grammar.Fate`: what can become of a part that is read.

## Main results

* `Grammar.fate_group`, `Grammar.fate_operand_clause`, `Grammar.fate_operand_declared`: operands.
* `Grammar.fate_operand_robbed`: an operand whose first declaration a modifier has taken.
* `Grammar.fate_clause_query`: a clause with its declarations in a query of its own.
-/

namespace ContextQuery

namespace Grammar

open Reader

variable {α : Type} {s : Source} {ls : List Lexeme} {ts rest : List Token}

/-! ## What can become of a part -/

/-- A part that opens `needed` queries is read, with `levels` that may be opened, as a node of the
given height, and the tokens after it are in step; or it is refused. It is refused for the nesting
limit only if the levels are too few, and if `exact` holds, it is not read with too few levels. -/
structure Fate (limit levels needed height : Nat) (exact : Prop) (ls : List Lexeme)
    (result : Except Diagnostic (Node × List Token)) : Prop where
  refused : result = .error (Diagnostic.tooDeep limit) → levels < needed
  read : ∀ n rest, result = .ok (n, rest) →
    n.height = height ∧ Agrees ls rest none ∧ (exact → needed ≤ levels)

namespace Fate

variable {limit levels needed height levels' needed' height' : Nat} {exact exact' : Prop}
  {ls' : List Lexeme} {x : Except Diagnostic (Node × List Token)}

theorem pure {n : Node} (same : n.height = height) (agrees : Agrees ls rest none)
    (enough : exact → needed ≤ levels) :
    Fate limit levels needed height exact ls (Pure.pure (n, rest)) where
  refused := nofun
  read := by
    rintro _ _ ⟨⟩
    exact ⟨same, agrees, enough⟩

/-- A step that does not nest comes first. -/
theorem of_shallow {y : Except Diagnostic α} {f : α → Except Diagnostic (Node × List Token)}
    (shallow : Shallow limit y)
    (next : ∀ a, y = .ok a → Fate limit levels needed height exact ls (f a)) :
    Fate limit levels needed height exact ls (y >>= f) := by
  cases y with
  | ok a => exact next a rfl
  | error e =>
    refine ⟨fun same => ?_, nofun⟩
    exact absurd (congrArg Except.error (Except.error.inj same)) shallow

/-- Another part comes first. -/
theorem bind {f : Node × List Token → Except Diagnostic (Node × List Token)}
    (first : Fate limit levels' needed' height' exact' ls' x)
    (more : levels' < needed' → levels < needed)
    (next : ∀ n rest, n.height = height' → Agrees ls' rest none → (exact' → needed' ≤ levels') →
      Fate limit levels needed height exact ls (f (n, rest))) :
    Fate limit levels needed height exact ls (x >>= f) := by
  cases x with
  | ok r =>
    obtain ⟨same, agrees, enough⟩ := first.read r.1 r.2 rfl
    exact next r.1 r.2 same agrees enough
  | error e =>
    refine ⟨fun same => more (first.refused ?_), nofun⟩
    exact congrArg Except.error (Except.error.inj same)

theorem ite {c : Prop} [Decidable c] {y : Except Diagnostic (Node × List Token)}
    (true : c → Fate limit levels needed height exact ls x)
    (false : ¬ c → Fate limit levels needed height exact ls y) :
    Fate limit levels needed height exact ls (if c then x else y) := by
  by_cases h : c
  · rw [if_pos h]
    exact true h
  · rw [if_neg h]
    exact false h

theorem mono (fate : Fate limit levels needed' height exact' ls x) (le : needed' ≤ needed)
    (sharp : exact → exact' ∧ needed ≤ needed') : Fate limit levels needed height exact ls x where
  refused same := Nat.lt_of_lt_of_le (fate.refused same) le
  read n rest same := by
    obtain ⟨height, agrees, enough⟩ := fate.read n rest same
    exact ⟨height, agrees, fun h => (sharp h).2.trans (enough (sharp h).1)⟩

end Fate

/-! ## Parts of canonical text -/

theorem Modifiers.eq_of_no_slash {d : Dialect} {ms : List Modifier} (h : Modifiers d ts ms rest)
    (stop : atKind .slash ts = false) : ts = rest := by
  cases h with
  | done => rfl
  | bare isSlash | valued isSlash => simp [atKind, isSlash] at stop

theorem no_slash_of_declarations (entries : List (String × String)) (c : SearchClause)
    (ls : List Lexeme) :
    (entries.flatMap declarationLexemes ++ (c.lexemes ++ ls)).head?.any (·.kind = .slash) =
      false := by
  cases entries with
  | nil => simp [SearchClause.lexemes, (kind_ofText_ne _).2]
  | cons e entries =>
    obtain ⟨ls', starts⟩ := declarations_start e entries
    simp [starts, Lexeme.sign]

section Parts

variable {levels needed height : Nat} {exact : Prop} {ls' : List Lexeme}
  {inner : List Token → Except Diagnostic (Node × List Token)}

/-- Nothing is joined where a part ends. -/
theorem fate_chain_done {left : Node} (same : left.height = height) (ends : Ends ls)
    (agrees : Agrees ls ts none) (enough : exact → needed ≤ levels) (rounds : Nat) :
    Fate s.dialect.maxDepth levels needed height exact ls (chain s inner rounds left ts) := by
  have stop := atConnective_of_ends ends agrees
  cases rounds with
  | zero => exact .pure same agrees enough
  | succ rounds =>
    refine .of_shallow (shallow_boolean? ts) fun ⟨boolean, ts'⟩ read => ?_
    rw [boolean?_eq_none.2 ⟨stop, rfl⟩] at read
    cases read
    exact .pure same agrees enough

theorem fate_declareAll {n : Node} (same : n.height = height) (agrees : Agrees ls rest none)
    (enough : exact → needed ≤ levels) (map : PrefixMap) :
    Fate s.dialect.maxDepth levels needed height exact ls
      (declareAll s.dialect n map.entries >>= fun n => Pure.pure (n, rest)) := by
  refine .of_shallow (shallow_declareAll _ n _) fun n' declared => ?_
  obtain ⟨-, rfl⟩ := declareAll_eq_ok.1 declared
  exact .pure ((n.height_declareMap map).trans same) agrees enough

theorem declarations_of_no_sign {g : Group} (stop : atSign .gt ts = false) :
    (declarations s g ts : Except Diagnostic _) = .ok (g.map, ts) := by
  cases ts with
  | nil => rfl
  | cons t ts =>
    have other : t.isSign .gt = false := stop
    unfold declarations
    rw [other]
    rfl

/-- An operand that opens with neither a parenthesis nor a declaration is a clause. -/
theorem operand_eq_clause (noGroup : atKind .leftParen ts = false)
    (noDeclaration : atSign .gt ts = false) :
    operand s inner ts = (clause s ts : Except Diagnostic _) := by
  unfold operand
  rw [noGroup, declarations_of_no_sign noDeclaration]
  rfl

theorem fate_operand_clause {c : SearchClause} (canonical : c.Canonical) (closed : Closed c.lexemes)
    (agrees : Agrees (c.lexemes ++ ls) ts none) :
    Fate s.dialect.maxDepth levels 0 0 exact ls (operand s inner ts) := by
  have first : (Lexeme.ofText c.index.fullName).kind ≠ .leftParen := by
    rcases kind_ofText c.index.fullName with kind | kind <;> simp [kind]
  have noGroup : atKind .leftParen ts = false := by
    rw [atKind_of_agrees agrees]
    simp [SearchClause.lexemes, first]
  have noDeclaration : atSign .gt ts = false :=
    atSign_of_agrees (head_clause_lexemes c ls) agrees .gt
  rw [operand_eq_clause noGroup noDeclaration]
  refine ⟨fun same => absurd same (shallow_clause ts), fun n rest read => ?_⟩
  obtain ⟨c', reads, rfl, -⟩ := clause_sound read
  rcases clause_kept canonical agrees reads with ⟨-, -, agrees⟩ | ⟨-, broken⟩
  · exact ⟨rfl, agrees, fun _ => Nat.zero_le _⟩
  · exact absurd closed broken

/-- What stands in parentheses. -/
theorem fate_group (agrees : Agrees (.leftParen :: ls') ts none)
    (inside : ∀ ts, Agrees ls' ts none →
      Fate s.dialect.maxDepth levels needed height exact (.rightParen :: ls) (inner ts)) :
    Fate s.dialect.maxDepth levels needed height exact ls (operand s inner ts) := by
  cases ts with
  | nil => exact absurd agrees Agrees.not_nil
  | cons t ts =>
    obtain ⟨isLeft, agrees⟩ := agrees.head_of_kind (by simp)
    have isLeft : atKind .leftParen (t :: ts) = true := by
      simpa [atKind, Token.lexeme] using congrArg Lexeme.kind isLeft
    refine .ite (fun _ => .of_shallow (shallow_step _) fun _ _ => ?_) fun other =>
      absurd isLeft other
    refine (inside ts agrees).bind id fun n ts same agrees enough => ?_
    cases ts with
    | nil => exact absurd agrees Agrees.not_nil
    | cons u ts =>
      obtain ⟨isRight, agrees⟩ := agrees.head_of_kind (by simp)
      refine .ite (fun _ => .of_shallow (shallow_step _) fun _ _ => .pure same agrees enough)
        fun other => absurd ?_ other
      simpa [Token.lexeme] using congrArg Lexeme.kind isRight

/-- No operand starts with an equals sign before a string. -/
theorem fate_operand_equals {uri : String}
    (agrees : Agrees (.sign .eq :: .quoted uri :: ls') ts none) :
    Fate s.dialect.maxDepth levels needed height exact ls (operand s inner ts) := by
  obtain - | ⟨sign, - | ⟨identifier, ts⟩⟩ := ts
  · exact absurd agrees Agrees.not_nil
  · exact absurd (agrees.head_of_kind (by simp)).2 Agrees.not_nil
  obtain ⟨isSign, agrees⟩ := agrees.head_of_kind (by simp)
  have signKind : sign.kind = .comparison := congrArg Lexeme.kind isSign
  have identifierKind : identifier.kind = .quoted := agrees.head_kind
  have noGroup : atKind .leftParen (sign :: identifier :: ts) = false := by
    simp [atKind, signKind]
  have noDeclaration : atSign .gt (sign :: identifier :: ts) = false := by
    simp [atSign, Token.isSign_of_lexeme isSign]
  rw [operand_eq_clause noGroup noDeclaration]
  refine ⟨fun same => absurd same (shallow_clause _), fun n rest read => ?_⟩
  obtain ⟨c, reads, -, -⟩ := clause_sound read
  cases reads with
  | full isName => simp [Token.isName, signKind] at isName
  | short ends => simp [endsClause, isConnective, identifierKind] at ends

variable (complete : s.unclosed = none)
include complete

/-- Declarations whose strings are closed, whatever follows them. -/
theorem fate_declarations {entries : List (String × String)}
    {f : PrefixMap × List Token → Except Diagnostic (Node × List Token)}
    (closed : Closed (entries.flatMap declarationLexemes))
    (follows : ls'.head?.any (·.kind = .comparison) = false)
    (agrees : Agrees (entries.flatMap declarationLexemes ++ ls') ts none)
    (next : ∀ rest, Agrees ls' rest none →
      Fate s.dialect.maxDepth levels needed height exact ls (f (bindings entries, rest))) :
    Fate s.dialect.maxDepth levels needed height exact ls
      (declarations s .empty ts >>= f) := by
  refine .of_shallow (shallow_declarations .empty ts) fun ⟨map, rest⟩ read => ?_
  obtain ⟨ds, group, -, rfl, -⟩ := group_sound (.inl complete) read
  obtain ⟨rfl, kept⟩ := declarations_kept closed follows agrees group
  exact next rest kept

/-- A clause with declarations that is a query of its own. -/
theorem fate_clause_query {entries : List (String × String)} {c : SearchClause}
    (canonical : c.Canonical) (closedEntries : Closed (entries.flatMap declarationLexemes))
    (closed : Closed c.lexemes) (ends : Ends ls)
    (agrees : Agrees (entries.flatMap declarationLexemes ++ (c.lexemes ++ ls)) ts none) :
    Fate s.dialect.maxDepth levels 1 0 exact ls (query s levels ts) := by
  cases levels with
  | zero => exact ⟨fun _ => Nat.zero_lt_one, nofun⟩
  | succ levels =>
    refine fate_declarations complete closedEntries (head_clause_lexemes c ls) agrees
      fun ts agrees => ?_
    have clause : Fate s.dialect.maxDepth levels 0 0 True ls
        (operand s (query s levels) ts) := fate_operand_clause canonical closed agrees
    refine clause.bind nofun fun n ts same agrees _ => ?_
    have joined : Fate s.dialect.maxDepth levels 0 0 True ls
        (chain s (operand s (query s levels)) ts.length n ts) :=
      fate_chain_done same ends agrees (fun _ => Nat.zero_le _) _
    refine joined.bind nofun fun n ts same agrees _ => ?_
    exact fate_declareAll same agrees (fun _ => Nat.succ_pos levels) _

/-- A clause with declarations that is a right operand. -/
theorem fate_operand_declared {entries : List (String × String)} {c : SearchClause}
    (canonical : c.Canonical) (closedEntries : Closed (entries.flatMap declarationLexemes))
    (closed : Closed c.lexemes) (ends : Ends ls)
    (agrees : Agrees (entries.flatMap declarationLexemes ++ (c.lexemes ++ ls)) ts none) :
    Fate s.dialect.maxDepth levels (if entries.isEmpty then 0 else 1) 0 exact ls
      (operand s (query s levels) ts) := by
  cases entries with
  | nil => exact fate_operand_clause canonical closed agrees
  | cons e entries =>
    obtain ⟨ls', starts⟩ := declarations_start e entries
    have noGroup : ¬ atKind .leftParen ts = true := by
      rw [atKind_of_agrees agrees, starts]
      simp [Lexeme.sign]
    refine .ite (fun isLeft => absurd isLeft noGroup) fun _ => ?_
    refine fate_declarations complete closedEntries (head_clause_lexemes c ls) agrees
      fun ts agrees => ?_
    refine .ite (fun empty => ?_) fun _ => ?_
    · simp [isEmpty_bindings] at empty
    · have alone : Fate s.dialect.maxDepth levels 1 0 exact ls (query s levels ts) :=
        @fate_clause_query _ _ _ _ _ complete [] c canonical closed_nil closed ends agrees
      refine alone.bind id fun n ts same agrees enough => ?_
      exact fate_declareAll same agrees enough _

/-- A right operand after the comparison and the value that a modifier took: the sign and the
identifier of an unnamed declaration are gone, or no clause starts where the equals sign of a named
one stands. -/
theorem fate_operand_robbed {p : PrefixMap} {c : SearchClause} {first second : Token}
    {ms : List Modifier} (canonical : c.Canonical) (declared : p.isEmpty = false)
    (closedMap : Closed p.lexemes) (closed : Closed c.lexemes) (ends : Ends ls)
    (agrees : Agrees (p.lexemes ++ (c.lexemes ++ ls)) (first :: second :: ts) none)
    (mods : Modifiers s.dialect ts ms rest) (inexact : ¬ exact) :
    Fate s.dialect.maxDepth levels 1 0 exact ls (operand s (query s levels) rest) := by
  obtain ⟨e, entries, eq⟩ := List.exists_cons_of_ne_nil (l := p.entries)
    (by simpa [PrefixMap.isEmpty] using declared)
  rw [PrefixMap.lexemes, eq, List.flatMap_cons] at agrees closedMap
  obtain ⟨closedFirst, closedOthers⟩ := closed_append.1 closedMap
  by_cases unnamed : e.1.isEmpty
  · simp only [declarationLexemes, unnamed, reduceIte, List.cons_append, List.nil_append]
      at agrees closedFirst
    obtain ⟨-, agrees⟩ := agrees.head_of_kind (by simp)
    obtain ⟨-, agrees⟩ := agrees.head_of_closed (closed_cons.1 closedFirst).2
    obtain rfl := mods.eq_of_no_slash (by
      rw [atKind_of_agrees agrees]
      exact no_slash_of_declarations entries c ls)
    have others := @fate_operand_declared s ls ts levels exact complete entries c canonical
      closedOthers closed ends agrees
    refine others.mono ?_ fun h => absurd h inexact
    split <;> omega
  · simp only [declarationLexemes, unnamed, Bool.false_eq_true, reduceIte, List.cons_append,
      List.nil_append] at agrees closedFirst
    obtain ⟨-, agrees⟩ := agrees.head_of_kind (by simp)
    obtain ⟨-, agrees⟩ := agrees.head_of_closed
      (closed_cons.1 (closed_cons.1 closedFirst).2).1
    obtain rfl := mods.eq_of_no_slash (by simp [atKind_of_agrees agrees, Lexeme.sign])
    exact fate_operand_equals agrees

end Parts

end Grammar

end ContextQuery
