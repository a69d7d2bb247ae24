import ContextQuery.Proofs.Query.Forest
import ContextQuery.Proofs.Query.Unplaced

/-!
# Parentheses around the first operand

Connectives have one rank and group to the left, so parentheses around the front of a query change
nothing if a connective or nothing follows them. The reader comes to the end of the front with the
same node, once in a query of its own and once in the query that goes on; what is left over is read
alike, refusals included. Only declarations make a difference: they belong to all that is joined
after them unless parentheses close their scope.

## Main results

* `Reader.query_enclosed`, `Reader.query_continued`: the front of a query with parentheses around
  it and without.
* `Query.grouping_redundant`: two texts that differ in these parentheses.
-/

namespace ContextQuery

namespace Reader

open Grammar

variable {s : Source} {ts after : List Token}

/-- A query that opens with no declarations is what is joined to its first operand. -/
theorem query_of_plain_operand {levels : Nat} {first : Node} {rest : List Token}
    (ahead : Ahead s ts) (stop : atSign .gt ts = false)
    (first_read : operand s (query s levels) ts = arrive s first rest) :
    query s (levels + 1) ts = resume s levels first rest := by
  rw [query_of_operand ahead (.done stop) (by simp [Distinct]) first_read]
  exact bind_pure _

/-- A query in parentheses at the front of another one. -/
theorem query_enclosed {levels : Nat} {t u : Token} {n : Node} (isLeft : t.kind = .leftParen)
    (isRight : u.kind = .rightParen) (room : Ahead s (u :: after))
    (h : Derives s.dialect s.dialect.maxDepth .query levels ts n []) :
    query s (levels + 1) (t :: (ts ++ u :: after)) = resume s levels n after := by
  have roomy (more : List Token) : Ahead s (more ++ u :: after) :=
    room.mono (List.suffix_append more _)
  have inner_read := arrives_of_derives h le_rfl (closes_rightParen isRight after)
    (fun t => roomy [t]) (.inl (by simp [atConnective, isConnective, isRight]))
  refine query_of_plain_operand (roomy (t :: ts)) (by simp [atSign, Token.isSign, isLeft]) ?_
  exact operand_enclosed isLeft isRight (roomy ts) room inner_read

/-- A query that something may be joined to behind it. -/
theorem query_continued {levels : Nat} {opens : ℕ∞} {n : Node} (closes : Closes after)
    (room : ∀ t, Ahead s (t :: after)) (apart : atConnective after = false ∨ n.undeclared = true)
    (h : Derives s.dialect s.dialect.maxDepth .query opens ts n []) (enough : opens ≤ levels + 1) :
    query s (levels + 1) (ts ++ after) = resume s levels n after := by
  obtain stop | undeclared := apart
  · rw [resume_stop stop]
    exact arrives_of_derives h (by exact_mod_cast enough) closes room (.inl stop)
  -- Before a connective the query is not at its end, but all its operands have been read.
  cases h with
  | @query _ inner _ _ ts' _ ds first n open_le group distinct operand more declarable =>
    rw [Node.undeclared_declareMap, Bool.and_eq_true, isEmpty_bindings, List.isEmpty_iff]
      at undeclared
    obtain ⟨undeclared, rfl⟩ := undeclared
    cases group with
    | done stop =>
      have enough : inner ≤ levels := by
        simpa using open_le.trans enough
      have first_read := arrives_of_derives operand enough closes room
        (.inr (.inr ⟨nofun, more.undeclared_left undeclared⟩))
      have more_read := arrives_of_derives more enough closes room
        (.inr (.inr ⟨nofun, undeclared⟩))
      have ahead : Ahead s (ts ++ after) := ahead_append room (operand.ne_nil rfl)
      rw [query_of_plain_operand ahead (atSign_append stop (closes.atSign _)) first_read]
      exact more_read

/-- With a level left for the parentheses, a front with them reads like the front without. -/
theorem whole_enclosed {levels : Nat} {t u : Token} {n : Node}
    (depth : s.dialect.maxDepth = levels + 1) (isLeft : t.kind = .leftParen)
    (isRight : u.kind = .rightParen) (closes : Closes after) (room : ∀ t, Ahead s (t :: after))
    (apart : atConnective after = false ∨ n.undeclared = true)
    (h : Derives s.dialect s.dialect.maxDepth .query levels ts n []) :
    whole s (t :: (ts ++ u :: after)) = whole s (ts ++ after) := by
  have nonempty : ts ≠ [] := h.ne_nil rfl
  have ahead : Ahead s (ts ++ after) := ahead_append room nonempty
  have ahead' : Ahead s (t :: (ts ++ u :: after)) := (room u).mono (List.suffix_append (t :: ts) _)
  rw [whole_of_ahead ahead' (List.cons_ne_nil _ _), whole_of_ahead ahead (by simp [nonempty]),
    depth, query_enclosed isLeft isRight (room u) h,
    query_continued closes room apart h (by simp)]

end Reader

namespace Query

open Reader Grammar

variable {d : Dialect} {q r : String} {query : Query}

theorem whole_front (parsed : parse d q = .ok query)
    (follows : r = "" ∨
      query.root.undeclared = true ∧ atConnective (TokenStream.ofText r).tokens = true)
    (fits : (TokenStream.ofText q).tokens.length < d.maxDepth) :
    let front := (TokenStream.ofText q).tokens.map Token.unplaced
    let after := (TokenStream.ofText r).tokens.map Token.unplaced
    let s : Source := ⟨d, 0, (TokenStream.ofText r).unclosed⟩
    whole s (⟨.leftParen, "(", 0⟩ :: (front ++ ⟨.rightParen, ")", 0⟩ :: after)) =
      whole s (front ++ after) := by
  obtain ⟨levels, depth⟩ : ∃ levels, d.maxDepth = levels + 1 := ⟨d.maxDepth - 1, by omega⟩
  have derives := derives_unplaced parsed (Nat.lt_add_one_iff.1 (depth ▸ fits))
  dsimp only
  obtain rfl | ⟨undeclared, connective⟩ := follows
  · have nothing : TokenStream.ofText "" = ⟨[], 0, none⟩ := by decide +kernel
    rw [nothing]
    exact whole_enclosed depth rfl rfl closes_nil (fun _ => .inl rfl) (.inl rfl) derives
  · have connective' : atConnective ((TokenStream.ofText r).tokens.map Token.unplaced) = true := by
      rw [← connective]
      cases (TokenStream.ofText r).tokens <;> rfl
    have nonempty : (TokenStream.ofText r).tokens.map Token.unplaced ≠ [] := by
      rintro none
      simp [none, atConnective] at connective'
    exact whole_enclosed depth rfl rfl (closes_of_atConnective connective')
      (fun _ => .inr nonempty) (.inr undeclared) derives

/-- Parentheses around the front of a text change nothing if nothing stands behind them, or a
connective and the front declares no prefixes: both texts are refused with the same kind, or read
as the same tree, and so with the same arena. The text is no longer than the nesting limit. -/
theorem grouping_redundant (parsed : parse d q = .ok query)
    (follows : r = "" ∨
      query.root.undeclared = true ∧ atConnective (TokenStream.ofText r).tokens = true)
    (fits : ("(" ++ q ++ ") " ++ r).utf8ByteSize ≤ d.maxDepth) :
    (parse d ("(" ++ q ++ ") " ++ r)).mapError (·.kind) =
        (parse d (q ++ " " ++ r)).mapError (·.kind) ∧
      (arena d ("(" ++ q ++ ") " ++ r)).mapError (·.kind) =
        (arena d (q ++ " " ++ r)).mapError (·.kind) := by
  obtain ⟨-, closed, -⟩ := parse_eq_ok_iff.1 parsed
  obtain ⟨tokens, isOpen⟩ := TokenStream.ofText_enclosed closed r
  obtain ⟨tokens', isOpen'⟩ := TokenStream.ofText_spaced closed r
  have short : (TokenStream.ofText q).tokens.length < d.maxDepth := by
    have := TokenStream.length_tokens_ofText_le q
    have : "(".utf8ByteSize = 1 := rfl
    simp only [String.utf8ByteSize_append] at fits
    omega
  have same : (parse d ("(" ++ q ++ ") " ++ r)).mapError (·.kind) =
      (parse d (q ++ " " ++ r)).mapError (·.kind) := by
    rw [parse_unplaced, parse_unplaced, tokens, tokens', isOpen, isOpen',
      whole_front parsed follows short]
  have mapped (x : Except Diagnostic Query) :
      (x.map (·.root.arena)).mapError (·.kind) = (x.mapError (·.kind)).map (·.root.arena) := by
    cases x <;> rfl
  refine ⟨same, ?_⟩
  rw [arena_eq, arena_eq, mapped, mapped, same]

/-- Parentheses around the first triple change neither the tree of a longer chain nor the refusal of
a string that is left open behind it. Declarations may stand in them if nothing follows. -/
theorem grouping_redundant_or :
    (∃ query, parse {} "a or b" = .ok query ∧ query.root.undeclared = true ∧
      (parse {} ("(" ++ "a or b" ++ ") " ++ "and c")).mapError (·.kind) =
        (parse {} ("a or b" ++ " " ++ "and c")).mapError (·.kind) ∧
      (parse {} ("(" ++ "a or b" ++ ") " ++ "and \"c")).mapError (·.kind) = .error .quote) ∧
    (parse {} ("(" ++ "> p = u a" ++ ") " ++ "")).mapError (·.kind) =
      (parse {} ("> p = u a" ++ " " ++ "")).mapError (·.kind) := by
  let plain (term : String) : Node := .clause .empty (.serverChoice {} ⟨term⟩)
  have parsed : parse {} "a or b" = .ok ⟨.triple .empty ⟨.or, []⟩ (plain "a") (plain "b"), {}⟩ := by
    decide +kernel
  have declared : parse {} "> p = u a" = .ok ⟨(plain "a").declare "p" "u", {}⟩ := by
    decide +kernel
  refine ⟨⟨_, parsed, rfl, ?_, ?_⟩, ?_⟩
  · exact (grouping_redundant parsed (.inr ⟨rfl, by decide +kernel⟩) (by decide)).1
  · exact (grouping_redundant parsed (.inr ⟨rfl, by decide +kernel⟩) (by decide)).1.trans
      (by decide +kernel)
  · exact (grouping_redundant declared (.inl rfl) (by decide)).1

/-- Before a connective, declarations in parentheses keep to them. -/
example : parse {} "(> p = u a) or b" ≠ parse {} "> p = u a or b" := by
  decide +kernel

end Query

end ContextQuery
