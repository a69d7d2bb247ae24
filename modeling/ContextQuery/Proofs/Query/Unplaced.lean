import ContextQuery.Proofs.Query.Acceptance
import ContextQuery.Proofs.Token.Joining

/-!
# Where tokens stand

The reader takes no notice of where tokens stand nor of how long the text is, except that the
refusal of a parenthesis left over says where it is. So texts with the same tokens at other places
read alike, up to the details of a refusal.

## Main definitions

* `Reader.unplaced`: what was read, with the places of the tokens left over dropped.
* `Reader.whole`: reads tokens to the end.

## Main results

* `Reader.query_unplaced`: a query from tokens without places.
* `Query.parse_unplaced`: a text from its tokens without places.
-/

namespace ContextQuery

namespace Token

@[simp] theorem isName_unplaced (t : Token) : t.unplaced.isName = t.isName := rfl

@[simp] theorem isSign_unplaced (t : Token) (c : Comparison) :
    t.unplaced.isSign c = t.isSign c := rfl

end Token

namespace Reader

/-- The source of a text without its length. -/
def Source.unplaced (s : Source) : Source :=
  { s with length := 0 }

/-- What was read, and the tokens left over without their places. -/
def unplaced {α : Type} (read : α × List Token) : α × List Token :=
  (read.1, read.2.map Token.unplaced)

@[simp] theorem unplaced_mk {α : Type} (a : α) (ts : List Token) :
    unplaced (a, ts) = (a, ts.map Token.unplaced) := rfl

@[simp] theorem fst_unplaced {α : Type} (read : α × List Token) :
    (unplaced read).1 = read.1 := rfl

@[simp] theorem snd_unplaced {α : Type} (read : α × List Token) :
    (unplaced read).2 = read.2.map Token.unplaced := rfl

variable {s : Source} {ts : List Token}

@[simp] theorem dialect_unplaced : s.unplaced.dialect = s.dialect := rfl

@[simp] theorem map_refuse {α β : Type} {f : α → β} {kind : Diagnostic.Kind} {details : String} :
    f <$> (refuse kind details : Except Diagnostic α) = refuse kind details := rfl

@[simp] theorem map_throw {α β : Type} {f : α → β} {diagnostic : Diagnostic} :
    f <$> (throw diagnostic : Except Diagnostic α) = throw diagnostic := rfl

@[simp] theorem map_ite {α β : Type} {p : Prop} [Decidable p] {f : α → β}
    {x y : Except Diagnostic α} :
    f <$> (if p then x else y) = if p then f <$> x else f <$> y :=
  apply_ite _ _ _ _

@[simp] theorem atKind_unplaced (kind : Token.Kind) (ts : List Token) :
    atKind kind (ts.map Token.unplaced) = atKind kind ts := by
  cases ts <;> rfl

@[simp] theorem atSign_unplaced (c : Comparison) (ts : List Token) :
    atSign c (ts.map Token.unplaced) = atSign c ts := by
  cases ts <;> rfl

@[simp] theorem endsClause_unplaced (ts : List Token) :
    endsClause (ts.map Token.unplaced) = endsClause ts := by
  cases ts <;> rfl

@[simp] theorem pull_nil_unplaced (s : Source) :
    (pull s.unplaced [] : Except Diagnostic Unit) = pull s [] := by
  unfold pull
  cases h : s.unclosed <;> simp [Source.unplaced, h, Journal.note]

@[simp] theorem pull_cons (s : Source) (t : Token) (ts : List Token) :
    (pull s (t :: ts) : Except Diagnostic Unit) = pure () := rfl

@[simp] theorem pull_unplaced (s : Source) (ts : List Token) :
    (pull s.unplaced (ts.map Token.unplaced) : Except Diagnostic Unit) = pull s ts := by
  cases ts <;> simp

@[simp] theorem step_nil (s : Source) : (step s [] : Except Diagnostic Unit) = pull s [] := rfl

@[simp] theorem step_cons (s : Source) (t : Token) (ts : List Token) :
    (step s (t :: ts) : Except Diagnostic Unit) = pull s ts := rfl

@[simp] theorem step_unplaced (s : Source) (ts : List Token) :
    (step s.unplaced (ts.map Token.unplaced) : Except Diagnostic Unit) = step s ts := by
  rw [step, step, ← List.map_tail, pull_unplaced]

@[simp] theorem modifiers_unplaced (s : Source) (ts : List Token) :
    modifiers s.unplaced (ts.map Token.unplaced) =
      unplaced <$> (modifiers s ts : Except Diagnostic _) := by
  induction hn : ts.length using Nat.strong_induction_on generalizing ts with
  | _ _ ih =>
    subst hn
    obtain - | ⟨t, ts⟩ := ts
    · rfl
    by_cases isSlash : t.kind = .slash
    swap
    · unfold modifiers
      simp [isSlash]
    obtain - | ⟨n, ts⟩ := ts
    · simp [modifiers, isSlash]
    by_cases isName : n.isName
    swap
    · simp [modifiers, isSlash, isName]
    by_cases isComparison : atKind .comparison ts
    · obtain - | ⟨c, - | ⟨v, ts⟩⟩ := ts
      · simp [atKind] at isComparison
      · have sign : c.kind = .comparison := by simpa [atKind] using isComparison
        simp [modifiers, isSlash, isName, atKind, sign]
      have sign : c.kind = .comparison := by simpa [atKind] using isComparison
      have same := ih ts.length (by simp; omega) ts rfl
      by_cases isValue : v.isName
      · simp [modifiers, isSlash, isName, atKind, sign, isValue, same]
      · simp [modifiers, isSlash, isName, atKind, sign, isValue]
    · have same := ih ts.length (by simp) ts rfl
      simp [modifiers, isSlash, isName, isComparison, same]

@[simp] theorem bindIdentifier_unplaced (s : Source) (g : Group) (name : String) (t : Token)
    (ts : List Token) :
    (bindIdentifier s.unplaced g name t.unplaced (ts.map Token.unplaced) :
      Except Diagnostic Group) = bindIdentifier s g name t ts := by
  simp [bindIdentifier]

@[simp] theorem declarations_unplaced (s : Source) (g : Group) (ts : List Token) :
    declarations s.unplaced g (ts.map Token.unplaced) =
      unplaced <$> (declarations s g ts : Except Diagnostic _) := by
  induction hn : ts.length using Nat.strong_induction_on generalizing ts g with
  | _ _ ih =>
    subst hn
    obtain - | ⟨opening, ts⟩ := ts
    · rfl
    by_cases opens : opening.isSign .gt
    swap
    · unfold declarations
      simp [opens]
    obtain - | ⟨a, ts⟩ := ts
    · simp [declarations, opens]
    by_cases isSign : atSign .eq ts
    · by_cases isName : a.isName
      swap
      · unfold declarations
        simp [opens, isSign, isName]
      obtain - | ⟨sign, - | ⟨i, ts⟩⟩ := ts
      · simp [atSign] at isSign
      · have sign : sign.isSign .eq := by simpa [atSign] using isSign
        simp [declarations, opens, atSign, sign, isName]
      have sign : sign.isSign .eq := by simpa [atSign] using isSign
      have same (g : Group) := ih ts.length (by simp; omega) g ts rfl
      unfold declarations
      simp [opens, atSign, sign, isName, same]
    · have same (g : Group) := ih ts.length (by simp) g ts rfl
      unfold declarations
      simp [opens, isSign, same]

@[simp] theorem term_unplaced (s : Source) (ts : List Token) :
    term s.unplaced (ts.map Token.unplaced) =
      unplaced <$> (term s ts : Except Diagnostic _) := by
  cases ts <;> simp [term]

@[simp] theorem relation_unplaced (s : Source) (ts : List Token) :
    relation s.unplaced (ts.map Token.unplaced) =
      unplaced <$> (relation s ts : Except Diagnostic _) := by
  cases ts <;> simp [relation]

@[simp] theorem finishClause_unplaced (c : SearchClause) (ts : List Token) :
    finishClause c (ts.map Token.unplaced) =
      unplaced <$> (finishClause c ts : Except Diagnostic _) := rfl

@[simp] theorem explicitClause_unplaced (s : Source) (t : Token) (ts : List Token) :
    explicitClause s.unplaced t.unplaced (ts.map Token.unplaced) =
      unplaced <$> (explicitClause s t ts : Except Diagnostic _) := by
  simp [explicitClause]

@[simp] theorem clause_unplaced (s : Source) (ts : List Token) :
    clause s.unplaced (ts.map Token.unplaced) =
      unplaced <$> (clause s ts : Except Diagnostic _) := by
  cases ts with
  | nil => rfl
  | cons t ts =>
    have term_eq := term_unplaced s (t :: ts)
    rw [List.map_cons] at term_eq
    unfold clause
    simp only [List.map_cons, endsClause_unplaced, atKind_unplaced, term_eq,
      explicitClause_unplaced, map_ite, map_refuse, map_bind, bind_map_left,
      ← finishClause_unplaced]
    rfl

@[simp] theorem closeGroup_unplaced (s : Source) (n : Node) (ts : List Token) :
    closeGroup s.unplaced n (ts.map Token.unplaced) =
      unplaced <$> (closeGroup s n ts : Except Diagnostic _) := by
  cases ts <;> simp [closeGroup]

theorem operand_unplaced {inner inner' : List Token → Except Diagnostic (Node × List Token)}
    (inner_eq : ∀ ts, inner' (ts.map Token.unplaced) = unplaced <$> inner ts) (ts : List Token) :
    operand s.unplaced inner' (ts.map Token.unplaced) = unplaced <$> operand s inner ts := by
  simp [operand, ← List.map_tail, inner_eq]

@[simp] theorem boolean?_unplaced (s : Source) (ts : List Token) :
    boolean? s.unplaced (ts.map Token.unplaced) =
      unplaced <$> (boolean? s ts : Except Diagnostic _) := by
  cases ts with
  | nil => rfl
  | cons t ts =>
    unfold boolean?
    simp only [List.map_cons]
    split <;> simp

theorem chain_unplaced {op op' : List Token → Except Diagnostic (Node × List Token)}
    (op_eq : ∀ ts, op' (ts.map Token.unplaced) = unplaced <$> op ts) (rounds : Nat) (left : Node)
    (ts : List Token) :
    chain s.unplaced op' rounds left (ts.map Token.unplaced) =
      unplaced <$> chain s op rounds left ts := by
  induction rounds generalizing left ts with
  | zero => rfl
  | succ rounds ih =>
    simp only [chain, boolean?_unplaced, bind_map_left, map_bind, fst_unplaced, snd_unplaced]
    refine bind_congr fun found => ?_
    obtain ⟨b, ts⟩ := found
    cases b <;> simp [op_eq, ih]

@[simp] theorem query_unplaced (s : Source) (levels : Nat) (ts : List Token) :
    query s.unplaced levels (ts.map Token.unplaced) =
      unplaced <$> (query s levels ts : Except Diagnostic _) := by
  induction levels generalizing ts with
  | zero => rfl
  | succ levels ih =>
    simp [query, operand_unplaced ih, chain_unplaced (operand_unplaced ih)]

/-- Only the details of a refusal may tell where a token stands. -/
theorem finish_unplaced (d : Dialect) (n : Node) (ts : List Token) :
    (finish d n (ts.map Token.unplaced) : Except Diagnostic Query).mapError (·.kind) =
      (finish d n ts : Except Diagnostic Query).mapError (·.kind) := by
  cases ts with
  | nil => rfl
  | cons t ts =>
    unfold finish
    by_cases right : t.kind = .rightParen
    · simp only [List.map_cons, right, reduceIte]
      rfl
    · simp only [List.map_cons, right, reduceIte]

/-- Reads tokens to the end. -/
def whole (s : Source) (ts : List Token) : Except Diagnostic Query := do
  pull s ts
  pull s ts.tail
  let (root, rest) ← query s s.dialect.maxDepth ts
  finish s.dialect root rest

theorem whole_unplaced (s : Source) (ts : List Token) :
    (whole s.unplaced (ts.map Token.unplaced)).mapError (·.kind) =
      (whole s ts).mapError (·.kind) := by
  unfold whole
  simp only [← List.map_tail, pull_unplaced, dialect_unplaced, query_unplaced, bind_map_left,
    fst_unplaced, snd_unplaced]
  cases (pull s ts : Except Diagnostic Unit) with
  | error => rfl
  | ok =>
    cases (pull s ts.tail : Except Diagnostic Unit) with
    | error => rfl
    | ok =>
      cases (query s s.dialect.maxDepth ts : Except Diagnostic _) with
      | error => rfl
      | ok read => exact finish_unplaced s.dialect read.1 read.2

/-- If two tokens can be pulled, reading to the end is reading a query and nothing more. -/
theorem whole_of_ahead (ahead : Ahead s ts) (nonempty : ts ≠ []) :
    whole s ts = query s s.dialect.maxDepth ts >>= fun (root, rest) =>
      finish s.dialect root rest := by
  obtain ⟨t, ts, rfl⟩ := List.exists_cons_of_ne_nil nonempty
  have first : (pull s (t :: ts) : Except Diagnostic Unit) = .ok () := rfl
  have second : (pull s (t :: ts).tail : Except Diagnostic Unit) = .ok () := step_of_ahead ahead
  rw [whole, bind_of_eq_ok first, bind_of_eq_ok second]

end Reader

namespace Query

open Reader Grammar Token

/-- A text reads like its tokens without their places. -/
theorem parse_unplaced (d : Dialect) (text : String) :
    (parse d text).mapError (·.kind) = (whole ⟨d, 0, (TokenStream.ofText text).unclosed⟩
      ((TokenStream.ofText text).tokens.map Token.unplaced)).mapError (·.kind) :=
  (whole_unplaced ⟨d, (TokenStream.ofText text).length, (TokenStream.ofText text).unclosed⟩
    (TokenStream.ofText text).tokens).symm

variable {d : Dialect} {text : String} {q : Query}

theorem mapError_eq_ok {α : Type} {x : Except Diagnostic α} {a : α} :
    x.mapError (·.kind) = .ok a ↔ x = .ok a := by
  cases x <;> simp [Except.mapError]

theorem parse_of_cutAnywhere {ts : List Token} (cut : CutAnywhere text.toList ts []) :
    (parse d text).mapError (·.kind) = (whole ⟨d, 0, none⟩ ts).mapError (·.kind) := by
  obtain ⟨tokens, isOpen⟩ := TokenStream.ofText_of_cutAnywhere cut (.inl rfl)
  rw [parse_unplaced, tokens, isOpen]
  rfl

/-- A text whose tokens derive a tree, wherever they stand. -/
theorem parse_of_derives {ts : List Token} {n : Node} (cut : CutAnywhere text.toList ts [])
    (derives : Derives d d.maxDepth .query d.maxDepth ts n []) : parse d text = .ok ⟨n, d⟩ := by
  have read := query_of_derives (s := ⟨d, 0, none⟩) rfl derives le_rfl
  have same := parse_of_cutAnywhere (d := d) cut
  rw [whole_of_ahead (.inl rfl) (derives.ne_nil rfl), bind_of_eq_ok read] at same
  exact mapError_eq_ok.1 same

/-- The tokens of a text that is read are read wherever they stand. -/
theorem query_of_parse (parsed : parse d text = .ok q) :
    (query ⟨d, 0, none⟩ d.maxDepth ((TokenStream.ofText text).tokens.map Token.unplaced) :
      Except Diagnostic _) = .ok (q.root, []) := by
  obtain ⟨-, -, derives⟩ := parse_eq_ok_iff.1 parsed
  have read := query_of_derives (s := ⟨d, 0, none⟩) rfl derives le_rfl
  have read' := query_unplaced ⟨d, 0, none⟩ d.maxDepth (TokenStream.ofText text).tokens
  rw [read] at read'
  exact read'

/-- The tokens of a text that is read derive its tree wherever they stand, with as many levels as
there are tokens. -/
theorem derives_unplaced (parsed : parse d text = .ok q) {levels : Nat}
    (enough : (TokenStream.ofText text).tokens.length ≤ levels) :
    Derives d d.maxDepth .query levels ((TokenStream.ofText text).tokens.map Token.unplaced)
      q.root [] := by
  have read := query_of_parse parsed
  obtain ⟨unplaced, -⟩ := query_sound (s := ⟨d, 0, none⟩) d.maxDepth (.inl rfl) read
  have low : (q.root.height : ℕ∞) ≤ d.maxDepth := unplaced.height_le_limit nofun
  exact unplaced.bounded (Nat.cast_le.1 low) (by simpa [Part.slack] using enough)

end Query

end ContextQuery
