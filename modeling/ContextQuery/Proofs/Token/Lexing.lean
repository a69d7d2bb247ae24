import ContextQuery.Proofs.Token.Shape

/-!
# How texts are cut

Two views of the lexer. From the tokens: each token that is cut has the shape of its class. From
the text: a text that is written as a sequence of lexemes, with blanks where two of them would run
together, is cut into these lexemes. A lexeme in quotes may fail to be `Quotable`; then the string
is closed elsewhere, and nothing is known of the tokens after it.

## Main definitions

* `Token.Genuine`: a token has the shape that the lexer gives to its class.
* `Lexeme`: a token without its position.
* `Closed`: the strings in quotes among some lexemes are `Quotable`.
* `Cuts`: a text is cut into lexemes, as far as they are closed where they were meant to be.
-/

namespace ContextQuery

/-! ## The shape of tokens -/

/-- The token has the shape of its class. -/
structure Token.Genuine (t : Token) : Prop where
  quoted : t.kind = .quoted → ∃ inside, Escaped inside ∧ t.text.toList = '"' :: inside ++ ['"']
  word : t.kind = .word → t.text.toList.head? ≠ some '"'
  comparison : t.kind = .comparison → (Comparison.ofSign? t.text).isSome

theorem Token.Shape.genuine {kind : Token.Kind} {cs after : List Char}
    (h : Token.Shape kind cs after) (position : Nat) :
    Token.Genuine ⟨kind, String.ofList cs, position⟩ := by
  cases h with
  | word starts =>
    refine ⟨nofun, fun _ => ?_, nofun⟩
    rw [String.toList_ofList, List.head?_cons, ne_eq, Option.some.injEq]
    rintro rfl
    simp [isWordChar_quote] at starts
  | quoted escaped => exact ⟨fun _ => ⟨_, escaped, String.toList_ofList⟩, nofun, nofun⟩
  | @comparison s =>
    refine ⟨nofun, nofun, fun _ => ?_⟩
    rw [String.ofList_toList, Comparison.ofSign?_sign]
    rfl
  | leftParen | rightParen | slash | other => exact ⟨nofun, nofun, nofun⟩

/-- Each token that is cut has the shape of its class where it stands. -/
theorem TokenStream.shape_of_mem_scan {position : Nat} {cs : List Char} {t : Token}
    (h : t ∈ (scan position cs).tokens) :
    ∃ text after, Token.Shape t.kind text after ∧ t.text = String.ofList text := by
  fun_induction scan position cs with
  | case1 => simp at h
  | case2 _ _ _ _ ih => exact ih h
  | case3 => simp at h
  | case4 _ _ _ visible _ _ _ first ih =>
    rcases List.mem_cons.1 h with rfl | h
    · exact ⟨_, _, Token.shape_of_first (by simpa using visible) first, rfl⟩
    · exact ih h

theorem TokenStream.genuine_of_mem_scan {position : Nat} {cs : List Char} {t : Token}
    (h : t ∈ (scan position cs).tokens) : t.Genuine := by
  obtain ⟨text, after, shape, eq⟩ := shape_of_mem_scan h
  obtain ⟨kind, _, position⟩ := t
  obtain rfl := eq
  exact shape.genuine position

/-- A token is not empty. -/
theorem TokenStream.text_ne_empty_of_mem_scan {position : Nat} {cs : List Char} {t : Token}
    (h : t ∈ (scan position cs).tokens) : t.text ≠ "" := by
  obtain ⟨text, after, shape, eq⟩ := shape_of_mem_scan h
  obtain ⟨c, body, rfl, -⟩ := shape.first
  simp [eq]

/-! ## Texts written as lexemes -/

/-- A token without its position. -/
structure Lexeme where
  kind : Token.Kind
  text : String
  deriving DecidableEq

/-- The token without its position. -/
def Token.lexeme (t : Token) : Lexeme :=
  ⟨t.kind, t.text⟩

namespace Lexeme

/-- The text in quotes. -/
def quoted (s : String) : Lexeme :=
  ⟨.quoted, quote s⟩

/-- The text, in quotes if it needs them. -/
def ofText (s : String) : Lexeme :=
  if needsQuotes s then quoted s else ⟨.word, s⟩

/-- A relational sign. -/
def sign (c : Comparison) : Lexeme :=
  ⟨.comparison, c.sign⟩

def slash : Lexeme := ⟨.slash, "/"⟩

def leftParen : Lexeme := ⟨.leftParen, "("⟩

def rightParen : Lexeme := ⟨.rightParen, ")"⟩

theorem quoted_inj {s s' : String} (h : quoted s = .quoted s') : s = s' := by
  rw [← unquote_quote s, ← unquote_quote s']
  exact congrArg unquote (congrArg Lexeme.text h)

theorem eq_of_quoted_eq_ofText {s s' : String} (h : quoted s = .ofText s') :
    s = s' := by
  unfold ofText at h
  split at h
  · exact quoted_inj h
  · simp [quoted] at h

@[simp] theorem kind_quoted (s : String) : (quoted s).kind = .quoted := rfl

@[simp] theorem kind_sign (c : Comparison) : (sign c).kind = .comparison := rfl

@[simp] theorem kind_slash : slash.kind = .slash := rfl

@[simp] theorem kind_leftParen : leftParen.kind = .leftParen := rfl

@[simp] theorem kind_rightParen : rightParen.kind = .rightParen := rfl

end Lexeme

/-- All strings in quotes are closed where they should be. -/
def Closed (ls : List Lexeme) : Prop :=
  ∀ s, .quoted s ∈ ls → Quotable s.toList

@[simp] theorem closed_nil : Closed [] := by
  simp [Closed]

@[simp] theorem closed_append {ls ls' : List Lexeme} :
    Closed (ls ++ ls') ↔ Closed ls ∧ Closed ls' := by
  simp only [Closed, List.mem_append]
  grind

theorem closed_cons {l : Lexeme} {ls : List Lexeme} :
    Closed (l :: ls) ↔ Closed [l] ∧ Closed ls := by
  rw [← closed_append, List.singleton_append]

theorem closed_of_kind {l : Lexeme} (h : l.kind ≠ .quoted) : Closed [l] := by
  intro s mem
  rw [← List.mem_singleton.1 mem] at h
  exact absurd rfl h

theorem closed_slash : Closed [.slash] :=
  closed_of_kind (by simp)

theorem closed_sign (c : Comparison) : Closed [.sign c] :=
  closed_of_kind (by simp)

@[simp] theorem closed_leftParen : Closed [.leftParen] :=
  closed_of_kind (by simp)

@[simp] theorem closed_rightParen : Closed [.rightParen] :=
  closed_of_kind (by simp)

theorem closed_quoted {s : String} : Closed [.quoted s] ↔ Quotable s.toList := by
  refine ⟨fun h => h s List.mem_cons_self, fun h s' mem => ?_⟩
  rwa [Lexeme.quoted_inj (List.mem_singleton.1 mem)]

theorem closed_ofText {s : String} (h : Quotable s.toList) : Closed [.ofText s] := by
  unfold Lexeme.ofText
  split
  · exact closed_quoted.2 h
  · exact closed_of_kind (by simp)

theorem closed_flatMap {α : Type} {xs : List α} {f : α → List Lexeme} :
    Closed (xs.flatMap f) ↔ ∀ x ∈ xs, Closed (f x) := by
  induction xs with
  | nil => simp
  | cons x xs ih => simp [ih]

instance : DecidablePred Closed := fun ls =>
  decidable_of_iff (∀ l ∈ ls, l = .quoted (unquote l.text) → Quotable (unquote l.text).toList) <| by
    refine ⟨fun h s mem => ?_, fun h l mem eq => h _ (eq ▸ mem)⟩
    have text : unquote (Lexeme.quoted s).text = s := unquote_quote s
    simpa only [text] using h _ mem (by rw [text])

/-- The tokens are the lexemes, at least up to the first one in quotes that is not `Quotable`. There
another string is cut, or none is closed. -/
inductive Agrees : List Lexeme → List Token → Option String → Prop where
  | nil : Agrees [] [] none
  | cons {t : Token} {ls : List Lexeme} {ts : List Token} {open? : Option String}
      (genuine : t.Genuine) (rest : Agrees ls ts open?) : Agrees (t.lexeme :: ls) (t :: ts) open?
  | astray {s : String} {t : Token} {ls : List Lexeme} {ts : List Token} {open? : Option String}
      (broken : ¬Quotable s.toList) (genuine : t.Genuine) (isQuoted : t.kind = .quoted) :
      Agrees (.quoted s :: ls) (t :: ts) open?
  | unclosed {s text : String} {ls : List Lexeme} (broken : ¬Quotable s.toList) :
      Agrees (.quoted s :: ls) [] (some text)

/-- The text is cut into the lexemes wherever it starts, as far as they are `Quotable`. -/
def Cuts (cs : List Char) (ls : List Lexeme) : Prop :=
  ∀ position, Agrees ls (TokenStream.scan position cs).tokens
    (TokenStream.scan position cs).unclosed

namespace Cuts

variable {cs : List Char} {ls : List Lexeme}

theorem nil : Cuts [] [] := by
  intro position
  rw [TokenStream.scan]
  exact .nil

theorem blank (h : Cuts cs ls) : Cuts (" ".toList ++ cs) ls := by
  intro position
  rw [show " ".toList ++ cs = ' ' :: cs from rfl, TokenStream.scan, if_pos (by decide)]
  exact h _

theorem shape {kind : Token.Kind} {text : List Char} (shape : Token.Shape kind text cs)
    (h : Cuts cs ls) : Cuts (text ++ cs) (⟨kind, String.ofList text⟩ :: ls) := by
  intro position
  obtain ⟨c, body, rfl, visible, first⟩ := shape.first
  rw [List.cons_append, TokenStream.scan, if_neg (by simp [visible])]
  split
  · rename_i none
    simp [first] at none
  · rename_i some
    rw [first] at some
    simp only [Option.some.injEq, Prod.mk.injEq] at some
    obtain ⟨rfl, rfl, rfl⟩ := some
    exact Agrees.cons (t := ⟨kind, _, position⟩) (shape.genuine _) (h _)

/-- A single character that is a token on its own. -/
theorem char {c : Char} (mark : c = '(' ∨ c = ')' ∨ c = '/') (h : Cuts cs ls) :
    Cuts (c :: cs) (⟨.ofChar c, String.ofList [c]⟩ :: ls) := by
  rcases mark with rfl | rfl | rfl
  · exact shape .leftParen h
  · exact shape .rightParen h
  · exact shape .slash h

theorem sign (c : Comparison) (ends : cs.head? ≠ some '=' ∧ cs.head? ≠ some '>')
    (h : Cuts cs ls) : Cuts (c.sign.toList ++ cs) (.sign c :: ls) := by
  have whole := shape (Token.shape_sign c ends) h
  rwa [String.ofList_toList] at whole

theorem quoted (s : String) (h : Cuts cs ls) : Cuts ((quote s).toList ++ cs) (.quoted s :: ls) := by
  rw [toList_quote]
  by_cases quotable : Quotable s.toList
  · exact shape (.quoted quotable) h
  · intro position
    rw [List.cons_append, List.cons_append, TokenStream.scan, if_neg (by decide)]
    split
    · exact .unclosed quotable
    · rename_i kind body after first
      have genuine := (Token.shape_of_first (by decide) first).genuine position
      simp only [Token.first, reduceIte, Option.map_eq_some_iff, Prod.mk.injEq] at first
      obtain ⟨_, _, rfl, -, -⟩ := first
      exact .astray quotable genuine rfl

theorem word {s : String} (bare : needsQuotes s = false) (ends : endsWord cs = true)
    (h : Cuts cs ls) : Cuts (s.toList ++ cs) (⟨.word, s⟩ :: ls) := by
  simp only [needsQuotes, Bool.or_eq_false_iff, Bool.not_eq_false', List.all_eq_true] at bare
  obtain ⟨c, body, eq⟩ := List.exists_cons_of_ne_nil (l := s.toList) (by simpa using bare.1)
  rw [eq] at bare
  have starts : isWordChar c = true := bare.2 c List.mem_cons_self
  have continues : ∀ d ∈ body, continuesWord d = true := fun d hd => by
    simp [continuesWord, bare.2 d (List.mem_cons_of_mem _ hd)]
  have whole := shape (.word starts continues ends) h
  rwa [← eq, String.ofList_toList] at whole

/-- A text in quotes if it needs them. -/
theorem text (s : String) (ends : endsWord cs = true) (h : Cuts cs ls) :
    Cuts ((quoteIfNeeded s).toList ++ cs) (.ofText s :: ls) := by
  unfold quoteIfNeeded Lexeme.ofText
  split
  · exact quoted s h
  · rename_i bare
    exact word (by simpa using bare) ends h

end Cuts

end ContextQuery
