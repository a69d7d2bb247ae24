import ContextQuery.Proofs.Quoting

/-!
# The shape of tokens

What the tokens of each class look like, and what may follow them so that they are no longer. The
lexer takes the first characters of a text as a token just if they have the shape of its class, and
takes none from a string that is not closed.

## Main definitions

* `Token.Shape`: some characters are a token of a class if others follow them.
* `Token.Unclosed`: a string is opened and not closed.

## Main results

* `Token.first_eq_some_iff`, `Token.first_eq_none_iff`: the first token of a text.
-/

namespace ContextQuery

/-! ## Classes of characters -/

theorem isWordChar_of_mark : ∀ c ∈ ['"', '<', '>', '=', '/', '(', ')', ' '],
    isWordChar c = false ∧ Text.isBlank c = decide (c = ' ') := by
  decide +kernel

theorem isBlank_of_isWordChar {c : Char} (h : isWordChar c = true) : Text.isBlank c = false := by
  by_cases ascii : c.toNat < 0x80
  · have table : ∀ n < 0x80, isWordChar (Char.ofNat n) = true →
        Text.isBlank (Char.ofNat n) = false := by
      decide +kernel
    simpa [h] using table c.toNat ascii
  · -- Beyond ASCII both classes are tables, and no range of one meets a range of the other.
    have apart : (Text.blankRanges.all fun r => Text.alphanumericRanges.all fun s =>
        Nat.blt r.2 s.1 || Nat.blt s.2 r.1) = true := by
      decide +kernel
    have punctuation : ∀ p ∈ wordPunctuation, p.toNat < 0x80 := by decide
    have letter : Text.alphanumericRanges.contains c = true := by
      simp only [isWordChar, Text.isAlphanumeric, ascii, reduceIte, Bool.or_eq_true] at h
      exact h.resolve_right fun mem => ascii (punctuation c (by simpa using mem))
    refine Bool.eq_false_iff.2 fun blank => ?_
    simp only [Text.isBlank, ascii, reduceIte, Text.Ranges.contains, List.any_eq_true,
      Bool.and_eq_true, decide_eq_true_eq] at blank letter
    obtain ⟨r, hr, from_r, to_r⟩ := blank
    obtain ⟨s, hs, from_s, to_s⟩ := letter
    have apart := List.all_eq_true.1 (List.all_eq_true.1 apart r hr) s hs
    simp only [Bool.or_eq_true, Nat.blt_eq] at apart
    omega

/-- The character at the front, if there is one, ends a word. -/
def endsWord (cs : List Char) : Bool :=
  cs.head?.all fun c => !continuesWord c

theorem takeWhile_continuesWord {body after : List Char}
    (continues : ∀ e ∈ body, continuesWord e = true) (ends : endsWord after = true) :
    (body ++ after).takeWhile continuesWord = body ∧
      (body ++ after).dropWhile continuesWord = after := by
  rw [List.takeWhile_append_of_pos continues, List.dropWhile_append_of_pos continues]
  cases after with
  | nil => simp
  | cons e after =>
    have stop : continuesWord e = false := by simpa [endsWord] using ends
    simp [stop]

theorem endsWord_dropWhile (cs : List Char) : endsWord (cs.dropWhile continuesWord) = true := by
  unfold endsWord
  cases dropped : cs.dropWhile continuesWord with
  | nil => rfl
  | cons e after =>
    have stop := List.head_dropWhile_not (l := cs) continuesWord (by simp [dropped])
    simpa [dropped] using stop

/-! ## Signs -/

theorem extendsSign_iff {c next : Char} :
    extendsSign c next = true ↔ ∃ s : Comparison, s.sign.toList = [c, next] := by
  constructor
  · intro h
    simp only [extendsSign, Bool.or_eq_true, Bool.and_eq_true, decide_eq_true_eq] at h
    rcases h with ⟨rfl, rfl | rfl⟩ | ⟨rfl, rfl⟩
    · exact ⟨.le, rfl⟩
    · exact ⟨.ne, rfl⟩
    · exact ⟨.ge, rfl⟩
  · rintro ⟨s, eq⟩
    cases s <;> simp_all [Comparison.sign, extendsSign, eq_comm]

/-- A sign is written with one character or with two. -/
theorem Comparison.sign_cases (s : Comparison) :
    (∃ c, (c = '=' ∨ c = '<' ∨ c = '>') ∧ s.sign.toList = [c]) ∨
      ∃ c next, (c = '<' ∨ c = '>') ∧ s.sign.toList = [c, next] := by
  cases s with
  | eq => exact .inl ⟨'=', by simp, rfl⟩
  | gt => exact .inl ⟨'>', by simp, rfl⟩
  | lt => exact .inl ⟨'<', by simp, rfl⟩
  | ge => exact .inr ⟨'>', '=', by simp, rfl⟩
  | le => exact .inr ⟨'<', '=', by simp, rfl⟩
  | ne => exact .inr ⟨'<', '>', by simp, rfl⟩

namespace Token

/-! ## Shapes -/

/-- The characters are a token of the class if the others follow them. -/
inductive Shape : Kind → List Char → List Char → Prop where
  | word {c : Char} {body after : List Char} (starts : isWordChar c = true)
      (continues : ∀ e ∈ body, continuesWord e = true) (ends : endsWord after = true) :
      Shape .word (c :: body) after
  | quoted {inside after : List Char} (escaped : Escaped inside) :
      Shape .quoted ('"' :: inside ++ ['"']) after
  | comparison {s : Comparison} {after : List Char}
      (longest : ∀ s' : Comparison, s'.sign.toList <+: s.sign.toList ++ after →
        s'.sign.toList.length ≤ s.sign.toList.length) : Shape .comparison s.sign.toList after
  | leftParen {after : List Char} : Shape .leftParen ['('] after
  | rightParen {after : List Char} : Shape .rightParen [')'] after
  | slash {after : List Char} : Shape .slash ['/'] after
  | other {c : Char} {after : List Char} (visible : Text.isBlank c = false)
      (noWord : isWordChar c = false) (unmarked : c ∉ ['"', '=', '<', '>', '(', ')', '/']) :
      Shape .other [c] after

/-- A string is opened and not closed. -/
def Unclosed (cs : List Char) : Prop :=
  cs.head? = some '"' ∧ ∀ text after, cs = text ++ after → ¬Shape .quoted text after

/-- A sign of two characters is long enough whatever follows it. -/
theorem Shape.pair {c next : Char} (extends' : extendsSign c next = true) (after : List Char) :
    Shape .comparison [c, next] after := by
  obtain ⟨s, eq⟩ := extendsSign_iff.1 extends'
  rw [← eq]
  refine .comparison fun s' _ => ?_
  rw [eq]
  rcases s'.sign_cases with ⟨_, _, eq'⟩ | ⟨_, _, _, eq'⟩ <;> simp [eq']

/-- A sign of one character is long enough if the next one makes no other sign with it. -/
theorem shape_single_iff {s : Comparison} {c : Char} {after : List Char}
    (single : s.sign.toList = [c]) : Shape .comparison [c] after ↔
      ∀ next ∈ after.head?, extendsSign c next = false := by
  constructor
  · rintro shape next isNext
    generalize eq : [c] = cs at shape
    cases shape with
    | @comparison s' _ longest =>
      refine Bool.eq_false_iff.2 fun extends' => ?_
      obtain ⟨s'', eq''⟩ := extendsSign_iff.1 extends'
      obtain ⟨after, rfl⟩ := List.head?_eq_some_iff.1 isNext
      have longer := longest s'' (by simp [← eq, eq''])
      simp [← eq, eq''] at longer
  · intro stop
    rw [← single]
    refine .comparison fun s' isPrefix => ?_
    rw [single] at isPrefix ⊢
    rcases s'.sign_cases with ⟨_, _, eq⟩ | ⟨a, b, _, eq⟩
    · simp [eq]
    · rw [eq, List.singleton_append, List.cons_prefix_cons] at isPrefix
      obtain ⟨rfl, after', rfl⟩ := isPrefix
      have extends' := extendsSign_iff.2 ⟨s', eq⟩
      simp [stop b rfl] at extends'

/-- A sign is long enough before anything but the two characters that make signs longer. -/
theorem shape_sign (s : Comparison) {after : List Char}
    (ends : after.head? ≠ some '=' ∧ after.head? ≠ some '>') :
    Shape .comparison s.sign.toList after := by
  rcases s.sign_cases with ⟨c, _, eq⟩ | ⟨c, next, _, eq⟩ <;> rw [eq]
  · refine (shape_single_iff eq).2 fun next isNext => ?_
    have noEq : next ≠ '=' := by
      rintro rfl
      exact ends.1 isNext
    have noGt : next ≠ '>' := by
      rintro rfl
      exact ends.2 isNext
    simp [extendsSign, noEq, noGt]
  · exact .pair (extendsSign_iff.2 ⟨s, eq⟩) after

/-! ## The first token -/

theorem first_sign {s : Comparison} {c : Char} {body after : List Char}
    (sign : s.sign.toList = c :: body) (shape : Shape .comparison (c :: body) after) :
    first c (body ++ after) = some (.comparison, body, after) := by
  rcases s.sign_cases with ⟨c', starts, eq⟩ | ⟨c', next, starts, eq⟩ <;> rw [eq] at sign <;>
    cases sign
  · have stop := (shape_single_iff eq).1 shape
    obtain rfl | angle := starts
    · simp [first, isWordChar_of_mark, Kind.ofChar]
    · have noQuote : c ≠ '"' := by rcases angle with rfl | rfl <;> decide
      cases after with
      | nil => simp [first, noQuote, angle]
      | cons next after => simp [first, noQuote, angle, stop next rfl]
  · have noQuote : c ≠ '"' := by rcases starts with rfl | rfl <;> decide
    simp [first, noQuote, starts, extendsSign_iff.2 ⟨s, eq⟩]

theorem first_word {c : Char} {body after : List Char} (starts : isWordChar c = true)
    (continues : ∀ e ∈ body, continuesWord e = true) (ends : endsWord after = true) :
    first c (body ++ after) = some (.word, body, after) := by
  have unmarked : c ∉ ['"', '<', '>', '=', '/', '(', ')', ' '] := fun mark => by
    simp [(isWordChar_of_mark c mark).1] at starts
  simp only [List.mem_cons, not_or] at unmarked
  obtain ⟨taken, dropped⟩ := takeWhile_continuesWord continues ends
  simp [first, unmarked, starts, taken, dropped]

/-- A token is the first one of a text if it has the shape of its class there. -/
theorem Shape.first {kind : Kind} {cs after : List Char} (h : Shape kind cs after) :
    ∃ c body, cs = c :: body ∧ Text.isBlank c = false ∧
      Token.first c (body ++ after) = some (kind, body, after) := by
  cases h with
  | word starts continues ends =>
    exact ⟨_, _, rfl, isBlank_of_isWordChar starts, first_word starts continues ends⟩
  | quoted escaped =>
    refine ⟨_, _, rfl, by decide, ?_⟩
    simp [Token.first, escaped.closeQuote_append]
  | @comparison s _ longest =>
    have shape := Shape.comparison longest
    rcases s.sign_cases with ⟨c, starts, eq⟩ | ⟨c, next, starts, eq⟩ <;> rw [eq] at shape ⊢
    · refine ⟨_, _, rfl, ?_, first_sign eq shape⟩
      rcases starts with rfl | rfl | rfl <;> decide
    · refine ⟨_, _, rfl, ?_, first_sign eq shape⟩
      rcases starts with rfl | rfl <;> decide
  | leftParen | rightParen | slash =>
    exact ⟨_, _, rfl, by decide, by simp [Token.first, isWordChar_of_mark, Kind.ofChar]⟩
  | other visible noWord unmarked =>
    simp only [List.mem_cons, not_or] at unmarked
    exact ⟨_, _, rfl, visible, by simp [Token.first, noWord, Kind.ofChar, unmarked]⟩

/-- The first token of a text has the shape of its class. -/
theorem shape_of_first {c : Char} {rest body after : List Char} {kind : Kind}
    (visible : Text.isBlank c = false) (h : first c rest = some (kind, body, after)) :
    Shape kind (c :: body) after := by
  unfold Token.first at h
  split at h
  · rename_i isQuote
    obtain ⟨⟨_, _⟩, closed, ⟨⟩⟩ := Option.map_eq_some_iff.1 h
    obtain ⟨inside, escaped, rfl⟩ := closeQuote_eq_some closed
    rw [isQuote]
    exact .quoted escaped
  rename_i noQuote
  split at h
  · rename_i angle
    have single : ∃ s : Comparison, s.sign.toList = [c] := by
      simp only [Bool.or_eq_true, decide_eq_true_eq] at angle
      rcases angle with rfl | rfl
      · exact ⟨.lt, rfl⟩
      · exact ⟨.gt, rfl⟩
    obtain ⟨s, single⟩ := single
    split at h
    · split at h <;> rename_i extends' <;> cases h
      · exact .pair extends' _
      · exact (shape_single_iff single).2 (by simpa using extends')
    · cases h
      exact (shape_single_iff single).2 nofun
  rename_i noAngle
  split at h
  · rename_i starts
    cases h
    exact .word starts (List.all_eq_true.1 List.all_takeWhile) (endsWord_dropWhile rest)
  rename_i noWord
  cases h
  unfold Kind.ofChar
  split
  · rename_i eq
    exact eq ▸ .leftParen
  rename_i noLeft
  split
  · rename_i eq
    exact eq ▸ .rightParen
  rename_i noRight
  split
  · rename_i eq
    exact eq ▸ .slash
  rename_i noSlash
  split
  · rename_i eq
    subst eq
    exact (shape_single_iff (s := .eq) (c := '=') rfl).2 (by simp [extendsSign])
  rename_i noEq
  refine .other visible (by simpa using noWord) ?_
  simp only [Bool.or_eq_true, decide_eq_true_eq, not_or] at noAngle
  simp [noQuote, noAngle, noLeft, noRight, noSlash, noEq]

theorem first_eq_some_iff {c : Char} {rest body after : List Char} {kind : Kind}
    (visible : Text.isBlank c = false) : first c rest = some (kind, body, after) ↔
      Shape kind (c :: body) after ∧ body ++ after = rest := by
  constructor
  · exact fun h => ⟨shape_of_first visible h, first_append h⟩
  · rintro ⟨shape, rfl⟩
    obtain ⟨_, _, ⟨⟩, -, h⟩ := shape.first
    exact h

theorem first_eq_none_iff {c : Char} {rest : List Char} (visible : Text.isBlank c = false) :
    first c rest = none ↔ Unclosed (c :: rest) := by
  constructor
  · intro noToken
    have isQuote : c = '"' := by
      refine Decidable.byContradiction fun noQuote => ?_
      unfold Token.first at noToken
      simp only [noQuote, reduceIte] at noToken
      split at noToken
      · split at noToken
        · split at noToken <;> cases noToken
        · cases noToken
      · split at noToken <;> cases noToken
    refine ⟨by simp [isQuote], fun text after eq shape => ?_⟩
    obtain ⟨c', body, rfl, -, some⟩ := shape.first
    obtain ⟨rfl, rfl⟩ : c = c' ∧ rest = body ++ after := by simpa using eq
    simp [noToken] at some
  · rintro ⟨isQuote, unclosed⟩
    rw [Option.eq_none_iff_forall_ne_some]
    rintro ⟨kind, body, after⟩ some
    obtain rfl : c = '"' := by simpa using isQuote
    have shape := shape_of_first visible some
    have isQuoted : kind = .quoted := by
      obtain ⟨_, -, eq⟩ := Option.map_eq_some_iff.1 some
      cases eq
      rfl
    subst isQuoted
    exact unclosed ('"' :: body) after (by simp [first_append some]) shape

end Token

end ContextQuery
