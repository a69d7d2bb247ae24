import ContextQuery.Proofs.Clause
import ContextQuery.Proofs.Token.Tokenization

/-!
# Which texts are terms

A backslash in a term takes the character after it, so reading from the left the backslashes and
what they take come in pairs. A term is refused for a pair that is no escape, whatever stands
before and after it; the other refusals can be told from the text alone. What is not refused is
printed in quotes as one token, which is read as the same term.

## Main definitions

* `Term.Body`: what is left of a text without the quotes around it.
* `Term.Paired`: each backslash takes a character.
* `Term.Misescaped`: some backslash takes a character that needs none, or none at all.

## Main results

* `Term.readEscapes_eq_none_iff`: the texts whose escapes cannot be read.
* `Term.parse_eq_error_iff`: each refusal of a term.
* `Term.parse_or_refused`: terms read back, and which texts are refused.
-/

namespace ContextQuery

namespace Term

/-! ## The text between the quotes -/

/-- The second text is the first one without the quotes around it, if there are any. -/
inductive Body : List Char → List Char → Prop where
  | quoted (cs : List Char) : Body ('"' :: cs ++ ['"']) cs
  | bare {cs : List Char} (unquoted : ∀ inside, cs ≠ '"' :: inside ++ ['"']) : Body cs cs

theorem isQuotedText_iff {cs : List Char} :
    isQuotedText cs = true ↔ ∃ inside, cs = '"' :: inside ++ ['"'] := by
  constructor
  · intro quoted
    obtain - | ⟨c, rest⟩ := cs
    · simp [isQuotedText] at quoted
    · simp only [isQuotedText, Bool.and_eq_true, decide_eq_true_eq] at quoted
      obtain ⟨rfl, last⟩ := quoted
      obtain ⟨inside, rfl⟩ := List.getLast?_eq_some_iff.1 last
      exact ⟨inside, rfl⟩
  · rintro ⟨inside, rfl⟩
    exact isQuotedText_quoted inside

theorem body_eq_iff {cs inside : List Char} : body cs = inside ↔ Body cs inside := by
  constructor
  · rintro rfl
    unfold body
    split
    · rename_i quoted
      obtain ⟨inside, rfl⟩ := isQuotedText_iff.1 quoted
      rw [inner_quoted]
      exact .quoted inside
    · rename_i bare
      exact .bare fun inside eq => bare (isQuotedText_iff.2 ⟨inside, eq⟩)
  · intro h
    cases h with
    | quoted => rw [body, if_pos (isQuotedText_quoted _), inner_quoted]
    | bare unquoted =>
      have bare : ¬isQuotedText cs = true := fun quoted => by
        obtain ⟨inside, eq⟩ := isQuotedText_iff.1 quoted
        exact unquoted inside eq
      rw [body, if_neg bare]

/-! ## Escapes -/

/-- The characters that a backslash may take. -/
def escapable : List Char :=
  ['"', '\\', '?', '*', '^']

theorem mem_escapable {e : Char} : e ∈ escapable ↔ e = '"' ∨ isMasked e = true := by
  simp [escapable, isMasked, or_assoc]

/-- Read from the left, each backslash takes the character after it. -/
inductive Paired : List Char → Prop where
  | nil : Paired []
  | plain {c : Char} {cs : List Char} (ordinary : c ≠ '\\') (rest : Paired cs) : Paired (c :: cs)
  | pair {e : Char} {cs : List Char} (rest : Paired cs) : Paired ('\\' :: e :: cs)

/-- Read from the left, some backslash is not followed by a character that it may take. -/
def Misescaped (cs : List Char) : Prop :=
  ∃ before after, cs = before ++ '\\' :: after ∧ Paired before ∧ ∀ e ∈ after.head?, e ∉ escapable

theorem not_misescaped_nil : ¬Misescaped [] := by
  rintro ⟨before, after, eq, -⟩
  simp at eq

theorem misescaped_plain {c : Char} {cs : List Char} (ordinary : c ≠ '\\') :
    Misescaped (c :: cs) ↔ Misescaped cs := by
  constructor
  · rintro ⟨before, after, eq, paired, unescaped⟩
    cases paired with
    | nil => exact absurd (List.cons.inj eq).1 ordinary
    | plain _ rest => exact ⟨_, after, (List.cons.inj eq).2, rest, unescaped⟩
    | pair => exact absurd (List.cons.inj eq).1 ordinary
  · rintro ⟨before, after, rfl, paired, unescaped⟩
    exact ⟨c :: before, after, rfl, .plain ordinary paired, unescaped⟩

theorem misescaped_pair {e : Char} {cs : List Char} :
    Misescaped ('\\' :: e :: cs) ↔ e ∉ escapable ∨ Misescaped cs := by
  constructor
  · rintro ⟨before, after, eq, paired, unescaped⟩
    cases paired with
    | nil =>
      obtain ⟨-, rfl⟩ := List.cons.inj eq
      exact .inl (unescaped e rfl)
    | plain ordinary => exact absurd (List.cons.inj eq).1.symm ordinary
    | pair rest =>
      obtain ⟨-, rfl⟩ := List.cons.inj (List.cons.inj eq).2
      exact .inr ⟨_, after, rfl, rest, unescaped⟩
  · rintro (unescaped | ⟨before, after, rfl, paired, unescaped⟩)
    · exact ⟨[], e :: cs, rfl, .nil, by simpa using unescaped⟩
    · exact ⟨'\\' :: e :: before, after, rfl, .pair paired, unescaped⟩

theorem misescaped_last : Misescaped ['\\'] :=
  ⟨[], [], rfl, .nil, nofun⟩

/-- Escapes cannot be read just if a backslash, with those before it in pairs, is no escape. -/
theorem readEscapes_eq_none_iff {cs : List Char} : readEscapes cs = none ↔ Misescaped cs := by
  fun_induction readEscapes cs with
  | case1 => simp [not_misescaped_nil]
  | case2 => simp [misescaped_last]
  | case3 rest ih =>
    have taken : '"' ∈ escapable := List.mem_cons_self
    simp [misescaped_pair, taken, ih]
  | case4 e rest noQuote masked ih =>
    have taken : e ∈ escapable := mem_escapable.2 (.inr masked)
    simp [misescaped_pair, taken, ih]
  | case5 e rest noQuote unmasked =>
    have untaken : e ∉ escapable := fun taken =>
      (mem_escapable.1 taken).elim noQuote unmasked
    simp [misescaped_pair, untaken]
  | case6 c rest ordinary ih => simp [misescaped_plain ordinary, ih]

/-- Escapes stand for something. -/
theorem readEscapes_eq_nil_iff {cs : List Char} : readEscapes cs = some [] ↔ cs = [] := by
  constructor
  · intro read
    exact all_anchors_of_readEscapes read rfl
  · rintro rfl
    rfl

/-- A text of anchors has no backslash. -/
theorem not_misescaped_of_anchors {cs : List Char} (anchors : ∀ c ∈ cs, c = '^') :
    ¬Misescaped cs := by
  rintro ⟨before, after, rfl, -⟩
  simpa using anchors '\\' (by simp)

/-! ## Refusals -/

theorem literal_eq_error {d : Dialect} {s : String} {e : Diagnostic} :
    literal d s = .error e ↔ s = "" ∧ d.refuseEmptyTerm = true ∧ e = ⟨.emptyTerm, ""⟩ := by
  unfold literal
  by_cases empty : s = ""
  · by_cases refuse : d.refuseEmptyTerm = true
    · simp [empty, refuse, eq_comm (a := e)]
    · simp [empty, refuse]
  · simp [empty]

/-- Why a text is refused as a term. The refusals of its body exclude each other. -/
theorem parse_eq_error_iff {d : Dialect} {raw : String} {e : Diagnostic} :
    parse d raw = .error e ↔
      raw ∈ bareOperators ∧ e = ⟨.bareRelation, raw⟩ ∨
      raw ∉ bareOperators ∧ ∃ cs, Body raw.toList cs ∧
        (cs ≠ [] ∧ (∀ c ∈ cs, c = '^') ∧
            e = ⟨.anchorOnly, "Only anchoring character(s) in term: " ++ raw⟩ ∨
          Misescaped cs ∧ e = ⟨.badEscape, raw⟩ ∨
          cs = [] ∧ d.refuseEmptyTerm = true ∧ e = ⟨.emptyTerm, ""⟩) := by
  unfold parse
  by_cases bare : raw ∈ bareOperators
  · simp [bare, eq_comm (a := e)]
  simp only [bare, ← body_eq_iff, exists_eq_left', List.contains_eq_mem, decide_false,
    Bool.false_eq_true, if_false, false_and, false_or, not_false_eq_true, true_and]
  generalize body raw.toList = cs
  by_cases anchors : cs ≠ [] ∧ ∀ c ∈ cs, c = '^'
  · have test : (!cs.isEmpty && cs.all (· = '^')) = true := by simpa using anchors
    obtain ⟨nonempty, only⟩ := anchors
    have escaped := not_misescaped_of_anchors only
    simp [test, nonempty, eq_true only, escaped, eq_comm (a := e)]
  · have test : (!cs.isEmpty && cs.all (· = '^')) = false := by
      rw [← Bool.not_eq_true]
      simpa using anchors
    rw [← and_assoc]
    simp only [test, Bool.false_eq_true, if_false, anchors, false_and, false_or]
    cases read : readEscapes cs with
    | none =>
      have misescaped := readEscapes_eq_none_iff.1 read
      have nonempty : cs ≠ [] := fun empty => not_misescaped_nil (empty ▸ misescaped)
      simp [misescaped, nonempty, eq_comm (a := e)]
    | some value =>
      have escaped : ¬Misescaped cs := fun misescaped => by
        simp [readEscapes_eq_none_iff.2 misescaped] at read
      have empty : value = [] ↔ cs = [] := by
        rw [← @readEscapes_eq_nil_iff cs, read, Option.some.injEq]
      simp [escaped, literal_eq_error, empty]

/-! ## Reading back -/

/-- A term that was read is printed as one token. -/
theorem tokenize_display {d : Dialect} {raw : String} {t : Term} (h : parse d raw = .ok t) :
    tokenize t.display =
      .ok [⟨.quoted, t.display, 0⟩, .finish t.display.utf8ByteSize] := by
  obtain ⟨-, quotable⟩ := parse_display h
  have chars : t.display.toList = '"' :: escapeQuotes t.value.toList ++ ['"'] := toList_quote _
  have shape : Token.Shape .quoted t.display.toList [] := chars ▸ .quoted quotable
  have cut : Token.Cut 0 (t.display.toList ++ [])
      [⟨.quoted, String.ofList t.display.toList, 0⟩] [] := .cons shape (.refl _ [])
  rw [List.append_nil, String.ofList_toList] at cut
  exact tokenize_eq_ok_iff.2 ⟨_, cut, rfl⟩

/-- What is read as a term is printed in quotes as one token, which is read as the same term. A
text is refused just if it is an operator, if what stands between its quotes has anchors only or an
escape that is none, or if nothing stands there and the dialect refuses that. -/
theorem parse_or_refused (d : Dialect) (raw : String) :
    (∀ t, parse d raw = .ok t →
      tokenize t.display = .ok [⟨.quoted, t.display, 0⟩, .finish t.display.utf8ByteSize] ∧
        parse d t.display = .ok t) ∧
    ((∃ e, parse d raw = .error e) ↔ raw ∈ bareOperators ∨ ∃ cs, Body raw.toList cs ∧
      (cs ≠ [] ∧ (∀ c ∈ cs, c = '^') ∨ Misescaped cs ∨ cs = [] ∧ d.refuseEmptyTerm = true)) := by
  refine ⟨fun t read => ⟨tokenize_display read, (parse_display read).1⟩, ?_⟩
  simp only [parse_eq_error_iff]
  constructor
  · rintro ⟨e, ⟨bare, -⟩ | ⟨-, cs, body, refused⟩⟩
    · exact .inl bare
    · refine .inr ⟨cs, body, refused.imp ?_ (Or.imp And.left ?_)⟩
      · exact fun ⟨nonempty, anchors, _⟩ => ⟨nonempty, anchors⟩
      · exact fun ⟨empty, refuse, _⟩ => ⟨empty, refuse⟩
  · rintro (bare | ⟨cs, body, refused⟩)
    · exact ⟨_, .inl ⟨bare, rfl⟩⟩
    · by_cases bare : raw ∈ bareOperators
      · exact ⟨_, .inl ⟨bare, rfl⟩⟩
      rcases refused with ⟨nonempty, anchors⟩ | misescaped | ⟨empty, refuse⟩
      · exact ⟨_, .inr ⟨bare, cs, body, .inl ⟨nonempty, anchors, rfl⟩⟩⟩
      · exact ⟨_, .inr ⟨bare, cs, body, .inr (.inl ⟨misescaped, rfl⟩)⟩⟩
      · exact ⟨_, .inr ⟨bare, cs, body, .inr (.inr ⟨empty, refuse, rfl⟩)⟩⟩

/-- An escaped quote and an escaped asterisk between quotes, and three backslashes, of which the
last one takes nothing. -/
theorem parse_or_refused_escaped :
    (∃ t, parse {} "\"a\\\"\\*\"" = .ok t ∧
      tokenize t.display = .ok [⟨.quoted, t.display, 0⟩, .finish t.display.utf8ByteSize] ∧
      parse {} t.display = .ok t) ∧
    ∃ e, parse {} "\\\\\\" = .error e := by
  have parsed : parse {} "\"a\\\"\\*\"" = .ok ⟨"a\"\\*"⟩ :=
    parse_eq_ok.2 ⟨by decide, .inr (by decide), by decide +kernel, literal_eq_ok.2 ⟨rfl, nofun⟩⟩
  obtain ⟨back, -⟩ := parse_or_refused {} "\"a\\\"\\*\""
  obtain ⟨-, refused⟩ := parse_or_refused {} "\\\\\\"
  refine ⟨⟨_, parsed, back _ parsed⟩, refused.2 (.inr ⟨['\\', '\\', '\\'], ?_, ?_⟩)⟩
  · exact .bare fun inside => by simp
  · exact .inr (.inl ⟨['\\', '\\'], [], rfl, .pair .nil, nofun⟩)

end Term

end ContextQuery
