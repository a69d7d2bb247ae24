import ContextQuery.Clause
import ContextQuery.Proofs.Token.Lexing

/-!
# Names and terms that read back

A name that was read is in lower case and splits where it was put together, so it reads back from
its full form, in quotes or not. A term that was read reads back from its value in quotes: the
escapes that it kept are those that a reader keeps.

## Main results

* `Name.canonical_of_parse`, `Name.parse_of_unquote`: names read back.
* `Term.parse_display`: terms read back.
* `Token.Tidy.quotable_unquote`: what is read from a token can be put in quotes.
-/

namespace ContextQuery

/-! ## Names -/

/-- The name is what its full form reads as. -/
structure Name.Canonical (n : Name) : Prop where
  settled : ∀ c ∈ n.fullName.toList, Text.Settled c
  split : Name.split n.fullName.toList = .ok n

theorem mem_unescapeQuotes {c : Char} {cs : List Char} (h : c ∈ unescapeQuotes cs) : c ∈ cs := by
  fun_induction unescapeQuotes cs with
  | case1 rest ih => grind
  | case2 d rest _ ih => grind
  | case3 => exact h

theorem mem_unquoteText {c : Char} {cs : List Char} (h : c ∈ unquoteText cs) : c ∈ cs := by
  unfold unquoteText at h
  split at h
  · exact List.mem_of_mem_tail (List.dropLast_subset _ (mem_unescapeQuotes h))
  · exact h

theorem mem_escapeQuotes {c : Char} {cs : List Char} (h : c ∈ escapeQuotes cs) :
    Text.isEscaping c = true ∨ c ∈ cs := by
  induction cs with
  | nil => simp [escapeQuotes] at h
  | cons d cs ih =>
    unfold escapeQuotes at h
    split at h <;> simp only [List.mem_cons] at h ⊢
    · rcases h with rfl | rfl | h
      · exact .inl rfl
      · exact .inl rfl
      · exact (ih h).imp_right .inr
    · rcases h with rfl | h
      · exact .inr (.inl rfl)
      · exact (ih h).imp_right .inr

namespace Name

/-- A name is put together where it was split. -/
theorem fullName_of_split {cs : List Char} {n : Name} (h : split cs = .ok n) :
    n.fullName = String.ofList cs := by
  unfold split at h
  split at h
  · cases h
  split at h
  · cases h
    rfl
  · rename_i dot value dropped
    split at h
    · cases h
    · cases h
      have isDot : dot = '.' := by
        have := List.head_dropWhile_not (l := cs) (· != '.') (by simp [dropped])
        simpa [dropped] using this
      have whole := List.takeWhile_append_dropWhile (p := (· != '.')) (l := cs)
      rw [dropped, isDot] at whole
      have joined : String.ofList (cs.takeWhile (· != '.')) ++ "." ++ String.ofList value =
          String.ofList (cs.takeWhile (· != '.') ++ '.' :: value) := by
        simp [String.append_assoc]
      rw [whole] at joined
      exact joined

theorem canonical_of_parse {d : Dialect} {raw : String} {n : Name} (h : parse d raw = .ok n) :
    n.Canonical ∧ n.fullName.toList = unquoteText (Text.lower raw.toList) := by
  simp only [parse] at h
  split at h
  · cases h
  · have full := fullName_of_split h
    have chars : n.fullName.toList = unquoteText (Text.lower raw.toList) := by simp [full]
    refine ⟨⟨fun c hc => ?_, by rw [chars, h]⟩, chars⟩
    rw [chars] at hc
    exact Text.settled_of_mem_lower (mem_unquoteText hc)

/-- A canonical name reads back from any form of it in lower case. -/
theorem parse_of_unquote {d : Dialect} {raw : String} {n : Name} (canonical : n.Canonical)
    (settled : ∀ c ∈ raw.toList, Text.Settled c) (eq : unquote raw = n.fullName)
    (lenient : isQuotedText raw.toList = true → d.refuseQuotedName = false) :
    parse d raw = .ok n := by
  have split := canonical.split
  rw [← eq, unquote, String.toList_ofList] at split
  unfold parse
  rw [Text.lower_eq_self settled]
  by_cases quoted : isQuotedText raw.toList
  · simp [quoted, lenient quoted, split]
  · simp [quoted, split]

theorem Canonical.settled_quote {n : Name} (canonical : n.Canonical) :
    ∀ c ∈ (quote n.fullName).toList, Text.Settled c := by
  intro c hc
  rw [toList_quote] at hc
  simp only [List.cons_append, List.mem_cons, List.mem_append, List.not_mem_nil, or_false] at hc
  rcases hc with rfl | hc | rfl
  · exact Text.settled_of_isEscaping rfl
  · rcases mem_escapeQuotes hc with escaping | hc
    · exact Text.settled_of_isEscaping escaping
    · exact canonical.settled c hc
  · exact Text.settled_of_isEscaping rfl

end Name

/-! ## Terms -/

namespace Term

theorem readEscapes_quote (cs : List Char) :
    readEscapes ('\\' :: '"' :: cs) = (readEscapes cs).map ('"' :: ·) := by
  rw [readEscapes.eq_def]
  rfl

theorem readEscapes_masked {e : Char} (h : isMasked e = true) (cs : List Char) :
    readEscapes ('\\' :: e :: cs) = (readEscapes cs).map fun cs => '\\' :: e :: cs := by
  have noQuote : e ≠ '"' := by
    rintro rfl
    simp [isMasked] at h
  rw [readEscapes.eq_def]
  simp [noQuote, h]

theorem readEscapes_plain {c : Char} (h : c ≠ '\\') (cs : List Char) :
    readEscapes (c :: cs) = (readEscapes cs).map (c :: ·) := by
  rw [readEscapes.eq_def]
  simp [h]

/-- What the escapes of a text are read as can be put in quotes, and then reads as itself. -/
theorem readEscapes_escapeQuotes {cs value : List Char} (h : readEscapes cs = some value) :
    Quotable value ∧ readEscapes (escapeQuotes value) = some value := by
  unfold Quotable
  fun_induction readEscapes cs generalizing value with
  | case1 =>
    cases h
    exact ⟨.nil, rfl⟩
  | case2 => simp at h
  | case3 rest ih =>
    obtain ⟨v, read, rfl⟩ := Option.map_eq_some_iff.1 h
    obtain ⟨quotable, reads⟩ := ih read
    simp only [escapeQuotes, reduceIte]
    exact ⟨.pair quotable, by simp [readEscapes_quote, reads]⟩
  | case4 e rest noQuote masked ih =>
    obtain ⟨v, read, rfl⟩ := Option.map_eq_some_iff.1 h
    obtain ⟨quotable, reads⟩ := ih read
    simp only [escapeQuotes, noQuote, Char.reduceEq, reduceIte]
    exact ⟨.pair quotable, by simp [readEscapes_masked masked, reads]⟩
  | case5 => simp at h
  | case6 c rest noBackslash ih =>
    obtain ⟨v, read, rfl⟩ := Option.map_eq_some_iff.1 h
    obtain ⟨quotable, reads⟩ := ih read
    by_cases quote : c = '"'
    · simp only [escapeQuotes, quote, reduceIte]
      exact ⟨.pair quotable, by simp [readEscapes_quote, reads]⟩
    · simp only [escapeQuotes, quote, reduceIte]
      exact ⟨.plain (isEscaping_eq_false.2 ⟨quote, noBackslash⟩) quotable,
        by simp [readEscapes_plain noBackslash, reads]⟩

theorem readEscapes_pair {e : Char} {cs value : List Char}
    (h : readEscapes ('\\' :: e :: cs) = some value) : e = '"' ∨ isMasked e = true := by
  rw [readEscapes.eq_def] at h
  by_cases quote : e = '"'
  · exact .inl quote
  · by_cases masked : isMasked e = true
    · exact .inr masked
    · simp [quote, masked] at h

/-- What is read from between quotes is what was put there. -/
theorem escapeQuotes_of_readEscapes {cs value : List Char} (h : Escaped cs)
    (read : readEscapes cs = some value) : escapeQuotes value = cs := by
  induction h generalizing value with
  | nil =>
    cases read
    rfl
  | plain ordinary _ ih =>
    obtain ⟨noQuote, noBackslash⟩ := isEscaping_eq_false.1 ordinary
    rw [readEscapes_plain noBackslash] at read
    obtain ⟨v, inside, rfl⟩ := Option.map_eq_some_iff.1 read
    simp [escapeQuotes, noQuote, ih inside]
  | @pair e _ _ ih =>
    rcases readEscapes_pair read with rfl | masked
    · rw [readEscapes_quote] at read
      obtain ⟨v, inside, rfl⟩ := Option.map_eq_some_iff.1 read
      simp [escapeQuotes, ih inside]
    · rw [readEscapes_masked masked] at read
      obtain ⟨v, inside, rfl⟩ := Option.map_eq_some_iff.1 read
      have noQuote : e ≠ '"' := fun eq => by simp [isMasked, eq] at masked
      simp [escapeQuotes, noQuote, ih inside]

/-- Reading escapes makes no text of anchors from another one. -/
theorem all_anchors_of_readEscapes {cs value : List Char} (h : readEscapes cs = some value)
    (anchors : value.all (· = '^') = true) : cs = value := by
  fun_induction readEscapes cs generalizing value with
  | case1 => simpa using h
  | case2 => simp at h
  | case3 | case4 =>
    obtain ⟨v, -, rfl⟩ := Option.map_eq_some_iff.1 h
    simp at anchors
  | case5 => simp at h
  | case6 c rest noBackslash ih =>
    obtain ⟨v, read, rfl⟩ := Option.map_eq_some_iff.1 h
    simp only [List.all_cons, Bool.and_eq_true] at anchors
    rw [ih read anchors.2]

theorem all_anchors_of_escapeQuotes {cs : List Char}
    (anchors : (escapeQuotes cs).all (· = '^') = true) : cs.all (· = '^') = true := by
  induction cs with
  | nil => rfl
  | cons c cs ih =>
    unfold escapeQuotes at anchors
    split at anchors
    · simp at anchors
    · simp only [List.all_cons, Bool.and_eq_true] at anchors ⊢
      exact ⟨anchors.1, ih anchors.2⟩

theorem literal_eq_ok {d : Dialect} {s : String} {t : Term} :
    literal d s = .ok t ↔ t.value = s ∧ (d.refuseEmptyTerm = true → s ≠ "") := by
  obtain ⟨value⟩ := t
  unfold literal
  by_cases empty : s = ""
  · by_cases refuse : d.refuseEmptyTerm = true
    · simp [empty, refuse]
    · simp [empty, refuse, eq_comm (b := value)]
  · simp [empty, eq_comm (b := value)]

theorem parse_eq_ok {d : Dialect} {raw : String} {t : Term} : parse d raw = .ok t ↔
    raw ∉ bareOperators ∧ (body raw.toList = [] ∨ (body raw.toList).all (· = '^') = false) ∧
      readEscapes (body raw.toList) = some t.value.toList ∧ literal d t.value = .ok t := by
  unfold parse
  by_cases bare : raw ∈ bareOperators
  · simp [bare]
  generalize body raw.toList = cs
  by_cases anchors : cs = [] ∨ cs.all (· = '^') = false
  · have : (!cs.isEmpty && cs.all (· = '^')) = false := by
      rcases anchors with rfl | anchors
      · rfl
      · simp [anchors]
    cases read : readEscapes cs with
    | none => simp [bare, this, read]
    | some value =>
      have eq : value = t.value.toList ↔ t.value = String.ofList value := by
        rw [← String.toList_inj, String.toList_ofList, eq_comm]
      simp only [bare, List.contains_eq_mem, decide_false, Bool.false_eq_true, this, reduceIte,
        read, literal_eq_ok, not_false_eq_true, anchors, Option.some.injEq, true_and, eq]
      grind
  · have this : (!cs.isEmpty && cs.all (· = '^')) = true := by
      rw [not_or, Bool.not_eq_false] at anchors
      simpa using anchors
    simp only [bare, List.contains_eq_mem, decide_false, Bool.false_eq_true, this, reduceIte,
      reduceCtorEq, anchors, false_and, and_false]

theorem body_quote (s : String) : body (quote s).toList = escapeQuotes s.toList := by
  rw [toList_quote, body, if_pos (isQuotedText_quoted _), inner_quoted]

theorem quote_not_mem_bareOperators (s : String) : quote s ∉ bareOperators := by
  intro mem
  have heads : ∀ o ∈ bareOperators, o.toList.head? ≠ some '"' := by decide
  exact heads _ mem (by simp [toList_quote])

/-- A term in quotes is read as itself if it is read at all. -/
theorem eq_of_parse_display {d : Dialect} {t t' : Term} (quotable : Quotable t.value.toList)
    (h : parse d t.display = .ok t') : t' = t := by
  obtain ⟨-, -, read, -⟩ := parse_eq_ok.1 h
  rw [display, body_quote] at read
  have same := congrArg unescapeQuotes (escapeQuotes_of_readEscapes quotable read)
  rw [unescapeQuotes_escapeQuotes, unescapeQuotes_escapeQuotes, String.toList_inj] at same
  cases t
  cases t'
  simp_all

/-- A term that was read reads back from its value in quotes. -/
theorem parse_display {d : Dialect} {raw : String} {t : Term} (h : parse d raw = .ok t) :
    parse d t.display = .ok t ∧ Quotable t.value.toList := by
  obtain ⟨-, anchors, read, literal⟩ := parse_eq_ok.1 h
  obtain ⟨quotable, reads⟩ := readEscapes_escapeQuotes read
  refine ⟨parse_eq_ok.2 ⟨quote_not_mem_bareOperators _, ?_, ?_, literal⟩, quotable⟩
  · rw [display, body_quote]
    by_cases only : (escapeQuotes t.value.toList).all (· = '^')
    · have same := all_anchors_of_readEscapes read (all_anchors_of_escapeQuotes only)
      have same' := all_anchors_of_readEscapes reads (all_anchors_of_escapeQuotes only)
      rw [same'] at only ⊢
      rw [same] at anchors
      exact anchors
    · exact .inr (by simpa using only)
  · rwa [display, body_quote]

end Term

/-! ## Tokens -/

theorem Comparison.sign_of_ofSign? {s : String} {c : Comparison} (h : ofSign? s = some c) :
    c.sign = s := by
  simpa using List.find?_some h

namespace Token

/-- The token has the shape of its class, and a backslash only between quotes. -/
structure Tidy (t : Token) : Prop extends t.Genuine where
  backslash : '\\' ∈ t.text.toList → t.kind = .quoted

theorem Genuine.head_ne_quote {t : Token} (h : t.Genuine)
    (bare : t.kind = .word ∨ t.kind = .comparison) : t.text.toList.head? ≠ some '"' := by
  rcases bare with word | comparison
  · exact h.word word
  · obtain ⟨c, isSign⟩ := Option.isSome_iff_exists.1 (h.comparison comparison)
    rw [← Comparison.sign_of_ofSign? isSign]
    cases c <;> decide

theorem Genuine.quotable_unquote {t : Token} (h : t.Genuine) (quoted : t.kind = .quoted) :
    Quotable (unquote t.text).toList := by
  obtain ⟨inside, escaped, eq⟩ := h.quoted quoted
  rw [unquote, eq, unquoteText_quoted, String.toList_ofList]
  exact escaped.quotable

theorem Genuine.quotable_lower {t : Token} (h : t.Genuine) (quoted : t.kind = .quoted) :
    Quotable (unquoteText (Text.lower t.text.toList)) := by
  obtain ⟨inside, escaped, eq⟩ := h.quoted quoted
  obtain ⟨lowered, escaped', eq'⟩ := lower_quoted escaped
  rw [eq, eq', unquoteText_quoted]
  exact escaped'.quotable

/-- What is read from a value or an identifier can be put in quotes. -/
theorem Tidy.quotable_unquote {t : Token} (h : t.Tidy) (isName : t.isName = true) :
    Quotable (unquote t.text).toList := by
  by_cases quoted : t.kind = .quoted
  · exact h.toGenuine.quotable_unquote quoted
  · have word : t.kind = .word := by simpa [Token.isName, quoted] using isName
    rw [unquote, unquoteText_of_head (h.word word), String.toList_ofList]
    exact quotable_of_not_mem fun mem => quoted (h.backslash mem)

/-- What is read from a name can be put in quotes. -/
theorem Tidy.quotable_name {t : Token} {d : Dialect} {n : Name} (h : t.Tidy)
    (starts : (t.isName || t.kind = .comparison) = true) (parsed : Name.parse d t.text = .ok n) :
    Quotable n.fullName.toList := by
  rw [(Name.canonical_of_parse parsed).2]
  by_cases quoted : t.kind = .quoted
  · exact h.toGenuine.quotable_lower quoted
  · have bare : t.kind = .word ∨ t.kind = .comparison := by
      simpa [Token.isName, quoted] using starts
    rw [unquoteText_of_head (lower_head_ne_quote (h.head_ne_quote bare))]
    exact (quotable_of_not_mem fun mem => quoted (h.backslash mem)).lower

end Token

end ContextQuery
