import ContextQuery.Proofs.Text.Folding
import ContextQuery.Term
import ContextQuery.Token.Lexer

/-!
# Laws of quoting

A text in quotes is closed by the quote that was written last if, read from the left, each
backslash takes a character and each quote inside is taken by one. Escaping the quotes of a text
makes that so unless the text has a backslash of its own in a place where it takes the backslash
of an escaped quote, or the closing quote. `Quotable` tells the texts that survive quoting; what is
read from a quoted string always does.

## Main definitions

* `Escaped`: each quote is taken by a backslash, and no backslash is left over.
* `Quotable`: the text is `Escaped` once its quotes are escaped.
-/

namespace ContextQuery

open Text (Folds isEscaping)

/-- Read from the left, each quote is taken by a backslash, and each backslash takes something. -/
inductive Escaped : List Char → Prop where
  | nil : Escaped []
  | plain {c : Char} {cs : List Char} (ordinary : isEscaping c = false) (rest : Escaped cs) :
      Escaped (c :: cs)
  | pair {e : Char} {cs : List Char} (rest : Escaped cs) : Escaped ('\\' :: e :: cs)

/-- The text can be put in quotes and read back. -/
def Quotable (cs : List Char) : Prop :=
  Escaped (escapeQuotes cs)

theorem isEscaping_eq_false {c : Char} : isEscaping c = false ↔ c ≠ '"' ∧ c ≠ '\\' := by
  simp [isEscaping]

theorem Escaped.head_ne_quote {cs : List Char} (h : Escaped cs) : cs.head? ≠ some '"' := by
  cases h with
  | nil => simp
  | plain ordinary => simpa using (isEscaping_eq_false.1 ordinary).1
  | pair => simp

/-! ## The closing quote -/

theorem closeQuote_quote (cs : List Char) : closeQuote ('"' :: cs) = some (['"'], cs) := by
  unfold closeQuote
  rfl

theorem closeQuote_pair (e : Char) (cs : List Char) : closeQuote ('\\' :: e :: cs) =
    (closeQuote cs).map fun (body, after) => ('\\' :: e :: body, after) := by
  rw [closeQuote]
  rfl

theorem closeQuote_plain {c : Char} (h : isEscaping c = false) (cs : List Char) :
    closeQuote (c :: cs) = (closeQuote cs).map fun (body, after) => (c :: body, after) := by
  obtain ⟨noQuote, noBackslash⟩ := isEscaping_eq_false.1 h
  rw [closeQuote.eq_def (c :: cs)]
  simp [noQuote, noBackslash]

theorem Escaped.closeQuote_append {body : List Char} (h : Escaped body) (after : List Char) :
    closeQuote (body ++ '"' :: after) = some (body ++ ['"'], after) := by
  induction h with
  | nil => exact closeQuote_quote after
  | plain ordinary _ ih => simp [closeQuote_plain ordinary, ih]
  | pair _ ih => simp [closeQuote_pair, ih]

/-- A string is closed by the first quote that no backslash takes. -/
theorem closeQuote_eq_some {cs body after : List Char} (h : closeQuote cs = some (body, after)) :
    ∃ inside, Escaped inside ∧ body = inside ++ ['"'] := by
  fun_induction closeQuote cs generalizing body after with
  | case1 => simp at h
  | case2 rest => exact ⟨[], .nil, by simp_all⟩
  | case3 => simp at h
  | case4 _ e rest ih =>
    obtain ⟨⟨b, a⟩, closed, eq⟩ := Option.map_eq_some_iff.1 h
    obtain ⟨inside, escaped, rfl⟩ := ih closed
    simp only [Prod.mk.injEq] at eq
    exact ⟨_, .pair escaped, eq.1.symm⟩
  | case5 c rest noQuote noBackslash ih =>
    obtain ⟨⟨b, a⟩, closed, eq⟩ := Option.map_eq_some_iff.1 h
    obtain ⟨inside, escaped, rfl⟩ := ih closed
    simp only [Prod.mk.injEq] at eq
    exact ⟨_, .plain (isEscaping_eq_false.2 ⟨noQuote, noBackslash⟩) escaped, eq.1.symm⟩

/-- The closing quote of such a text is the one that is written after it. -/
theorem escaped_iff_closeQuote {cs : List Char} :
    Escaped cs ↔ closeQuote (cs ++ ['"']) = some (cs ++ ['"'], []) := by
  refine ⟨fun h => h.closeQuote_append [], fun h => ?_⟩
  obtain ⟨inside, escaped, eq⟩ := closeQuote_eq_some h
  rwa [List.append_cancel_right eq]

instance : DecidablePred Escaped :=
  fun _ => decidable_of_iff' _ escaped_iff_closeQuote

instance : DecidablePred Quotable :=
  fun cs => inferInstanceAs (Decidable (Escaped (escapeQuotes cs)))

/-! ## Escaping and unescaping -/

theorem unescapeQuotes_cons {c : Char} {cs : List Char} (h : c = '\\' → cs.head? ≠ some '"') :
    unescapeQuotes (c :: cs) = c :: unescapeQuotes cs := by
  rw [unescapeQuotes]
  rintro rest rfl rfl
  exact h rfl rfl

theorem head_escapeQuotes (cs : List Char) : (escapeQuotes cs).head? ≠ some '"' := by
  cases cs with
  | nil => simp [escapeQuotes]
  | cons c cs => by_cases quote : c = '"' <;> simp [escapeQuotes, quote]

@[simp] theorem unescapeQuotes_escapeQuotes (cs : List Char) :
    unescapeQuotes (escapeQuotes cs) = cs := by
  induction cs with
  | nil => rfl
  | cons c cs ih =>
    by_cases quote : c = '"'
    · simp [escapeQuotes, quote, unescapeQuotes, ih]
    · simp [escapeQuotes, quote, unescapeQuotes_cons fun _ => head_escapeQuotes cs, ih]

theorem Escaped.escapeQuotes_unescapeQuotes {cs : List Char} (h : Escaped cs) :
    escapeQuotes (unescapeQuotes cs) = cs := by
  induction h with
  | nil => rfl
  | plain ordinary _ ih =>
    obtain ⟨noQuote, noBackslash⟩ := isEscaping_eq_false.1 ordinary
    simp [unescapeQuotes_cons fun eq => absurd eq noBackslash, escapeQuotes, noQuote, ih]
  | @pair e cs rest ih =>
    by_cases quote : e = '"'
    · simp [quote, unescapeQuotes, escapeQuotes, ih]
    · rw [unescapeQuotes_cons fun _ => by simpa using quote,
        unescapeQuotes_cons fun _ => rest.head_ne_quote]
      simp [escapeQuotes, quote, ih]

/-- What is read from a quoted string can be put in quotes again. -/
theorem Escaped.quotable {cs : List Char} (h : Escaped cs) : Quotable (unescapeQuotes cs) := by
  rw [Quotable, h.escapeQuotes_unescapeQuotes]
  exact h

theorem quotable_of_not_mem {cs : List Char} (h : '\\' ∉ cs) : Quotable cs := by
  unfold Quotable
  induction cs with
  | nil => exact .nil
  | cons c cs ih =>
    simp only [List.mem_cons, not_or] at h
    unfold escapeQuotes
    split
    · exact .pair (ih h.2)
    · rename_i quote
      exact .plain (isEscaping_eq_false.2 ⟨quote, Ne.symm h.1⟩) (ih h.2)

/-! ## Quotes around a text -/

theorem isQuotedText_quoted (cs : List Char) : isQuotedText ('"' :: cs ++ ['"']) = true := by
  simp [isQuotedText]

theorem inner_quoted (cs : List Char) : inner ('"' :: cs ++ ['"']) = cs := by
  simp [inner]

theorem unquoteText_quoted (cs : List Char) :
    unquoteText ('"' :: cs ++ ['"']) = unescapeQuotes cs := by
  rw [unquoteText, if_pos (isQuotedText_quoted cs), inner_quoted]

theorem isQuotedText_eq_false {cs : List Char} (h : cs.head? ≠ some '"') :
    isQuotedText cs = false := by
  cases cs with
  | nil => rfl
  | cons c cs => simp_all [isQuotedText]

theorem unquoteText_of_head {cs : List Char} (h : cs.head? ≠ some '"') : unquoteText cs = cs := by
  simp [unquoteText, isQuotedText_eq_false h]

theorem toList_quote (s : String) : (quote s).toList = '"' :: escapeQuotes s.toList ++ ['"'] := by
  simp [quote]

@[simp] theorem unquote_quote (s : String) : unquote (quote s) = s := by
  rw [unquote, toList_quote, unquoteText_quoted, unescapeQuotes_escapeQuotes, String.ofList_toList]

theorem isWordChar_quote : isWordChar '"' = false := by
  decide +kernel

theorem head_ne_quote_of_not_needsQuotes {s : String} (h : needsQuotes s = false) :
    s.toList.head? ≠ some '"' := by
  intro head
  simp only [needsQuotes, Bool.or_eq_false_iff, Bool.not_eq_false', List.all_eq_true] at h
  simpa [isWordChar_quote] using h.2 _ (List.mem_of_head? head)

@[simp] theorem unquote_quoteIfNeeded (s : String) : unquote (quoteIfNeeded s) = s := by
  unfold quoteIfNeeded
  split
  · exact unquote_quote s
  · rename_i bare
    rw [unquote, unquoteText_of_head (head_ne_quote_of_not_needsQuotes (by simpa using bare)),
      String.ofList_toList]

/-! ## Quotes and lower-casing -/

theorem Escaped.append_plain {es cs : List Char} (plain : ∀ e ∈ es, isEscaping e = false)
    (h : Escaped cs) : Escaped (es ++ cs) := by
  induction es with
  | nil => exact h
  | cons e es ih =>
    exact .plain (plain e List.mem_cons_self) (ih fun e he => plain e (List.mem_cons_of_mem _ he))

theorem escapeQuotes_append_plain {es : List Char} (plain : ∀ e ∈ es, isEscaping e = false)
    (cs : List Char) : escapeQuotes (es ++ cs) = es ++ escapeQuotes cs := by
  induction es with
  | nil => rfl
  | cons e es ih =>
    have noQuote := (isEscaping_eq_false.1 (plain e List.mem_cons_self)).1
    simp [escapeQuotes, noQuote, ih fun e he => plain e (List.mem_cons_of_mem _ he)]

theorem Escaped.folds {cs ds : List Char} (h : Escaped cs) (folds : Folds cs ds) : Escaped ds := by
  induction h generalizing ds with
  | nil => cases folds with | nil => exact .nil
  | plain ordinary _ ih =>
    cases folds with
    | keep escaping => simp [ordinary] at escaping
    | change _ plain rest => exact (ih rest).append_plain plain
  | pair _ ih =>
    cases folds with
    | change plain => simp [isEscaping] at plain
    | keep _ rest =>
      cases rest with
      | keep _ rest => exact .pair (ih rest)
      | change _ plain rest =>
        exact .pair ((ih rest).append_plain fun e he => plain e (List.mem_cons_of_mem _ he))

theorem folds_escapeQuotes {cs ds : List Char} (folds : Folds cs ds) :
    Folds (escapeQuotes cs) (escapeQuotes ds) := by
  induction folds with
  | nil => exact .nil
  | keep escaping _ ih =>
    unfold escapeQuotes
    split
    · exact .keep (by simp [isEscaping]) (.keep (by simp [isEscaping]) ih)
    · exact .keep escaping ih
  | change plain plain' _ ih =>
    rw [escapeQuotes_append_plain plain']
    simpa [escapeQuotes, (isEscaping_eq_false.1 plain).1] using Folds.change plain plain' ih

theorem Quotable.lower {cs : List Char} (h : Quotable cs) : Quotable (Text.lower cs) :=
  Escaped.folds h (folds_escapeQuotes (Text.folds_lower cs))

/-- Lower-casing a quoted text lower-cases what is between the quotes. -/
theorem lower_quoted {cs : List Char} (h : Escaped cs) :
    ∃ ds, Escaped ds ∧ Text.lower ('"' :: cs ++ ['"']) = '"' :: ds ++ ['"'] := by
  have folds := Text.folds_lower ('"' :: cs ++ ['"'])
  generalize Text.lower ('"' :: cs ++ ['"']) = ds at folds
  cases folds with
  | change plain => simp [isEscaping] at plain
  | keep _ rest =>
    obtain ⟨a, b, rfl, ha, hb⟩ := Folds.append_inv (a := cs) (b := ['"']) rest
    cases hb with
    | change plain => simp [isEscaping] at plain
    | keep _ done => cases done with | nil => exact ⟨a, h.folds ha, rfl⟩

theorem lower_head_ne_quote {cs : List Char} (h : cs.head? ≠ some '"') :
    (Text.lower cs).head? ≠ some '"' := by
  have folds := Text.folds_lower cs
  generalize Text.lower cs = ds at folds
  cases folds with
  | nil => simp
  | keep => simpa using h
  | change _ plain' => simpa using (isEscaping_eq_false.1 (plain' _ List.mem_cons_self)).1

end ContextQuery
