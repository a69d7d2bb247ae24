import ContextQuery.Highlight
import ContextQuery.Proofs.Token.Tokenization

/-!
# Highlighting loses nothing

A highlighted text is put together from slices of the text, taken at the positions of its tokens.
The positions come from a cut of the text, so each slice begins and ends between two characters of
it, and the slices make up the whole. All else in the result are escape sequences.

## Main results

* `cut?_eq_some_iff`: where a text can be split.
* `Highlight.paint_of_cut`: the tokens of a cut are painted, and only escape sequences are added.
* `highlight_lossless`: highlighting any text.
-/

namespace ContextQuery

/-! ## Slices -/

/-- A text is split at a number of bytes just if some of its characters take so many bytes. -/
theorem cut?_eq_some_iff {n : Nat} {cs before after : List Char} :
    cut? n cs = some (before, after) ↔ cs = before ++ after ∧ byteLength before = n := by
  constructor
  · intro h
    fun_induction cut? n cs generalizing before with
    | case1 cs =>
      cases h
      exact ⟨rfl, rfl⟩
    | case2 => cases h
    | case3 n c cs fits ih =>
      obtain ⟨⟨before, after⟩, split, ⟨⟩⟩ := Option.map_eq_some_iff.1 h
      obtain ⟨rfl, length⟩ := ih split
      refine ⟨rfl, ?_⟩
      rw [byteLength, length]
      omega
    | case4 => cases h
  · rintro ⟨rfl, rfl⟩
    induction before with
    | nil => simp [byteLength, cut?]
    | cons c before ih =>
      have positive := c.utf8Size_pos
      obtain ⟨n, eq⟩ : ∃ n, byteLength (c :: before) = n + 1 :=
        ⟨byteLength (c :: before) - 1, by rw [byteLength]; omega⟩
      rw [byteLength] at eq
      rw [byteLength, eq, List.cons_append, cut?, if_pos (by omega)]
      rw [show n + 1 - c.utf8Size = byteLength before by omega, ih]
      rfl

theorem cut?_append (before after : List Char) :
    cut? (byteLength before) (before ++ after) = some (before, after) :=
  cut?_eq_some_iff.2 ⟨rfl, rfl⟩

/-! ## Escape sequences -/

namespace Terminal

theorem dropSequences_append {cs : List Char} (plain : '\x1b' ∉ cs) (rest : List Char) :
    dropSequences false (cs ++ rest) = cs ++ dropSequences false rest := by
  induction cs with
  | nil => rfl
  | cons c cs ih =>
    simp only [List.mem_cons, not_or] at plain
    have ordinary : c ≠ '\x1b' := Ne.symm plain.1
    rw [List.cons_append, dropSequences, if_neg ordinary, ih plain.2, List.cons_append]

theorem dropSequences_eq_self {cs : List Char} (plain : '\x1b' ∉ cs) :
    dropSequences false cs = cs := by
  have whole := dropSequences_append plain []
  rwa [List.append_nil, dropSequences, List.append_nil] at whole

@[simp] theorem dropSequences_sequence (style : Style) (rest : List Char) :
    dropSequences false (style.sequence.toList ++ rest) = dropSequences false rest := by
  cases style <;> rfl

@[simp] theorem dropSequences_reset (rest : List Char) :
    dropSequences false (reset.toList ++ rest) = dropSequences false rest := rfl

/-- A style adds escape sequences only. -/
theorem dropSequences_apply {text : String} (plain : '\x1b' ∉ text.toList) (style : Style)
    (rest : List Char) :
    dropSequences false ((style.apply text).toList ++ rest) =
      text.toList ++ dropSequences false rest := by
  simp only [Style.apply, String.toList_append, List.append_assoc, dropSequences_sequence]
  rw [dropSequences_append plain, dropSequences_reset]

end Terminal

/-! ## Painting -/

namespace Highlight

open Terminal Token

theorem dropSequences_styled {t : Token} (plain : '\x1b' ∉ t.text.toList) (rest : List Char) :
    dropSequences false ((styled t).toList ++ rest) =
      t.text.toList ++ dropSequences false rest := by
  unfold styled
  split
  · exact dropSequences_apply plain _ rest
  · exact dropSequences_append plain rest

/-- The tokens of a cut can be painted, and what is added are escape sequences. -/
theorem paint_of_cut {position : Nat} {cs rest : List Char} {ts : List Token}
    (h : Cut position cs ts rest) : ∃ painted, paint? position cs ts = some painted ∧
      ('\x1b' ∉ cs → dropSequences false painted = cs) := by
  induction h with
  | done => exact ⟨_, rfl, dropSequences_eq_self⟩
  | @token position gap text after rest kind ts _ _ _ ih =>
    obtain ⟨painted, paints, drops⟩ := ih
    let t : Token := ⟨kind, String.ofList text, position + byteLength gap⟩
    refine ⟨gap ++ (styled t).toList ++ painted, ?_, fun plain => ?_⟩
    · have ahead : ¬position + byteLength gap < position := by omega
      have skipped : position + byteLength gap - position = byteLength gap := by omega
      simp only [paint?, ahead, if_false, skipped, String.toList_ofList, cut?_append, paints,
        Option.bind_eq_bind, Option.bind_some, t]
    · simp only [List.mem_append, not_or] at plain
      obtain ⟨plain_gap, plain_text, plain_after⟩ := plain
      have plain_token : '\x1b' ∉ t.text.toList := by rwa [String.toList_ofList]
      rw [List.append_assoc, dropSequences_append plain_gap, dropSequences_styled plain_token,
        drops plain_after, String.toList_ofList]

end Highlight

open Token TokenStream

variable {text : String} {ts : List Token} {rest : List Char}

theorem highlight_of_cut (cut : Cut 0 text.toList ts []) :
    ∃ painted, Highlight.paint? 0 text.toList ts = some painted ∧
      highlight text = String.ofList painted := by
  obtain ⟨painted, paints, -⟩ := Highlight.paint_of_cut cut
  refine ⟨painted, paints, ?_⟩
  simp only [highlight, ofText_of_cut cut (.inl rfl), leftOpen, List.isEmpty_nil, if_true, paints]

theorem highlight_of_unclosed (cut : Cut 0 text.toList ts rest) (unclosed : Unclosed rest) :
    highlight text = text := by
  simp only [highlight, ofText_of_cut cut (.inr unclosed), leftOpen_of_unclosed unclosed]

/-- Dropping the escape sequences of a highlighted text gives it back. -/
theorem plain_highlight (plain : '\x1b' ∉ text.toList) :
    Terminal.plain (highlight text) = text := by
  obtain ⟨rest, cut, rfl | unclosed, -⟩ := cut_scan 0 text.toList
  · obtain ⟨painted, paints, drops⟩ := Highlight.paint_of_cut cut
    obtain ⟨_, paints', eq⟩ := highlight_of_cut cut
    cases paints.symm.trans paints'
    rw [eq, Terminal.plain, String.toList_ofList, drops plain, String.ofList_toList]
  · rw [highlight_of_unclosed cut unclosed, Terminal.plain, Terminal.dropSequences_eq_self plain,
      String.ofList_toList]

/-- Highlighting never slices a text past its end or inside a character, since all tokens can be
painted; if the text has no escape character, dropping the escape sequences of the highlighted text
gives it back; and a text that cannot be cut into tokens stays as it is. -/
theorem highlight_lossless (text : String) :
    (∀ ts mark, tokenize text = .ok (ts ++ [mark]) →
      ∃ painted, Highlight.paint? 0 text.toList ts = some painted ∧
        highlight text = String.ofList painted) ∧
    ('\x1b' ∉ text.toList → Terminal.plain (highlight text) = text) ∧
    ∀ d, tokenize text = .error d → highlight text = text := by
  refine ⟨fun ts mark tokens => ?_, plain_highlight, fun d refused => ?_⟩
  · obtain ⟨body, cut, eq⟩ := tokenize_eq_ok_iff.1 tokens
    obtain ⟨rfl, -⟩ := List.append_inj' eq rfl
    exact highlight_of_cut cut
  · obtain ⟨_, _, cut, unclosed, -⟩ := tokenize_eq_error_iff.1 refused
    exact highlight_of_unclosed cut unclosed

/-- A connective between letters of two bytes, and a string that is left open. -/
theorem highlight_lossless_wide :
    (∃ ts mark, tokenize "é AND \"ü\"" = .ok (ts ++ [mark]) ∧
      ∃ painted, Highlight.paint? 0 "é AND \"ü\"".toList ts = some painted ∧
        highlight "é AND \"ü\"" = String.ofList painted) ∧
    ('\x1b' ∉ "é AND \"ü\"".toList ∧
      Terminal.plain (highlight "é AND \"ü\"") = "é AND \"ü\"") ∧
    ∃ d, tokenize "é \"ü" = .error d ∧ highlight "é \"ü" = "é \"ü" := by
  obtain ⟨painted, drops, -⟩ := highlight_lossless "é AND \"ü\""
  obtain ⟨-, -, unchanged⟩ := highlight_lossless "é \"ü"
  have cut : Cut 0 "é AND \"ü\"".toList
      [⟨.word, "é", 0⟩, ⟨.word, "AND", 3⟩, ⟨.quoted, "\"ü\"", 7⟩] [] :=
    (scan_eq_iff.1 (by decide +kernel)).1
  have tokens := tokenize_eq_ok_iff.2 ⟨_, cut, rfl⟩
  obtain ⟨open_cut, final⟩ : Cut 0 "é \"ü".toList [⟨.word, "é", 0⟩] ['"', 'ü'] ∧ Final _ :=
    scan_eq_iff.1 (by decide +kernel)
  have unclosed := final.resolve_left (List.cons_ne_nil _ _)
  have refused := tokenize_eq_error_iff.2 ⟨_, _, open_cut, unclosed, rfl⟩
  have plain : '\x1b' ∉ "é AND \"ü\"".toList := by decide
  exact ⟨⟨_, _, tokens, painted _ _ tokens⟩, ⟨plain, drops plain⟩, _, refused, unchanged _ refused⟩

end ContextQuery
