import Mathlib.Data.Bool.Basic
import Mathlib.Tactic.SplitIfs
import ContextQuery.Toml.Writer

/-!
# Strings read back

Whatever characters a string holds, it reads back as it was written, in each of the forms that the
writer chooses from. A written text is taken apart character by character; between three quotes it
matters how many quotes stand right before a place, since three of them would end the string.

## Main definitions

* `Form.IsPlain`: a character stands for itself in a form.
* `Form.Spells`: a text is written in a form, after a number of quotes.

## Main results

* `quotedLine?_chooseKey`: keys between quotes read back.
* `quoted?_chooseString`: strings read back.
-/

namespace ContextQuery.Toml

variable {f : Form} {c : Char} {run : Nat} {cs w t rest : List Char}

/-! ## Characters -/

theorem isTextChar_of_not_control (h : isControl c = false) : isTextChar c = true := by
  simp only [isControl, isTextChar, Bool.or_eq_false_iff, decide_eq_false_iff_not] at h ⊢
  grind

/-- The characters that strings between double quotes hold as escapes. -/
def needsEscape (c : Char) : Bool :=
  isControl c || c = '"' || c = '\\'

/-- The character stands for itself in the form. -/
structure Form.IsPlain (f : Form) (c : Char) : Prop where
  notQuote : c ≠ f.quote
  notEscape : c = '\\' → f.escapes = false
  allowed : isTextChar c = true ∨ c = '\n' ∧ f.lines = true

namespace Form

theorem IsPlain.not_return (h : f.IsPlain c) : c ≠ '\r' := by
  rintro rfl
  obtain text | ⟨line, -⟩ := h.allowed
  · exact absurd text (by decide)
  · exact absurd line (by decide)

theorem IsPlain.step (h : f.IsPlain c) (ahead : List Char) :
    f.step .text c ahead = .next [c] .text := by
  have noReturn := h.not_return
  have escape : (c = '\\' && f.escapes) = false := by grind [h.notEscape]
  simp only [Form.step, textStep, h.notQuote, noReturn, escape, if_false, Bool.false_eq_true]
  obtain text | ⟨rfl, lines⟩ := h.allowed
  · have noLine : c ≠ '\n' := by
      rintro rfl
      exact absurd text (by decide)
    rw [if_neg noLine, if_pos text]
  · rw [if_pos rfl, if_pos lines]

theorem body_of_next {mode mode' : Mode} {text : List Char}
    (h : f.step mode c cs = .next text mode') :
    f.body mode (c :: cs) = (f.body mode' cs).map fun (more, rest) => (text ++ more, rest) := by
  rw [body, h]

theorem body_plain (h : f.IsPlain c) (cs : List Char) :
    f.body .text (c :: cs) = (f.body .text cs).map fun (more, rest) => (c :: more, rest) :=
  body_of_next (h.step cs)

/-! ## Escapes -/

theorem body_backslash (escapes : f.escapes = true) (cs : List Char) :
    f.body .text ('\\' :: cs) = f.body (.escape []) cs := by
  have quote : f.quote = '"' := by simpa [Form.escapes] using escapes
  have step : f.step .text '\\' cs = .next [] (.escape []) := by
    simp [Form.step, textStep, quote, escapes]
  rw [body_of_next step]
  cases f.body (.escape []) cs <;> rfl

theorem body_unfinished {body : List Char} (notBlank : c ≠ ' ' ∧ c ≠ '\t' ∧ c ≠ '\n' ∧ c ≠ '\r')
    (h : Escape.ofChars (body ++ [c]) = .unfinished) (cs : List Char) :
    f.body (.escape body) (c :: cs) = f.body (.escape (body ++ [c])) cs := by
  have step : f.step (.escape body) c cs = .next [] (.escape (body ++ [c])) := by
    simp [Form.step, notBlank, h]
  rw [body_of_next step]
  cases f.body (.escape (body ++ [c])) cs <;> rfl

theorem body_done {body : List Char} {r : Char}
    (notBlank : c ≠ ' ' ∧ c ≠ '\t' ∧ c ≠ '\n' ∧ c ≠ '\r')
    (h : Escape.ofChars (body ++ [c]) = .done r) (cs : List Char) :
    f.body (.escape body) (c :: cs) =
      (f.body .text cs).map fun (more, rest) => (r :: more, rest) := by
  have step : f.step (.escape body) c cs = .next [r] .text := by
    simp [Form.step, notBlank, h]
  exact body_of_next step

theorem hexDigit_not_blank (n : Nat) (h : n < 16) :
    hexDigit n ≠ ' ' ∧ hexDigit n ≠ '\t' ∧ hexDigit n ≠ '\n' ∧ hexDigit n ≠ '\r' := by
  revert n
  decide

/-- A character by its number, of which the first two digits are zero. -/
theorem body_number (small : c.toNat < 0x80) (cs : List Char) :
    f.body (.escape [])
        (['u', '0', '0', hexDigit (c.toNat / 16), hexDigit (c.toNat % 16)] ++ cs) =
      (f.body .text cs).map fun (more, rest) => (c :: more, rest) := by
  have table : ∀ n < 0x80, Escape.ofChars ['u', '0', '0', hexDigit (n / 16)] = .unfinished ∧
      Escape.ofChars ['u', '0', '0', hexDigit (n / 16), hexDigit (n % 16)] =
        .done (Char.ofNat n) := by
    decide +kernel
  obtain ⟨fourth, fifth⟩ := table c.toNat small
  rw [Char.ofNat_toNat] at fifth
  have high := hexDigit_not_blank (c.toNat / 16) (by omega)
  have low := hexDigit_not_blank (c.toNat % 16) (by omega)
  simp only [List.cons_append, List.nil_append]
  rw [body_unfinished (by decide) rfl, body_unfinished (by decide) rfl,
    body_unfinished (by decide) rfl, body_unfinished high fourth, body_done low fifth]

theorem body_escapeOf (escapes : f.escapes = true) (needed : needsEscape c = true)
    (cs : List Char) : f.body .text (escapeOf c ++ cs) =
      (f.body .text cs).map fun (more, rest) => (c :: more, rest) := by
  have letter {l : Char} (notBlank : l ≠ ' ' ∧ l ≠ '\t' ∧ l ≠ '\n' ∧ l ≠ '\r')
      (h : Escape.ofChars [l] = .done c) : f.body .text (['\\', l] ++ cs) =
        (f.body .text cs).map fun (more, rest) => (c :: more, rest) := by
    rw [List.cons_append, body_backslash escapes]
    exact body_done notBlank h cs
  unfold escapeOf
  split_ifs with h₁ h₂ h₃ h₄ h₅ h₆ h₇
  · exact letter (by decide) (by rw [h₁]; rfl)
  · exact letter (by decide) (by rw [h₂]; rfl)
  · exact letter (by decide) (by rw [h₃]; rfl)
  · exact letter (by decide) (by rw [h₄]; rfl)
  · exact letter (by decide) (by rw [h₅]; rfl)
  · exact letter (by decide) (by rw [h₆]; rfl)
  · exact letter (by decide) (by rw [h₇]; rfl)
  · have small : c.toNat < 0x80 := by
      simp only [needsEscape, isControl] at needed
      grind
    rw [List.cons_append, body_backslash escapes]
    exact body_number small cs

theorem escapeOf_eq_cons (c : Char) : ∃ w, escapeOf c = '\\' :: w := by
  unfold escapeOf
  split_ifs <;> exact ⟨_, rfl⟩

/-! ## Closing quotes -/

section Closing

variable {q : Char}

theorem closing?_first (ne : c ≠ q) : closing? q (c :: cs) = none := by
  cases cs <;> simp [closing?, ne]

theorem closing?_second {a : Char} (ne : c ≠ q) : closing? q (a :: c :: cs) = none := by
  simp [closing?, ne]

theorem closing?_two (clear : rest.head? ≠ some q) :
    closing? q (q :: q :: rest) = some ([], rest) := by
  match rest with
  | [] => simp [closing?]
  | [c] => simp_all [closing?]
  | c :: d :: after => simp_all [closing?]

theorem closing?_three (clear : rest.head? ≠ some q) :
    closing? q (q :: q :: q :: rest) = some ([q], rest) := by
  cases rest with
  | nil => simp [closing?]
  | cons d after => simp_all [closing?]

theorem closing?_four : closing? q (q :: q :: q :: q :: rest) = some ([q, q], rest) := by
  simp [closing?]

theorem body_of_closing (lines : f.lines = true) {text : List Char}
    (h : closing? f.quote cs = some (text, rest)) :
    f.body .text (f.quote :: cs) = some (text, rest) := by
  simp [body, Form.step, textStep, lines, h]

theorem body_of_open (lines : f.lines = true) (h : closing? f.quote cs = none) :
    f.body .text (f.quote :: cs) =
      (f.body .text cs).map fun (more, rest) => (f.quote :: more, rest) := by
  have step : f.step .text f.quote cs = .next [f.quote] .text := by
    simp [Form.step, textStep, lines, h]
  exact body_of_next step

end Closing

/-! ## Written texts -/

/-- The first text is the second one as it is written in the form; so many quotes stand right
before it. -/
inductive Spells (f : Form) : Nat → List Char → List Char → Prop
  | nil {run : Nat} : Spells f run [] []
  | plain {run : Nat} {c : Char} {w t : List Char} (plain : f.IsPlain c) (rest : Spells f 0 w t) :
    Spells f run (c :: w) (c :: t)
  | escape {run : Nat} {c : Char} {w t : List Char} (escapes : f.escapes = true)
    (needed : needsEscape c = true) (rest : Spells f 0 w t) :
    Spells f run (escapeOf c ++ w) (c :: t)
  | quote {run : Nat} {w t : List Char} (lines : f.lines = true) (few : run < 2)
    (rest : Spells f (run + 1) w t) : Spells f run (f.quote :: w) (f.quote :: t)

namespace Spells

/-- On one line, the text reads back up to the closing quote. -/
theorem body_line (h : f.Spells run w t) (line : f.lines = false) (rest : List Char) :
    f.body .text (w ++ f.quote :: rest) = some (t, rest) := by
  induction h with
  | nil => simp [body, Form.step, textStep, line]
  | plain plain _ ih => rw [List.cons_append, body_plain plain, ih]; rfl
  | escape escapes needed _ ih =>
    rw [List.append_assoc, body_escapeOf escapes needed, ih]
    rfl
  | quote lines => simp [line] at lines

/-- After two quotes a written text is over or goes on with another character. -/
theorem head_ne_quote (h : f.Spells run w t) (many : 2 ≤ run) :
    w = [] ∧ t = [] ∨ ∃ a w', w = a :: w' ∧ a ≠ f.quote := by
  cases h with
  | nil => exact .inl ⟨rfl, rfl⟩
  | plain plain => exact .inr ⟨_, _, rfl, plain.notQuote⟩
  | @escape _ c w _ escapes =>
    obtain ⟨w', eq⟩ := escapeOf_eq_cons c
    have quote : f.quote = '"' := by simpa [Form.escapes] using escapes
    exact .inr ⟨'\\', w' ++ w, by rw [eq]; rfl, by simp [quote]⟩
  | quote _ few => omega

/-- Over several lines, the text reads back up to the three closing quotes. -/
theorem body_lines (h : f.Spells run w t) (lines : f.lines = true)
    (clear : rest.head? ≠ some f.quote) :
    f.body .text (w ++ f.quote :: f.quote :: f.quote :: rest) = some (t, rest) := by
  induction h with
  | nil => exact body_of_closing lines (closing?_two clear)
  | plain plain _ ih => rw [List.cons_append, body_plain plain, ih]; rfl
  | escape escapes needed _ ih =>
    rw [List.append_assoc, body_escapeOf escapes needed, ih]
    rfl
  | @quote run w t _ few more ih =>
    -- A quote ends the string just if two more follow, and then the last three of them end it.
    have goesOn (open' : closing? f.quote (w ++ f.quote :: f.quote :: f.quote :: rest) = none) :
        f.body .text (f.quote :: w ++ f.quote :: f.quote :: f.quote :: rest) =
          some (f.quote :: t, rest) := by
      rw [List.cons_append, body_of_open lines open', ih]
      rfl
    cases more with
    | nil => exact body_of_closing lines (closing?_three clear)
    | plain plain => exact goesOn (closing?_first plain.notQuote)
    | @escape _ c w _ escapes =>
      obtain ⟨w', eq⟩ := escapeOf_eq_cons c
      have quote : f.quote = '"' := by simpa [Form.escapes] using escapes
      refine goesOn ?_
      rw [eq]
      exact closing?_first (by simp [quote])
    | quote _ _ last =>
      obtain ⟨rfl, rfl⟩ | ⟨a, w', rfl, ne⟩ := last.head_ne_quote (by omega)
      · exact body_of_closing lines closing?_four
      · exact goesOn (closing?_second ne)

/-- No written text starts with a carriage return. -/
theorem head_ne_return (h : f.Spells run w t) (quote : f.quote ≠ '\r') :
    w.head? ≠ some '\r' := by
  cases h with
  | nil => simp
  | plain plain => simpa using plain.not_return
  | @escape _ c =>
    obtain ⟨w', eq⟩ := escapeOf_eq_cons c
    simp [eq]
  | quote => simpa using quote

end Spells

/-! ## Choices -/

/-- A text without special characters is written as it is. -/
theorem spells_plain (h : ∀ c ∈ t, f.IsPlain c) : f.Spells run t t := by
  induction t generalizing run with
  | nil => exact .nil
  | cons c t ih =>
    obtain ⟨plain, h⟩ := List.forall_mem_cons.1 h
    exact .plain plain (ih h)

theorem le_longestRun (c : Char) (run : Nat) (cs : List Char) : run ≤ longestRun c run cs := by
  induction cs generalizing run with
  | nil => exact Nat.le_refl run
  | cons d cs ih =>
    unfold longestRun
    split
    · exact Nat.le_trans (Nat.le_succ run) (ih (run + 1))
    · exact Nat.le_max_left _ _

/-- A text without long runs of quotes is written as it is, between three of them. -/
theorem spells_lines (lines : f.lines = true) (h : ∀ c ∈ t, c ≠ f.quote → f.IsPlain c)
    (short : longestRun f.quote run t ≤ 2) : f.Spells run t t := by
  induction t generalizing run with
  | nil => exact .nil
  | cons c t ih =>
    obtain ⟨plain, h⟩ := List.forall_mem_cons.1 h
    by_cases quote : c = f.quote
    · have short : longestRun f.quote (run + 1) t ≤ 2 := by
        simpa [longestRun, quote] using short
      have few := Nat.le_trans (le_longestRun f.quote (run + 1) t) short
      rw [quote]
      exact .quote lines (by omega) (ih h short)
    · have short : run ≤ 2 ∧ longestRun f.quote 0 t ≤ 2 := by
        simpa [longestRun, quote, Nat.max_le] using short
      exact .plain (plain quote) (ih h short.2)

theorem isPlain_double {lines : Bool} (allowed : isControl c = false ∨ c = '\n' ∧ lines = true)
    (notQuote : c ≠ '"') (notEscape : c ≠ '\\') : IsPlain ⟨'"', lines⟩ c :=
  ⟨notQuote, fun eq => absurd eq notEscape, allowed.imp isTextChar_of_not_control id⟩

theorem isPlain_single {lines : Bool} (allowed : isControl c = false ∨ c = '\n' ∧ lines = true)
    (notQuote : c ≠ '\x27') : IsPlain ⟨'\x27', lines⟩ c :=
  ⟨notQuote, fun _ => rfl, allowed.imp isTextChar_of_not_control id⟩

theorem spells_escapeLine (text : List Char) : Spells ⟨'"', false⟩ run (escapeLine text) text := by
  induction text generalizing run with
  | nil => exact .nil
  | cons c text ih =>
    change Spells _ _ ((if needsEscape c then escapeOf c else [c]) ++ escapeLine text) _
    split
    · rename_i needed
      exact .escape rfl needed ih
    · rename_i plain
      simp only [needsEscape, Bool.or_eq_true, decide_eq_true_eq, not_or] at plain
      exact .plain (isPlain_double (by simp [plain]) plain.1.2 plain.2) ih

theorem spells_escapeLines (few : run ≤ 2) (text : List Char) :
    Spells ⟨'"', true⟩ run (escapeLines run text) text := by
  induction text generalizing run with
  | nil => exact .nil
  | cons c text ih =>
    have again : Spells ⟨'"', true⟩ 0 (escapeLines 0 text) text := ih (by omega)
    unfold escapeLines
    split_ifs with quote third line special
    · subst quote
      exact .escape rfl rfl again
    · subst quote
      exact .quote rfl (by omega) (ih (by omega))
    · subst line
      exact .plain ⟨by decide, by decide, .inr ⟨rfl, rfl⟩⟩ again
    · refine .escape rfl ?_ again
      simp only [needsEscape]
      grind
    · simp only [Bool.or_eq_true, decide_eq_true_eq, not_or] at special
      exact .plain (isPlain_double (by simp [special]) quote special.2) again

end Form

/-! ## Strings -/

section Strings

variable {quote : Char}

theorem quotedLine?_of_spells (isQuote : quote = '"' ∨ quote = '\x27')
    (h : (Form.mk quote false).Spells run w t) (rest : List Char) :
    quotedLine? ((Written.line quote w).chars ++ rest) = some (String.ofList t, rest) := by
  have read := h.body_line rfl rest
  have closed : (quote = '"' || quote = '\x27') = true := by simpa using isQuote
  simp only [Written.chars, List.cons_append, List.append_assoc, List.nil_append, quotedLine?,
    closed, if_true]
  rw [read]
  rfl

/-- Only an empty text has two quotes at its front, and no third one. -/
theorem opening?_line (h : (Form.mk quote false).Spells 2 w t) (clear : rest.head? ≠ some quote) :
    opening? (quote :: (w ++ quote :: rest)) = none := by
  obtain ⟨rfl, -⟩ | ⟨a, w', rfl, ne⟩ := h.head_ne_quote (Nat.le_refl 2)
  · cases rest <;> simp_all [opening?]
  · cases w' <;> simp_all [opening?]

theorem quoted?_of_line (isQuote : quote = '"' ∨ quote = '\x27')
    (h : (Form.mk quote false).Spells 2 w t) (clear : rest.head? ≠ some quote) :
    quoted? ((Written.line quote w).chars ++ rest) = some (String.ofList t, rest) := by
  have line : opening? ((Written.line quote w).chars ++ rest) = none := by
    simpa [Written.chars] using opening?_line h clear
  rw [quoted?, line]
  exact quotedLine?_of_spells isQuote h rest

theorem dropLineEnd_eq (line : cs.head? ≠ some '\n') (ret : cs.head? ≠ some '\r') :
    dropLineEnd cs = cs := by
  unfold dropLineEnd
  split <;> simp_all

theorem quoted?_of_lines (isQuote : quote = '"' ∨ quote = '\x27')
    (h : (Form.mk quote true).Spells 0 w t) (clear : rest.head? ≠ some quote) :
    quoted? ((Written.lines quote w).chars ++ rest) = some (String.ofList t, rest) := by
  have read := h.body_lines rfl clear
  have opened : opening? ((Written.lines quote w).chars ++ rest) =
      some (quote, (if w.contains '\n' then ['\n'] else []) ++ w ++
        quote :: quote :: quote :: rest) := by
    obtain rfl | rfl := isQuote <;> simp [Written.chars, opening?]
  have dropped : dropLineEnd ((if w.contains '\n' then ['\n'] else []) ++ w ++
      quote :: quote :: quote :: rest) = w ++ quote :: quote :: quote :: rest := by
    split
    · rfl
    · rename_i noLine
      have notReturn : quote ≠ '\r' := by rintro rfl; simp at isQuote
      have notLine : quote ≠ '\n' := by rintro rfl; simp at isQuote
      have ret := h.head_ne_return notReturn
      have line : w.head? ≠ some '\n' := fun eq => noLine (by simp [List.mem_of_mem_head? eq])
      refine dropLineEnd_eq ?_ ?_ <;> cases w <;> simp_all
  rw [quoted?, opened]
  dsimp only
  rw [dropped, read]
  rfl

end Strings

/-- A key between quotes reads back, whatever follows it. -/
theorem quotedLine?_chooseKey (text rest : List Char) :
    quotedLine? ((chooseKey text).chars ++ rest) = some (String.ofList text, rest) := by
  unfold chooseKey
  split_ifs with double single
  · have each : ∀ c ∈ text, (isControl c = false ∧ c ≠ '"') ∧ c ≠ '\\' := by simpa using double
    have spells : Form.Spells ⟨'"', false⟩ 0 text text := Form.spells_plain fun c mem =>
      Form.isPlain_double (.inl (each c mem).1.1) (each c mem).1.2 (each c mem).2
    exact quotedLine?_of_spells (.inl rfl) spells rest
  · have each : ∀ c ∈ text, isControl c = false ∧ c ≠ '\x27' := by simpa using single
    have spells : Form.Spells ⟨'\x27', false⟩ 0 text text := Form.spells_plain fun c mem =>
      Form.isPlain_single (.inl (each c mem).1) (each c mem).2
    exact quotedLine?_of_spells (.inr rfl) spells rest
  · have spells : Form.Spells ⟨'"', false⟩ 0 (escapeLine text) text := Form.spells_escapeLine text
    exact quotedLine?_of_spells (.inl rfl) spells rest

/-- A string reads back, unless a quote follows it. -/
theorem quoted?_chooseString (text : List Char) (double : rest.head? ≠ some '"')
    (single : rest.head? ≠ some '\x27') :
    quoted? ((chooseString text).chars ++ rest) = some (String.ofList text, rest) := by
  unfold chooseString
  dsimp only
  generalize hasControl : (text.any fun c => isControl c && c ≠ '\n') = control
  have tame (none : control = false) : ∀ c ∈ text, isControl c = false ∨ c = '\n' := by
    subst none
    intro c mem
    have plain := List.any_eq_false.1 hasControl c mem
    grind
  have absent {c d : Char} (mem : c ∈ text) (other : d ∉ text) : c ≠ d := fun eq => other (eq ▸ mem)
  split_ifs with h₁ h₂ h₃ h₄ h₅
  · obtain ⟨⟨⟨none, noLine⟩, noQuote⟩, noEscape⟩ :
        ((control = false ∧ '\n' ∉ text) ∧ '"' ∉ text) ∧ '\\' ∉ text := by simpa using h₁
    have spells : Form.Spells ⟨'"', false⟩ 2 text text := Form.spells_plain fun c mem =>
      Form.isPlain_double (.inl ((tame none c mem).resolve_right (absent mem noLine)))
        (absent mem noQuote) (absent mem noEscape)
    exact quoted?_of_line (.inl rfl) spells double
  · obtain ⟨⟨none, noLine⟩, noQuote⟩ : (control = false ∧ '\n' ∉ text) ∧ '\x27' ∉ text := by
      simpa using h₂
    have spells : Form.Spells ⟨'\x27', false⟩ 2 text text := Form.spells_plain fun c mem =>
      Form.isPlain_single (.inl ((tame none c mem).resolve_right (absent mem noLine)))
        (absent mem noQuote)
    exact quoted?_of_line (.inr rfl) spells single
  · obtain ⟨⟨none, noEscape⟩, short⟩ :
        (control = false ∧ '\\' ∉ text) ∧ longestRun '"' 0 text ≤ 2 := by simpa using h₃
    have plain (c : Char) (mem : c ∈ text) (other : c ≠ '"') : Form.IsPlain ⟨'"', true⟩ c :=
      Form.isPlain_double ((tame none c mem).imp_right (⟨·, rfl⟩)) other (absent mem noEscape)
    have spells : Form.Spells ⟨'"', true⟩ 0 text text := Form.spells_lines rfl plain short
    exact quoted?_of_lines (.inl rfl) spells double
  · obtain ⟨none, short⟩ : control = false ∧ longestRun '\x27' 0 text ≤ 2 := by simpa using h₄
    have plain (c : Char) (mem : c ∈ text) (other : c ≠ '\x27') : Form.IsPlain ⟨'\x27', true⟩ c :=
      Form.isPlain_single ((tame none c mem).imp_right (⟨·, rfl⟩)) other
    have spells : Form.Spells ⟨'\x27', true⟩ 0 text text := Form.spells_lines rfl plain short
    exact quoted?_of_lines (.inr rfl) spells single
  · exact quoted?_of_lines (.inl rfl) (Form.spells_escapeLines (by omega) text) double
  · exact quoted?_of_line (.inl rfl) (Form.spells_escapeLine text) double

end ContextQuery.Toml
