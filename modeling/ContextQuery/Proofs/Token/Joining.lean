import ContextQuery.Proofs.Token.Tokenization

/-!
# Texts that are joined

A text that is put somewhere else has the same tokens at other places, and a text that a blank or a
parenthesis follows has the tokens that it has on its own. So the tokens of texts that are joined
are those of the texts, one after the other, except for where they stand.

## Main definitions

* `Token.unplaced`: a token without its place.
* `Token.Separates`: no token goes on with a text.
* `Token.CutAnywhere`: the tokens of a text wherever it starts.

## Main results

* `TokenStream.ofText_spaced`, `TokenStream.ofText_enclosed`: a text before another one, without
  and with parentheses around it.
-/

namespace ContextQuery

namespace Token

/-- The token as it stands at the front of a text. -/
abbrev unplaced (t : Token) : Token :=
  { t with position := 0 }

/-- No token in front of the characters goes on with them. -/
def Separates (cs : List Char) : Prop :=
  endsWord cs = true ∧ cs.head? ≠ some '=' ∧ cs.head? ≠ some '>'

theorem separates_of_mark {c : Char} (mark : c = ' ' ∨ c = ')') (cs : List Char) :
    Separates (c :: cs) := by
  have stop : continuesWord c = false := by
    rcases mark with rfl | rfl <;> decide +kernel
  refine ⟨by simp [endsWord, stop], ?_⟩
  rcases mark with rfl | rfl <;> simp

/-- A token is as long as it is before other characters that it does not go on with. -/
theorem Shape.append {kind : Kind} {text after more : List Char} (h : Shape kind text after)
    (separates : Separates more) : Shape kind text (after ++ more) := by
  cases h with
  | word starts continues ends =>
    refine .word starts continues ?_
    cases after with
    | nil => exact separates.1
    | cons => exact ends
  | quoted escaped => exact .quoted escaped
  | @comparison s _ longest =>
    cases after with
    | nil => exact shape_sign s separates.2
    | cons c after =>
      have shape : Shape .comparison s.sign.toList (c :: after) := .comparison longest
      rcases s.sign_cases with ⟨_, -, eq⟩ | ⟨_, _, -, eq⟩ <;> rw [eq] at shape ⊢
      · have stop := (shape_single_iff eq).1 shape
        exact (shape_single_iff eq).2 stop
      · exact .pair (extendsSign_iff.2 ⟨s, eq⟩) _
  | leftParen => exact .leftParen
  | rightParen => exact .rightParen
  | slash => exact .slash
  | other visible noWord unmarked => exact .other visible noWord unmarked

variable {position : Nat} {cs rest : List Char} {ts : List Token}

/-- A text that leaves nothing over, before another one. -/
theorem Cut.append {more : List Char} {ts' : List Token} (h : Cut position cs ts [])
    (separates : Separates more) (h' : Cut (position + byteLength cs) more ts' rest) :
    Cut position (cs ++ more) (ts ++ ts') rest := by
  generalize nothing : [] = left at h
  induction h with
  | done blank =>
    subst nothing
    rw [List.append_nil] at h' ⊢
    exact .blank _ blank h'
  | @token position gap text after _ kind ts blank shape _ ih =>
    rw [byteLength_append, byteLength_append, ← Nat.add_assoc, ← Nat.add_assoc] at h'
    rw [List.append_assoc, List.append_assoc]
    exact .token blank (shape.append separates) (ih h' nothing)

/-- The characters are cut into the tokens wherever they start, if their places do not count. -/
def CutAnywhere (cs : List Char) (ts : List Token) (rest : List Char) : Prop :=
  ∀ position, ∃ ts', ts'.map Token.unplaced = ts ∧ Cut position cs ts' rest

/-- A text that is put somewhere else has the same tokens. -/
theorem Cut.anywhere (h : Cut position cs ts rest) :
    CutAnywhere cs (ts.map Token.unplaced) rest := by
  induction h with
  | done blank => exact fun p => ⟨[], rfl, .done blank⟩
  | @token _ gap text _ _ _ _ blank shape _ ih =>
    intro p
    obtain ⟨ts', same, more⟩ := ih (p + byteLength gap + byteLength text)
    exact ⟨_ :: ts', by rw [List.map_cons, List.map_cons, same], .token blank shape more⟩

namespace CutAnywhere

theorem nil : CutAnywhere [] [] [] :=
  fun position => ⟨[], rfl, .refl position []⟩

theorem cons {kind : Kind} {text : List Char} (shape : Shape kind text cs)
    (h : CutAnywhere cs ts rest) :
    CutAnywhere (text ++ cs) (⟨kind, String.ofList text, 0⟩ :: ts) rest := by
  intro p
  obtain ⟨ts', rfl, cut⟩ := h (p + byteLength text)
  exact ⟨_, rfl, .cons shape cut⟩

theorem gap {ws : List Char} (blank : ∀ c ∈ ws, Text.isBlank c = true)
    (h : CutAnywhere cs ts rest) : CutAnywhere (ws ++ cs) ts rest := by
  intro p
  obtain ⟨ts', same, cut⟩ := h (p + byteLength ws)
  exact ⟨ts', same, .blank ws blank cut⟩

theorem blank (h : CutAnywhere cs ts rest) : CutAnywhere (' ' :: cs) ts rest :=
  gap (by decide : ∀ c ∈ [' '], Text.isBlank c = true) h

theorem append {more : List Char} {ts' : List Token} (h : CutAnywhere cs ts [])
    (separates : Separates more) (h' : CutAnywhere more ts' rest) :
    CutAnywhere (cs ++ more) (ts ++ ts') rest := by
  intro p
  obtain ⟨us, rfl, cut⟩ := h p
  obtain ⟨us', rfl, cut'⟩ := h' (p + byteLength cs)
  exact ⟨us ++ us', List.map_append, cut.append separates cut'⟩

end CutAnywhere

end Token

namespace TokenStream

open Token

theorem cutAnywhere_ofText (text : String) : ∃ rest,
    CutAnywhere text.toList ((ofText text).tokens.map Token.unplaced) rest ∧ Final rest ∧
      (ofText text).unclosed = leftOpen rest := by
  obtain ⟨rest, cut, final, isOpen⟩ := cut_scan 0 text.toList
  exact ⟨rest, cut.anywhere, final, isOpen⟩

/-- A text whose strings are closed leaves nothing over. -/
theorem cutAnywhere_of_closed {text : String} (closed : (ofText text).unclosed = none) :
    CutAnywhere text.toList ((ofText text).tokens.map Token.unplaced) [] := by
  obtain ⟨rest, cut, -, isOpen⟩ := cutAnywhere_ofText text
  obtain rfl : rest = [] := by
    rw [← elim_leftOpen rest, ← isOpen, closed]
    rfl
  exact cut

theorem ofText_of_cutAnywhere {text : String} {ts : List Token} {rest : List Char}
    (h : CutAnywhere text.toList ts rest) (final : Final rest) :
    (ofText text).tokens.map Token.unplaced = ts ∧ (ofText text).unclosed = leftOpen rest := by
  obtain ⟨ts', rfl, cut⟩ := h 0
  rw [ofText_of_cut cut final]
  exact ⟨rfl, rfl⟩

/-- The tokens of two texts with a blank between them. -/
theorem ofText_spaced {q : String} (closed : (ofText q).unclosed = none) (r : String) :
    (ofText (q ++ " " ++ r)).tokens.map Token.unplaced =
        (ofText q).tokens.map Token.unplaced ++ (ofText r).tokens.map Token.unplaced ∧
      (ofText (q ++ " " ++ r)).unclosed = (ofText r).unclosed := by
  obtain ⟨rest, after, final, isOpen⟩ := cutAnywhere_ofText r
  rw [isOpen]
  refine ofText_of_cutAnywhere ?_ final
  have cut := (cutAnywhere_of_closed closed).append (separates_of_mark (.inl rfl) _) after.blank
  simpa using cut

/-- The tokens of two texts, the first one in parentheses. -/
theorem ofText_enclosed {q : String} (closed : (ofText q).unclosed = none) (r : String) :
    (ofText ("(" ++ q ++ ") " ++ r)).tokens.map Token.unplaced =
        ⟨.leftParen, "(", 0⟩ :: ((ofText q).tokens.map Token.unplaced ++
          ⟨.rightParen, ")", 0⟩ :: (ofText r).tokens.map Token.unplaced) ∧
      (ofText ("(" ++ q ++ ") " ++ r)).unclosed = (ofText r).unclosed := by
  obtain ⟨rest, after, final, isOpen⟩ := cutAnywhere_ofText r
  rw [isOpen]
  refine ofText_of_cutAnywhere ?_ final
  have enclosed := (cutAnywhere_of_closed closed).append (separates_of_mark (.inr rfl) _)
    (after.blank.cons .rightParen)
  have cut := enclosed.cons .leftParen
  simpa using cut

end TokenStream

end ContextQuery
