import ContextQuery.Proofs.Token.Shape

/-!
# The tokens of a text

Which tokens a text has, without a lexer: the text is cut into tokens with blanks between them, and
no token could be longer. There is one such cut. It may stop at a string that is never closed, which
the lexer refuses; then, as after the last token, it answers with the end mark for good.

## Main definitions

* `Token.Cut`: a text is cut into tokens, up to what is left over.
* `Token.Final`: what may be left over in the end.

## Main results

* `TokenStream.scan_eq_iff`: the lexer finds the cut.
* `tokenize_longest`: the tokens, the refusals and the answers of the lexer.
-/

namespace ContextQuery

/-! ## Bytes -/

theorem byteLength_eq_utf8ByteSize (cs : List Char) :
    byteLength cs = (String.ofList cs).utf8ByteSize := by
  induction cs with
  | nil => rfl
  | cons c cs ih =>
    have split : String.ofList (c :: cs) = String.singleton c ++ String.ofList cs := by simp
    rw [split, String.utf8ByteSize_append, String.utf8ByteSize_singleton, ← ih]
    rfl

theorem byteLength_append (cs ds : List Char) :
    byteLength (cs ++ ds) = byteLength cs + byteLength ds := by
  rw [byteLength_eq_utf8ByteSize, String.ofList_append, String.utf8ByteSize_append,
    byteLength_eq_utf8ByteSize, byteLength_eq_utf8ByteSize]

theorem length_le_byteLength (cs : List Char) : cs.length ≤ byteLength cs := by
  induction cs with
  | nil => simp
  | cons c cs ih =>
    have := c.utf8Size_pos
    simp only [byteLength, List.length_cons]
    omega

namespace Token

/-! ## Cuts -/

/-- From byte `position` on the characters are tokens with blanks before them, and then others that
are left over. -/
inductive Cut : Nat → List Char → List Token → List Char → Prop where
  | done {position : Nat} {gap rest : List Char} (blank : ∀ c ∈ gap, Text.isBlank c = true) :
      Cut position (gap ++ rest) [] rest
  | token {position : Nat} {gap text after rest : List Char} {kind : Kind} {ts : List Token}
      (blank : ∀ c ∈ gap, Text.isBlank c = true) (shape : Shape kind text after)
      (more : Cut (position + byteLength gap + byteLength text) after ts rest) :
      Cut position (gap ++ (text ++ after))
        (⟨kind, String.ofList text, position + byteLength gap⟩ :: ts) rest

/-- Nothing is left over but a string that is not closed. -/
def Final (rest : List Char) : Prop :=
  rest = [] ∨ Unclosed rest

variable {position : Nat} {cs rest : List Char} {ts : List Token}

theorem Cut.refl (position : Nat) (rest : List Char) : Cut position rest [] rest :=
  @Cut.done position [] rest nofun

theorem Cut.cons {text after : List Char} {kind : Kind} (shape : Shape kind text after)
    (more : Cut (position + byteLength text) after ts rest) :
    Cut position (text ++ after) (⟨kind, String.ofList text, position⟩ :: ts) rest :=
  @Cut.token position [] text after rest kind ts nofun shape more

/-- Blanks in front of a text only move it on. -/
theorem Cut.blank (gap : List Char) (blank : ∀ c ∈ gap, Text.isBlank c = true)
    (h : Cut (position + byteLength gap) cs ts rest) : Cut position (gap ++ cs) ts rest := by
  -- As a variable, the start can be matched with that of either constructor.
  generalize start : position + byteLength gap = p at h
  have blanks {gap' : List Char} (blank' : ∀ c ∈ gap', Text.isBlank c = true) :
      ∀ c ∈ gap ++ gap', Text.isBlank c = true := by
    intro c mem
    rcases List.mem_append.1 mem with mem | mem
    · exact blank c mem
    · exact blank' c mem
  cases h with
  | done blank' =>
    rw [← List.append_assoc]
    exact .done (blanks blank')
  | @token _ gap' text after _ kind ts blank' shape more =>
    have moved : p + byteLength gap' = position + byteLength (gap ++ gap') := by
      rw [byteLength_append]
      omega
    rw [moved] at more ⊢
    rw [← List.append_assoc]
    exact .token (blanks blank') shape more

/-- Each token is the part of the text at its position. -/
theorem Cut.slice (h : Cut position cs ts rest) : ∀ t ∈ ts, ∃ before after,
    cs = before ++ t.text.toList ++ after ∧ t.position = position + byteLength before := by
  induction h with
  | done => simp
  | @token position gap text after rest kind ts _ _ _ ih =>
    refine List.forall_mem_cons.2 ⟨⟨gap, after, by simp, rfl⟩, fun t mem => ?_⟩
    obtain ⟨before, after', rfl, starts⟩ := ih t mem
    refine ⟨gap ++ text ++ before, after', by simp, ?_⟩
    rw [starts, byteLength_append, byteLength_append]
    omega

/-- Each token starts behind the one before it. -/
theorem Cut.ordered (h : Cut position cs ts rest) :
    ts.Pairwise fun t t' => t.position < t'.position := by
  induction h with
  | done => exact .nil
  | token _ shape more ih =>
    refine .cons (fun t mem => ?_) ih
    obtain ⟨before, after', -, starts⟩ := more.slice t mem
    obtain ⟨c, body, rfl, -⟩ := shape.first
    have wide := length_le_byteLength (c :: body)
    rw [List.length_cons] at wide
    rw [starts]
    dsimp only
    omega

/-- What is left over stands at the end of the text. -/
theorem Cut.suffix (h : Cut position cs ts rest) : rest <:+ cs := by
  induction h with
  | done => exact List.suffix_append _ _
  | token _ _ _ ih => exact (ih.trans (List.suffix_append _ _)).trans (List.suffix_append _ _)

end Token

namespace TokenStream

open Token

/-! ## The lexer finds the cut -/

/-- The string that is left open. -/
def leftOpen (rest : List Char) : Option String :=
  if rest.isEmpty then none else some (String.ofList rest)

theorem elim_leftOpen (rest : List Char) : (leftOpen rest).elim [] String.toList = rest := by
  cases rest with
  | nil => rfl
  | cons c rest => exact String.toList_ofList

theorem scan_blank {gap : List Char} (blank : ∀ c ∈ gap, Text.isBlank c = true) (position : Nat)
    (cs : List Char) : scan position (gap ++ cs) = scan (position + byteLength gap) cs := by
  induction gap generalizing position with
  | nil => rfl
  | cons c gap ih =>
    obtain ⟨isBlank, blank⟩ := List.forall_mem_cons.1 blank
    rw [List.cons_append, scan, if_pos isBlank, ih blank, byteLength, Nat.add_assoc]

/-- What the lexer finds is a cut that leaves nothing over but a string that is not closed. -/
theorem cut_scan (position : Nat) (cs : List Char) :
    ∃ rest, Cut position cs (scan position cs).tokens rest ∧ Final rest ∧
      (scan position cs).unclosed = leftOpen rest := by
  fun_induction scan position cs with
  | case1 position => exact ⟨[], .refl _ _, .inl rfl, rfl⟩
  | case2 position c cs blank ih =>
    obtain ⟨rest, cut, final⟩ := ih
    refine ⟨rest, ?_, final⟩
    exact .blank [c] (by simpa using blank) cut
  | case3 position c cs visible noToken =>
    have unclosed := (first_eq_none_iff (by simpa using visible)).1 noToken
    exact ⟨c :: cs, .refl _ _, .inr unclosed, rfl⟩
  | case4 position c cs visible kind body after isFirst ih =>
    obtain ⟨shape, rfl⟩ := (first_eq_some_iff (by simpa using visible)).1 isFirst
    obtain ⟨rest, cut, final⟩ := ih
    refine ⟨rest, ?_, final⟩
    exact .cons shape cut

/-- The lexer finds every cut that leaves nothing over but a string that is not closed. -/
theorem scan_of_cut {position : Nat} {cs rest : List Char} {ts : List Token}
    (h : Cut position cs ts rest) (final : Final rest) :
    scan position cs = ⟨ts, position + byteLength cs, leftOpen rest⟩ := by
  induction h with
  | @done position gap rest blank =>
    -- What is left over is nothing, or a quote that the lexer finds no token at.
    rw [scan_blank blank, byteLength_append]
    cases rest with
    | nil => rw [scan]; rfl
    | cons c rest =>
      have unclosed : Unclosed (c :: rest) := final.resolve_left (List.cons_ne_nil _ _)
      obtain rfl : c = '"' := by simpa using unclosed.1
      have noToken := (first_eq_none_iff (by decide)).2 unclosed
      rw [scan, if_neg (by decide)]
      split
      · rw [Nat.add_assoc]
        rfl
      · rename_i isFirst
        simp [noToken] at isFirst
  | @token position gap text after rest kind ts blank shape more ih =>
    obtain ⟨c, body, rfl, visible, isFirst⟩ := shape.first
    rw [scan_blank blank, List.cons_append, scan, if_neg (by simp [visible])]
    split
    · rename_i noToken
      simp [isFirst] at noToken
    · rename_i found
      rw [isFirst] at found
      cases found
      rw [ih final, cons, ← List.cons_append, byteLength_append, byteLength_append]
      simp only [Nat.add_assoc]

theorem scan_eq_iff {position : Nat} {cs rest : List Char} {ts : List Token} :
    scan position cs = ⟨ts, position + byteLength cs, leftOpen rest⟩ ↔
      Cut position cs ts rest ∧ Final rest := by
  refine ⟨fun h => ?_, fun h => scan_of_cut h.1 h.2⟩
  obtain ⟨rest', cut, final, isOpen⟩ := cut_scan position cs
  rw [h] at cut isOpen
  obtain rfl : rest = rest' := by
    rw [← elim_leftOpen rest, ← elim_leftOpen rest', show leftOpen rest = _ from isOpen]
  exact ⟨cut, final⟩

/-- There is one cut. -/
theorem cut_unique {position : Nat} {cs rest rest' : List Char} {ts ts' : List Token}
    (h : Cut position cs ts rest) (final : Final rest) (h' : Cut position cs ts' rest')
    (final' : Final rest') : ts = ts' ∧ rest = rest' := by
  have same := (scan_of_cut h final).symm.trans (scan_of_cut h' final')
  simp only [TokenStream.mk.injEq, true_and] at same
  refine ⟨same.1, ?_⟩
  rw [← elim_leftOpen rest, same.2, elim_leftOpen]

/-! ## The number of tokens -/

/-- Each token takes a character of the text. -/
theorem length_tokens_scan_le (position : Nat) (cs : List Char) :
    (scan position cs).tokens.length ≤ cs.length := by
  fun_induction scan position cs with
  | case1 => simp
  | case2 _ _ _ _ ih => exact Nat.le_trans ih (by simp)
  | case3 => simp
  | case4 _ _ _ _ _ _ _ h ih =>
    have := Token.first_length h
    simp only [cons, List.length_cons]
    omega

theorem length_tokens_ofText_le (text : String) :
    (ofText text).tokens.length ≤ text.utf8ByteSize := by
  have tokens := length_tokens_scan_le 0 text.toList
  have bytes := length_le_byteLength text.toList
  rw [byteLength_eq_utf8ByteSize, String.ofList_toList] at bytes
  exact Nat.le_trans tokens bytes

/-! ## The answers of the lexer -/

/-- First the tokens are answered. -/
theorem pulls_tokens (ts : List Token) (length : Nat) (unclosed : Option String) (n : Nat) :
    pulls (ts.length + n) ⟨ts, length, unclosed⟩ =
      ts.map .ok ++ pulls n ⟨[], length, unclosed⟩ := by
  induction ts with
  | nil => simp
  | cons t ts ih =>
    rw [List.length_cons, Nat.add_right_comm, pulls, List.map_cons, List.cons_append, ← ih]
    rfl

/-- In the end there is the end mark for good. -/
theorem pulls_finish (length n : Nat) :
    pulls n ⟨[], length, none⟩ = List.replicate n (.ok (.finish length)) := by
  induction n with
  | zero => rfl
  | succ n ih => rw [pulls, List.replicate_succ, ← ih]; rfl

/-- An open string is refused once. -/
theorem pulls_unclosed (length n : Nat) (text : String) :
    pulls (n + 1) ⟨[], length, some text⟩ =
      .error ⟨.quote, text⟩ :: List.replicate n (.ok (.finish length)) := by
  rw [← pulls_finish]
  rfl

theorem leftOpen_of_unclosed {rest : List Char} (h : Unclosed rest) :
    leftOpen rest = some (String.ofList rest) := by
  cases rest with
  | nil => simp [Unclosed] at h
  | cons c rest => rfl

/-- The lexer finds the cut of a whole text. -/
theorem ofText_of_cut {text : String} {ts : List Token} {rest : List Char}
    (h : Cut 0 text.toList ts rest) (final : Final rest) :
    ofText text = ⟨ts, text.utf8ByteSize, leftOpen rest⟩ := by
  rw [ofText, scan_of_cut h final, byteLength_eq_utf8ByteSize, String.ofList_toList, Nat.zero_add]

end TokenStream

theorem tokenize_eq_ok {text : String} {ts : List Token} :
    tokenize text = .ok ts ↔ (TokenStream.ofText text).unclosed = none ∧
      (TokenStream.ofText text).tokens ++ [.finish (TokenStream.ofText text).length] = ts := by
  unfold tokenize TokenStream.complete
  cases (TokenStream.ofText text).unclosed <;> simp

open Token TokenStream

/-- The tokens of a text are those of a cut that leaves nothing over. -/
theorem tokenize_eq_ok_iff {text : String} {ts : List Token} : tokenize text = .ok ts ↔
    ∃ body, Cut 0 text.toList body [] ∧ ts = body ++ [.finish text.utf8ByteSize] := by
  obtain ⟨rest, cut, final, -⟩ := cut_scan 0 text.toList
  constructor
  · intro h
    obtain rfl | unclosed := final
    · rw [tokenize, ofText_of_cut cut (.inl rfl)] at h
      cases h
      exact ⟨_, cut, rfl⟩
    · rw [tokenize, ofText_of_cut cut (.inr unclosed), leftOpen_of_unclosed unclosed] at h
      cases h
  · rintro ⟨body, cut, rfl⟩
    rw [tokenize, ofText_of_cut cut (.inl rfl)]
    rfl

/-- A text is refused for the string that its cut leaves open. -/
theorem tokenize_eq_error_iff {text : String} {d : Diagnostic} : tokenize text = .error d ↔
    ∃ body rest, Cut 0 text.toList body rest ∧ Unclosed rest ∧
      d = ⟨.quote, String.ofList rest⟩ := by
  obtain ⟨rest, cut, final, -⟩ := cut_scan 0 text.toList
  constructor
  · intro h
    obtain rfl | unclosed := final
    · rw [tokenize, ofText_of_cut cut (.inl rfl)] at h
      cases h
    · rw [tokenize, ofText_of_cut cut (.inr unclosed), leftOpen_of_unclosed unclosed] at h
      cases h
      exact ⟨_, rest, cut, unclosed, rfl⟩
  · rintro ⟨body, rest, cut, unclosed, rfl⟩
    rw [tokenize, ofText_of_cut cut (.inr unclosed), leftOpen_of_unclosed unclosed]
    rfl

/-- What the lexer answers to any number of calls. -/
theorem pulls_of_cut {text : String} {body : List Token} {rest : List Char}
    (cut : Cut 0 text.toList body rest) (n : Nat) :
    (rest = [] → (ofText text).pulls (body.length + n) =
      body.map .ok ++ List.replicate n (.ok (.finish text.utf8ByteSize))) ∧
    (Unclosed rest → (ofText text).pulls (body.length + (n + 1)) =
      body.map .ok ++ .error ⟨.quote, String.ofList rest⟩ ::
        List.replicate n (.ok (.finish text.utf8ByteSize))) := by
  constructor
  · rintro rfl
    rw [ofText_of_cut cut (.inl rfl), pulls_tokens, ← pulls_finish]
    rfl
  · intro unclosed
    rw [ofText_of_cut cut (.inr unclosed), pulls_tokens, leftOpen_of_unclosed unclosed,
      ← pulls_unclosed]

/-- A text is tokenized as its cut says, in which no token could be longer; there is one cut, and it
is made of slices of the text. If a string is left open, the text is refused with all that follows
the quote. Calls of the lexer beyond the last token, or beyond the refusal, give the end mark. -/
theorem tokenize_longest (text : String) :
    (∀ ts, tokenize text = .ok ts ↔
      ∃ body, Cut 0 text.toList body [] ∧ ts = body ++ [.finish text.utf8ByteSize]) ∧
    (∀ d, tokenize text = .error d ↔ ∃ body rest, Cut 0 text.toList body rest ∧ Unclosed rest ∧
      d = ⟨.quote, String.ofList rest⟩) ∧
    (∀ body rest body' rest', Cut 0 text.toList body rest → Final rest →
      Cut 0 text.toList body' rest' → Final rest' → body = body' ∧ rest = rest') ∧
    ∀ body rest, Cut 0 text.toList body rest →
      (∀ t ∈ body, ∃ before after, text = before ++ t.text ++ after ∧
        t.position = before.utf8ByteSize) ∧
      (body.Pairwise fun t t' => t.position < t'.position) ∧
      (∃ before, text = before ++ String.ofList rest) ∧
      ∀ n, (rest = [] → (ofText text).pulls (body.length + n) =
          body.map .ok ++ List.replicate n (.ok (.finish text.utf8ByteSize))) ∧
        (Unclosed rest → (ofText text).pulls (body.length + (n + 1)) =
          body.map .ok ++ .error ⟨.quote, String.ofList rest⟩ ::
            List.replicate n (.ok (.finish text.utf8ByteSize))) := by
  refine ⟨fun _ => tokenize_eq_ok_iff, fun _ => tokenize_eq_error_iff, ?_, ?_⟩
  · intro body rest body' rest' cut final cut' final'
    exact cut_unique cut final cut' final'
  intro body rest cut
  refine ⟨fun t mem => ?_, cut.ordered, ?_, pulls_of_cut cut⟩
  · obtain ⟨before, after, eq, starts⟩ := cut.slice t mem
    refine ⟨String.ofList before, String.ofList after, ?_, ?_⟩
    · rw [← String.toList_inj]
      simp [eq]
    · rw [starts, byteLength_eq_utf8ByteSize, Nat.zero_add]
  · obtain ⟨before, eq⟩ := cut.suffix
    refine ⟨String.ofList before, ?_⟩
    rw [← String.toList_inj]
    simp [eq]

/-- A quote in a word belongs to the word, a sign takes two characters, and a string that is left
open is refused once. -/
theorem tokenize_longest_open :
    tokenize "a\"b<=" = .ok [⟨.word, "a\"b", 0⟩, ⟨.comparison, "<=", 3⟩, .finish 5] ∧
      tokenize "a \"b\\" = .error ⟨.quote, "\"b\\"⟩ ∧
      (ofText "a \"b\\").pulls 4 = [.ok ⟨.word, "a", 0⟩, .error ⟨.quote, "\"b\\"⟩,
        .ok (.finish 5), .ok (.finish 5)] := by
  have whole : Cut 0 "a\"b<=".toList [⟨.word, "a\"b", 0⟩, ⟨.comparison, "<=", 3⟩] [] :=
    (scan_eq_iff.1 (by decide +kernel)).1
  obtain ⟨cut, final⟩ : Cut 0 "a \"b\\".toList [⟨.word, "a", 0⟩] ['"', 'b', '\\'] ∧ Final _ :=
    scan_eq_iff.1 (by decide +kernel)
  have unclosed := final.resolve_left (List.cons_ne_nil _ _)
  obtain ⟨-, refused, -, answers⟩ := tokenize_longest "a \"b\\"
  refine ⟨((tokenize_longest "a\"b<=").1 _).2 ⟨_, whole, by decide⟩, ?_, ?_⟩
  · exact (refused _).2 ⟨_, _, cut, unclosed, rfl⟩
  · exact ((answers _ _ cut).2.2.2 2).2 unclosed

end ContextQuery
