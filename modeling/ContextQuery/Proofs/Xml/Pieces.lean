import Mathlib.Data.List.TakeWhile
import ContextQuery.Proofs.Xml.Written

/-!
# The characters of markup

What the pieces of a document look like in its text. Every piece but a text begins with `<` and ends
with `>`; in between, a tag has no other `<`, whereas anything may stand in a comment, a section or
an instruction. The same is so of the declaration at the front of a document.

## Main definitions

* `Markup.Spans`: the characters that a piece is written with.

## Main results

* `Markup.spans_first`: the piece at the front of a text, and the text after it.
* `skipProlog?_eq_some`: what stands before the first piece.
-/

namespace ContextQuery.Xml

/-! ## Literals -/

theorem after?_eq_some {literal cs rest : List Char} :
    after? literal cs = some rest ↔ cs = literal ++ rest := by
  fun_induction after? literal cs with
  | case1 cs => simp [eq_comm]
  | case2 => simp
  | case3 l literal cs ih => simpa using ih
  | case4 l literal c cs other => simp [Ne.symm other]

theorem splitAt?_eq_some {literal cs before rest : List Char}
    (h : splitAt? literal cs = some (before, rest)) : cs = before ++ literal ++ rest := by
  fun_induction splitAt? literal cs generalizing before with
  | case1 => simp at h
  | case2 c cs rest' here =>
    cases h
    simpa using after?_eq_some.1 here
  | case3 c cs _ ih =>
    obtain ⟨⟨b, r⟩, there, eq⟩ := Option.map_eq_some_iff.1 h
    cases eq
    simpa using ih there

/-! ## Tags -/

/-- What is read up to the rest has no other tag in it. -/
def Untagged (cs rest : List Char) : Prop :=
  ∃ read, cs = read ++ rest ∧ '<' ∉ read

namespace Untagged

variable {cs ds rest : List Char}

theorem refl (cs : List Char) : Untagged cs cs :=
  ⟨[], rfl, nofun⟩

theorem trans (h : Untagged cs ds) (h' : Untagged ds rest) : Untagged cs rest := by
  obtain ⟨read, rfl, none⟩ := h
  obtain ⟨read', rfl, none'⟩ := h'
  exact ⟨read ++ read', by simp, by simp [none, none']⟩

theorem cons {c : Char} (other : c ≠ '<') (h : Untagged cs rest) : Untagged (c :: cs) rest := by
  obtain ⟨read, rfl, none⟩ := h
  exact ⟨c :: read, rfl, by simp [none, Ne.symm other]⟩

theorem dropWhile {p : Char → Bool} (stop : p '<' = false) (cs : List Char) :
    Untagged cs (cs.dropWhile p) := by
  refine ⟨cs.takeWhile p, List.takeWhile_append_dropWhile.symm, fun mem => ?_⟩
  have := List.mem_takeWhile_imp mem
  simp [stop] at this

theorem dropSpaces (cs : List Char) : Untagged cs (dropSpaces cs) :=
  dropWhile (by decide) cs

theorem qname? {name : QName} (h : qname? cs = some (name, rest)) : Untagged cs rest := by
  obtain ⟨n, -, eq⟩ := Option.map_eq_some_iff.1 h
  cases eq
  exact dropWhile (by decide) cs

theorem attribute? {a : Attribute} (h : attribute? cs = some (a, rest)) : Untagged cs rest := by
  unfold Xml.attribute? at h
  split at h
  · simp at h
  · rename_i name cs₁ named
    refine (qname? named).trans ((dropSpaces cs₁).trans ?_)
    split at h
    · rename_i cs₂ sign
      rw [sign]
      refine .cons (by decide) ((dropSpaces cs₂).trans ?_)
      split at h
      · rename_i q cs₃ opened
        rw [opened]
        split at h
        · rename_i isQuote
          have noTag : q ≠ '<' := by rintro rfl; simp at isQuote
          split at h
          · rename_i e cs₄ closed
            split at h
            · rename_i same
              simp only [Bool.and_eq_true, decide_eq_true_eq] at same
              cases h
              have value := dropWhile (p := fun c => c != q && c != '<') (by simp) cs₃
              rw [closed] at value
              refine .cons noTag (value.trans (.cons (same.1 ▸ noTag) (.refl _)))
            · simp at h
          · simp at h
        · simp at h
      · simp at h
    · simp at h

/-- The end of a tag, with its attributes. -/
theorem attributes? {as : List Attribute} {isEmpty : Bool}
    (h : attributes? cs = some (as, isEmpty, rest)) :
    ∃ read, cs = read ++ '>' :: rest ∧ '<' ∉ read := by
  suffices ending : ∃ mid, Untagged cs mid ∧ mid = '>' :: rest by
    obtain ⟨_, ⟨read, eq, none⟩, rfl⟩ := ending
    exact ⟨read, eq, none⟩
  fun_induction Xml.attributes? cs generalizing as isEmpty rest with
  | case1 => simp at h
  | case2 cs =>
    cases h
    exact ⟨_, .refl _, rfl⟩
  | case3 cs =>
    obtain ⟨r, closed, eq⟩ := Option.map_eq_some_iff.1 h
    cases eq
    exact ⟨_, .cons (by decide) (.refl _), after?_eq_some.1 closed⟩
  | case4 => simp at h
  | case5 c cs _ _ space ds found =>
    cases h
    have skip := dropSpaces cs
    rw [found] at skip
    exact ⟨_, .cons (by rintro rfl; simp [isSpace] at space) skip, rfl⟩
  | case6 c cs _ _ space ds found =>
    obtain ⟨r, closed, eq⟩ := Option.map_eq_some_iff.1 h
    cases eq
    have skip := dropSpaces cs
    rw [found] at skip
    refine ⟨_, .cons (by rintro rfl; simp [isSpace] at space)
      (skip.trans (.cons (by decide) (.refl _))), after?_eq_some.1 closed⟩
  | case7 => simp at h
  | case8 c cs _ _ space d ds found _ _ a r read ih =>
    obtain ⟨⟨o, e, r'⟩, others, eq⟩ := Option.map_eq_some_iff.1 h
    cases eq
    obtain ⟨mid, inside, closed⟩ := ih others
    exact ⟨mid, .cons (by rintro rfl; simp [isSpace] at space)
      ((dropSpaces cs).trans ((attribute? read).trans inside)), closed⟩
  | case9 => simp at h

end Untagged

namespace Markup

/-- The piece is written with these characters. -/
inductive Spans : Markup → List Char → Prop where
  | text {raw : List Char} (none : '<' ∉ raw) : Spans (.text raw) raw
  | verbatim {raw body : List Char} : Spans (.verbatim raw) ('<' :: '!' :: (body ++ ['>']))
  | comment {body : List Char} : Spans .remark ('<' :: '!' :: (body ++ ['>']))
  | instruction {body : List Char} : Spans .remark ('<' :: '?' :: (body ++ ['>']))
  | start {name : QName} {attributes : List Attribute} {body : List Char} (none : '<' ∉ body)
      (unmarked : ∀ c ∈ ['/', '?', '!'], body.head? ≠ some c) :
      Spans (.start name attributes) ('<' :: (body ++ ['>']))
  | empty {name : QName} {attributes : List Attribute} {body : List Char} (none : '<' ∉ body)
      (unmarked : ∀ c ∈ ['/', '?', '!'], body.head? ≠ some c) :
      Spans (.empty name attributes) ('<' :: (body ++ ['>']))
  | stop {name : QName} {body : List Char} (none : '<' ∉ body) :
      Spans (.stop name) ('<' :: '/' :: (body ++ ['>']))

variable {cs rest : List Char} {m : Markup}

theorem spans_startTag? (unmarked : ∀ c ∈ ['/', '?', '!'], cs.head? ≠ some c)
    (h : startTag? cs = some (m, rest)) :
    ∃ piece, '<' :: cs = piece ++ rest ∧ m.Spans piece := by
  unfold startTag? at h
  split at h
  · simp at h
  · rename_i name cs₁ named
    obtain ⟨⟨as, isEmpty, r⟩, ends, eq⟩ := Option.map_eq_some_iff.1 h
    cases eq
    obtain ⟨read, rfl, none⟩ := Untagged.attributes? ends
    obtain ⟨read', rfl, none'⟩ := Untagged.qname? named
    have none : '<' ∉ read' ++ read := by simp [none, none']
    have unmarked : ∀ c ∈ ['/', '?', '!'], (read' ++ read).head? ≠ some c := by
      intro c hc head
      obtain ⟨tail, eq⟩ := List.head?_eq_some_iff.1 head
      refine unmarked c hc ?_
      rw [← List.append_assoc, eq]
      rfl
    refine ⟨'<' :: (read' ++ read ++ ['>']), by simp, ?_⟩
    cases isEmpty with
    | true => exact .empty none unmarked
    | false => exact .start none unmarked

theorem spans_stopTag? (h : stopTag? cs = some (m, rest)) :
    ∃ piece, '<' :: '/' :: cs = piece ++ rest ∧ m.Spans piece := by
  unfold stopTag? at h
  split at h
  · simp at h
  · rename_i name cs₁ named
    obtain ⟨r, closed, eq⟩ := Option.map_eq_some_iff.1 h
    cases eq
    obtain ⟨read, rfl, none⟩ := (Untagged.qname? named).trans (Untagged.dropSpaces cs₁)
    refine ⟨'<' :: '/' :: (read ++ ['>']), ?_, .stop none⟩
    rw [after?_eq_some.1 closed]
    simp

theorem comment?_eq_some (h : comment? cs = some (m, rest)) :
    ∃ body, cs = body ++ '>' :: rest ∧ m = .remark := by
  unfold comment? at h
  split at h
  · simp at h
  · rename_i body r split_at
    split at h
    · cases h
      exact ⟨body ++ "--".toList, by simpa using splitAt?_eq_some split_at, rfl⟩
    · simp at h

theorem verbatim?_eq_some (h : verbatim? cs = some (m, rest)) :
    ∃ body raw, cs = body ++ '>' :: rest ∧ m = .verbatim raw := by
  unfold verbatim? at h
  split at h
  · simp at h
  · rename_i body r split_at
    split at h
    · cases h
      exact ⟨body ++ "]]".toList, body, by simpa using splitAt?_eq_some split_at, rfl⟩
    · simp at h

theorem instruction?_eq_some (h : instruction? cs = some (m, rest)) :
    ∃ body, cs = body ++ '>' :: rest ∧ m = .remark := by
  unfold instruction? at h
  split at h
  · simp at h
  · split at h
    · split at h
      · simp at h
      · rename_i body r split_at
        split at h
        · cases h
          have whole := List.takeWhile_append_dropWhile (p := isNameChar) (l := cs)
          rw [splitAt?_eq_some split_at] at whole
          exact ⟨cs.takeWhile isNameChar ++ body ++ "?".toList, by simpa using whole.symm, rfl⟩
        · simp at h
    · simp at h

/-- The piece at the front of a text, and the text after it. -/
theorem spans_first {c : Char} (h : first c cs = some (m, rest)) :
    ∃ piece, c :: cs = piece ++ rest ∧ m.Spans piece := by
  unfold first at h
  split at h
  · rename_i isTag
    subst isTag
    split at h
    · exact spans_stopTag? h
    · obtain ⟨body, rfl, rfl⟩ := instruction?_eq_some h
      exact ⟨'<' :: '?' :: (body ++ ['>']), by simp, .instruction⟩
    · split at h
      · rename_i comment
        obtain ⟨body, rfl, rfl⟩ := comment?_eq_some h
        refine ⟨'<' :: '!' :: ("--".toList ++ body ++ ['>']), ?_, .comment⟩
        rw [after?_eq_some.1 comment]
        simp
      · split at h
        · rename_i verbatim
          obtain ⟨body, raw, rfl, rfl⟩ := verbatim?_eq_some h
          refine ⟨'<' :: '!' :: ("[CDATA[".toList ++ body ++ ['>']), ?_, .verbatim⟩
          rw [after?_eq_some.1 verbatim]
          simp
        · simp at h
    · rename_i noSlash noQuestion noBang
      refine spans_startTag? (fun c hc head => ?_) h
      obtain ⟨tail, rfl⟩ := List.head?_eq_some_iff.1 head
      simp only [List.mem_cons, List.not_mem_nil, or_false] at hc
      rcases hc with rfl | rfl | rfl
      · exact noSlash _ rfl
      · exact noQuestion _ rfl
      · exact noBang _ rfl
  · rename_i noTag
    split at h
    · cases h
      refine ⟨_, ?_, .text ?_⟩
      · rw [List.cons_append, List.takeWhile_append_dropWhile]
      · intro mem
        rcases List.mem_cons.1 mem with eq | mem
        · exact noTag eq.symm
        · simpa using List.mem_takeWhile_imp mem
    · simp at h

end Markup

/-! ## The declaration -/

theorem Untagged.declarationGap? {cs rest : List Char} (h : declarationGap? cs = some rest) :
    Untagged cs rest := by
  unfold Xml.declarationGap? at h
  split at h
  · cases h
    exact .refl _
  · rename_i c cs'
    split at h
    · rename_i space
      cases h
      exact .cons (by rintro rfl; simp [isSpace] at space) (dropSpaces cs')
    · split at h
      · cases h
        exact .refl _
      · simp at h

theorem Untagged.declarationAttribute? {name : String} {cs rest : List Char}
    (h : declarationAttribute? name cs = some rest) : Untagged cs rest := by
  unfold Xml.declarationAttribute? at h
  split at h
  · obtain ⟨⟨a, cs'⟩, read, gap⟩ := Option.bind_eq_some_iff.1 h
    exact (attribute? read).trans (declarationGap? gap)
  · cases h
    exact .refl _

/-- The XML declaration after its `<?xml`. -/
theorem skipDeclaration?_eq_some {cs rest : List Char} (h : skipDeclaration? cs = some rest) :
    ∃ read, cs = read ++ '>' :: rest ∧ '<' ∉ read := by
  suffices ending : Untagged cs ('?' :: '>' :: rest) by
    obtain ⟨read, rfl, none⟩ := ending
    exact ⟨read ++ ['?'], by simp, by simp [none]⟩
  have closing {cs : List Char} (h : after? "?>".toList (dropSpaces cs) = some rest) :
      Untagged cs ('?' :: '>' :: rest) := by
    have skip := Untagged.dropSpaces cs
    rwa [after?_eq_some.1 h] at skip
  unfold skipDeclaration? at h
  simp only [Option.bind_eq_bind] at h
  obtain ⟨cs₁, gap, h⟩ := Option.bind_eq_some_iff.1 h
  refine (Untagged.declarationGap? gap).trans ?_
  split at h
  · obtain ⟨⟨_, cs₂⟩, version, h⟩ := Option.bind_eq_some_iff.1 h
    obtain ⟨cs₃, gap', h⟩ := Option.bind_eq_some_iff.1 h
    obtain ⟨cs₄, encoding, h⟩ := Option.bind_eq_some_iff.1 h
    refine (Untagged.attribute? version).trans ((Untagged.declarationGap? gap').trans
      ((Untagged.declarationAttribute? encoding).trans ?_))
    split at h
    · obtain ⟨cs₅, standalone, h⟩ := Option.bind_eq_some_iff.1 h
      obtain ⟨⟨_, _⟩, read, rfl⟩ := Option.map_eq_some_iff.1 standalone
      exact (Untagged.attribute? read).trans (closing h)
    · exact closing h
  · cases h

/-- What stands before the first piece: perhaps a byte order mark, and perhaps a declaration. -/
theorem skipProlog?_eq_some {cs rest : List Char} (h : skipProlog? cs = some rest) :
    ∃ mark, '<' ∉ mark ∧ (cs = mark ++ rest ∨
      ∃ read, cs = mark ++ '<' :: '?' :: (read ++ '>' :: rest) ∧ '<' ∉ read) := by
  obtain ⟨mark, noTag, eq⟩ : ∃ mark, '<' ∉ mark ∧
      cs = mark ++ (after? ['\uFEFF'] cs).getD cs := by
    cases marked : after? ['\uFEFF'] cs with
    | none => exact ⟨[], nofun, rfl⟩
    | some cs' => exact ⟨['\uFEFF'], by decide, after?_eq_some.1 marked⟩
  refine ⟨mark, noTag, ?_⟩
  unfold skipProlog? at h
  generalize (after? ['\uFEFF'] cs).getD cs = cs' at h eq
  subst eq
  dsimp only at h
  split at h
  · rename_i rest' declared
    obtain ⟨read, eq, none⟩ := skipDeclaration?_eq_some h
    refine .inr ⟨"xml".toList ++ read, ?_, by simpa using none⟩
    rw [after?_eq_some.1 declared]
    simp [← eq]
  · cases h
    exact .inl rfl

end ContextQuery.Xml
