import ContextQuery.Proofs.Text.Folding
import ContextQuery.Proofs.Xml.Printed

/-!
# Documents that are read as they were printed

Reading a document is one pass over its characters, so each printed part is described by what it
does to the elements that are open where it stands, whatever follows it. By induction on the way a
text is printed, the library of this project reads it as it was printed.

## Main definitions

* `Xml.Partial.run`: takes in the markup of a text.
* `Xml.IsRead`: a text is read as one element, wherever an element may stand.
* `Xml.AreRead`: a text is read as a sequence of elements.

## Main results

* `Xml.Spells.isRead`, `Xml.Fills.areRead`: printed texts are read.
* `Xml.Document.faithful`: the library that is used reads printed documents as they were printed.
-/

namespace ContextQuery.Xml

open Xcql (escapeChar escapeText elements frontText)

/-! ## Texts -/

/-- The piece that an escaped character is read as. -/
def Piece.ofChar (c : Char) : Piece :=
  if c = '&' ∨ c = '<' ∨ c = '>' then .referred c else .plain c

theorem pieces_escapeChar (c : Char) (cs : List Char) :
    pieces none (escapeChar c ++ cs) = (pieces none cs).map (Piece.ofChar c :: ·) := by
  obtain ⟨eq, amp, lt, gt⟩ | ⟨rfl, eq⟩ | ⟨rfl, eq⟩ | ⟨rfl, eq⟩ := escapeChar_cases c <;> rw [eq]
  · simp [pieces, Piece.ofChar, amp, lt, gt]
  · simp [pieces, Piece.ofChar, reference?, namedReference?]
  · simp [pieces, Piece.ofChar, reference?, namedReference?]
  · simp [pieces, Piece.ofChar, reference?, namedReference?]

theorem pieces_escape (cs : List Char) :
    pieces none (cs.flatMap escapeChar) = some (cs.map Piece.ofChar) := by
  induction cs with
  | nil => rfl
  | cons c cs ih => rw [List.flatMap_cons, pieces_escapeChar, ih]; rfl

/-- Without carriage returns all pieces are joined as they come. -/
theorem joinPieces_ofChar {text cs : List Char} (htext : '\r' ∉ text) (hcs : '\r' ∉ cs)
    (afterReference : Bool) :
    joinPieces text afterReference (cs.map Piece.ofChar) = text.reverse ++ cs := by
  induction cs generalizing text afterReference with
  | nil => simp [joinPieces]
  | cons c cs ih =>
    simp only [List.mem_cons, not_or] at hcs
    obtain ⟨ne, hcs⟩ := hcs
    have grown : '\r' ∉ c :: text := by simp [ne, htext]
    have pushed (isLast : Bool) : pushPlain text c isLast = c :: text := by
      simp only [pushPlain, Ne.symm ne, decide_false, Bool.and_false, Bool.false_eq_true, reduceIte]
      split
      · simp at htext
      · rfl
    rw [List.map_cons, Piece.ofChar]
    split
    · simp [joinPieces, ih grown hcs]
    · simp [joinPieces, pushed, ih grown hcs]

/-- References stand for the characters that they were written for. -/
theorem readText?_escape {cs : List Char} (plain : Plain cs) :
    readText? (cs.flatMap escapeChar) = some cs := by
  have noReturn : '\r' ∉ cs := fun mem => (plain _ mem).2 rfl
  rw [readText?, pieces_escape, Option.map_some, joinPieces_ofChar (by simp) noReturn]
  rfl

theorem mem_of_after? {literal cs rest : List Char} (h : after? literal cs = some rest) :
    ∀ c ∈ literal, c ∈ cs := by
  fun_induction after? literal cs with
  | case1 => simp
  | case2 => simp at h
  | case3 l literal cs ih => simp_all
  | case4 => simp at h

theorem hasLiteral_eq_false {literal cs : List Char} {c : Char} (inside : c ∈ literal)
    (absent : c ∉ cs) : hasLiteral literal cs = false := by
  unfold hasLiteral
  induction cs with
  | nil => rfl
  | cons d cs ih =>
    have notHere : after? literal (d :: cs) = none := by
      cases here : after? literal (d :: cs) with
      | none => rfl
      | some rest => exact absurd (mem_of_after? here c inside) absent
    have notThere := ih fun mem => absent (List.mem_cons_of_mem _ mem)
    simpa [splitAt?, notHere] using notThere

theorem isCharacterData_escape {cs : List Char} (plain : Plain cs) :
    isCharacterData (cs.flatMap escapeChar) = true := by
  have single : ∀ c ∈ cs, (escapeChar c).all isAllowed = true := by
    intro c hc
    obtain ⟨eq, -⟩ | ⟨-, eq⟩ | ⟨-, eq⟩ | ⟨-, eq⟩ := escapeChar_cases c <;> rw [eq]
    · simp [(plain c hc).1]
    · decide
    · decide
    · decide
  have noEnd : hasLiteral "]]>".toList (cs.flatMap escapeChar) = false :=
    hasLiteral_eq_false (by decide) (not_mem_escape cs).2
  simp only [isCharacterData, noEnd, List.all_flatMap]
  simpa using single

/-! ## Tags -/

theorem isAlpha_lt {c : Char} (h : c.isAlpha = true) : c.toNat < 0x80 :=
  Text.lt_of_isAlphanum (by simp [Char.isAlphanum, h])

theorem IsTag.qname? {tag : String} (isTag : IsTag tag) (rest : List Char) :
    qname? (tag.toList ++ '>' :: rest) = some (⟨"", tag⟩, '>' :: rest) := by
  have nameChar : ∀ c ∈ tag.toList, isNameChar c = true := fun c hc => by
    simp [isNameChar, isAlpha_lt (isTag.isAlpha hc), Char.isAlphanum, isTag.isAlpha hc]
  have stop : isNameChar '>' = false := by decide
  have noColon : ∀ c ∈ tag.toList, (c != ':') = true := fun c hc => by
    simp [(isAlpha_ne (isTag.isAlpha hc)).1]
  have starts : startsName tag.toList = true := by
    obtain ⟨c, cs, eq, alpha⟩ := isTag.head
    simp [startsName, eq, isNameStart, isAlpha_lt alpha, alpha]
  have noSpace : (tag.toList ++ []).dropWhile (· != ':') = [] := by
    rw [List.dropWhile_append_of_pos noColon]
    rfl
  rw [List.append_nil] at noSpace
  have name : QName.ofChars? tag.toList = some ⟨"", tag⟩ := by
    simp [QName.ofChars?, noSpace, starts, isTag.1]
  simp [Xml.qname?, List.takeWhile_append_of_pos nameChar, List.dropWhile_append_of_pos nameChar,
    stop, name]

theorem IsTag.first_start {tag : String} (isTag : IsTag tag) (rest : List Char) :
    Markup.first '<' (tag.toList ++ '>' :: rest) = some (.start ⟨"", tag⟩ [], rest) := by
  have tagged : startTag? (tag.toList ++ '>' :: rest) = some (.start ⟨"", tag⟩ [], rest) := by
    simp [startTag?, isTag.qname?, attributes?]
  obtain ⟨c, cs, eq, alpha⟩ := isTag.head
  obtain ⟨-, slash, question, bang, -⟩ := isAlpha_ne alpha
  rw [eq] at tagged ⊢
  unfold Markup.first
  split
  · split <;> simp_all
  · simp_all

theorem IsTag.first_stop {tag : String} (isTag : IsTag tag) (rest : List Char) :
    Markup.first '<' ('/' :: (tag.toList ++ '>' :: rest)) = some (.stop ⟨"", tag⟩, rest) := by
  have noSpace : isSpace '>' = false := by decide
  simp [Markup.first, stopTag?, isTag.qname?, dropSpaces, noSpace, after?]

theorem first_text {c : Char} {cs : List Char} (noTag : '<' ∉ c :: cs)
    (data : isCharacterData (c :: cs) = true) (rest : List Char) (end? : rest.head?.all (· = '<')) :
    Markup.first c (cs ++ rest) = some (.text (c :: cs), rest) := by
  have others : ∀ d ∈ cs, (d != '<') = true := by
    intro d hd
    rw [bne_iff_ne]
    rintro rfl
    exact noTag (List.mem_cons_of_mem _ hd)
  have stop : rest.takeWhile (· != '<') = [] ∧ rest.dropWhile (· != '<') = rest := by
    cases rest <;> simp_all
  have first : c ≠ '<' := fun eq => noTag (eq ▸ List.mem_cons_self)
  simp [Markup.first, first, List.takeWhile_append_of_pos others,
    List.dropWhile_append_of_pos others, stop, data]

/-! ## One pass -/

namespace Partial

/-- Takes in the markup of a text. -/
def run (p : Partial) (cs : List Char) : Option Element :=
  (Markup.scan cs).bind p.build?

theorem run_cons {p : Partial} {c : Char} {cs rest : List Char} {m : Markup}
    (first : Markup.first c cs = some (m, rest)) :
    p.run (c :: cs) = (p.add? m).bind (·.run rest) := by
  have scan : Markup.scan (c :: cs) = (Markup.scan rest).map (m :: ·) := by
    rw [Markup.scan]
    split <;> simp_all
  unfold run
  rw [scan]
  cases Markup.scan rest with
  | none => cases p.add? m <;> rfl
  | some ms => rfl

/-- What an open element holds after a text in it. -/
def addChars (cs : List Char) (children : List Content) : List Content :=
  if cs = [] then children else addText cs children

theorem elements_reverse_addChars (cs : List Char) (children : List Content) :
    elements (addChars cs children).reverse = elements children.reverse := by
  unfold addChars
  split
  · rfl
  · unfold addText
    split <;> simp [elements]

theorem run_escape {cs : List Char} (plain : Plain cs) (f : Frame) (fs : List Frame)
    (root : Option Element) (rest : List Char) :
    run ⟨f :: fs, root⟩ (cs.flatMap escapeChar ++ '<' :: rest) =
      run ⟨{ f with children := addChars cs f.children } :: fs, root⟩ ('<' :: rest) := by
  have data := isCharacterData_escape plain
  have noTag := (not_mem_escape cs).1
  have text := readText?_escape plain
  unfold addChars
  split
  · subst cs
    rfl
  · cases eq : cs.flatMap escapeChar with
    | nil => simp_all [readText?, pieces, joinPieces]
    | cons d ds =>
      rw [eq] at data noTag text
      rw [List.cons_append, run_cons (first_text noTag data _ (by simp))]
      simp [add?, text]

theorem run_spaces {ws : List Char} (spaces : Spaces ws) (f : Frame) (fs : List Frame)
    (root : Option Element) (rest : List Char) :
    run ⟨f :: fs, root⟩ (ws ++ '<' :: rest) =
      run ⟨{ f with children := addChars ws f.children } :: fs, root⟩ ('<' :: rest) := by
  have escaped := run_escape spaces.plain f fs root rest
  rwa [spaces.flatMap_escapeChar] at escaped

/-- White space outside the root element does nothing. -/
theorem run_spaces_outside {ws : List Char} (spaces : Spaces ws) (root : Option Element)
    (rest : List Char) (end? : rest.head?.all (· = '<')) :
    run ⟨[], root⟩ (ws ++ rest) = run ⟨[], root⟩ rest := by
  have data := isCharacterData_escape spaces.plain
  have noTag := (not_mem_escape ws).1
  rw [spaces.flatMap_escapeChar] at data noTag
  cases ws with
  | nil => rfl
  | cons w ws =>
    have blank : (w :: ws).all isSpace = true := by
      rw [List.all_eq_true]
      intro c hc
      rcases spaces c hc with rfl | rfl <;> rfl
    rw [List.cons_append, run_cons (first_text noTag data _ end?)]
    simp [add?, blank]

theorem run_start {tag : String} (isTag : IsTag tag) {fs : List Frame} {root : Option Element}
    (single : fs = [] → root = none) (rest : List Char) :
    run ⟨fs, root⟩ ('<' :: (tag.toList ++ '>' :: rest)) =
      run ⟨⟨⟨"", tag⟩, bound ⟨fs, root⟩, []⟩ :: fs, root⟩ rest := by
  have only : (fs.isEmpty && root.isSome) = false := by
    cases fs <;> simp_all
  rw [run_cons (isTag.first_start rest)]
  simp [add?, only, openTag?, Declared.ofAttributes?, distinctAttributes]

theorem run_stop {tag : String} (isTag : IsTag tag) (bound : Namespaces) (children : List Content)
    (fs : List Frame) (root : Option Element) (rest : List Char) :
    run ⟨⟨⟨"", tag⟩, bound, children⟩ :: fs, root⟩ ('<' :: '/' :: (tag.toList ++ '>' :: rest)) =
      (close? fs root ⟨tag, children.reverse⟩).bind (·.run rest) := by
  rw [run_cons (isTag.first_stop rest)]
  simp [add?]

end Partial

/-! ## Elements -/

/-- An element starts with a tag, and not as a declaration does. -/
theorem IsTag.starts_tagged {tag : String} (isTag : IsTag tag) (content : String) :
    ∃ c rest, (Xcql.tagged tag content).toList = '<' :: c :: rest ∧ c ≠ '?' := by
  obtain ⟨c, cs, eq, alpha⟩ := isTag.head
  rw [toList_tagged, eq]
  exact ⟨c, _, rfl, (isAlpha_ne alpha).2.2.1⟩

/-- Wherever an element may stand, the text is read as one of which the property holds. -/
structure IsRead (text : String) (property : Element → Prop) : Prop where
  starts : ∃ c rest, text.toList = '<' :: c :: rest ∧ c ≠ '?'
  reads (fs : List Frame) (root : Option Element) (single : fs = [] → root = none) :
    ∃ e, property e ∧ ∀ rest, Partial.run ⟨fs, root⟩ (text.toList ++ rest) =
      (Partial.close? fs root e).bind (·.run rest)

/-- Inside an element, the text is read as elements of which the properties hold. White space that
is read only once a tag follows it is pushed along. -/
structure AreRead (text : String) (properties : List (Element → Prop)) : Prop where
  reads (f : Frame) (fs : List Frame) (root : Option Element) {ws : List Char}
      (spaces : Spaces ws) :
    ∃ children es ws', Spaces ws' ∧ Have properties es ∧
      elements children.reverse = elements f.children.reverse ++ es ∧
      ∀ rest, Partial.run ⟨f :: fs, root⟩ (ws ++ (text.toList ++ rest)) =
        Partial.run ⟨{ f with children := children } :: fs, root⟩ (ws' ++ rest)

namespace AreRead

variable {text text' : String} {ps ps' : List (Element → Prop)}

theorem weaken (h : AreRead text ps)
    (weaker : List.Forall₂ (fun p p' => ∀ e, p e → p' e) ps ps') : AreRead text ps' where
  reads f fs root ws spaces := by
    obtain ⟨children, es, ws', spaces', holds, same, run⟩ := h.reads f fs root spaces
    exact ⟨children, es, ws', spaces', holds.weaken weaker, same, run⟩

theorem ofSpaces (h : Spaces text.toList) : AreRead text [] where
  reads f fs root ws spaces := by
    refine ⟨f.children, [], _, spaces.append h, .nil, (List.append_nil _).symm, fun rest => ?_⟩
    rw [List.append_assoc]

theorem append (h : AreRead text ps) (h' : AreRead text' ps') :
    AreRead (text ++ text') (ps ++ ps') where
  reads f fs root ws spaces := by
    obtain ⟨children, es, ws₁, spaces₁, have₁, elements₁, run₁⟩ := h.reads f fs root spaces
    obtain ⟨children', es', ws₂, spaces₂, have₂, elements₂, run₂⟩ :=
      h'.reads { f with children := children } fs root spaces₁
    refine ⟨children', es ++ es', ws₂, spaces₂, List.rel_append have₁ have₂, ?_, fun rest => ?_⟩
    · rw [elements₂, elements₁, List.append_assoc]
    · rw [String.toList_append, List.append_assoc, run₁, run₂]

end AreRead

namespace IsRead

variable {text : String} {property property' : Element → Prop}

theorem imp (h : IsRead text property) (weaker : ∀ e, property e → property' e) :
    IsRead text property' where
  starts := h.starts
  reads fs root single := by
    obtain ⟨e, holds, run⟩ := h.reads fs root single
    exact ⟨e, weaker e holds, run⟩

theorem element (h : IsRead text property) : AreRead text [property] where
  reads f fs root ws spaces := by
    obtain ⟨c, tail, eq, -⟩ := h.starts
    let f' : Frame := { f with children := Partial.addChars ws f.children }
    obtain ⟨e, holds, run⟩ := h.reads (f' :: fs) root nofun
    refine ⟨.element e.name e.children :: f'.children, [e], [], by simp [Spaces], .cons holds .nil,
      ?_, fun rest => ?_⟩
    · have same := Partial.elements_reverse_addChars ws f.children
      simp only [elements, f', List.reverse_cons, List.filterMap_append] at same ⊢
      rw [same]
      rfl
    · have run := run rest
      rw [eq] at run ⊢
      rw [List.cons_append, Partial.run_spaces spaces]
      exact run

/-- An element around others. -/
theorem tagged {tag content : String} (isTag : IsTag tag) {properties : List (Element → Prop)}
    (h : AreRead content properties) : IsRead (Xcql.tagged tag content)
      fun e => e.name = tag ∧ Have properties (elements e.children) where
  starts := isTag.starts_tagged _
  reads fs root single := by
    let f : Frame := ⟨⟨"", tag⟩, Partial.bound ⟨fs, root⟩, []⟩
    have noSpace : Spaces [] := nofun
    obtain ⟨children, es, ws, spaces, holds, elements, run⟩ := h.reads f fs root noSpace
    refine ⟨⟨tag, (Partial.addChars ws children).reverse⟩, ⟨rfl, ?_⟩, fun rest => ?_⟩
    · rwa [Partial.elements_reverse_addChars, elements]
    · rw [toList_tagged]
      simp only [List.cons_append, List.append_assoc, List.nil_append] at run ⊢
      rw [Partial.run_start isTag single, run, Partial.run_spaces spaces, Partial.run_stop isTag]

/-- An element around a text. -/
theorem ofText {tag : String} (isTag : IsTag tag) {text : String} (plain : Plain text.toList) :
    IsRead (Xcql.tagged tag (escapeText text))
      fun e => e.name = tag ∧ frontText e = text where
  starts := isTag.starts_tagged _
  reads fs root single := by
    refine ⟨⟨tag, (Partial.addChars text.toList []).reverse⟩, ⟨rfl, ?_⟩, fun rest => ?_⟩
    · unfold Partial.addChars
      split
      · simp_all [frontText]
      · simp [frontText, addText]
    · rw [toList_tagged, escapeText, String.toList_ofList]
      simp only [List.cons_append, List.append_assoc, List.nil_append]
      rw [Partial.run_start isTag single, Partial.run_escape plain, Partial.run_stop isTag]

end IsRead

mutual

/-- A printed element is read as it was printed. -/
theorem Spells.isRead {text : String} {depth : Nat} {property : Element → Prop} :
    Spells text depth property → IsRead text property
  | .ofText isTag plain => .ofText isTag plain
  | .tagged isTag h => .tagged isTag h.areRead
  | .imp h _ weaker => h.isRead.imp weaker

/-- Printed elements are read as they were printed. -/
theorem Fills.areRead {text : String} {depth : Nat} {properties : List (Element → Prop)} :
    Fills text depth properties → AreRead text properties
  | .ofSpaces h => .ofSpaces h
  | .element h => h.isRead.element
  | .append h h' => h.areRead.append h'.areRead
  | .weaken h _ weaker => h.areRead.weaken weaker

end

/-! ## Documents -/

/-- Neither a byte order mark nor a declaration is taken off such a text. -/
theorem skipProlog?_of_spaces {ws cs : List Char} {c : Char} (spaces : Spaces ws)
    (other : c ≠ '?') :
    skipProlog? (ws ++ '<' :: c :: cs) = some (ws ++ '<' :: c :: cs) := by
  cases ws with
  | nil => simp [skipProlog?, after?, Ne.symm other]
  | cons w ws =>
    rcases spaces w List.mem_cons_self with rfl | rfl <;> simp [skipProlog?, after?]

/-- The library that is used reads printed documents as they were printed. -/
theorem Document.faithful : Library.Faithful := by
  intro text depth property spells level
  obtain ⟨starts, reads⟩ := spells.isRead
  obtain ⟨c, tail, eq, other⟩ := starts
  obtain ⟨e, holds, run⟩ := reads [] none fun _ => rfl
  refine ⟨e, ?_, holds⟩
  have spaces := spaces_indentation level
  have before := Partial.run_spaces_outside spaces none (text.toList ++ ['\n']) (by simp [eq])
  have lineEnd : Spaces ['\n'] := by simp [Spaces]
  have after := Partial.run_spaces_outside lineEnd (some e) [] rfl
  have lineEq : (Xcql.line level text).toList =
      (indentation level).toList ++ (text.toList ++ ['\n']) := by
    simp [Xcql.line]
  have skipped :
      skipProlog? (Xcql.line level text).toList = some (Xcql.line level text).toList := by
    rw [lineEq, eq]
    exact skipProlog?_of_spaces spaces other
  calc Document.parse? (Xcql.line level text)
    _ = Partial.run ⟨[], none⟩ (Xcql.line level text).toList := by
      rw [Document.parse?, skipped]
      rfl
    _ = Partial.run ⟨[], some e⟩ (['\n'] ++ []) := by
      rw [lineEq, before, run]
      rfl
    _ = some e := by
      rw [after]
      simp [Partial.run, Markup.scan, Partial.build?]

/-- The library that is used makes the trees of documents. -/
theorem Document.sound : Library.Sound :=
  fun parsed => parsed

end ContextQuery.Xml
