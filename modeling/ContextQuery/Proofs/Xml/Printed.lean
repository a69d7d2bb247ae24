import Mathlib.Data.List.Forall2
import ContextQuery.Proofs.Text.Folding
import ContextQuery.Xcql.Reader
import ContextQuery.Xcql.Writer

/-!
# Printed documents

A document is printed from tags, escaped texts, and white space between elements. What such a text
is described by is a property of its element: the name, and the text at its front or the properties
of the elements in it. A library that reads documents is relied on to give an element with that
property. The depth that is taken from the tags before a document is read is bounded along with it.

## Main definitions

* `Xml.Plain`: a text that a document holds as it is.
* `Xml.Spells`: a text is one element.
* `Xml.Fills`: a text is a sequence of elements with white space around them.
* `Xml.Library.Faithful`: a library reads printed documents as they were printed.
* `Xml.Library.Sound`: a library reads nothing but documents, as the trees that they are.

## Main results

* `Xml.Spells.line`, `Xml.Spells.block`: elements on lines of their own.
* `Xml.Spells.elementDepth_line`: the depth that is taken from the tags of a line.
-/

namespace ContextQuery.Xml

open Xcql (escapeChar escapeText tagged elements frontText depthFrom elementDepth)

/-! ## Texts -/

/-- The characters may stand in a document, and no line end among them is changed. -/
def Plain (cs : List Char) : Prop :=
  ∀ c ∈ cs, isAllowed c = true ∧ c ≠ '\r'

instance (cs : List Char) : Decidable (Plain cs) :=
  List.decidableBAll _ cs

/-- Blanks and line feeds, as they are written between tags. -/
def Spaces (cs : List Char) : Prop :=
  ∀ c ∈ cs, c = ' ' ∨ c = '\n'

theorem Spaces.append {cs cs' : List Char} (h : Spaces cs) (h' : Spaces cs') :
    Spaces (cs ++ cs') := fun c hc =>
  (List.mem_append.1 hc).elim (h c) (h' c)

theorem Spaces.plain {cs : List Char} (h : Spaces cs) : Plain cs := by
  intro c hc
  rcases h c hc with rfl | rfl <;> decide

/-- White space needs no references. -/
theorem Spaces.flatMap_escapeChar {cs : List Char} (h : Spaces cs) :
    cs.flatMap escapeChar = cs := by
  induction cs with
  | nil => rfl
  | cons c cs ih =>
    obtain ⟨space, spaces⟩ := List.forall_mem_cons.1 h
    rw [List.flatMap_cons, ih spaces]
    rcases space with rfl | rfl <;> rfl

/-- A character is written as it is, or as one of three references. -/
theorem escapeChar_cases (c : Char) :
    escapeChar c = [c] ∧ c ≠ '&' ∧ c ≠ '<' ∧ c ≠ '>' ∨
      c = '&' ∧ escapeChar c = "&amp;".toList ∨ c = '<' ∧ escapeChar c = "&lt;".toList ∨
      c = '>' ∧ escapeChar c = "&gt;".toList := by
  by_cases amp : c = '&'
  · exact .inr (.inl ⟨amp, by rw [escapeChar, if_pos amp]⟩)
  by_cases lt : c = '<'
  · exact .inr (.inr (.inl ⟨lt, by rw [escapeChar, if_neg amp, if_pos lt]⟩))
  by_cases gt : c = '>'
  · exact .inr (.inr (.inr ⟨gt, by rw [escapeChar, if_neg amp, if_neg lt, if_pos gt]⟩))
  · exact .inl ⟨by rw [escapeChar, if_neg amp, if_neg lt, if_neg gt], amp, lt, gt⟩

/-- An escaped text holds no tag and no end of a section. -/
theorem not_mem_escape (cs : List Char) :
    '<' ∉ cs.flatMap escapeChar ∧ '>' ∉ cs.flatMap escapeChar := by
  have single (c : Char) : '<' ∉ escapeChar c ∧ '>' ∉ escapeChar c := by
    obtain ⟨eq, -, lt, gt⟩ | ⟨-, eq⟩ | ⟨-, eq⟩ | ⟨-, eq⟩ := escapeChar_cases c <;> rw [eq]
    · simp [Ne.symm lt, Ne.symm gt]
    · decide
    · decide
    · decide
  simp only [List.mem_flatMap, not_exists, not_and]
  exact ⟨fun c _ => (single c).1, fun c _ => (single c).2⟩

/-! ## Tags -/

/-- The name of a tag, which is made of letters. -/
def IsTag (tag : String) : Prop :=
  tag.toList ≠ [] ∧ tag.toList.all Char.isAlpha = true

instance (tag : String) : Decidable (IsTag tag) :=
  inferInstanceAs (Decidable (_ ∧ _))

theorem IsTag.isAlpha {tag : String} (isTag : IsTag tag) {c : Char} (hc : c ∈ tag.toList) :
    c.isAlpha = true :=
  List.all_eq_true.1 isTag.2 c hc

theorem IsTag.head {tag : String} (isTag : IsTag tag) :
    ∃ c cs, tag.toList = c :: cs ∧ c.isAlpha = true := by
  obtain ⟨c, cs, eq⟩ := List.exists_cons_of_ne_nil isTag.1
  exact ⟨c, cs, eq, isTag.isAlpha (eq ▸ List.mem_cons_self)⟩

/-- A letter is none of the marks that give a tag its shape. -/
theorem isAlpha_ne {c : Char} (h : c.isAlpha = true) : c ≠ ':' ∧ c ≠ '/' ∧ c ≠ '?' ∧ c ≠ '!' ∧
    c ≠ '>' := by
  refine ⟨?_, ?_, ?_, ?_, ?_⟩ <;> rintro rfl <;> revert h <;> decide

/-! ## Depth -/

/-- The tags of the text open at most so many elements one inside the other, and close them. -/
def Nests (cs : List Char) (depth : Nat) : Prop :=
  ∀ level rest, depthFrom level (cs ++ rest) ≤ max (level + depth) (depthFrom level rest)

namespace Nests

theorem of_not_mem {cs : List Char} (noTag : '<' ∉ cs) : Nests cs 0 := by
  intro level rest
  induction cs with
  | nil => exact Nat.le_max_right _ _
  | cons c cs ih =>
    simp only [List.mem_cons, not_or] at noTag
    rw [List.cons_append, depthFrom, if_neg (Ne.symm noTag.1)]
    exact ih noTag.2

theorem mono {cs : List Char} {depth depth' : Nat} (h : Nests cs depth) (le : depth ≤ depth') :
    Nests cs depth' := by
  intro level rest
  have := h level rest
  omega

theorem append {cs cs' : List Char} {depth depth' : Nat} (h : Nests cs depth)
    (h' : Nests cs' depth') : Nests (cs ++ cs') (max depth depth') := by
  intro level rest
  have first := h level (cs' ++ rest)
  have second := h' level rest
  rw [List.append_assoc]
  omega

theorem depthFrom_tag {cs : List Char} (noEnd : '>' ∉ cs) (level : Nat) (rest : List Char) :
    depthFrom level ('<' :: (cs ++ '>' :: rest)) =
      let level' :=
        if cs.head? = some '/' then level - 1
        else if cs.head? = some '?' || cs.head? = some '!' || cs.getLast? = some '/' then level
        else level + 1
      max level' (depthFrom level' rest) := by
  have inside : ∀ c ∈ cs, (c != '>') = true := by
    intro c hc
    rw [bne_iff_ne]
    rintro rfl
    exact noEnd hc
  have skip (level : Nat) : depthFrom level ('>' :: rest) = depthFrom level rest := by
    rw [depthFrom, if_neg (by decide)]
  rw [depthFrom]
  simp [List.takeWhile_append_of_pos inside, List.dropWhile_append_of_pos inside, skip]

theorem tagged {tag : String} (isTag : IsTag tag) {cs : List Char} {depth : Nat}
    (h : Nests cs depth) :
    Nests ('<' :: (tag.toList ++ '>' :: (cs ++ '<' :: '/' :: (tag.toList ++ ['>']))))
      (depth + 1) := by
  intro level rest
  have noEnd : '>' ∉ tag.toList := fun mem => (isAlpha_ne (isTag.isAlpha mem)).2.2.2.2 rfl
  obtain ⟨c, tail, eq, alpha⟩ := isTag.head
  obtain ⟨-, slash, question, bang, -⟩ := isAlpha_ne alpha
  have last : tag.toList.getLast? ≠ some '/' := by
    intro last
    exact (isAlpha_ne (isTag.isAlpha (List.mem_of_getLast? last))).2.1 rfl
  have start (rest : List Char) : depthFrom level ('<' :: (tag.toList ++ '>' :: rest)) =
      max (level + 1) (depthFrom (level + 1) rest) := by
    have first : tag.toList.head? = some c := by simp [eq]
    simp [depthFrom_tag noEnd, last, first, slash, question, bang]
  have stop : depthFrom (level + 1) ('<' :: ('/' :: tag.toList ++ '>' :: rest)) =
      max level (depthFrom level rest) := by
    rw [depthFrom_tag (by simpa using noEnd)]
    simp
  have inside := h (level + 1) ('<' :: ('/' :: tag.toList ++ '>' :: rest))
  simp only [List.cons_append, List.append_assoc, List.nil_append] at *
  rw [start]
  omega

end Nests

/-! ## Elements -/

theorem toList_tagged (tag content : String) : (tagged tag content).toList =
    '<' :: (tag.toList ++ '>' :: (content.toList ++ '<' :: '/' :: (tag.toList ++ ['>']))) := by
  simp [tagged]

/-- The elements have the properties, one by one. -/
abbrev Have : List (Element → Prop) → List Element → Prop :=
  List.Forall₂ fun property e => property e

theorem Have.split {ps ps' : List (Element → Prop)} {es : List Element} (h : Have (ps ++ ps') es) :
    ∃ es₁ es₂, Have ps es₁ ∧ Have ps' es₂ ∧ es = es₁ ++ es₂ := by
  induction ps generalizing es with
  | nil => exact ⟨[], es, .nil, h, rfl⟩
  | cons p ps ih =>
    obtain ⟨e, es, first, others, rfl⟩ := List.forall₂_cons_left_iff.1 h
    obtain ⟨es₁, es₂, h₁, h₂, rfl⟩ := ih others
    exact ⟨e :: es₁, es₂, .cons first h₁, h₂, rfl⟩

theorem Have.weaken {ps ps' : List (Element → Prop)} {es : List Element} (h : Have ps es)
    (weaker : List.Forall₂ (fun p p' => ∀ e, p e → p' e) ps ps') : Have ps' es := by
  induction weaker generalizing es with
  | nil => exact h
  | cons first _ ih =>
    obtain ⟨e, es, holds, others, rfl⟩ := List.forall₂_cons_left_iff.1 h
    exact .cons (first e holds) (ih others)

mutual

/-- The text is one element, of which the property holds; its tags nest so deep. -/
inductive Spells : String → Nat → (Element → Prop) → Prop where
  /-- Between two tags, an escaped text. The element has their name and that text. -/
  | ofText {tag text : String} (isTag : IsTag tag) (plain : Plain text.toList) :
      Spells (Xcql.tagged tag (escapeText text)) 1 fun e => e.name = tag ∧ frontText e = text
  /-- Between two tags, other elements. The element has their name and those elements. -/
  | tagged {tag content : String} {depth : Nat} {properties : List (Element → Prop)}
      (isTag : IsTag tag) (h : Fills content depth properties) :
      Spells (Xcql.tagged tag content) (depth + 1) fun e =>
        e.name = tag ∧ Have properties (elements e.children)
  /-- What follows from a property holds as well. -/
  | imp {text : String} {depth depth' : Nat} {property property' : Element → Prop}
      (h : Spells text depth property) (le : depth ≤ depth')
      (weaker : ∀ e, property e → property' e) : Spells text depth' property'

/-- The text is a sequence of elements with the properties, and white space around them; its tags
nest so deep. -/
inductive Fills : String → Nat → List (Element → Prop) → Prop where
  | ofSpaces {text : String} (h : Spaces text.toList) : Fills text 0 []
  | element {text : String} {depth : Nat} {property : Element → Prop}
      (h : Spells text depth property) : Fills text depth [property]
  | append {text text' : String} {depth depth' : Nat} {ps ps' : List (Element → Prop)}
      (h : Fills text depth ps) (h' : Fills text' depth' ps') :
      Fills (text ++ text') (max depth depth') (ps ++ ps')
  /-- What follows from the properties holds as well. -/
  | weaken {text : String} {depth depth' : Nat} {ps ps' : List (Element → Prop)}
      (h : Fills text depth ps) (le : depth ≤ depth')
      (weaker : List.Forall₂ (fun p p' => ∀ e, p e → p' e) ps ps') : Fills text depth' ps'

end

namespace Fills

variable {text : String} {depth depth' : Nat} {properties : List (Element → Prop)}

theorem nil : Fills "" 0 [] :=
  .ofSpaces nofun

theorem mono (h : Fills text depth properties) (le : depth ≤ depth') :
    Fills text depth' properties :=
  h.weaken le (List.forall₂_same.2 fun _ _ _ holds => holds)

theorem imp {property property' : Element → Prop} (h : Fills text depth [property])
    (weaker : ∀ e, property e → property' e) : Fills text depth [property'] :=
  h.weaken (Nat.le_refl _) (.cons weaker .nil)

end Fills

mutual

theorem Spells.nests {text : String} {depth : Nat} {property : Element → Prop} :
    Spells text depth property → Nests text.toList depth
  | @Spells.ofText _ text isTag _ => by
    have noTag := (not_mem_escape text.toList).1
    rw [toList_tagged, escapeText, String.toList_ofList]
    exact (Nests.of_not_mem noTag).tagged isTag
  | .tagged isTag h => by
    rw [toList_tagged]
    exact h.nests.tagged isTag
  | .imp h le _ => h.nests.mono le

theorem Fills.nests {text : String} {depth : Nat} {properties : List (Element → Prop)} :
    Fills text depth properties → Nests text.toList depth
  | @Fills.ofSpaces text h => by
    have noTag := (not_mem_escape text.toList).1
    rw [h.flatMap_escapeChar] at noTag
    exact .of_not_mem noTag
  | .element h => h.nests
  | .append h h' => by
    rw [String.toList_append]
    exact h.nests.append h'.nests
  | .weaken h le _ => h.nests.mono le

end

/-! ## Lines -/

theorem spaces_indentation (level : Nat) : Spaces (indentation level).toList := by
  intro c hc
  simp only [indentation, String.toList_ofList, List.mem_replicate] at hc
  exact .inl hc.2

/-- A line is an element if its content is one. -/
theorem Spells.line {text : String} {depth : Nat} {property : Element → Prop}
    (h : Spells text depth property) (level : Nat) :
    Fills (Xcql.line level text) depth [property] := by
  have lineEnd : Fills "\n" 0 [] := .ofSpaces (by simp [Spaces])
  have whole := ((Fills.ofSpaces (spaces_indentation level)).append (.element h)).append lineEnd
  simpa [Xcql.line] using whole

theorem block_eq (level : Nat) (tag content : String) : Xcql.block level tag content =
    Xcql.line level (tagged tag ("\n" ++ content ++ indentation level)) := by
  rw [← String.toList_inj]
  simp [Xcql.block, Xcql.line, tagged]

theorem Spells.block {content : String} {depth : Nat} (tag : String) (isTag : IsTag tag)
    {properties : List (Element → Prop)} (h : Fills content depth properties) (level : Nat) :
    Spells (Xcql.tagged tag ("\n" ++ content ++ indentation level)) (depth + 1)
      fun e => e.name = tag ∧ Have properties (elements e.children) := by
  have lineEnd : Fills "\n" 0 [] := .ofSpaces (by simp [Spaces])
  have whole := (lineEnd.append h).append (.ofSpaces (spaces_indentation level))
  exact .tagged isTag (by simpa using whole)

theorem Fills.block {content : String} {depth : Nat} {properties : List (Element → Prop)}
    (h : Fills content depth properties) (tag : String) (isTag : IsTag tag) (level : Nat) :
    Fills (Xcql.block level tag content) (depth + 1)
      [fun e => e.name = tag ∧ Have properties (elements e.children)] := by
  rw [block_eq]
  exact (Spells.block tag isTag h level).line level

theorem Spells.elementDepth_line {text : String} {depth : Nat} {property : Element → Prop}
    (h : Spells text depth property) (level : Nat) :
    elementDepth (Xcql.line level text) ≤ depth := by
  have nests := (h.line level).nests 0 []
  simpa [elementDepth, depthFrom] using nests

/-! ## What is relied on -/

/-- The library reads printed documents as they were printed: a line that is one element is read,
and the property holds of the root. -/
def Library.Faithful [Library] : Prop :=
  ∀ {text : String} {depth : Nat} {property : Element → Prop}, Spells text depth property →
    ∀ level, ∃ e, parse? (Xcql.line level text) = some e ∧ property e

/-- The library reads nothing but well-formed documents, and makes the tree that the tags of the
document make. -/
def Library.Sound [Library] : Prop :=
  ∀ {text : String} {root : Element}, parse? text = some root → Document.parse? text = some root

end ContextQuery.Xml
