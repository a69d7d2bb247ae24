import ContextQuery.Proofs.Xcql.Reading
import ContextQuery.Proofs.Xml.Written

/-!
# The XML form is unambiguous

No two trees have the same XML form at a level, whatever characters their strings hold. A document
need not be readable for that: texts with characters that a document may not hold are told apart as
well. What is written of each part ends where the part says so, so the form of a tree is taken apart
from its front, and where a part may be missing the tag that comes next decides.

## Main definitions

* `Xcql.Opens`: a text goes on with a given tag.
* `Xcql.Delimited`: what was written is known from the front of any text that starts with it.
* `Xcql.DelimitedBefore`: the same, where a given tag does not come next.

## Main results

* `Xcql.delimited_node`: the XML form of a tree with canonical names is delimited.
-/

namespace ContextQuery

theorem Connective.keyword_injective : Function.Injective keyword := by
  intro a b
  cases a <;> cases b <;> decide

theorem Comparison.sign_injective : Function.Injective sign := by
  intro a b
  cases a <;> cases b <;> decide

/-- A canonical name is known from its full form. -/
theorem Name.Canonical.fullName_inj {a b : Name} (ha : a.Canonical) (hb : b.Canonical)
    (h : a.fullName = b.fullName) : a = b := by
  have same := ha.split
  rw [h, hb.split] at same
  exact (Except.ok.inj same).symm

/-- A modifier that was read has a comparison and a value, or neither. -/
theorem Modifier.Readable.cases {m : Modifier} (h : m.Readable) :
    (m.comparison = none ∧ m.value = none) ∨
      ∃ c value, m.comparison = some c ∧ m.value = some value := by
  obtain ⟨name, comparison, value⟩ := m
  have whole := h.whole
  cases comparison <;> cases value <;> simp_all [Modifier.Whole]

namespace Xcql

open Xml (Piece pieces_escape not_mem_escape)

/-! ## Texts -/

theorem Piece.ofChar_injective : Function.Injective Piece.ofChar := by
  intro c d h
  unfold Piece.ofChar at h
  grind

/-- A text is known up to the first place of a character that it does not hold. -/
theorem append_cons_inj {c : Char} {a b s t : List Char} (ha : c ∉ a) (hb : c ∉ b)
    (h : a ++ c :: s = b ++ c :: t) : a = b ∧ s = t := by
  induction a generalizing b with
  | nil => cases b <;> grind
  | cons x a ih =>
    cases b with
    | nil => grind
    | cons y b =>
      simp only [List.mem_cons, not_or] at ha hb
      obtain ⟨eq, h⟩ := List.cons.inj h
      obtain ⟨same, rest⟩ := ih ha.2 hb.2 h
      exact ⟨by rw [eq, same], rest⟩

/-- Escaped texts are told apart up to the tag that follows them. -/
theorem escape_append_inj {a b s t : List Char}
    (h : a.flatMap escapeChar ++ '<' :: s = b.flatMap escapeChar ++ '<' :: t) : a = b ∧ s = t := by
  have noTag (cs : List Char) := (not_mem_escape cs).1
  obtain ⟨same, rest⟩ := append_cons_inj (noTag a) (noTag b) h
  have pieces : some (a.map Piece.ofChar) = some (b.map Piece.ofChar) := by
    rw [← pieces_escape, ← pieces_escape, same]
  exact ⟨List.map_injective_iff.2 Piece.ofChar_injective (Option.some.inj pieces), rest⟩

/-! ## Tags -/

/-- After blanks the text goes on with the tag. -/
def Opens (tag : String) (cs : List Char) : Prop :=
  ∃ blanks rest, cs = List.replicate blanks ' ' ++ '<' :: (tag.toList ++ '>' :: rest)

namespace Opens

variable {tag tag' : String} {cs cs' : List Char}

theorem append (h : Opens tag cs) (cs' : List Char) : Opens tag (cs ++ cs') := by
  obtain ⟨blanks, rest, rfl⟩ := h
  exact ⟨blanks, rest ++ cs', by simp⟩

/-- Only one tag comes next. -/
theorem unique (h : Opens tag cs) (h' : Opens tag' cs) (name : '>' ∉ tag.toList)
    (name' : '>' ∉ tag'.toList) : tag = tag' := by
  obtain ⟨blanks, rest, rfl⟩ := h
  obtain ⟨blanks', rest', eq⟩ := h'
  have noTag (n : Nat) : '<' ∉ List.replicate n ' ' := by
    simp [List.mem_replicate]
  obtain ⟨-, eq⟩ := append_cons_inj (noTag _) (noTag _) eq
  obtain ⟨eq, -⟩ := append_cons_inj name name' eq
  exact String.toList_inj.1 eq

theorem not_other (h : Opens tag cs) (ne : tag ≠ tag') (name : '>' ∉ tag.toList)
    (name' : '>' ∉ tag'.toList) : ¬Opens tag' cs :=
  fun h' => ne (h.unique h' name name')

end Opens

theorem opens_line (level : Nat) (tag content : String) :
    Opens tag (line level ("<" ++ tag ++ ">" ++ content)).toList :=
  ⟨2 * level, content.toList ++ ['\n'], by simp [line, indentation]⟩

theorem opens_leaf (level : Nat) (tag text : String) : Opens tag (leaf level tag text).toList := by
  have opens := opens_line level tag (escapeText text ++ "</" ++ tag ++ ">")
  simpa [leaf, tagged, String.append_assoc] using opens

theorem opens_block (level : Nat) (tag content : String) :
    Opens tag (block level tag content).toList := by
  have opens := opens_line level tag ""
  simpa [block] using opens.append _

theorem opens_modifier (level : Nat) (m : Modifier) :
    Opens "modifier" (modifier level m).toList := by
  unfold modifier
  split
  · have opens := opens_line level "modifier"
      (tagged "type" (escapeText m.name.fullName) ++ "</modifier>")
    simpa [tagged, String.append_assoc] using opens
  · exact opens_block _ _ _

/-- Two blocks are told apart by what is in them and by what follows their last line. -/
theorem block_append_iff {level : Nat} {tag content content' : String} {s t : List Char} :
    (block level tag content).toList ++ s = (block level tag content').toList ++ t ↔
      content.toList ++ ((line level ("</" ++ tag ++ ">")).toList ++ s) =
        content'.toList ++ ((line level ("</" ++ tag ++ ">")).toList ++ t) := by
  simp only [block, String.toList_append, List.append_assoc, List.append_cancel_left_eq]

/-! ## Parts that show their end -/

/-- Of the values in the domain, what was written is known from the front of any text that starts
with it. -/
def Delimited {α : Type} (domain : α → Prop) (write : α → String) : Prop :=
  ∀ ⦃a b : α⦄ ⦃s t : List Char⦄, domain a → domain b →
    (write a).toList ++ s = (write b).toList ++ t → a = b ∧ s = t

/-- The same where the tag does not come next. -/
def DelimitedBefore {α : Type} (tag : String) (domain : α → Prop) (write : α → String) : Prop :=
  ∀ ⦃a b : α⦄ ⦃s t : List Char⦄, domain a → domain b → ¬Opens tag s → ¬Opens tag t →
    (write a).toList ++ s = (write b).toList ++ t → a = b ∧ s = t

theorem delimited_leaf (level : Nat) (tag : String) :
    Delimited (fun _ => True) (leaf level tag) := by
  intro a b s t _ _ h
  simp only [leaf, line, tagged, escapeText, String.toList_append, List.append_assoc,
    List.append_cancel_left_eq, String.toList_ofList] at h
  obtain ⟨same, rest⟩ := escape_append_inj h
  exact ⟨String.toList_inj.1 same, by simpa using rest⟩

variable {α : Type} {domain : α → Prop} {write : α → String}

/-- What is written in a list of parts that all open with one tag. -/
theorem Delimited.items (h : Delimited domain write) {tag : String}
    (opens : ∀ a, Opens tag (write a).toList) :
    DelimitedBefore tag (fun as => ∀ a ∈ as, domain a)
      fun as : List α => as.foldr (fun a text => write a ++ text) "" := by
  intro as bs s t has hbs stop stop' eq
  induction as generalizing bs with
  | nil =>
    cases bs with
    | nil => exact ⟨rfl, by simpa using eq⟩
    | cons b bs =>
      simp only [List.foldr_nil, List.foldr_cons, String.toList_append, List.append_assoc,
        String.toList_empty, List.nil_append] at eq
      rw [eq] at stop
      exact absurd ((opens b).append _) stop
  | cons a as ih =>
    cases bs with
    | nil =>
      simp only [List.foldr_nil, List.foldr_cons, String.toList_append, List.append_assoc,
        String.toList_empty, List.nil_append] at eq
      rw [← eq] at stop'
      exact absurd ((opens a).append _) stop'
    | cons b bs =>
      obtain ⟨ha, has⟩ := List.forall_mem_cons.1 has
      obtain ⟨hb, hbs⟩ := List.forall_mem_cons.1 hbs
      simp only [List.foldr_cons, String.toList_append, List.append_assoc] at eq
      obtain ⟨same, eq⟩ := h ha hb eq
      obtain ⟨others, rest⟩ := ih has hbs eq
      exact ⟨by rw [same, others], rest⟩

/-- A block ends with a tag of its own. -/
theorem DelimitedBefore.block {tag : String} (h : DelimitedBefore tag domain write)
    (level : Nat) (outer : String) (ne : "/" ++ outer ≠ tag) (name : '>' ∉ tag.toList)
    (outerName : '>' ∉ ("/" ++ outer).toList) :
    Delimited domain fun a => Xcql.block level outer (write a) := by
  have closes (s : List Char) : ¬Opens tag ((line level ("</" ++ outer ++ ">")).toList ++ s) := by
    have stop := (opens_line level ("/" ++ outer) "").append s
    refine Opens.not_other ?_ ne outerName name
    simpa [line] using stop
  intro a b s t ha hb eq
  obtain ⟨same, rest⟩ := h ha hb (closes s) (closes t) (block_append_iff.1 eq)
  exact ⟨same, List.append_cancel_left rest⟩

theorem Delimited.block (h : Delimited domain write) (level : Nat) (tag : String) :
    Delimited domain fun a => Xcql.block level tag (write a) := by
  intro a b s t ha hb eq
  obtain ⟨same, rest⟩ := h ha hb (block_append_iff.1 eq)
  exact ⟨same, List.append_cancel_left rest⟩

/-- A block that is left out where the list is empty. -/
theorem Delimited.optional {write : List α → String} {domain : List α → Prop} {level : Nat}
    {tag : String} (h : Delimited domain fun as => Xcql.block level tag (write as)) :
    DelimitedBefore tag domain
      fun as => if as.isEmpty then "" else Xcql.block level tag (write as) := by
  intro as bs s t has hbs stop stop' eq
  have opens (as : List α) (s : List Char) := (opens_block level tag (write as)).append s
  cases as with
  | nil =>
    cases bs with
    | nil => exact ⟨rfl, by simpa using eq⟩
    | cons b bs =>
      simp only [List.isEmpty_nil, List.isEmpty_cons, Bool.false_eq_true, reduceIte,
        String.toList_empty, List.nil_append] at eq
      rw [eq] at stop
      exact absurd (opens _ _) stop
  | cons a as =>
    cases bs with
    | nil =>
      simp only [List.isEmpty_nil, List.isEmpty_cons, Bool.false_eq_true, reduceIte,
        String.toList_empty, List.nil_append] at eq
      rw [← eq] at stop'
      exact absurd (opens _ _) stop'
    | cons b bs => exact h has hbs eq

/-! ## Declarations and modifiers -/

theorem delimited_declaration (level : Nat) : Delimited (fun _ => True)
    fun entry : String × String => block level "prefix"
      (leaf (level + 1) "name" entry.1 ++ leaf (level + 1) "identifier" entry.2) := by
  have inside : Delimited (fun _ => True) fun entry : String × String =>
      leaf (level + 1) "name" entry.1 ++ leaf (level + 1) "identifier" entry.2 := by
    intro a b s t _ _ eq
    simp only [String.toList_append, List.append_assoc] at eq
    obtain ⟨name, eq⟩ := delimited_leaf _ _ trivial trivial eq
    obtain ⟨uri, rest⟩ := delimited_leaf _ _ trivial trivial eq
    exact ⟨Prod.ext name uri, rest⟩
  exact inside.block level "prefix"

theorem delimited_declarations (level : Nat) :
    DelimitedBefore "prefixes" (fun _ => True) (declarations level) := by
  have each := (delimited_declaration (level + 1)).items fun _ => opens_block _ _ _
  have whole := (each.block level "prefixes" (by decide) (by decide) (by decide)).optional
  intro a b s t _ _ stop stop' eq
  obtain ⟨same, rest⟩ := whole (fun _ _ => trivial) (fun _ _ => trivial) stop stop' eq
  exact ⟨PrefixMap.ext same, rest⟩

theorem delimited_name (level : Nat) (tag : String) :
    Delimited Name.Canonical fun n => leaf level tag n.fullName := by
  intro a b s t ha hb eq
  obtain ⟨same, rest⟩ := delimited_leaf level tag trivial trivial eq
  exact ⟨Name.Canonical.fullName_inj ha hb same, rest⟩

/-- The two layouts of a modifier differ right after its tag. -/
theorem delimited_modifier (level : Nat) : Delimited Modifier.Readable (modifier level) := by
  intro a b s t ha hb eq
  obtain ⟨name, comparison, value⟩ := a
  obtain ⟨name', comparison', value'⟩ := b
  obtain ⟨rfl, rfl⟩ | ⟨c, v, rfl, rfl⟩ := ha.cases <;>
    obtain ⟨rfl, rfl⟩ | ⟨c', v', rfl, rfl⟩ := hb.cases
  · simp only [modifier, line, tagged, escapeText, String.toList_append, List.append_assoc,
      List.append_cancel_left_eq, String.toList_ofList] at eq
    obtain ⟨same, rest⟩ := escape_append_inj eq
    obtain rfl := ha.name.fullName_inj hb.name (String.toList_inj.1 same)
    exact ⟨rfl, by simpa using rest⟩
  · simp [modifier, line, tagged, block] at eq
  · simp [modifier, line, tagged, block] at eq
  · simp only [modifier, block, String.toList_append, List.append_assoc,
      List.append_cancel_left_eq] at eq
    obtain ⟨named, afterName⟩ := delimited_name _ _ ha.name hb.name eq
    obtain ⟨sign, afterSign⟩ := delimited_leaf _ _ trivial trivial afterName
    obtain ⟨valued, rest⟩ := delimited_leaf _ _ trivial trivial afterSign
    dsimp only at named
    rw [named, Comparison.sign_injective sign, valued]
    exact ⟨rfl, by simpa using rest⟩

theorem delimited_modifiers (level : Nat) :
    DelimitedBefore "modifiers" (fun ms => ∀ m ∈ ms, m.Readable) (modifiers level) := by
  have each := (delimited_modifier (level + 1)).items fun _ => opens_modifier _ _
  exact (each.block level "modifiers" (by decide) (by decide) (by decide)).optional

/-! ## Nodes -/

/-- What is written of a relation or a boolean between its tags. -/
theorem delimited_valued {α : Type} {domain : α → Prop} {text : α → String}
    (injective : ∀ a b, domain a → domain b → text a = text b → a = b) (level : Nat)
    (tag : String) (name : '>' ∉ ("/" ++ tag).toList) (ne : "/" ++ tag ≠ "modifiers") :
    Delimited (fun p : α × List Modifier => domain p.1 ∧ ∀ m ∈ p.2, m.Readable) fun p =>
      block level tag (leaf (level + 1) "value" (text p.1) ++ modifiers (level + 1) p.2) := by
  have inside : DelimitedBefore "modifiers"
      (fun p : α × List Modifier => domain p.1 ∧ ∀ m ∈ p.2, m.Readable)
      fun p => leaf (level + 1) "value" (text p.1) ++ modifiers (level + 1) p.2 := by
    intro a b s t ha hb stop stop' eq
    simp only [String.toList_append, List.append_assoc] at eq
    obtain ⟨valued, afterValue⟩ := delimited_leaf _ _ trivial trivial eq
    obtain ⟨mods, rest⟩ := delimited_modifiers _ ha.2 hb.2 stop stop' afterValue
    exact ⟨Prod.ext (injective _ _ ha.1 hb.1 valued) mods, rest⟩
  exact inside.block level tag ne (by decide) name

theorem delimited_relation (level : Nat) : Delimited
    (fun r : Relation => r.name.Canonical ∧ ∀ m ∈ r.modifiers, m.Readable) fun r =>
      block level "relation"
        (leaf (level + 1) "value" r.name.fullName ++ modifiers (level + 1) r.modifiers) := by
  have pair := delimited_valued (fun _ _ => Name.Canonical.fullName_inj) level "relation"
    (by decide) (by decide)
  intro a b s t ha hb eq
  obtain ⟨same, rest⟩ := @pair (a.name, a.modifiers) (b.name, b.modifiers) s t ha hb eq
  obtain ⟨named, mods⟩ := Prod.mk.inj same
  exact ⟨by cases a; cases b; simp_all, rest⟩

theorem delimited_boolean (level : Nat) : Delimited
    (fun b : Boolean => ∀ m ∈ b.modifiers, m.Readable) fun b => block level "boolean"
      (leaf (level + 1) "value" b.op.keyword ++ modifiers (level + 1) b.modifiers) := by
  have injective (a b : Connective) (_ : True) (_ : True) (same : a.keyword = b.keyword) : a = b :=
    Connective.keyword_injective same
  have pair := delimited_valued injective level "boolean" (by decide) (by decide)
  intro a b s t ha hb eq
  obtain ⟨same, rest⟩ := @pair (a.op, a.modifiers) (b.op, b.modifiers) s t ⟨trivial, ha⟩
    ⟨trivial, hb⟩ eq
  obtain ⟨op, mods⟩ := Prod.mk.inj same
  exact ⟨by cases a; cases b; simp_all, rest⟩

/-- The declarations of a node may be missing, but a tag that is not theirs comes next. -/
theorem declarations_inj {level : Nat} {p p' : PrefixMap} {tag : String} {s t : List Char}
    (name : '>' ∉ tag.toList) (ne : tag ≠ "prefixes") (opens : Opens tag s) (opens' : Opens tag t)
    (eq : (declarations level p).toList ++ s = (declarations level p').toList ++ t) :
    p = p' ∧ s = t :=
  delimited_declarations level trivial trivial (opens.not_other ne name (by decide))
    (opens'.not_other ne name (by decide)) eq

theorem delimited_clause (level : Nat) : Delimited
    (fun x : PrefixMap × SearchClause => x.2.Canonical) fun x => node level (.clause x.1 x.2) := by
  refine Delimited.block ?_ level "searchClause"
  intro ⟨p, c⟩ ⟨p', c'⟩ s t h h' eq
  have opens (c : SearchClause) (s : List Char) : Opens "index"
      ((leaf (level + 1) "index" c.index.fullName).toList ++ s) := (opens_leaf _ _ _).append s
  simp only [String.toList_append, List.append_assoc] at eq
  obtain ⟨declared, atIndex⟩ :=
    declarations_inj (by decide) (by decide) (opens c _) (opens c' _) eq
  obtain ⟨index, atRelation⟩ := delimited_name _ _ h.index h'.index atIndex
  obtain ⟨relation, atTerm⟩ := delimited_relation (level + 1) ⟨h.relation, h.modifiers⟩
    ⟨h'.relation, h'.modifiers⟩ atRelation
  obtain ⟨term, rest⟩ := delimited_leaf _ _ trivial trivial atTerm
  refine ⟨?_, rest⟩
  obtain ⟨i, r, ⟨value⟩⟩ := c
  obtain ⟨i', r', ⟨value'⟩⟩ := c'
  simp_all

/-- Only a clause is written as a clause, only a triple as a triple. -/
theorem opens_node (level : Nat) (n : Node) :
    Opens (if n.isClause then "searchClause" else "triple") (node level n).toList := by
  cases n with
  | clause | triple => exact opens_block _ _ _

/-- The tag that a form starts with says whether it is of a clause. -/
theorem isClause_eq {level : Nat} {n n' : Node} {s t : List Char}
    (eq : (node level n).toList ++ s = (node level n').toList ++ t) : n.isClause = n'.isClause := by
  have opens := (opens_node level n).append s
  have opens' := (opens_node level n').append t
  rw [eq] at opens
  have tags := opens.unique opens' (by split <;> decide) (by split <;> decide)
  revert tags
  cases n.isClause <;> cases n'.isClause <;> simp

/-- The form of a tree with canonical names ends where the tree does. -/
theorem delimited_node (level : Nat) : Delimited Node.Canonical (node level) := by
  intro n n' s t h h' eq
  have sameKind := isClause_eq eq
  induction n generalizing n' level s t with
  | clause p c =>
    cases n' with
    | triple => simp [Node.isClause, Node.clause?] at sameKind
    | clause p' c' =>
      obtain ⟨same, rest⟩ := @delimited_clause level (p, c) (p', c') s t h.2 h'.2 eq
      obtain ⟨rfl, rfl⟩ := Prod.mk.inj same
      exact ⟨rfl, rest⟩
  | triple p b l r ihl ihr =>
    cases n' with
    | clause => simp [Node.isClause, Node.clause?] at sameKind
    | triple p' b' l' r' =>
      obtain ⟨-, hb, hl, hr⟩ := h
      obtain ⟨-, hb', hl', hr'⟩ := h'
      have opens (b : Boolean) (s : List Char) := (opens_block (level + 1) "boolean"
        (leaf (level + 2) "value" b.op.keyword ++ modifiers (level + 2) b.modifiers)).append s
      simp only [node, block_append_iff] at eq
      simp only [String.toList_append, List.append_assoc] at eq
      obtain ⟨rfl, atBoolean⟩ :=
        declarations_inj (by decide) (by decide) (opens b _) (opens b' _) eq
      obtain ⟨rfl, atLeft⟩ := delimited_boolean (level + 1) hb hb' atBoolean
      have inLeft := block_append_iff.1 atLeft
      obtain ⟨rfl, leftEnd⟩ := ihl (level + 2) hl hl' inLeft (isClause_eq inLeft)
      have inRight := block_append_iff.1 (List.append_cancel_left leftEnd)
      obtain ⟨rfl, rightEnd⟩ := ihr (level + 2) hr hr' inRight (isClause_eq inRight)
      exact ⟨rfl, List.append_cancel_left (List.append_cancel_left rightEnd)⟩

end Xcql

end ContextQuery
