import Mathlib.Algebra.BigOperators.Group.List.Basic
import Mathlib.Data.ENat.Basic
import ContextQuery.Xcql.Reader

/-!
# The layout of XCQL

Which elements have a place in the XML form of a query, and what a reader makes of the elements that
it meets. A reader reads an element, refuses it, or passes it over: parts that look their elements
up by name read the first one of each name, and parts that hold a text look at no element at all.

## Main definitions

* `Xcql.Part`: the parts of a form, with their `layout`.
* `Xcql.Part.fits`: all elements of a content have their places in the part, at every depth.
* `Xcql.Part.standing`: what a part makes of an element.
* `Xcql.Part.heed`, `Xcql.Part.prune`: a form without the elements that are passed over, and one
  with nothing but the elements that are read.
* `Xcql.Part.take`: an element as a part reads it.
* `Xcql.Counted`: the kinds of elements that are counted against a query.
-/

namespace ContextQuery

open Xml (Content Element)

/-! ## Elements of a tree -/

namespace Xml

/-- An element as a piece of content. -/
def Element.toContent (e : Element) : Content :=
  .element e.name e.children

/-- The name of an element. -/
def Content.names : Content → List String
  | .element name _ => [name]
  | _ => []

mutual

/-- The number of elements with a name, at any depth. -/
def Content.amount (tag : String) : Content → Nat
  | .element name children => (if name = tag then 1 else 0) + Content.amountAll tag children
  | _ => 0

/-- The number of elements with a name in a list of contents, at any depth. -/
def Content.amountAll (tag : String) : List Content → Nat
  | [] => 0
  | c :: cs => c.amount tag + Content.amountAll tag cs

end

mutual

/-- The contents are equal. -/
def Content.same : Content → Content → Bool
  | .element name cs, .element name' cs' => name = name' && sameAll cs cs'
  | .text s, .text s' => s = s'
  | .remark, .remark => true
  | _, _ => false

/-- The contents of two elements are equal. -/
def Content.sameAll : List Content → List Content → Bool
  | [], [] => true
  | c :: cs, c' :: cs' => c.same c' && sameAll cs cs'
  | _, _ => false

end

mutual

theorem Content.same_iff : ∀ {c c' : Content}, c.same c' = true ↔ c = c'
  | .element name cs, c' => by cases c' <;> simp [same, sameAll_iff]
  | .text s, c' => by cases c' <;> simp [same]
  | .remark, c' => by cases c' <;> simp [same]

theorem Content.sameAll_iff : ∀ {cs cs' : List Content}, sameAll cs cs' = true ↔ cs = cs'
  | [], cs' => by cases cs' <;> simp [sameAll]
  | c :: cs, cs' => by cases cs' <;> simp [sameAll, same_iff, sameAll_iff]

end

instance : DecidableEq Content :=
  fun _ _ => decidable_of_iff _ Content.same_iff

deriving instance DecidableEq for Element

end Xml

namespace Xcql

/-! ## Places -/

/-- The parts of a form. Relations and booleans are alike. -/
inductive Part where
  | clause | triple | valued | modifiers | modifier | declarations | declaration | operand | leaf
  deriving DecidableEq

/-- How a part takes the elements that it may hold. -/
inductive Part.Intake where
  /-- The first one of each name. -/
  | first
  /-- All of them. -/
  | every
  /-- The only one. -/
  | sole
  /-- None. -/
  | nothing
  deriving DecidableEq

/-- What a reader makes of an element. -/
inductive Standing where
  | read (part : Part)
  | passed
  | refused

namespace Part

/-- The elements that a part may hold, by name. -/
def layout : Part → List (String × Part)
  | clause =>
    [("prefixes", declarations), ("index", leaf), ("relation", valued), ("term", leaf)]
  | triple =>
    [("prefixes", declarations), ("boolean", valued), ("leftOperand", operand),
      ("rightOperand", operand)]
  | valued => [("value", leaf), ("modifiers", modifiers)]
  | modifiers => [("modifier", modifier)]
  | modifier => [("type", leaf), ("comparison", leaf), ("value", leaf)]
  | declarations => [("prefix", declaration)]
  | declaration => [("name", leaf), ("identifier", leaf)]
  | operand => [("searchClause", clause), ("triple", triple)]
  | leaf => []

/-- What an element with the given name is in the part. -/
def child? (p : Part) (name : String) : Option Part :=
  p.layout.lookup name

/-- How the part takes the elements that it may hold. -/
def intake : Part → Intake
  | clause | triple | valued | modifier | declaration => .first
  | modifiers | declarations => .every
  | operand => .sole
  | leaf => .nothing

mutual

/-- All elements have their places in the part, at every depth; operands hold one element. -/
def fits : Part → Content → Bool
  | p, .element name children =>
    match p.child? name with
    | some q => (q != operand || (elements children).length == 1) && fitsAll q children
    | none => false
  | _, _ => true

/-- All elements of a list have their places in the part, at every depth. -/
def fitsAll : Part → List Content → Bool
  | _, [] => true
  | p, c :: cs => fits p c && fitsAll p cs

end

/-! ## What is read -/

/-- What the part makes of an element, given the names of the elements before it. -/
def standing (p : Part) (before : List String) (name : String) : Standing :=
  match p.intake, p.child? name with
  | .nothing, _ => .passed
  | _, none => .refused
  | .first, some q => if before.contains name then .passed else .read q
  | .sole, some q => if before.isEmpty then .read q else .refused
  | .every, some q => .read q

mutual

/-- Puts a remark in the place of an element that is passed over, and of one that is refused unless
those are kept. Nothing moves to the front that way: texts are only read there. -/
def sift (keep : Bool) : Part → List String → Content → Content
  | p, before, .element name children =>
    match p.standing before name with
    | .read q => .element name (siftAll keep q [] children)
    | .refused => if keep then .element name children else .remark
    | .passed => .remark
  | _, _, c => c

/-- Does so in a list of contents, given the names of the elements before it. -/
def siftAll (keep : Bool) : Part → List String → List Content → List Content
  | _, _, [] => []
  | p, before, c :: cs => sift keep p before c :: siftAll keep p (c.names ++ before) cs

end

/-- A document without the elements that are passed over. -/
def heed (root : Element) : Content :=
  sift true operand [] root.toContent

/-- A document with nothing but the elements that are read. -/
def prune (root : Element) : Content :=
  sift false operand [] root.toContent

end Part

/-! ## Counting -/

/-- The elements that are counted against a query. -/
inductive Counted where
  | clause | triple | modifier

namespace Counted

/-- The name of the elements. -/
def tag : Counted → String
  | clause => "searchClause"
  | triple => "triple"
  | modifier => "modifier"

/-- How many of them a clause stands for. -/
def ofClause : Counted → SearchClause → Nat
  | clause, _ => 1
  | triple, _ => 0
  | modifier, c => c.relation.modifiers.length

/-- How many of them a triple stands for, without its operands. -/
def ofBoolean : Counted → Boolean → Nat
  | clause, _ => 0
  | triple, _ => 1
  | modifier, b => b.modifiers.length

end Counted

end Xcql

/-- How many clauses, triples or modifiers a tree has. -/
def Node.amount (k : Xcql.Counted) : Node → Nat
  | clause _ c => k.ofClause c
  | triple _ b l r => k.ofBoolean b + l.amount k + r.amount k

namespace Xcql

/-! ## Elements of a list of contents -/

@[simp] theorem elements_nil : elements [] = [] := rfl

@[simp] theorem elements_element (name : String) (children cs : List Content) :
    elements (.element name children :: cs) = ⟨name, children⟩ :: elements cs := rfl

@[simp] theorem elements_text (s : String) (cs : List Content) :
    elements (.text s :: cs) = elements cs := rfl

@[simp] theorem elements_remark (cs : List Content) : elements (.remark :: cs) = elements cs := rfl

/-- What is counted in a list of contents is counted in its elements. -/
theorem amountAll_eq_sum (tag : String) (cs : List Content) :
    Content.amountAll tag cs = ((elements cs).map fun e => e.toContent.amount tag).sum := by
  induction cs with
  | nil => rfl
  | cons c cs ih => cases c <;> simp [Content.amountAll, Content.amount, Element.toContent, ih]

namespace Part

variable {p q : Part} {keep : Bool} {before : List String}

/-- The element has the layout of the part. -/
def holds (q : Part) (e : Element) : Bool :=
  (q != operand || (elements e.children).length == 1) && q.fitsAll e.children

theorem fits_toContent (e : Element) :
    p.fits e.toContent = ((p.child? e.name).map fun q => q.holds e).getD false := by
  rw [Element.toContent, fits]
  cases p.child? e.name <;> rfl

/-- A list of contents has its places if its elements have. -/
theorem fitsAll_iff {cs : List Content} :
    p.fitsAll cs = true ↔ ∀ e ∈ elements cs, ∃ q, p.child? e.name = some q ∧ q.holds e = true := by
  have each (e : Element) : p.fits e.toContent = true ↔
      ∃ q, p.child? e.name = some q ∧ q.holds e = true := by
    rw [fits_toContent]
    cases p.child? e.name <;> simp
  induction cs with
  | nil => simp [fitsAll]
  | cons c cs ih =>
    cases c with
    | element name children =>
      simp only [fitsAll, Bool.and_eq_true, ih, elements_element, List.forall_mem_cons, ← each]
      rfl
    | text | remark => simp [fitsAll, fits, ih]

/-! ## Taking elements -/

/-- An element as the part reads it. -/
def take (q : Part) (keep : Bool) (e : Element) : Element :=
  ⟨e.name, siftAll keep q [] e.children⟩

@[simp] theorem name_take (q : Part) (keep : Bool) (e : Element) : (q.take keep e).name = e.name :=
  rfl

theorem sift_of_read {name : String} {children : List Content}
    (h : p.standing before name = .read q) :
    sift keep p before (.element name children) = (q.take keep ⟨name, children⟩).toContent := by
  simp only [sift, h]
  rfl

/-- No element of a leaf is taken. -/
theorem elements_siftAll_leaf (before : List String) (cs : List Content) :
    elements (siftAll keep leaf before cs) = [] := by
  induction cs generalizing before with
  | nil => rfl
  | cons c cs ih => cases c <;> simp [siftAll, sift, standing, intake, ih]

/-- A part that takes all its elements takes them in order. -/
theorem elements_siftAll_every (every : p.intake = .every) {cs : List Content}
    (known : ∀ e ∈ elements cs, p.child? e.name = some q) :
    elements (siftAll keep p before cs) = (elements cs).map (q.take keep) := by
  induction cs generalizing before with
  | nil => rfl
  | cons c cs ih =>
    cases c with
    | element name children =>
      obtain ⟨here, known⟩ := List.forall_mem_cons.1 known
      have read : p.standing before name = .read q := by simp [standing, every, here]
      rw [siftAll, sift_of_read read]
      simp [Element.toContent, take, ih known]
    | text | remark => simpa [siftAll, sift] using ih known

theorem elements_siftAll_of_nil {cs : List Content} (h : elements cs = []) :
    elements (siftAll keep p before cs) = [] := by
  induction cs generalizing before with
  | nil => rfl
  | cons c cs ih =>
    cases c with
    | element => simp at h
    | text | remark => simpa [siftAll, sift] using ih h

/-- A part that holds one element takes it. -/
theorem elements_siftAll_sole (sole : p.intake = .sole) {e : Element}
    (child : p.child? e.name = some q) {cs : List Content} (only : elements cs = [e]) :
    elements (siftAll keep p [] cs) = [q.take keep e] := by
  induction cs with
  | nil => simp at only
  | cons c cs ih =>
    cases c with
    | element name children =>
      obtain ⟨rfl, none⟩ := List.cons.inj only
      have read : p.standing [] name = .read q := by simp_all [standing]
      rw [siftAll, sift_of_read read]
      simp [Element.toContent, take, elements_siftAll_of_nil none]
    | text | remark => simpa [siftAll, sift, Content.names] using ih only

/-- The first element of a name is taken. -/
theorem find?_siftAll (first : p.intake = .first) {name : String} (child : p.child? name = some q)
    (fresh : name ∉ before) (cs : List Content) :
    (elements (siftAll keep p before cs)).find? (·.name = name) =
      ((elements cs).find? (·.name = name)).map (q.take keep) := by
  induction cs generalizing before with
  | nil => rfl
  | cons c cs ih =>
    cases c with
    | text | remark => simpa [siftAll, sift, Content.names] using ih fresh
    | element name' children =>
      by_cases same : name' = name
      · subst same
        have read : p.standing before name' = .read q := by simp [standing, first, child, fresh]
        rw [siftAll, sift_of_read read]
        simp [Element.toContent, take]
      · have fresh' : name ∉ [name'] ++ before := by simp [Ne.symm same, fresh]
        have others := ih fresh'
        cases standing : p.standing before name' <;> cases keep <;>
          simp_all [siftAll, sift, Content.names]

/-! ## Parts that look their elements up -/

theorem child?_isSome {name : String} (h : name ∈ p.layout.map Prod.fst) :
    ∃ q, p.child? name = some q := by
  refine Option.ne_none_iff_exists'.1 fun absent => ?_
  obtain ⟨entry, mem, rfl⟩ := List.mem_map.1 h
  have differs := List.lookup_eq_none_iff.1 absent entry mem
  simp at differs

theorem nodup_layout (p : Part) : (p.layout.map Prod.fst).Nodup := by
  cases p <;> decide

theorem mem_of_child? {name : String} (h : p.child? name = some q) : (name, q) ∈ p.layout := by
  obtain ⟨before, after, split, -⟩ := List.lookup_eq_some_iff.1 h
  simp [split]

/-- Nothing that is counted is looked up by its name. -/
theorem name_ne_tag (first : p.intake = .first) {entry : String × Part} (mem : entry ∈ p.layout)
    (k : Counted) : entry.1 ≠ k.tag := by
  revert entry first
  cases k <;> cases p <;> decide

/-- If the first elements of all names have their places, so does the content that is heeded. -/
theorem fitsAll_siftAll_first (first : p.intake = .first) {cs : List Content}
    (known : ∀ e ∈ elements cs, e.name ∈ p.layout.map Prod.fst)
    (here : ∀ e q, e.name ∉ before → p.child? e.name = some q →
      (elements cs).find? (·.name = e.name) = some e → q.holds (q.take true e) = true) :
    p.fitsAll (siftAll true p before cs) = true := by
  induction cs generalizing before with
  | nil => rfl
  | cons c cs ih =>
    cases c with
    | text | remark => simpa [siftAll, sift, fitsAll, fits, Content.names] using ih known here
    | element name children =>
      obtain ⟨named, known⟩ := List.forall_mem_cons.1 known
      obtain ⟨q, child⟩ := child?_isSome named
      have others : p.fitsAll (siftAll true p ([name] ++ before) cs) = true := by
        refine ih known fun e q fresh child found => here e q (by simp_all) child ?_
        have ne : name ≠ e.name := fun eq => fresh (by simp [eq])
        simpa [ne] using found
      rw [siftAll, fitsAll, Bool.and_eq_true]
      refine ⟨?_, others⟩
      by_cases seen : name ∈ before
      · simp [sift, standing, first, child, seen, fits]
      · have read : p.standing before name = .read q := by simp [standing, first, child, seen]
        rw [sift_of_read read, fits_toContent]
        simpa [child] using here ⟨name, children⟩ q seen child (by simp)

/-- What the first element of a name adds to a count. -/
def share (tag : String) (es : List Element) (entry : String × Part) : Nat :=
  ((es.find? (·.name = entry.1)).map fun e => (entry.2.take true e).toContent.amount tag).getD 0

theorem share_cons (tag : String) (e : Element) (es : List Element) (entry : String × Part) :
    share tag (e :: es) entry =
      if e.name = entry.1 then (entry.2.take true e).toContent.amount tag
      else share tag es entry := by
  by_cases same : e.name = entry.1 <;> simp [share, same]

theorem sum_map_lookup {l : List (String × Part)} (nodup : (l.map Prod.fst).Nodup) {name : String}
    (found : l.lookup name = some q) (f : String × Part → Nat) :
    (l.map fun entry => if entry.1 = name then f entry else 0).sum = f (name, q) := by
  induction l with
  | nil => simp at found
  | cons entry l ih =>
    obtain ⟨name', q'⟩ := entry
    obtain ⟨fresh, nodup⟩ := List.nodup_cons.1 nodup
    by_cases same : name' = name
    · subst same
      obtain rfl : q' = q := by simpa using found
      have none : (l.map fun entry => if entry.1 = name' then f entry else 0).sum = 0 := by
        refine List.sum_eq_zero fun n mem => ?_
        obtain ⟨other, otherMem, rfl⟩ := List.mem_map.1 mem
        exact if_neg fun eq => fresh (List.mem_map.2 ⟨other, otherMem, eq⟩)
      simp [none]
    · have found : l.lookup name = some q := by
        simpa [List.lookup_cons, beq_eq_false_iff_ne.2 (Ne.symm same)] using found
      simpa [same] using ih nodup found

/-- The content that is heeded holds what the first elements of all names hold. -/
theorem amountAll_siftAll_first (first : p.intake = .first) (tag : String) {cs : List Content}
    (known : ∀ e ∈ elements cs, e.name ∈ p.layout.map Prod.fst) :
    Content.amountAll tag (siftAll true p before cs) =
      (p.layout.map fun entry => if entry.1 ∈ before then 0 else
        share tag (elements cs) entry).sum := by
  induction cs generalizing before with
  | nil => simp [siftAll, Content.amountAll, share]
  | cons c cs ih =>
    cases c with
    | text | remark =>
      simpa [siftAll, sift, Content.amountAll, Content.amount, Content.names] using ih known
    | element name children =>
      obtain ⟨named, known⟩ := List.forall_mem_cons.1 known
      obtain ⟨q, child⟩ := child?_isSome named
      have others : Content.amountAll tag (siftAll true p ([name] ++ before) cs) = _ := ih known
      by_cases seen : name ∈ before
      · have passed : p.standing before name = .passed := by simp [standing, first, child, seen]
        simp only [siftAll, sift, passed, Content.amountAll, Content.amount, Content.names, others,
          Nat.zero_add, elements_element, share_cons]
        refine congrArg List.sum (List.map_congr_left fun entry _ => ?_)
        grind
      · have read : p.standing before name = .read q := by simp [standing, first, child, seen]
        rw [siftAll, sift_of_read read, Content.amountAll, Content.names, others,
          ← sum_map_lookup p.nodup_layout child fun entry =>
            (entry.2.take true ⟨name, children⟩).toContent.amount tag, ← List.sum_map_add]
        simp only [elements_element, share_cons]
        refine congrArg List.sum (List.map_congr_left fun entry _ => ?_)
        grind

end Part

end Xcql

end ContextQuery
