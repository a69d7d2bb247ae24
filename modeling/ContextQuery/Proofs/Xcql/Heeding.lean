import ContextQuery.Proofs.Xcql.Layout
import ContextQuery.Proofs.Xcql.Reading

/-!
# Every element has its place

What a document has to hold for a reader to accept it. Apart from the elements that are passed over,
every element of the document has its place, at every depth, and each element for a clause, a triple
or a modifier stands for one of the query.

## Main definitions

* `Xcql.Accounted`: an element has its layout, and holds a given number of elements of each kind.

## Main results

* `Xcql.heed_of_readNode`: without what is passed over, a document that was read has its layout,
  and holds what is counted in the tree.
-/

namespace ContextQuery.Xcql

open Xml (Content Element)
open Reader (bind_eq_ok pure_eq_ok throw_eq_ok refuse_eq_ok lift_eq)

variable {d : Dialect} {e : Element} {q : Part}

/-! ## Elements that are accounted for -/

/-- Without what is passed over, the element has the layout of the part, and holds that many
elements of each kind. -/
structure Accounted (q : Part) (e : Element) (tally : Counted → Nat) : Prop where
  holds : q.holds (q.take true e) = true
  amount (k : Counted) : Content.amountAll k.tag (q.take true e).children = tally k

namespace Accounted

theorem leaf (e : Element) : Accounted .leaf e fun _ => 0 where
  holds := by
    refine Bool.and_eq_true_iff.2 ⟨rfl, Part.fitsAll_iff.2 ?_⟩
    simp [Part.take, Part.elements_siftAll_leaf]
  amount k := by simp [amountAll_eq_sum, Part.take, Part.elements_siftAll_leaf]

/-- A part that takes all its elements, which have one name and hold nothing that is counted. -/
theorem every (every : q.intake = .every) (name : String) {p : Part}
    (child : q.child? name = some p)
    (each : ∀ c ∈ elements e.children, c.name = name ∧ Accounted p c fun _ => 0) :
    Accounted q e fun k => if name = k.tag then (elements e.children).length else 0 := by
  have known : ∀ c ∈ elements e.children, q.child? c.name = some p := fun c mem => by
    rw [(each c mem).1, child]
  have taken : elements (q.take true e).children = (elements e.children).map (p.take true) :=
    Part.elements_siftAll_every every known
  refine ⟨?_, fun k => ?_⟩
  · refine Bool.and_eq_true_iff.2 ⟨by cases q <;> simp_all [Part.intake], Part.fitsAll_iff.2 ?_⟩
    rw [taken]
    refine List.forall_mem_map.2 fun c mem => ⟨p, known c mem, (each c mem).2.holds⟩
  · rw [amountAll_eq_sum, taken, List.map_map]
    have same : ∀ c ∈ elements e.children,
        ((·.toContent.amount k.tag) ∘ p.take true) c = if name = k.tag then 1 else 0 := by
      intro c mem
      obtain ⟨named, account⟩ := each c mem
      simp [Element.toContent, Content.amount, account.amount, named]
    rw [List.map_congr_left same]
    split <;> simp

end Accounted

/-- The first element with the name is accounted for, if there is one. -/
def Found (e : Element) (entry : String × Part) (tally : Counted → Nat) : Prop :=
  match child? e entry.1 with
  | some c => Accounted entry.2 c tally
  | none => tally = fun _ => 0

theorem Found.share {entry : String × Part} {tally : Counted → Nat} (found : Found e entry tally)
    {k : Counted} (other : entry.1 ≠ k.tag) :
    Part.share k.tag (elements e.children) entry = tally k := by
  unfold Found at found
  unfold Part.share
  change (((child? e entry.1).map fun c => _).getD 0) = _
  cases some : child? e entry.1 with
  | none => simp_all
  | some c =>
    have named : c.name = entry.1 := by simpa using List.find?_some some
    rw [some] at found
    simp [Element.toContent, Content.amount, found.amount, named, other]

/-- A part that looks its elements up. -/
theorem Accounted.first (q : Part) (first : q.intake = .first)
    (known : ∀ c ∈ elements e.children, c.name ∈ q.layout.map Prod.fst)
    {tallies : List (Counted → Nat)} (found : List.Forall₂ (Found e) q.layout tallies) :
    Accounted q e fun k => (tallies.map (· k)).sum := by
  have each : ∀ entry ∈ q.layout, ∃ tally, Found e entry tally := by
    have some : List.Forall₂ (fun entry t => (∃ tally, Found e entry tally) ∧ Found e entry t)
        q.layout tallies := found.imp fun _ tally h => ⟨⟨tally, h⟩, h⟩
    exact ((List.forall₂_and_left _ _).1 some).1
  refine ⟨?_, fun k => ?_⟩
  · refine Bool.and_eq_true_iff.2 ⟨by cases q <;> simp_all [Part.intake], ?_⟩
    refine Part.fitsAll_siftAll_first first known fun c p _ child mem => ?_
    obtain ⟨tally, here⟩ := each (c.name, p) (Part.mem_of_child? child)
    have some : child? e c.name = some c := mem
    simp only [Found, some] at here
    exact here.holds
  · refine (Part.amountAll_siftAll_first first k.tag known).trans ?_
    have listed := (List.forall₂_and_left q.layout _).2 ⟨fun _ mem => mem, found⟩
    have same : List.Forall₂ (· = ·) (q.layout.map (Part.share k.tag (elements e.children)))
        (tallies.map (· k)) := by
      rw [List.forall₂_map_left_iff, List.forall₂_map_right_iff]
      exact listed.imp fun _ _ h => h.2.share (Part.name_ne_tag first h.1 k)
    simpa using congrArg List.sum (List.forall₂_eq_eq_eq.le _ _ same)

/-! ## Parts that were read -/

theorem onlyChildren_eq_ok {names : List String} {u : Unit} :
    (onlyChildren e names : Except Diagnostic Unit) = .ok u ↔
      ∀ c ∈ elements e.children, c.name ∈ names := by
  unfold onlyChildren
  cases found : (elements e.children).find? fun c => !names.contains c.name with
  | none => simpa [pure_eq_ok] using found
  | some c =>
    have unknown : c.name ∉ names := by simpa using List.find?_some found
    have mem := List.mem_of_find?_eq_some found
    simpa [refuseChild, refuse_eq_ok] using ⟨c, mem, unknown⟩

theorem found_leaf (e : Element) (name : String) : Found e (name, .leaf) fun _ => 0 := by
  unfold Found
  cases child? e name with
  | none => rfl
  | some c => exact .leaf c

theorem accounted_readModifier {m : Modifier}
    (h : (readModifier d e : Except Diagnostic Modifier) = .ok m) :
    Accounted .modifier e fun _ => 0 := by
  simp only [readModifier, bind_eq_ok, onlyChildren_eq_ok] at h
  obtain ⟨_, known, -⟩ := h
  have leaves : List.Forall₂ (Found e) Part.modifier.layout [fun _ => 0, fun _ => 0, fun _ => 0] :=
    .cons (found_leaf ..) (.cons (found_leaf ..) (.cons (found_leaf ..) .nil))
  exact .first .modifier rfl known leaves

theorem accounted_readEach {es : List Element} {ms : List Modifier}
    (h : (readEach d es : Except Diagnostic _) = .ok ms) :
    ms.length = es.length ∧ ∀ e ∈ es, Accounted .modifier e fun _ => 0 := by
  induction es generalizing ms with
  | nil =>
    obtain rfl : [] = ms := by simpa [readEach, pure_eq_ok] using h
    simp
  | cons e es ih =>
    simp only [readEach, bind_eq_ok, pure_eq_ok] at h
    obtain ⟨first, read, others, more, rfl⟩ := h
    obtain ⟨length, each⟩ := ih more
    exact ⟨by simp [length], List.forall_mem_cons.2 ⟨accounted_readModifier read, each⟩⟩

/-- The element is accounted for, and holds that many modifiers. -/
def Modified (q : Part) (e : Element) (n : Nat) : Prop :=
  Accounted q e fun k => if "modifier" = k.tag then n else 0

/-- The element with the modifiers, if there is one. -/
theorem found_readModifiers {ms : List Modifier}
    (h : (readModifiers d e : Except Diagnostic _) = .ok ms) :
    Found e ("modifiers", .modifiers) fun k => if "modifier" = k.tag then ms.length else 0 := by
  unfold readModifiers at h
  unfold Found
  cases found : child? e "modifiers" with
  | none => simp_all [pure_eq_ok]
  | some list =>
    simp only [found, bind_eq_ok, onlyChildren_eq_ok] at h
    obtain ⟨_, known, read⟩ := h
    obtain ⟨length, each⟩ := accounted_readEach read
    rw [length]
    exact .every rfl _ rfl fun c mem => ⟨by simpa using known c mem, each c mem⟩

/-- A relation or a boolean holds its modifiers. -/
theorem modified_valued {ms : List Modifier}
    (known : ∀ c ∈ elements e.children, c.name ∈ Part.valued.layout.map Prod.fst)
    (h : (readModifiers d e : Except Diagnostic _) = .ok ms) : Modified .valued e ms.length := by
  have account := Accounted.first .valued rfl known
    (.cons (found_leaf e "value") (.cons (found_readModifiers h) .nil))
  simpa [Modified] using account

theorem modified_readRelation {r : Relation}
    (h : (readRelation d e : Except Diagnostic Relation) = .ok r) :
    Modified .valued e r.modifiers.length := by
  simp only [readRelation, bind_eq_ok, pure_eq_ok, onlyChildren_eq_ok] at h
  obtain ⟨_, known, _, -, _, -, ms, mods, rfl⟩ := h
  exact modified_valued known mods

theorem modified_readBoolean {b : Boolean}
    (h : (readBoolean d e : Except Diagnostic Boolean) = .ok b) :
    Modified .valued e b.modifiers.length := by
  simp only [readBoolean, bind_eq_ok, pure_eq_ok, onlyChildren_eq_ok] at h
  obtain ⟨_, known, _, -, _, -, ms, mods, rfl⟩ := h
  exact modified_valued known mods

/-! ## Declarations -/

theorem accounted_declareEach {written : List String} {n n' : Node} {es : List Element}
    (h : (declareEach d written n es : Except Diagnostic Node) = .ok n') :
    (∀ e ∈ es, Accounted .declaration e fun _ => 0) ∧ ∀ k, n'.amount k = n.amount k := by
  induction es generalizing written n with
  | nil =>
    obtain rfl : n = n' := by simpa [declareEach, pure_eq_ok] using h
    simp
  | cons e es ih =>
    simp only [declareEach, bind_eq_ok, onlyChildren_eq_ok] at h
    obtain ⟨_, known, h⟩ := h
    split at h
    · simp [refuse_eq_ok] at h
    simp only [bind_eq_ok, Reader.declareAll_eq_ok] at h
    obtain ⟨_, -, n₁, ⟨-, rfl⟩, h⟩ := h
    obtain ⟨each, same⟩ := ih h
    have leaves : List.Forall₂ (Found e) Part.declaration.layout [fun _ => 0, fun _ => 0] :=
      .cons (found_leaf ..) (.cons (found_leaf ..) .nil)
    refine ⟨List.forall_mem_cons.2 ⟨.first .declaration rfl known leaves, each⟩, fun k => ?_⟩
    rw [same k]
    cases n <;> rfl

/-- Declarations are accounted for and add nothing to the tree that is counted. -/
theorem found_declarePrefixes {n n' : Node}
    (h : (declarePrefixes d e n : Except Diagnostic Node) = .ok n') :
    Found e ("prefixes", .declarations) (fun _ => 0) ∧ ∀ k, n'.amount k = n.amount k := by
  unfold declarePrefixes at h
  unfold Found
  cases found : child? e "prefixes" with
  | none =>
    obtain rfl : n = n' := by simpa [found, pure_eq_ok] using h
    simp
  | some list =>
    simp only [found, bind_eq_ok, onlyChildren_eq_ok] at h
    obtain ⟨_, known, h⟩ := h
    obtain ⟨each, same⟩ := accounted_declareEach h
    have account : Accounted .declarations list _ :=
      .every rfl "prefix" rfl fun c mem => ⟨by simpa using known c mem, each c mem⟩
    have none (k : Counted) : "prefix" ≠ k.tag := by cases k <;> decide
    exact ⟨by simpa [none] using account, same⟩

theorem required_eq_ok {name : String} {c : Element} :
    (required e name : Except Diagnostic Element) = .ok c ↔ child? e name = some c := by
  unfold required
  cases child? e name <;> simp [pure_eq_ok, refuse_eq_ok]

/-! ## Nodes -/

/-- The element is a clause or a triple that is accounted for, with what is counted in the tree. -/
def Stands (e : Element) (n : Node) : Prop :=
  ∃ p tally, Part.operand.child? e.name = some p ∧ Accounted p e tally ∧
    ∀ k : Counted, n.amount k = (if e.name = k.tag then 1 else 0) + tally k

theorem Stands.operand {c : Element} {n : Node} (only : elements e.children = [c])
    (h : Stands c n) : Accounted .operand e fun k => n.amount k := by
  obtain ⟨p, tally, child, account, same⟩ := h
  have taken : elements (Part.operand.take true e).children = [p.take true c] :=
    Part.elements_siftAll_sole rfl child only
  refine ⟨?_, fun k => ?_⟩
  · refine Bool.and_eq_true_iff.2 ⟨by simp [taken], Part.fitsAll_iff.2 ?_⟩
    rw [taken]
    exact List.forall_mem_singleton.2 ⟨p, child, account.holds⟩
  · rw [amountAll_eq_sum, taken, same k, List.map_singleton, List.sum_singleton, Element.toContent,
      Content.amount, account.amount, Part.name_take]

theorem stands_readClause {first n : Node} (named : e.name = "searchClause")
    (read : (readClause d e : Except Diagnostic Node) = .ok first)
    (declared : (declarePrefixes d e first : Except Diagnostic Node) = .ok n) : Stands e n := by
  simp only [readClause, bind_eq_ok, pure_eq_ok, onlyChildren_eq_ok, required_eq_ok] at read
  obtain ⟨_, known, i, -, index, -, r, found, relation, relation_read, _, -, term, -, _, -, rfl⟩ :=
    read
  obtain ⟨prefixes, same⟩ := found_declarePrefixes declared
  have mods : Found e ("relation", .valued) fun k =>
      if "modifier" = k.tag then relation.modifiers.length else 0 := by
    simp only [Found, found]
    exact modified_readRelation relation_read
  have account := Accounted.first .clause rfl known
    (.cons prefixes (.cons (found_leaf ..) (.cons mods (.cons (found_leaf ..) .nil))))
  refine ⟨.clause, _, by rw [named]; rfl, account, fun k => ?_⟩
  rw [same k, named]
  cases k <;> simp [Node.amount, Counted.ofClause, Counted.tag]

theorem stands_readTriple {first n : Node} {inner : Element → Except Diagnostic Node}
    (within : ∀ {e n}, inner e = .ok n → Stands e n) (named : e.name = "triple")
    (read : readTriple d inner e = .ok first)
    (declared : (declarePrefixes d e first : Except Diagnostic Node) = .ok n) : Stands e n := by
  have operand {e : Element} {n : Node} (h : readOperand inner e = .ok n) :
      Accounted .operand e fun k => n.amount k := by
    unfold readOperand at h
    split at h
    · simp [refuse_eq_ok] at h
    · rename_i only
      exact (within h).operand only
    · simp [refuseChild, refuse_eq_ok] at h
  simp only [readTriple, bind_eq_ok, pure_eq_ok, onlyChildren_eq_ok, required_eq_ok] at read
  obtain ⟨_, known, b, found, boolean, boolean_read, l, leftFound, left, left_read, r, rightFound,
    right, right_read, _, -, rfl⟩ := read
  obtain ⟨prefixes, same⟩ := found_declarePrefixes declared
  have mods : Found e ("boolean", .valued) fun k =>
      if "modifier" = k.tag then boolean.modifiers.length else 0 := by
    simp only [Found, found]
    exact modified_readBoolean boolean_read
  have leftPart : Found e ("leftOperand", .operand) fun k => left.amount k := by
    simp only [Found, leftFound]
    exact operand left_read
  have rightPart : Found e ("rightOperand", .operand) fun k => right.amount k := by
    simp only [Found, rightFound]
    exact operand right_read
  have account := Accounted.first .triple rfl known
    (.cons prefixes (.cons mods (.cons leftPart (.cons rightPart .nil))))
  refine ⟨.triple, _, by rw [named]; rfl, account, fun k => ?_⟩
  rw [same k, named]
  cases k <;> simp [Node.amount, Counted.ofBoolean, Counted.tag] <;> omega

/-- Whatever is read as a tree is accounted for. -/
theorem stands_readNode {levels : Nat} {n : Node}
    (h : (readNode d levels e : Except Diagnostic Node) = .ok n) : Stands e n := by
  -- The operands of a triple are read with one level less than the triple.
  induction levels generalizing e n with
  | zero =>
    obtain ⟨first, declared, ⟨named, read⟩ | ⟨l, eq, -⟩⟩ := readNode_inv h
    · exact stands_readClause named read declared
    · exact absurd eq (Nat.succ_ne_zero l).symm
  | succ levels ih =>
    obtain ⟨first, declared, ⟨named, read⟩ | ⟨l, eq, named, read⟩⟩ := readNode_inv h
    · exact stands_readClause named read declared
    · obtain rfl := Nat.succ.inj eq
      exact stands_readTriple ih named read declared

/-- Without what is passed over, a document that was read has its layout, and holds what is counted
in the tree. -/
theorem heed_of_readNode {levels : Nat} {n : Node}
    (h : (readNode d levels e : Except Diagnostic Node) = .ok n) :
    Part.operand.fits (Part.heed e) = true ∧
      ∀ k : Counted, (Part.heed e).amount k.tag = n.amount k := by
  obtain ⟨p, tally, child, account, same⟩ := stands_readNode h
  have read : Part.operand.standing [] e.name = .read p := by
    simp [Part.standing, Part.intake, child]
  have heeded : Part.heed e = (p.take true e).toContent := Part.sift_of_read read
  refine ⟨?_, fun k => ?_⟩
  · rw [heeded, Part.fits_toContent, Part.name_take, child]
    exact account.holds
  · rw [heeded, same k, Element.toContent, Content.amount, account.amount, Part.name_take]

end ContextQuery.Xcql
