import ContextQuery.Proofs.Query.Readable
import ContextQuery.Xcql.Reader

/-!
# What a document puts in a tree

What holds of a tree that was read follows from what single elements are read as, by one induction
over the levels of triples. Names are canonical that way, as they are in a tree that was read from a
text.

## Main definitions

* `Xcql.Keeps`: a property of nodes that the reader of elements keeps.
* `Xcql.Invariant`: properties of declarations, clauses and booleans that hold of what is read.

## Main results

* `Xcql.parseXml_of_shallow`: what is read of a document.
* `Xcql.Keeps.readNode`: the property holds of each node that is read.
* `Xcql.each_parseXml`: the properties hold of all parts of a tree that was read.
* `Xcql.canonical_parseXml`: what a document keeps of the form of names.
-/

namespace ContextQuery

namespace Xcql

open Xml (Element)
open Reader (bind_eq_ok pure_eq_ok throw_eq_ok refuse_eq_ok lift_eq)

variable {d : Dialect} {e : Element}

/-! ## One element after the other -/

/-- What is read before the declarations of an element. -/
theorem readNode_inv {levels : Nat} {n : Node}
    (h : (readNode d levels e : Except Diagnostic Node) = .ok n) :
    ∃ first, (declarePrefixes d e first : Except Diagnostic Node) = .ok n ∧
      (e.name = "searchClause" ∧ (readClause d e : Except Diagnostic Node) = .ok first ∨
        ∃ l, levels = l + 1 ∧ e.name = "triple" ∧
          (readTriple d (readNode d l) e : Except Diagnostic Node) = .ok first) := by
  unfold readNode at h
  split at h
  · rename_i named
    obtain ⟨first, read, declared⟩ := bind_eq_ok.1 h
    exact ⟨first, declared, .inl ⟨named, read⟩⟩
  split at h
  · rename_i named
    cases levels with
    | zero => simp [bind_eq_ok, throw_eq_ok] at h
    | succ l =>
      obtain ⟨first, read, declared⟩ := bind_eq_ok.1 h
      exact ⟨first, declared, .inr ⟨l, rfl, named, read⟩⟩
  · simp [bind_eq_ok, refuse_eq_ok] at h

theorem readClause_inv {n : Node} (h : (readClause d e : Except Diagnostic Node) = .ok n) :
    ∃ c, n = .clause .empty c := by
  simp only [readClause, bind_eq_ok, pure_eq_ok] at h
  obtain ⟨_, -, _, -, _, -, _, -, _, -, _, -, _, -, _, -, rfl⟩ := h
  exact ⟨_, rfl⟩

/-- The property of nodes, which may depend on the levels of triples they take, holds of clauses,
and joining operands and declaring a prefix keep it. -/
structure Keeps (d : Dialect) (P : Nat → Node → Prop) : Prop where
  clause {levels : Nat} {e : Element} {c : SearchClause}
    (read : (readClause d e : Except Diagnostic Node) = .ok (.clause .empty c)) :
    P levels (.clause .empty c)
  triple {levels : Nat} {e : Element} {b : Boolean} {l r : Node}
    (read : (readBoolean d e : Except Diagnostic Boolean) = .ok b) (left : P levels l)
    (right : P levels r) : P (levels + 1) (.triple .empty b l r)
  declare {levels : Nat} {n : Node} {written : String} (uri : String)
    (declarable : d.refuseDuplicatePrefix = true →
      ContextSet.isReserved (Text.lowerCase written) = false) (h : P levels n) :
    P levels (n.declare (Text.lowerCase written) uri)

namespace Keeps

variable {P : Nat → Node → Prop} {levels : Nat} {n n' : Node} (keeps : Keeps d P)

include keeps

theorem declareEach {es : List Element} {written : List String} (first : P levels n)
    (h : (declareEach d written n es : Except Diagnostic Node) = .ok n') : P levels n' := by
  induction es generalizing written n with
  | nil =>
    obtain rfl : n = n' := by simpa [Xcql.declareEach, pure_eq_ok] using h
    exact first
  | cons e es ih =>
    simp only [Xcql.declareEach, bind_eq_ok] at h
    obtain ⟨_, -, h⟩ := h
    split at h
    · simp [refuse_eq_ok] at h
    simp only [bind_eq_ok, Reader.declareAll_eq_ok] at h
    obtain ⟨_, -, _, ⟨declarable, rfl⟩, h⟩ := h
    exact ih (keeps.declare _ (fun strict => declarable strict _ List.mem_cons_self) first) h

theorem declarePrefixes (first : P levels n)
    (h : (declarePrefixes d e n : Except Diagnostic Node) = .ok n') : P levels n' := by
  unfold Xcql.declarePrefixes at h
  split at h
  · obtain rfl : n = n' := by simpa [pure_eq_ok] using h
    exact first
  · simp only [bind_eq_ok] at h
    obtain ⟨_, -, h⟩ := h
    exact keeps.declareEach first h

theorem readClause (h : (readClause d e : Except Diagnostic Node) = .ok n) : P levels n := by
  obtain ⟨c, rfl⟩ := readClause_inv h
  exact keeps.clause h

omit keeps in
theorem readOperand {inner : Element → Except Diagnostic Node}
    (within : ∀ {e n}, inner e = .ok n → P levels n) (h : readOperand inner e = .ok n) :
    P levels n := by
  unfold Xcql.readOperand at h
  split at h
  · simp [refuse_eq_ok] at h
  · exact within h
  · simp [refuseChild, refuse_eq_ok] at h

theorem readTriple {inner : Element → Except Diagnostic Node}
    (within : ∀ {e n}, inner e = .ok n → P levels n) (h : readTriple d inner e = .ok n) :
    P (levels + 1) n := by
  simp only [Xcql.readTriple, bind_eq_ok, pure_eq_ok] at h
  obtain ⟨_, -, _, -, b, boolean, _, -, l, left, _, -, r, right, _, -, rfl⟩ := h
  exact keeps.triple boolean (readOperand within left) (readOperand within right)

/-- Whatever the nesting, the property holds of what is read. -/
theorem readNode (h : (readNode d levels e : Except Diagnostic Node) = .ok n) : P levels n := by
  -- The operands of a triple are read with one level less than the triple.
  induction levels generalizing e n with
  | zero =>
    obtain ⟨first, declared, ⟨-, read⟩ | ⟨l, eq, -⟩⟩ := readNode_inv h
    · exact keeps.declarePrefixes (keeps.readClause read) declared
    · exact absurd eq (Nat.succ_ne_zero l).symm
  | succ levels ih =>
    obtain ⟨first, declared, ⟨-, read⟩ | ⟨l, eq, -, read⟩⟩ := readNode_inv h
    · exact keeps.declarePrefixes (keeps.readClause read) declared
    · obtain rfl := Nat.succ.inj eq
      exact keeps.declarePrefixes (keeps.readTriple ih read) declared

end Keeps

/-- A document that is not too deep is read as its outermost element. -/
theorem parseXml_of_shallow [Xml.Library] {document : String} {root : Element}
    (opened : Xml.Library.parse? document = some root)
    (shallow : elementDepth document ≤ elementLimit d) :
    Query.parseXml d document =
      (readNode d d.maxDepth root >>= fun n => .ok ⟨n, d⟩ : Except Diagnostic Query) := by
  unfold Query.parseXml Query.readXml
  rw [if_neg (Nat.not_lt.2 shallow), opened]
  rfl

/-- A query that is read holds what its outermost element is read as. -/
theorem parseXml_inv [Xml.Library] {document : String} {q : Query}
    (h : Query.parseXml d document = .ok q) :
    q.dialect = d ∧ ∃ e, (readNode d d.maxDepth e : Except Diagnostic Node) = .ok q.root := by
  unfold Query.parseXml Query.readXml at h
  split at h
  · simp [throw_eq_ok] at h
  split at h
  · simp [refuse_eq_ok] at h
  · simp only [bind_eq_ok, pure_eq_ok] at h
    obtain ⟨_, -, n, read, rfl⟩ := h
    exact ⟨rfl, _, read⟩

/-! ## Each part of a tree -/

/-- What is read from elements satisfies the properties. -/
structure Invariant (d : Dialect) (maps : PrefixMap → Prop) (clauses : SearchClause → Prop)
    (booleans : Boolean → Prop) : Prop where
  empty : maps .empty
  declare {p : PrefixMap} {written : String} (uri : String)
    (declarable : d.refuseDuplicatePrefix = true →
      ContextSet.isReserved (Text.lowerCase written) = false) (h : maps p) :
    maps (p.insert (Text.lowerCase written) uri)
  clause {e : Element} {c : SearchClause}
    (read : (readClause d e : Except Diagnostic Node) = .ok (.clause .empty c)) : clauses c
  boolean {e : Element} {b : Boolean}
    (read : (readBoolean d e : Except Diagnostic Boolean) = .ok b) : booleans b

variable {maps : PrefixMap → Prop} {clauses : SearchClause → Prop} {booleans : Boolean → Prop}

theorem Invariant.keeps (invariant : Invariant d maps clauses booleans) :
    Keeps d fun _ n => n.Each maps clauses booleans where
  clause read := ⟨invariant.empty, invariant.clause read⟩
  triple read left right := ⟨invariant.empty, invariant.boolean read, left, right⟩
  declare uri declarable each := each.withPrefixes (invariant.declare uri declarable each.prefixes)

theorem each_parseXml [Xml.Library] (invariant : Invariant d maps clauses booleans)
    {document : String} {q : Query}
    (h : Query.parseXml d document = .ok q) :
    q.dialect = d ∧ q.root.Each maps clauses booleans := by
  obtain ⟨dialect, e, read⟩ := parseXml_inv h
  exact ⟨dialect, invariant.keeps.readNode read⟩

/-! ## Names are canonical -/

theorem canonical_name {n : Name} (h : (name d e : Except Diagnostic Name) = .ok n) :
    n.Canonical := by
  rw [name, lift_eq] at h
  exact (Name.canonical_of_parse h).1

theorem readable_readModifier {m : Modifier}
    (h : (readModifier d e : Except Diagnostic Modifier) = .ok m) : m.Readable := by
  simp only [readModifier, bind_eq_ok] at h
  obtain ⟨_, -, type, -, h⟩ := h
  split at h
  · simp [refuse_eq_ok] at h
  simp only [bind_eq_ok] at h
  obtain ⟨n, named, comparison, -, h⟩ := h
  have canonical := canonical_name named
  cases comparison with
  | none =>
    cases found : (child? e "value").map frontText with
    | none =>
      obtain rfl : ⟨n, none, none⟩ = m := by simpa [found, pure_eq_ok] using h
      exact ⟨canonical, rfl⟩
    | some value =>
      obtain rfl : ⟨n, some .eq, some value⟩ = m := by simpa [found, pure_eq_ok] using h
      exact ⟨canonical, rfl⟩
  | some c =>
    cases found : (child? e "value").map frontText with
    | none => simp [found, refuse_eq_ok] at h
    | some value =>
      obtain rfl : ⟨n, some c, some value⟩ = m := by simpa [found, pure_eq_ok] using h
      exact ⟨canonical, rfl⟩

theorem readable_readEach {es : List Element} {ms : List Modifier}
    (h : (readEach d es : Except Diagnostic _) = .ok ms) : ∀ m ∈ ms, m.Readable := by
  induction es generalizing ms with
  | nil =>
    obtain rfl : [] = ms := by simpa [readEach, pure_eq_ok] using h
    simp
  | cons e es ih =>
    simp only [readEach, bind_eq_ok, pure_eq_ok] at h
    obtain ⟨first, read, others, more, rfl⟩ := h
    exact List.forall_mem_cons.2 ⟨readable_readModifier read, ih more⟩

theorem readable_readModifiers {ms : List Modifier}
    (h : (readModifiers d e : Except Diagnostic _) = .ok ms) : ∀ m ∈ ms, m.Readable := by
  unfold readModifiers at h
  split at h
  · obtain rfl : [] = ms := by simpa [pure_eq_ok] using h
    simp
  · simp only [bind_eq_ok] at h
    obtain ⟨_, -, read⟩ := h
    exact readable_readEach read

theorem readable_readBoolean {b : Boolean}
    (h : (readBoolean d e : Except Diagnostic Boolean) = .ok b) :
    ∀ m ∈ b.modifiers, m.Readable := by
  simp only [readBoolean, bind_eq_ok, pure_eq_ok] at h
  obtain ⟨_, -, value, -, op, -, ms, mods, rfl⟩ := h
  exact readable_readModifiers mods

/-- The names of a clause are canonical, and the dialect allows its term. -/
theorem canonical_readClause {c : SearchClause}
    (h : (readClause d e : Except Diagnostic Node) = .ok (.clause .empty c)) :
    c.Canonical ∧ (d.refuseEmptyTerm = true → c.term.value ≠ "") := by
  simp only [readClause, readRelation, bind_eq_ok, pure_eq_ok, Node.clause.injEq, true_and] at h
  obtain ⟨_, -, i, -, index, index_read, r, -, relation, relation_read, _, -, term, literal, _, -,
    rfl⟩ := h
  obtain ⟨_, -, v, -, name, name_read, ms, mods, rfl⟩ := relation_read
  rw [lift_eq, Term.literal_eq_ok] at literal
  refine ⟨⟨canonical_name index_read, canonical_name name_read, readable_readModifiers mods⟩, ?_⟩
  rw [literal.1]
  exact literal.2

/-- Names are declared in lower case. -/
theorem canonical_insert {p : PrefixMap} (h : p.Canonical) (name uri : String) :
    (p.insert (Text.lowerCase name) uri).Canonical := by
  intro e he
  rcases PrefixMap.fst_mem_insertEntry he with eq | he
  · rw [eq]
    exact fun c => Text.settled_of_mem_lowerCase
  · exact h e he

theorem invariant_canonical : Invariant d PrefixMap.Canonical SearchClause.Canonical
    fun b => ∀ m ∈ b.modifiers, m.Readable where
  empty := nofun
  declare _ _ h := canonical_insert h _ _
  clause read := (canonical_readClause read).1
  boolean := readable_readBoolean

theorem canonical_parseXml [Xml.Library] {document : String} {q : Query}
    (h : Query.parseXml d document = .ok q) : q.dialect = d ∧ q.root.Canonical :=
  each_parseXml invariant_canonical h

end Xcql

end ContextQuery
