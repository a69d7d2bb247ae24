import ContextQuery.Proofs.Query.Binding
import ContextQuery.Proofs.Query.Forest
import Mathlib.Logic.Relation

/-!
# The arena of a query is a tree

Whatever reader has read a query, its arena is the postorder listing of one binary tree. All that
is said of places, operands and parents follows from how a part of an arena holds a tree: the
operands of the top node hold the two halves of what stands before it.

## Main definitions

* `Arena.IsOperand`, `Arena.Below`: one step down from a triple, and any number of steps.
* `Arena.IsTree`: what it takes for an arena to be one binary tree in postorder.
* `Arena.Holds`: a part of an arena is the listing of a tree.

## Main results

* `Arena.Holds.below_iff`: the nodes below the top of a part are those of the part.
* `Node.arena_isTree`: the listing of a tree is one.
* `Query.isTree_of_read`: so is the arena of every query that is read.
-/

namespace ContextQuery

namespace Arena

variable {a : Arena} {start id : Nat} {parent : Option Nat} {n l r : Node} {p : PrefixMap}
  {b : Boolean}

/-- The node at `top` is a triple that lists the node at `id` as an operand. -/
def IsOperand (a : Arena) (top id : Nat) : Prop :=
  ∃ b left right, a.content? top = some (.triple b left right) ∧ (id = left ∨ id = right)

/-- The node at `id` is the one at `top`, an operand of it, an operand of an operand, and so on. -/
def Below (a : Arena) : Nat → Nat → Prop :=
  Relation.ReflTransGen a.IsOperand

/-- The ids that an arena gives: of its root, of operands, of parents, and of clauses. -/
inductive Mentions (a : Arena) : Nat → Prop
  | root {id : Nat} (found : a.root? = some id) : a.Mentions id
  | operand {top id : Nat} (found : a.IsOperand top id) : a.Mentions id
  | parent {id top : Nat} (found : a.parent? id = some top) : a.Mentions top
  | clause {id : Nat} (found : id ∈ a.clauses) : a.Mentions id

/-- One binary tree in postorder. -/
structure IsTree (a : Arena) (root : Nat) : Prop where
  root? : a.root? = some root
  last : root + 1 = a.size
  /-- The root is the only node without a parent. -/
  orphan_iff : ∀ id < a.size, a.parent? id = none ↔ id = root
  operands : ∀ id b left right, a.content? id = some (.triple b left right) →
    left ≠ right ∧ left < id ∧ right < id ∧ id < a.size
  separated : ∀ id b left right, a.content? id = some (.triple b left right) →
    ∀ i j, a.Below left i → a.Below right j → i < j
  /-- The parent of a node is the one triple that lists it as an operand. -/
  parent_iff : ∀ id top, a.parent? id = some top ↔ a.IsOperand top id
  reachable : ∀ id < a.size, a.Below root id
  /-- Going from parent to parent leads to the root. -/
  ascends : ∀ id < a.size, Relation.ReflTransGen (fun id top => a.parent? id = some top) id root
  size_eq : a.size = 2 * a.clauses.length - 1
  clauses_sorted : a.clauses.Pairwise (· < ·)
  mem_clauses : ∀ id, id ∈ a.clauses ↔ ∃ c, a.content? id = some (.clause c)
  /-- There is a node at every id that the arena gives. -/
  mentioned : ∀ id, a.Mentions id → (a.node? id).isSome

/-- The arena of a query: the listing of its tree, with its clauses in their order. -/
structure Stores (a : Arena) (q : Query) : Prop where
  entries : a.entries = q.root.listing 0 none
  isTree : a.IsTree (q.root.place 0)
  clauses : a.clauses.map a.content? = q.clauses.map fun l => l.node.clause?.map Content.clause

theorem isSome_node?_iff : (a.node? id).isSome ↔ id < a.size := by
  simp [node?, size]

theorem lt_size_of_content? {content : Content} (found : a.content? id = some content) :
    id < a.size := by
  rw [← isSome_node?_iff]
  by_contra missing
  simp [content?, Option.not_isSome_iff_eq_none.1 missing] at found

theorem lt_size_of_parent? {top : Nat} (found : a.parent? id = some top) : id < a.size := by
  rw [← isSome_node?_iff]
  by_contra missing
  simp [parent?, Option.not_isSome_iff_eq_none.1 missing] at found

/-- The part of the arena from `start` on is the listing of a tree. -/
def Holds (a : Arena) (start : Nat) (parent : Option Nat) (n : Node) : Prop :=
  ∃ before after, before.length = start ∧ a.entries = before ++ n.listing start parent ++ after

namespace Holds

theorem node? (holds : a.Holds start parent n) :
    a.node? (n.place start) = some (n.entry start parent) := by
  obtain ⟨before, after, here, entries⟩ := holds
  rw [Arena.node?, entries, Node.getElem?_place here]

theorem parent? (holds : a.Holds start parent n) : a.parent? (n.place start) = parent := by
  rw [Arena.parent?, holds.node?]
  cases n <;> rfl

theorem content? (holds : a.Holds start parent n) :
    a.content? (n.place start) = some (n.entry start parent).content := by
  rw [Arena.content?, holds.node?]
  rfl

theorem left (holds : a.Holds start parent (.triple p b l r)) :
    a.Holds start (some ((Node.triple p b l r).place start)) l := by
  obtain ⟨before, after, here, entries⟩ := holds
  refine ⟨before, r.listing (start + l.size) (some ((Node.triple p b l r).place start)) ++
    [(Node.triple p b l r).entry start parent] ++ after, here, ?_⟩
  rw [entries, Node.listing_triple]
  simp only [List.append_assoc]

theorem right (holds : a.Holds start parent (.triple p b l r)) :
    a.Holds (start + l.size) (some ((Node.triple p b l r).place start)) r := by
  obtain ⟨before, after, here, entries⟩ := holds
  refine ⟨before ++ l.listing start (some ((Node.triple p b l r).place start)),
    [(Node.triple p b l r).entry start parent] ++ after, ?_, ?_⟩
  · rw [List.length_append, Node.length_listing, here]
  · rw [entries, Node.listing_triple]
    simp only [List.append_assoc]

/-- The top node of a part has the places of its operands. -/
theorem isOperand_iff (holds : a.Holds start parent (.triple p b l r)) :
    a.IsOperand ((Node.triple p b l r).place start) id ↔
      id = l.place start ∨ id = r.place (start + l.size) := by
  rw [IsOperand, holds.content?]
  constructor
  · rintro ⟨_, _, _, ⟨⟩, operand⟩
    exact operand
  · intro operand
    exact ⟨b, _, _, rfl, operand⟩

theorem not_isOperand {c : SearchClause} (holds : a.Holds start parent (.clause p c)) :
    ¬ a.IsOperand start id := by
  rintro ⟨_, _, _, content, -⟩
  have clause := holds.content?
  rw [show (Node.clause p c).place start = start from rfl, content] at clause
  cases clause

/-- The nodes below the top of a part are those of the part. -/
theorem below_iff (holds : a.Holds start parent n) :
    a.Below (n.place start) id ↔ start ≤ id ∧ id < start + n.size := by
  induction n generalizing start parent id with
  | clause p c =>
    simp only [Node.place, Node.size]
    constructor
    · intro below
      obtain rfl | ⟨_, operand, -⟩ := Relation.ReflTransGen.cases_head below
      · omega
      · exact absurd operand holds.not_isOperand
    · intro range
      obtain rfl : start = id := by omega
      exact .refl
  | triple p b l r ihl ihr =>
    have half : a.Below ((Node.triple p b l r).place start) id ↔
        (Node.triple p b l r).place start = id ∨ a.Below (l.place start) id ∨
          a.Below (r.place (start + l.size)) id := by
      constructor
      · intro below
        obtain here | ⟨mid, operand, below⟩ := Relation.ReflTransGen.cases_head below
        · exact .inl here
        · obtain rfl | rfl := holds.isOperand_iff.1 operand
          · exact .inr (.inl below)
          · exact .inr (.inr below)
      · rintro (rfl | below | below)
        · exact .refl
        · exact .head (holds.isOperand_iff.2 (.inl rfl)) below
        · exact .head (holds.isOperand_iff.2 (.inr rfl)) below
    rw [half, ihl holds.left, ihr holds.right]
    simp only [Node.place, Node.size]
    omega

/-- Every place in a part is that of the top of a smaller part. -/
theorem exists_holds (holds : a.Holds start parent n) (from_start : start ≤ id)
    (to_end : id < start + n.size) :
    ∃ start' parent' m, a.Holds start' parent' m ∧ m.place start' = id := by
  induction n generalizing start parent with
  | clause p c =>
    simp only [Node.size] at to_end
    exact ⟨start, parent, _, holds, by simp only [Node.place]; omega⟩
  | triple p b l r ihl ihr =>
    simp only [Node.size] at to_end
    by_cases top : id = (Node.triple p b l r).place start
    · exact ⟨start, parent, _, holds, top.symm⟩
    simp only [Node.place] at top
    by_cases inLeft : id < start + l.size
    · exact ihl holds.left from_start inLeft
    · exact ihr holds.right (by omega) (by omega)

/-- A node in a part is the top, or it has a parent in the part that lists it. -/
theorem parent_cases (holds : a.Holds start parent n) (from_start : start ≤ id)
    (to_end : id < start + n.size) :
    id = n.place start ∨ ∃ top, a.parent? id = some top ∧ a.IsOperand top id := by
  induction n generalizing start parent with
  | clause p c =>
    simp only [Node.size] at to_end
    exact .inl (by simp only [Node.place]; omega)
  | triple p b l r ihl ihr =>
    simp only [Node.size] at to_end
    by_cases top : id = (Node.triple p b l r).place start
    · exact .inl top
    right
    simp only [Node.place] at top
    by_cases inLeft : id < start + l.size
    · obtain rfl | deeper := ihl holds.left from_start inLeft
      · exact ⟨_, holds.left.parent?, holds.isOperand_iff.2 (.inl rfl)⟩
      · exact deeper
    · obtain rfl | deeper := ihr holds.right (by omega) (by omega)
      · exact ⟨_, holds.right.parent?, holds.isOperand_iff.2 (.inr rfl)⟩
      · exact deeper

/-- Going from parent to parent leads to the top of a part. -/
theorem ascends (holds : a.Holds start parent n) (from_start : start ≤ id)
    (to_end : id < start + n.size) :
    Relation.ReflTransGen (fun id top => a.parent? id = some top) id (n.place start) := by
  induction n generalizing start parent with
  | clause p c =>
    simp only [Node.size] at to_end
    obtain rfl : id = start := by omega
    exact .refl
  | triple p b l r ihl ihr =>
    simp only [Node.size] at to_end
    by_cases top : id = (Node.triple p b l r).place start
    · exact top ▸ .refl
    simp only [Node.place] at top
    by_cases inLeft : id < start + l.size
    · exact (ihl holds.left from_start inLeft).tail holds.left.parent?
    · exact (ihr holds.right (by omega) (by omega)).tail holds.right.parent?

end Holds

end Arena

namespace Node

variable {start id : Nat}

/-- The places of the clauses of a tree from left to right. -/
def clausePlaces (start : Nat) : Node → List Nat
  | clause _ _ => [start]
  | triple _ _ l r => l.clausePlaces start ++ r.clausePlaces (start + l.size)

theorem clausePlaces_range (n : Node) (found : id ∈ n.clausePlaces start) :
    start ≤ id ∧ id < start + n.size := by
  induction n generalizing start with
  | clause => simp_all [clausePlaces, size]
  | triple p b l r ihl ihr =>
    simp only [size]
    obtain found | found := List.mem_append.1 found
    · have := ihl found
      omega
    · have := ihr found
      omega

theorem clausePlaces_sorted (n : Node) : (n.clausePlaces start).Pairwise (· < ·) := by
  induction n generalizing start with
  | clause => exact List.pairwise_singleton ..
  | triple p b l r ihl ihr =>
    refine List.pairwise_append.2 ⟨ihl, ihr, fun i left j right => ?_⟩
    have := l.clausePlaces_range left
    have := r.clausePlaces_range right
    omega

theorem size_eq_clausePlaces (n : Node) : n.size + 1 = 2 * (n.clausePlaces start).length := by
  induction n generalizing start with
  | clause => rfl
  | triple p b l r ihl ihr =>
    have left := @ihl start
    have right := @ihr (start + l.size)
    simp only [size, clausePlaces, List.length_append]
    omega

end Node

namespace Arena.Holds

variable {a : Arena} {start id : Nat} {parent : Option Nat} {n : Node}

theorem clausesFrom (holds : a.Holds start parent n) :
    a.clausesFrom (n.place start) = n.clausePlaces start := by
  induction n generalizing start parent with
  | clause p c =>
    rw [Arena.clausesFrom, holds.content?]
    rfl
  | triple p b l r ihl ihr =>
    have left := l.place_add_one start
    have right := r.place_add_one (start + l.size)
    have top := (Node.triple p b l r).place_add_one start
    have before : l.place start < (Node.triple p b l r).place start ∧
        r.place (start + l.size) < (Node.triple p b l r).place start := by
      rw [Node.size] at top
      omega
    rw [Arena.clausesFrom, holds.content?]
    dsimp only [Node.entry]
    rw [if_pos before, ihl holds.left, ihr holds.right]
    rfl

theorem mem_clausePlaces (holds : a.Holds start parent n) (from_start : start ≤ id)
    (to_end : id < start + n.size) :
    id ∈ n.clausePlaces start ↔ ∃ c, a.content? id = some (.clause c) := by
  induction n generalizing start parent with
  | clause p c =>
    simp only [Node.size] at to_end
    obtain rfl : id = start := by omega
    exact ⟨fun _ => ⟨c, holds.content?⟩, fun _ => List.mem_singleton_self _⟩
  | triple p b l r ihl ihr =>
    simp only [Node.size] at to_end
    rw [Node.clausePlaces, List.mem_append]
    have leftRange (found : id ∈ l.clausePlaces start) := l.clausePlaces_range found
    have rightRange (found : id ∈ r.clausePlaces (start + l.size)) := r.clausePlaces_range found
    by_cases top : id = (Node.triple p b l r).place start
    · have content : a.content? id = some (.triple b _ _) := top ▸ holds.content?
      simp only [Node.place] at top
      constructor
      · rintro (found | found)
        · have := leftRange found
          omega
        · have := rightRange found
          omega
      · rintro ⟨c, clause⟩
        cases content.symm.trans clause
    simp only [Node.place] at top
    by_cases inLeft : id < start + l.size
    · rw [← ihl holds.left from_start inLeft, or_iff_left]
      intro found
      have := rightRange found
      omega
    · rw [← ihr holds.right (by omega) (by omega), or_iff_right]
      intro found
      have := leftRange found
      omega

/-- The contents at the places of the clauses are the clauses of the tree. -/
theorem map_content? (holds : a.Holds start parent n) (way : List Side) (outer : Enclosing) :
    (n.clausePlaces start).map a.content? =
      ((n.located way outer).filter (·.node.isClause)).map fun l =>
        l.node.clause?.map Content.clause := by
  induction n generalizing start parent way outer with
  | clause p c =>
    rw [Node.clauses_located_clause]
    exact congrArg (fun content => [content]) holds.content?
  | triple p b l r ihl ihr =>
    rw [Node.clauses_located_triple, Node.clausePlaces, List.map_append, List.map_append,
      ihl holds.left, ihr holds.right]

end Arena.Holds

namespace Node

open Arena

variable {n : Node} {id top : Nat}

theorem holds_arena (n : Node) : n.arena.Holds 0 none n :=
  ⟨[], [], rfl, (List.append_nil _).symm⟩

theorem size_arena (n : Node) : n.arena.size = 0 + n.size :=
  n.length_listing.trans (Nat.zero_add _).symm

/-- A triple of the arena holds its operands in the two halves of the nodes below it. -/
theorem exists_operands {b : Boolean} {left right : Nat}
    (found : n.arena.content? id = some (.triple b left right)) :
    ∃ start parent p l r, n.arena.Holds start parent (.triple p b l r) ∧
      id = (triple p b l r).place start ∧
      left = l.place start ∧ right = r.place (start + l.size) := by
  have inside := n.size_arena ▸ lt_size_of_content? found
  obtain ⟨start, parent, m, holds, rfl⟩ := n.holds_arena.exists_holds (Nat.zero_le id) inside
  have content := found.symm.trans holds.content?
  cases m with
  | clause => cases content
  | triple p b' l r =>
    cases content
    exact ⟨start, parent, p, l, r, holds, rfl, rfl, rfl⟩

theorem arena_parent?_iff : n.arena.parent? id = some top ↔ n.arena.IsOperand top id := by
  constructor
  · intro found
    have inside := n.size_arena ▸ lt_size_of_parent? found
    obtain rfl | ⟨top', parent, operand⟩ := n.holds_arena.parent_cases (Nat.zero_le id) inside
    · cases n.holds_arena.parent?.symm.trans found
    · cases parent.symm.trans found
      exact operand
  · rintro ⟨b, left, right, found, operand⟩
    obtain ⟨start, parent, p, l, r, holds, rfl, rfl, rfl⟩ := exists_operands found
    obtain rfl | rfl := operand
    · exact holds.left.parent?
    · exact holds.right.parent?

theorem clauses_arena (n : Node) : n.arena.clauses = n.clausePlaces 0 :=
  n.holds_arena.clausesFrom

theorem mentions_inside (mentions : n.arena.Mentions id) : id < n.arena.size := by
  cases mentions with
  | root found =>
    cases found
    have := n.place_add_one 0
    have := n.size_arena
    omega
  | operand found =>
    exact lt_size_of_parent? (arena_parent?_iff.2 found)
  | parent found =>
    obtain ⟨_, _, _, content, -⟩ := arena_parent?_iff.1 found
    exact lt_size_of_content? content
  | clause found =>
    rw [size_arena]
    exact (n.clausePlaces_range (n.clauses_arena ▸ found)).2

/-- The listing of a tree is a tree. -/
theorem arena_isTree (n : Node) : n.arena.IsTree (n.place 0) where
  root? := rfl
  last := by
    rw [size_arena, place_add_one]
  orphan_iff id inside := by
    rw [size_arena] at inside
    constructor
    · intro orphan
      obtain top | ⟨top, parent, -⟩ := n.holds_arena.parent_cases (Nat.zero_le id) inside
      · exact top
      · cases orphan.symm.trans parent
    · rintro rfl
      exact n.holds_arena.parent?
  operands id b left right found := by
    have inside := lt_size_of_content? found
    obtain ⟨start, parent, p, l, r, holds, rfl, rfl, rfl⟩ := exists_operands found
    have leftLast := l.place_add_one start
    have rightLast := r.place_add_one (start + l.size)
    have last := (triple p b l r).place_add_one start
    rw [size] at last
    have rightSize : 0 < r.size := by cases r <;> simp [size]
    omega
  separated id b left right found i j inLeft inRight := by
    obtain ⟨start, parent, p, l, r, holds, rfl, rfl, rfl⟩ := exists_operands found
    have := holds.left.below_iff.1 inLeft
    have := holds.right.below_iff.1 inRight
    omega
  parent_iff id top := arena_parent?_iff
  reachable id inside := by
    rw [size_arena] at inside
    exact n.holds_arena.below_iff.2 ⟨Nat.zero_le id, inside⟩
  ascends id inside := by
    rw [size_arena] at inside
    exact n.holds_arena.ascends (Nat.zero_le id) inside
  size_eq := by
    have : n.size + 1 = 2 * (n.clausePlaces 0).length := n.size_eq_clausePlaces
    rw [size_arena, clauses_arena]
    omega
  clauses_sorted := n.clauses_arena ▸ n.clausePlaces_sorted
  mem_clauses id := by
    rw [clauses_arena]
    constructor
    · intro found
      obtain ⟨from_start, to_end⟩ := n.clausePlaces_range found
      exact (n.holds_arena.mem_clausePlaces from_start to_end).1 found
    · rintro ⟨c, found⟩
      have inside := n.size_arena ▸ lt_size_of_content? found
      exact (n.holds_arena.mem_clausePlaces (Nat.zero_le id) inside).2 ⟨c, found⟩
  mentioned id mentions := isSome_node?_iff.2 (mentions_inside mentions)

end Node

/-- The arena of a query that is read, in either form, is one binary tree in postorder. -/
theorem Query.isTree_of_read [Xml.Library] (d : Dialect) :
    (∀ text q, Query.parse d text = .ok q →
      ∃ a, Query.arena d text = .ok a ∧ a.Stores q) ∧
    ∀ document q, Query.parseXml d document = .ok q →
      ∃ a, Query.arenaXml d document = .ok a ∧ a.Stores q := by
  have stores (q : Query) : q.root.arena.Stores q :=
    ⟨rfl, q.root.arena_isTree, q.root.clauses_arena ▸ q.root.holds_arena.map_content? [] []⟩
  constructor
  · intro text q parsed
    exact ⟨q.root.arena, by rw [arena_eq, parsed]; rfl, stores q⟩
  · intro document q parsed
    exact ⟨q.root.arena, by rw [arenaXml_eq, parsed]; rfl, stores q⟩

/-- A text with a group, and a document of one clause. -/
theorem Query.isTree_of_read_grouped :
    (∃ q a, Query.parse {} ">x=u a or (b and c)" = .ok q ∧
      Query.arena {} ">x=u a or (b and c)" = .ok a ∧ a.Stores q) ∧
    ∃ q a, Query.parseXml {} ("<searchClause><index>t</index><relation><value>=</value>" ++
        "</relation><term>a</term></searchClause>") = .ok q ∧
      Query.arenaXml {} ("<searchClause><index>t</index><relation><value>=</value>" ++
        "</relation><term>a</term></searchClause>") = .ok a ∧ a.Stores q := by
  constructor
  · let plain (term : String) : Node := .clause .empty (.serverChoice {} ⟨term⟩)
    let q : Query := ⟨.triple (.ofList [("x", "u")]) ⟨.or, []⟩ (plain "a")
      (.triple .empty ⟨.and, []⟩ (plain "b") (plain "c")), {}⟩
    have parsed : Query.parse {} ">x=u a or (b and c)" = .ok q := by
      decide +kernel
    obtain ⟨a, arena, stores⟩ := (Query.isTree_of_read {}).1 _ _ parsed
    exact ⟨q, a, parsed, arena, stores⟩
  · let q : Query := ⟨.clause .empty ⟨⟨none, "t"⟩, ⟨⟨none, "="⟩, []⟩, ⟨"a"⟩⟩, {}⟩
    have parsed : Query.parseXml {} ("<searchClause><index>t</index><relation><value>=</value>" ++
        "</relation><term>a</term></searchClause>") = .ok q := by
      decide +kernel
    obtain ⟨a, arena, stores⟩ := (Query.isTree_of_read {}).2 _ _ parsed
    exact ⟨q, a, parsed, arena, stores⟩

end ContextQuery
