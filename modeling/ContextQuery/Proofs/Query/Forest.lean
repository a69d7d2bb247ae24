import ContextQuery.Proofs.Xcql.Observation
import ContextQuery.Query.Arena

/-!
# The forest of a reader at work

While a query is read, its arena lists the trees that are finished so far one after the other, each
in postorder. A clause makes one tree more; a triple joins the last two, which stand side by side
at the end of the list; a declaration changes the last entry alone.

## Main definitions

* `Node.listing`: the entries of a tree whose first entry stands at a given place.
* `Arena.ofForest`: the arena that lists the given trees.

## Main results

* `Arena.note_clause`, `Arena.note_triple`, `Arena.note_declaration`: what a note does to a forest.
* `Query.arena_eq`, `Query.arenaXml_eq`: a query that is read leaves its listing.
-/

namespace ContextQuery

open Arena (Entry Content)

namespace Node

/-- The place of a node if the entries of its tree start at a place: it stands behind all nodes
below it. -/
def place (start : Nat) : Node → Nat
  | clause _ _ => start
  | triple _ _ l r => start + l.size + r.size

/-- The entry of a node. -/
def entry (start : Nat) (parent : Option Nat) : Node → Entry
  | clause p c => ⟨.clause c, p, parent, 0⟩
  | triple p b l r =>
    ⟨.triple b (l.place start) (r.place (start + l.size)), p, parent,
      max l.height r.height + 1⟩

/-- The entries of the nodes below a node. -/
def beneath (start : Nat) : Node → List Entry
  | clause _ _ => []
  | n@(triple _ _ l r) =>
    l.beneath start ++ [l.entry start (some (n.place start))] ++
      (r.beneath (start + l.size) ++ [r.entry (start + l.size) (some (n.place start))])

/-- The entries of a tree in postorder. -/
def listing (start : Nat) (parent : Option Nat) (n : Node) : List Entry :=
  n.beneath start ++ [n.entry start parent]

/-- The arena of a tree. -/
def arena (n : Node) : Arena :=
  ⟨n.listing 0 none, [n.place 0]⟩

variable {start : Nat} {parent : Option Nat} {p : PrefixMap} {b : Boolean} {l r : Node}

theorem place_add_one (start : Nat) (n : Node) : n.place start + 1 = start + n.size := by
  cases n with
  | clause => rfl
  | triple p b l r =>
    simp only [place, size]
    omega

theorem listing_triple :
    (triple p b l r).listing start parent =
      l.listing start (some ((triple p b l r).place start)) ++
        r.listing (start + l.size) (some ((triple p b l r).place start)) ++
          [(triple p b l r).entry start parent] :=
  rfl

theorem length_beneath (n : Node) : (n.beneath start).length + 1 = n.size := by
  induction n generalizing start with
  | clause => rfl
  | triple _ _ l r ihl ihr =>
    have left := @ihl start
    have right := @ihr (start + l.size)
    simp only [beneath, size, List.length_append, List.length_singleton]
    omega

@[simp] theorem length_listing (n : Node) : (n.listing start parent).length = n.size := by
  rw [listing, List.length_append, List.length_singleton, length_beneath]

theorem height_entry (n : Node) : (n.entry start parent).height = n.height := by
  cases n <;> rfl

theorem place_eq {before : List Entry} (here : before.length = start) (n : Node) :
    n.place start = (before ++ n.beneath start).length := by
  have last := place_add_one start n
  have behind : (n.beneath start).length + 1 = n.size := length_beneath n
  rw [List.length_append]
  omega

theorem append_listing (before after : List Entry) (n : Node) :
    before ++ n.listing start parent ++ after =
      (before ++ n.beneath start) ++ n.entry start parent :: after := by
  simp [listing]

/-- The entry of a node stands at its place. -/
theorem getElem?_place {before : List Entry} (here : before.length = start) (after : List Entry)
    (n : Node) :
    (before ++ n.listing start parent ++ after)[n.place start]? = some (n.entry start parent) := by
  rw [append_listing, place_eq here, List.getElem?_append_right (Nat.le_refl _), Nat.sub_self]
  rfl

end Node

namespace Arena

/-- Puts a tree behind the trees of a forest. -/
def graft (a : Arena) (n : Node) : Arena :=
  ⟨a.entries ++ n.listing a.size none, n.place a.size :: a.roots⟩

/-- The arena that lists trees, the last one first. -/
def ofForest : List Node → Arena
  | [] => .empty
  | n :: ns => (ofForest ns).graft n

theorem modify_length {α : Type} (before : List α) (x : α) (after : List α) (f : α → α) :
    (before ++ x :: after).modify before.length f = before ++ f x :: after := by
  rw [List.modify_eq_take_cons_drop (by simp)]
  simp

theorem setParent_place {before : List Entry} {start : Nat} (here : before.length = start)
    (after : List Entry) (n : Node) (parent : Nat) :
    setParent (before ++ n.listing start none ++ after) (n.place start) parent =
      before ++ n.listing start (some parent) ++ after := by
  rw [Node.append_listing, Node.append_listing, setParent, Node.place_eq here, modify_length]
  cases n <;> rfl

/-- A triple over the last two trees makes one tree of them. -/
theorem pushTriple_forest (before : List Entry) (b : Boolean) (l r : Node)
    (roots others : List Nat) {start : Nat} (here : before.length = start) :
    (Arena.mk (before ++ l.listing start none ++ r.listing (start + l.size) none) roots).pushTriple
        (l.place start) b (r.place (start + l.size)) others =
      ⟨before ++ (Node.triple .empty b l r).listing start none,
        (Node.triple .empty b l r).place start :: others⟩ := by
  have next (parent : Option Nat) : (before ++ l.listing start parent).length = start + l.size := by
    rw [List.length_append, Node.length_listing, here]
  have size : (Arena.mk (before ++ l.listing start none ++ r.listing (start + l.size) none)
      roots).size = (Node.triple .empty b l r).place start := by
    rw [Arena.size, List.length_append, next, Node.length_listing]
    rfl
  have left : (Arena.mk (before ++ l.listing start none ++ r.listing (start + l.size) none)
      roots).height (l.place start) = l.height := by
    rw [height, node?, Node.getElem?_place here]
    exact Node.height_entry l
  have right : (Arena.mk (before ++ l.listing start none ++ r.listing (start + l.size) none)
      roots).height (r.place (start + l.size)) = r.height := by
    have place : (before ++ l.listing start none ++ r.listing (start + l.size) none ++ [])[
        r.place (start + l.size)]? = _ := Node.getElem?_place (next none) [] r
    rw [List.append_nil] at place
    rw [height, node?, place]
    exact Node.height_entry r
  rw [pushTriple, size, left, right]
  have joined (entry : Entry) (parent : Nat) :
      setParent (setParent (before ++ l.listing start none ++ r.listing (start + l.size) none ++
          [entry]) (l.place start) parent) (r.place (start + l.size)) parent =
        before ++ l.listing start (some parent) ++ r.listing (start + l.size) (some parent) ++
          [entry] := by
    rw [List.append_assoc (before ++ l.listing start none), setParent_place here,
      ← List.append_assoc, setParent_place (next _)]
  rw [joined, Node.listing_triple, ← List.append_assoc, ← List.append_assoc]
  rfl

theorem note_clause (ns : List Node) (c : SearchClause) :
    (ofForest ns).note (.clause c) = ofForest (.clause .empty c :: ns) :=
  rfl

theorem note_declaration (n : Node) (ns : List Node) (name uri : String) :
    (ofForest (n :: ns)).note (.declaration name uri) = ofForest (n.declare name uri :: ns) := by
  have beneath :
      (n.declare name uri).beneath (ofForest ns).size = n.beneath (ofForest ns).size := by
    cases n <;> rfl
  have place : (n.declare name uri).place (ofForest ns).size = n.place (ofForest ns).size := by
    cases n <;> rfl
  have here : (ofForest ns).entries.length = (ofForest ns).size := rfl
  simp only [ofForest, graft, note, declare, Node.listing, beneath, place]
  rw [← List.append_assoc, Node.place_eq here, modify_length, List.append_assoc]
  cases n <;> rfl

theorem note_triple (b : Boolean) (l r : Node) (ns : List Node) :
    (ofForest (r :: l :: ns)).note (.triple b) = ofForest (.triple .empty b l r :: ns) := by
  have next : ((ofForest ns).graft l).size = (ofForest ns).size + l.size := by
    simp [graft, size]
  have joined := pushTriple_forest (ofForest ns).entries b l r
    (r.place ((ofForest ns).size + l.size) :: l.place (ofForest ns).size :: (ofForest ns).roots)
    (ofForest ns).roots rfl
  rw [ofForest, ofForest, graft, next]
  exact joined

/-- The arena lists the finished trees. -/
def account : Account Arena where
  finished ns a := a = ofForest ns
  refused _ := True
  token _ _ _ holds := holds ▸ rfl
  document _ _ _ holds := holds ▸ rfl
  clause c ns _ holds := holds ▸ note_clause ns c
  triple b l r ns _ holds := holds ▸ note_triple b l r ns
  declaration name uri n ns _ holds := holds ▸ note_declaration n ns name uri
  refusal _ _ _ := trivial

/-- An observed run that takes the empty forest to the tree of its result leaves its listing. -/
theorem ofRun_eq {run : Observed Arena Query} {plain : Except Diagnostic Query}
    (takes : account.Takes [] run plain fun q => [q.root]) :
    ofRun run = plain.map fun q => q.root.arena := by
  obtain ⟨a, ran, ok, -⟩ := takes .empty rfl
  rw [ofRun, ran]
  cases plain with
  | error e => rfl
  | ok q => exact congrArg Except.ok (ok q rfl)

end Arena

namespace Query

theorem arena_eq (d : Dialect) (text : String) :
    Query.arena d text = (Query.parse d text).map fun q => q.root.arena :=
  Arena.ofRun_eq (Account.takes_read d text)

theorem arenaXml_eq [Xml.Library] (d : Dialect) (document : String) :
    Query.arenaXml d document = (Query.parseXml d document).map fun q => q.root.arena :=
  Arena.ofRun_eq (Account.takes_readXml d document)

end Query

end ContextQuery
