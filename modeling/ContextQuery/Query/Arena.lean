import ContextQuery.Query.Observed
import ContextQuery.Query.Reader
import ContextQuery.Xcql.Reader

/-!
# Arenas

The nodes of a query in one list, in the order in which a reader finishes them. A node is known by
its place in the list: a triple refers to its operands by their places, and each operand to the
triple that took it up. An arena follows the notes of a reader. A finished clause is put at the end
of the list; a finished triple as well, over the two nodes that were finished last and belong to no
triple; and a declaration goes to the last such node.

## Main definitions

* `Arena`: the list, and the nodes that belong to no triple yet.
* `Arena.note`: what becomes of an arena when a reader notes an event.
* `Arena.clauses`: the clauses from left to right.
* `Query.arena`, `Query.arenaXml`: the arena of a query that is read.
-/

namespace ContextQuery

namespace Arena

/-- What a node is. The operands of a triple are known by their places. -/
inductive Content where
  | clause (clause : SearchClause)
  | triple (boolean : Boolean) (left right : Nat)
  deriving DecidableEq

/-- A node with its prefixes, the place of the triple above it, and its height. -/
structure Entry where
  content : Content
  prefixes : PrefixMap
  parent : Option Nat
  height : Nat
  deriving DecidableEq

end Arena

/-- Nodes in the order in which they were finished. -/
structure Arena where
  entries : List Arena.Entry
  /-- The places of the nodes that belong to no triple yet, the last one first. -/
  roots : List Nat
  deriving DecidableEq

namespace Arena

/-- The arena without nodes. -/
def empty : Arena :=
  ⟨[], []⟩

/-- The number of nodes. -/
def size (a : Arena) : Nat :=
  a.entries.length

/-- The node at a place, if there is one. -/
def node? (a : Arena) (id : Nat) : Option Entry :=
  a.entries[id]?

/-- What the node at a place is. -/
def content? (a : Arena) (id : Nat) : Option Content :=
  (a.node? id).map (·.content)

/-- The triple above a node. -/
def parent? (a : Arena) (id : Nat) : Option Nat :=
  (a.node? id).bind (·.parent)

/-- The height that a node was given. -/
def height (a : Arena) (id : Nat) : Nat :=
  ((a.node? id).map (·.height)).getD 0

/-- The one node that belongs to no triple. -/
def root? (a : Arena) : Option Nat :=
  match a.roots with
  | [id] => some id
  | _ => none

/-! ## Building -/

/-- Puts a clause at the end. -/
def pushClause (a : Arena) (c : SearchClause) : Arena :=
  ⟨a.entries ++ [⟨.clause c, .empty, none, 0⟩], a.size :: a.roots⟩

/-- Gives a node the triple above it. -/
def setParent (entries : List Entry) (id parent : Nat) : List Entry :=
  entries.modify id fun e => { e with parent := some parent }

/-- Puts a triple over two nodes at the end; `others` are left without a triple. -/
def pushTriple (a : Arena) (left : Nat) (b : Boolean) (right : Nat) (others : List Nat) : Arena :=
  let entry : Entry :=
    ⟨.triple b left right, .empty, none, max (a.height left) (a.height right) + 1⟩
  ⟨setParent (setParent (a.entries ++ [entry]) left a.size) right a.size, a.size :: others⟩

/-- Declares one more prefix on a node. -/
def declare (a : Arena) (id : Nat) (name uri : String) : Arena :=
  { a with
    entries := a.entries.modify id fun e => { e with prefixes := e.prefixes.insert name uri } }

/-- What becomes of the arena when a reader notes an event. No reader finishes a triple before its
operands, nor declares a prefix before there is a node. -/
def note (event : Event) (a : Arena) : Arena :=
  match event, a.roots with
  | .clause c, _ => a.pushClause c
  | .triple b, right :: left :: others => a.pushTriple left b right others
  | .declaration name uri, id :: _ => a.declare id name uri
  | _, _ => a

instance : Observer Arena where
  note := note

/-- The arena that a run leaves, unless it ends in a refusal. -/
def ofRun (run : Observed Arena Query) : Except Diagnostic Arena :=
  match run.runFrom .empty with
  | (.ok _, a) => .ok a
  | (.error e, _) => .error e

/-! ## Looking around -/

/-- The clauses at a node and below it, from left to right. Operands stand before their triple. -/
def clausesFrom (a : Arena) (id : Nat) : List Nat :=
  match a.content? id with
  | some (.clause _) => [id]
  | some (.triple _ left right) =>
    if left < id ∧ right < id then a.clausesFrom left ++ a.clausesFrom right else []
  | none => []
termination_by id

/-- The clauses from left to right. -/
def clauses (a : Arena) : List Nat :=
  a.root?.elim [] a.clausesFrom

end Arena

/-- The arena of a text that is read. -/
def Query.arena (d : Dialect) (text : String) : Except Diagnostic Arena :=
  Arena.ofRun (Query.read d text)

/-- The arena of a document that is read. -/
def Query.arenaXml [Xml.Library] (d : Dialect) (document : String) : Except Diagnostic Arena :=
  Arena.ofRun (Query.readXml d document)

end ContextQuery
