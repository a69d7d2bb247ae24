import ContextQuery.Clause

/-!
# Queries

A query is a binary tree: its leaves are search clauses, its inner nodes are triples of a boolean
and two operands. Every node may declare prefixes.

## Main definitions

* `Node`, `Query`: the tree, and the tree with the dialect that it was read under.
* `Node.postorder`: the nodes in the order in which a reader finishes them.
* `Node.sameAs`: equality of shape, clauses and booleans, whatever prefixes are declared.
-/

namespace ContextQuery

/-- A node of a query, with the prefixes declared on it. -/
inductive Node where
  | clause (prefixes : PrefixMap) (clause : SearchClause)
  | triple (prefixes : PrefixMap) (boolean : Boolean) (left right : Node)
  deriving DecidableEq

namespace Node

/-- The prefixes declared on the node. -/
def prefixes : Node → PrefixMap
  | clause p _ => p
  | triple p _ _ _ => p

/-- The node with other prefixes declared on it. -/
def withPrefixes (p : PrefixMap) : Node → Node
  | clause _ c => clause p c
  | triple _ b l r => triple p b l r

/-- Declares one more prefix on the node; a later declaration of a name replaces an earlier one. -/
def declare (n : Node) (name uri : String) : Node :=
  n.withPrefixes (n.prefixes.insert name uri)

/-- The search clause of a leaf. -/
def clause? : Node → Option SearchClause
  | clause _ c => some c
  | triple _ _ _ _ => none

/-- The node is a leaf. -/
def isClause (n : Node) : Bool :=
  n.clause?.isSome

/-- The number of triples on the longest way down to a clause. -/
def height : Node → Nat
  | clause _ _ => 0
  | triple _ _ l r => max l.height r.height + 1

/-- The number of nodes. -/
def size : Node → Nat
  | clause _ _ => 1
  | triple _ _ l r => l.size + r.size + 1

/-- The nodes in the order in which a reader finishes them: left operand, right operand, triple. -/
def postorder : Node → List Node
  | n@(clause _ _) => [n]
  | n@(triple _ _ l r) => l.postorder ++ r.postorder ++ [n]

/-- Equality of shape, clauses and booleans; prefixes do not count. -/
def sameAs : Node → Node → Bool
  | clause _ a, clause _ b => a = b
  | triple _ a l r, triple _ b l' r' => a = b && l.sameAs l' && r.sameAs r'
  | _, _ => false

end Node

/-- A query, with the dialect that it was read under. -/
structure Query where
  root : Node
  dialect : Dialect
  deriving DecidableEq

namespace Query

/-- The number of nodes. -/
def size (q : Query) : Nat :=
  q.root.size

/-- The node that was finished after `i` others. -/
def node? (q : Query) (i : Nat) : Option Node :=
  q.root.postorder[i]?

/-- Equality of shape, clauses and booleans; prefixes do not count. -/
def sameAs (a b : Query) : Bool :=
  a.root.sameAs b.root

end Query

end ContextQuery
