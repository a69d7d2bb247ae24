import ContextQuery.ContextSet
import ContextQuery.Query

/-!
# Scopes

Which context set a prefix stands for at a node: what the node itself declares comes first, then
the reserved prefixes, then the declarations of the enclosing triples from the inside out, then
the defaults of the dialect.

## Main definitions

* `Scope.resolve?`: the context set of a prefix.
* `Located`: a node with its place in the query.
* `Query.located`: all nodes of a query with their places, each before its operands.
* `Located.resultSet`: the result set that a node refers to.
-/

namespace ContextQuery

/-- The prefixes that the enclosing triples declare, the nearest triple first. -/
abbrev Enclosing := List PrefixMap

/-- The context set that a prefix stands for at a node that declares `own`. -/
def Scope.resolve? (d : Dialect) (outer : Enclosing) (own : PrefixMap) (name : String) :
    Option String :=
  (own.get? name).or <| (ContextSet.reserved? name).or <|
    (outer.findSome? (·.get? name)).or (d.defaults.get? name)

/-- The context set of a name used at a node that declares `own`; a name without a prefix takes
the unnamed one. -/
def Scope.contextSet? (d : Dialect) (outer : Enclosing) (own : PrefixMap) (name : Name) :
    Option String :=
  Scope.resolve? d outer own (name.set.getD "")

/-- The two operands of a triple. -/
inductive Side where
  | left
  | right
  deriving DecidableEq

/-- A node with its place: the way to it from the root, and the prefixes declared around it. -/
structure Located where
  way : List Side
  outer : Enclosing
  node : Node
  deriving DecidableEq

namespace Node

/-- The node and all below it with their places, each before its operands. -/
def located (way : List Side) (outer : Enclosing) : Node → List Located
  | n@(clause _ _) => [⟨way, outer, n⟩]
  | n@(triple p _ l r) =>
    ⟨way, outer, n⟩ :: (l.located (way ++ [.left]) (p :: outer) ++
      r.located (way ++ [.right]) (p :: outer))

/-- The result set that a clause refers to, or the empty string: the index `resultsetid` of the
context set `cql` names it. -/
def clauseResultSet (d : Dialect) (outer : Enclosing) (own : PrefixMap) (c : SearchClause) :
    String :=
  if Scope.contextSet? d outer own c.index = some ContextSet.cql &&
      c.index.value = "resultsetid" then c.term.value
  else ""

/-- The result sets of the clauses below a node from left to right, unless a triple there takes
clauses away (`not`) or asks for nearness (`prox`). -/
def clauseResultSets (d : Dialect) (outer : Enclosing) : Node → Option (List String)
  | clause p c => some [clauseResultSet d outer p c]
  | triple p b l r =>
    if b.op = .not || b.op = .prox then none
    else
      match l.clauseResultSets d (p :: outer), r.clauseResultSets d (p :: outer) with
      | some ls, some rs => some (ls ++ rs)
      | _, _ => none

/-- The result set that a node refers to, or the empty string. A triple refers to one if the
dialect combines result sets and all its clauses refer to the same one. -/
def resultSet (d : Dialect) (outer : Enclosing) : Node → String
  | clause p c => clauseResultSet d outer p c
  | n@(triple _ _ _ _) =>
    if d.combineResultSets then
      match n.clauseResultSets d outer with
      | some (first :: rest) => if rest.all (· = first) then first else ""
      | _ => ""
    else ""

end Node

namespace Located

/-- The context set that a prefix stands for at the node. -/
def resolve? (d : Dialect) (l : Located) (name : String) : Option String :=
  Scope.resolve? d l.outer l.node.prefixes name

/-- The context set of the index, if the node is a clause. -/
def indexSet? (d : Dialect) (l : Located) : Option String :=
  l.node.clause?.bind fun c => Scope.contextSet? d l.outer l.node.prefixes c.index

/-- The context set of the relation, if the node is a clause. -/
def relationSet? (d : Dialect) (l : Located) : Option String :=
  l.node.clause?.bind fun c => Scope.contextSet? d l.outer l.node.prefixes c.relation.name

/-- The result set that the node refers to, or the empty string. -/
def resultSet (d : Dialect) (l : Located) : String :=
  l.node.resultSet d l.outer

end Located

namespace Query

/-- All nodes with their places, each before its operands. -/
def located (q : Query) : List Located :=
  q.root.located [] []

/-- The clauses from left to right, with their places. -/
def clauses (q : Query) : List Located :=
  q.located.filter (·.node.isClause)

/-- The context set that a prefix stands for at the root. -/
def resolve? (q : Query) (name : String) : Option String :=
  Scope.resolve? q.dialect [] q.root.prefixes name

/-- The result set that the query refers to, or the empty string. -/
def resultSet (q : Query) : String :=
  q.root.resultSet q.dialect []

end Query

end ContextQuery
