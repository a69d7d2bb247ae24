import ContextQuery.Name
import ContextQuery.Term

/-!
# Clauses, relations and booleans

A search clause compares an index with a term by a relation; a boolean joins two queries. Both
relations and booleans may carry modifiers.
-/

namespace ContextQuery

/-- A modifier: its type, and perhaps a comparison with a value. -/
structure Modifier where
  name : Name
  comparison : Option Comparison
  value : Option String
  deriving DecidableEq

namespace Modifier

/-- The modifier as it is written in a query, without the slash before it. -/
def display (m : Modifier) : String :=
  match m.value with
  | some value =>
    m.name.display ++ (m.comparison.map Comparison.sign).getD "" ++ quoteIfNeeded value
  | none => m.name.display

/-- The modifiers as they are written in a query, each after a slash. -/
def displayAll (ms : List Modifier) : String :=
  ms.foldr (fun m text => "/" ++ m.display ++ text) ""

/-- The first modifier whose full name or whose value is the given one. -/
def find? (ms : List Modifier) (name : String) : Option Modifier :=
  List.find? (fun m => m.name.fullName = name || m.name.value = name) ms

end Modifier

/-- The words that join two queries. -/
inductive Connective where
  | and
  | or
  | not
  | prox
  deriving DecidableEq

namespace Connective

/-- The word in lower case. -/
def keyword : Connective → String
  | and => "and"
  | or => "or"
  | not => "not"
  | prox => "prox"

/-- All connectives. -/
def all : List Connective :=
  [and, or, not, prox]

/-- Reads a connective in any case. -/
def ofKeyword? (word : String) : Option Connective :=
  all.find? (·.keyword = Text.lowerCase word)

/-- Reads a connective in any case, or refuses the word. -/
def parse (word : String) : Except Diagnostic Connective :=
  match ofKeyword? word with
  | some c => .ok c
  | none => .error ⟨.expectedBoolean, word⟩

end Connective

/-- A relation with its modifiers. -/
structure Relation where
  name : Name
  modifiers : List Modifier
  deriving DecidableEq

namespace Relation

/-- The relational sign that the relation is, if it is one. -/
def comparison? (r : Relation) : Option Comparison :=
  match r.name.set with
  | some _ => none
  | none => Comparison.ofSign? r.name.value

/-- The name of a relation as it is written in a query. Relational signs stand bare; words that
would read as connectives are quoted. -/
def displayName (n : Name) : String :=
  let full := n.fullName
  if (Comparison.ofSign? full).isSome then full
  else if (Connective.ofKeyword? full).isSome then quote full
  else quoteIfNeeded full

/-- The relation as it is written in a query. -/
def display (r : Relation) : String :=
  displayName r.name ++ Modifier.displayAll r.modifiers

end Relation

/-- A connective with its modifiers. -/
structure Boolean where
  op : Connective
  modifiers : List Modifier
  deriving DecidableEq

/-- The boolean as it is written in a query. -/
def Boolean.display (b : Boolean) : String :=
  b.op.keyword ++ Modifier.displayAll b.modifiers

/-- A comparison of an index with a term. -/
structure SearchClause where
  index : Name
  relation : Relation
  term : Term
  deriving DecidableEq

namespace SearchClause

/-- The clause that a bare term stands for. -/
def serverChoice (d : Dialect) (term : Term) : SearchClause :=
  ⟨.serverChoice, ⟨⟨none, d.version.impliedRelation⟩, []⟩, term⟩

/-- The clause as it is written in a query. -/
def display (c : SearchClause) : String :=
  c.index.display ++ " " ++ c.relation.display ++ " " ++ c.term.display

end SearchClause

end ContextQuery
