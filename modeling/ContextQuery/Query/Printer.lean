import ContextQuery.Query

/-!
# Canonical text

The canonical text of a query puts every triple in parentheses and every term in quotes. A clause
with declarations is put in parentheses where it is a left operand, since its declarations would
otherwise be taken for those of the whole triple.
-/

namespace ContextQuery

/-- A declaration as it is written in a query. -/
def displayDeclaration (name uri : String) : String :=
  if name.isEmpty then ">" ++ quote uri else ">" ++ quoteIfNeeded name ++ "=" ++ quote uri

/-- Declarations as they are written in a query, each with a blank after it. -/
def displayDeclarations (map : PrefixMap) : String :=
  map.entries.foldr (fun entry text => displayDeclaration entry.1 entry.2 ++ " " ++ text) ""

namespace Node

/-- The canonical text of a node. -/
def toCql : Node → String
  | clause p c => displayDeclarations p ++ c.display
  | triple p b l r =>
    let left := if l.isClause && !l.prefixes.isEmpty then "(" ++ l.toCql ++ ")" else l.toCql
    "(" ++ displayDeclarations p ++ left ++ " " ++ b.display ++ " " ++ r.toCql ++ ")"

end Node

/-- The canonical text of a query. -/
def Query.toCql (q : Query) : String :=
  q.root.toCql

end ContextQuery
