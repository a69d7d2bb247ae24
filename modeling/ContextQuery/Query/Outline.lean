import ContextQuery.Query
import ContextQuery.Text.Escaped

/-!
# Outlines

The tree of a query, a line for each node and each declaration, indented by two blanks a level.
-/

namespace ContextQuery

/-- The indentation of a level. -/
def indentation (level : Nat) : String :=
  String.ofList (List.replicate (2 * level) ' ')

namespace Node

/-- The outline of a node that stands at the given level. -/
def outline (level : Nat) : Node → String
  | clause p c =>
    declarations level p ++
      indentation level ++ "SearchClause(" ++ c.index.display ++ " " ++ c.relation.display ++ " " ++
        Text.escaped c.term.value ++ ")\n"
  | triple p b l r =>
    declarations level p ++
      indentation level ++ "Triple(" ++ b.display ++ ")\n" ++
        l.outline (level + 1) ++ r.outline (level + 1)
where
  /-- A line for each declaration. -/
  declarations (level : Nat) (map : PrefixMap) : String :=
    map.entries.foldr (fun entry text =>
      indentation level ++ "Prefix(" ++ Text.escaped entry.1 ++ " => " ++ Text.escaped entry.2 ++
        ")\n" ++ text) ""

end Node

/-- The outline of a query. -/
def Query.outline (q : Query) : String :=
  q.root.outline 0

end ContextQuery
