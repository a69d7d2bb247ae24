import ContextQuery.Json.Value
import ContextQuery.Query.Printer
import ContextQuery.Query.Scope
import ContextQuery.Xcql.Writer

/-!
# Queries as JSON

The tree of a query as a JSON value, and the document that shows a query in all its forms.
-/

namespace ContextQuery

/-- A string, or null if there is none. -/
def Json.ofOption : Option String → Json
  | some s => .string s
  | none => .null

/-- A modifier as an object; what it lacks is left out. -/
def Modifier.toJson (m : Modifier) : Json :=
  .object <| [("name", .string m.name.fullName)] ++
    (m.comparison.map fun c => ("comparison", Json.string c.sign)).toList ++
    (m.value.map fun v => ("value", Json.string v)).toList

/-- The member for a list of modifiers; none if the list is empty. -/
def Modifier.jsonMembers (ms : List Modifier) : List (String × Json) :=
  if ms.isEmpty then [] else [("modifiers", .array (ms.map toJson))]

/-- The member for the declarations of a node; none if there are none. -/
def PrefixMap.jsonMembers (map : PrefixMap) : List (String × Json) :=
  if map.isEmpty then []
  else [("prefixes", .object (map.entries.map fun entry => (entry.1, .string entry.2)))]

/-- The tree of a node as a JSON value. -/
def Node.toJson (d : Dialect) (outer : Enclosing) : Node → Json
  | clause p c =>
    .object <| [("type", .string "searchClause")] ++ p.jsonMembers ++
      [("index", .string c.index.fullName),
       ("index_uri", .ofOption (Scope.contextSet? d outer p c.index)),
       ("relation", .string c.relation.name.fullName)] ++
      Modifier.jsonMembers c.relation.modifiers ++ [("term", .string c.term.value)]
  | triple p b l r =>
    .object <| [("type", .string "triple")] ++ p.jsonMembers ++
      [("boolean", .string b.op.keyword)] ++ Modifier.jsonMembers b.modifiers ++
      [("left", l.toJson d (p :: outer)), ("right", r.toJson d (p :: outer))]

namespace Query

/-- The tree of a query as a JSON value. -/
def toJson (q : Query) : Json :=
  q.root.toJson q.dialect []

/-- The document that shows a query in all its forms; `text` is the query as given. -/
def toJsonDocument (text : String) (q : Query) : Json :=
  .object
    [("query", .string text), ("cql", .string q.toCql), ("xcql", .string (q.toXcql 0)),
     ("result_set_id", .string q.resultSet), ("tree", q.toJson)]

end Query

end ContextQuery
