import ContextQuery.Query.Outline

/-!
# Writing XCQL

The XML form of a query. Every element stands on a line of its own, indented by two blanks a
level; an element with text takes one line; a modifier without a value takes one line as well.
-/

namespace ContextQuery.Xcql

/-- A character as it is written in the text of an element. -/
def escapeChar (c : Char) : List Char :=
  if c = '&' then "&amp;".toList
  else if c = '<' then "&lt;".toList
  else if c = '>' then "&gt;".toList
  else [c]

/-- A text as it is written in an element. -/
def escapeText (s : String) : String :=
  String.ofList (s.toList.flatMap escapeChar)

/-- A line at a level. -/
def line (level : Nat) (content : String) : String :=
  indentation level ++ content ++ "\n"

/-- An element around a content, on one line without its end. -/
def tagged (tag content : String) : String :=
  "<" ++ tag ++ ">" ++ content ++ "</" ++ tag ++ ">"

/-- An element with text, on a line of its own. -/
def leaf (level : Nat) (tag text : String) : String :=
  line level (tagged tag (escapeText text))

/-- An element around lines. -/
def block (level : Nat) (tag content : String) : String :=
  line level ("<" ++ tag ++ ">") ++ content ++ line level ("</" ++ tag ++ ">")

/-- The declarations of a node; nothing if there are none. -/
def declarations (level : Nat) (map : PrefixMap) : String :=
  if map.isEmpty then ""
  else
    block level "prefixes" <| map.entries.foldr (fun entry text =>
      block (level + 1) "prefix"
        (leaf (level + 2) "name" entry.1 ++ leaf (level + 2) "identifier" entry.2) ++ text) ""

/-- One modifier. -/
def modifier (level : Nat) (m : Modifier) : String :=
  match m.value with
  | none => line level (tagged "modifier" (tagged "type" (escapeText m.name.fullName)))
  | some value =>
    block level "modifier" <|
      leaf (level + 1) "type" m.name.fullName ++
      (match m.comparison with
        | some c => leaf (level + 1) "comparison" c.sign
        | none => "") ++
      leaf (level + 1) "value" value

/-- A list of modifiers; nothing if there are none. -/
def modifiers (level : Nat) (ms : List Modifier) : String :=
  if ms.isEmpty then ""
  else block level "modifiers" <| ms.foldr (fun m text => modifier (level + 1) m ++ text) ""

/-- A node and all below it. -/
def node (level : Nat) : Node → String
  | .clause p c =>
    block level "searchClause" <|
      declarations (level + 1) p ++
      leaf (level + 1) "index" c.index.fullName ++
      block (level + 1) "relation"
        (leaf (level + 2) "value" c.relation.name.fullName ++
          modifiers (level + 2) c.relation.modifiers) ++
      leaf (level + 1) "term" c.term.value
  | .triple p b l r =>
    block level "triple" <|
      declarations (level + 1) p ++
      block (level + 1) "boolean"
        (leaf (level + 2) "value" b.op.keyword ++ modifiers (level + 2) b.modifiers) ++
      block (level + 1) "leftOperand" (node (level + 2) l) ++
      block (level + 1) "rightOperand" (node (level + 2) r)

end ContextQuery.Xcql

namespace ContextQuery

/-- The XML form of a node, from the given level of indentation. -/
def Node.toXcql (level : Nat) (n : Node) : String :=
  Xcql.node level n

/-- The XML form of a query, from the given level of indentation. -/
def Query.toXcql (level : Nat) (q : Query) : String :=
  q.root.toXcql level

end ContextQuery
