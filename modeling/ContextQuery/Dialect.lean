import ContextQuery.PrefixMap
import ContextQuery.Text.Blank

/-!
# Dialects

How queries are to be read: the version of the language, what is refused, how deep queries may
nest, and the context sets that are bound outside any query.
-/

namespace ContextQuery

/-- The versions of the language. They differ in the relation that a bare term implies. -/
inductive Version where
  | v11
  | v12
  deriving DecidableEq

namespace Version

/-- The number of the version. -/
def number : Version → String
  | v11 => "1.1"
  | v12 => "1.2"

/-- The relation that a bare term implies. -/
def impliedRelation : Version → String
  | v11 => "scr"
  | v12 => "="

/-- Reads a version number, with blanks around it; the error is the message. -/
def parse (text : String) : Except String Version :=
  let number := Text.trim text
  if number = "1.1" then .ok v11
  else if number = "1.2" then .ok v12
  else .error ("unsupported CQL version '" ++ number ++ "' (expected 1.1 or 1.2)")

end Version

/-- What is read and what is refused. -/
structure Settings where
  version : Version := .v12
  /-- Refuse empty terms. -/
  refuseEmptyTerm : Bool := false
  /-- Refuse quotes around index, relation and modifier names. -/
  refuseQuotedName : Bool := false
  /-- Refuse prefixes declared twice in one group, and reserved ones. -/
  refuseDuplicatePrefix : Bool := false
  /-- A triple names a result set if all its clauses name the same one. -/
  combineResultSets : Bool := true
  /-- How deep queries may nest. -/
  maxDepth : Nat := 256
  deriving DecidableEq

/-- Settings together with the context sets that are bound outside any query. -/
structure Dialect extends Settings where
  defaults : PrefixMap := .empty
  deriving DecidableEq

/-- The dialect that refuses all that may be refused. -/
def Dialect.strict : Dialect :=
  { refuseEmptyTerm := true, refuseQuotedName := true, refuseDuplicatePrefix := true }

end ContextQuery
