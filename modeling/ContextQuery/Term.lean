import ContextQuery.Diagnostic
import ContextQuery.Dialect
import ContextQuery.Quoting

/-!
# Terms

What is searched for. A backslash before a masking character (`*`, `?`, `^`) or before another
backslash belongs to the term; before a double quote it is dropped when the term is read.
-/

namespace ContextQuery

/-- A search term. -/
structure Term where
  value : String
  deriving DecidableEq

namespace Term

/-- The tokens that are no terms unless quoted. -/
def bareOperators : List String :=
  [">=", "<=", ">", "<", "<>", "/", "="]

/-- A character that a backslash keeps its company with. -/
def isMasked (c : Char) : Bool :=
  c = '\\' || c = '?' || c = '*' || c = '^'

/-- Reads the escapes of a term; nothing is returned for a backslash before any other
character or at the end. -/
def readEscapes : List Char → Option (List Char)
  | [] => some []
  | c :: rest =>
    if c = '\\' then
      match rest with
      | [] => none
      | e :: rest =>
        if e = '"' then (readEscapes rest).map ('"' :: ·)
        else if isMasked e then (readEscapes rest).map fun cs => '\\' :: e :: cs
        else none
    else (readEscapes rest).map (c :: ·)

/-- A term with the given value, unless it is empty and the dialect refuses that. -/
def literal (d : Dialect) (value : String) : Except Diagnostic Term :=
  if value.isEmpty && d.refuseEmptyTerm then .error ⟨.emptyTerm, ""⟩ else .ok ⟨value⟩

/-- The text of a token without the quotes around it. -/
def body (cs : List Char) : List Char :=
  if isQuotedText cs then inner cs else cs

/-- Reads a term from the text of a token. -/
def parse (d : Dialect) (raw : String) : Except Diagnostic Term :=
  if bareOperators.contains raw then .error ⟨.bareRelation, raw⟩
  else
    let cs := body raw.toList
    if !cs.isEmpty && cs.all (· = '^') then
      .error ⟨.anchorOnly, "Only anchoring character(s) in term: " ++ raw⟩
    else
      match readEscapes cs with
      | some value => literal d (String.ofList value)
      | none => .error ⟨.badEscape, raw⟩

/-- The term as it is written in a query: always in quotes. -/
def display (t : Term) : String :=
  quote t.value

end Term

end ContextQuery
