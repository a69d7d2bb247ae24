import ContextQuery.Diagnostic
import ContextQuery.Dialect
import ContextQuery.Quoting
import ContextQuery.Text.LowerCase

/-!
# Names

The name of an index, a relation or a modifier: a value, and before it, with a dot between, the
prefix of the context set that it belongs to. Names are held in lower case.
-/

namespace ContextQuery

/-- A name, with the prefix of its context set if it has one. -/
structure Name where
  set : Option String
  value : String
  deriving DecidableEq

namespace Name

/-- The index of a bare term. -/
def serverChoice : Name :=
  ⟨some "cql", "serverchoice"⟩

/-- The name in full: the prefix, a dot and the value, or the value alone. -/
def fullName (n : Name) : String :=
  match n.set with
  | some set => set ++ "." ++ n.value
  | none => n.value

/-- The name as it is written in a query. -/
def display (n : Name) : String :=
  quoteIfNeeded n.fullName

/-- Splits a name in lower case at its dot. -/
def split (cs : List Char) : Except Diagnostic Name :=
  if cs.count '.' > 1 then
    .error ⟨.malformedIndex, "Multiple '.' characters: " ++ String.ofList cs⟩
  else
    match cs.dropWhile (· != '.') with
    | [] => .ok ⟨none, String.ofList cs⟩
    | _ :: value =>
      if cs.head? = some '.' then
        .error ⟨.malformedIndex, "Null indexset: " ++ String.ofList cs⟩
      else .ok ⟨some (String.ofList (cs.takeWhile (· != '.'))), String.ofList value⟩

/-- Reads a name from the text of a token: lower-cases it, takes off its quotes unless the dialect
refuses them, and splits it at its dot. -/
def parse (d : Dialect) (raw : String) : Except Diagnostic Name :=
  let cs := Text.lower raw.toList
  if isQuotedText cs && d.refuseQuotedName then .error ⟨.quote, String.ofList cs⟩
  else split (unquoteText cs)

end Name

end ContextQuery
