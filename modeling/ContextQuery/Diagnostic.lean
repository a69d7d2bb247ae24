/-!
# Diagnostics

Why a query was refused. Every refusal has a kind, with a number and a fixed message, and details
that name the offending piece of text.
-/

namespace ContextQuery

/-- The kinds of refusal. -/
inductive Diagnostic.Kind where
  /-- An unexpected token, text left over, or a missing boolean or relation. -/
  | querySyntax
  /-- Parentheses that do not match. -/
  | parenthesis
  /-- A string that is not closed, or a quoted name where quotes are refused. -/
  | quote
  /-- A name with several dots or with an empty context set. -/
  | malformedIndex
  /-- A modifier without a type or without a value. -/
  | nullModifier
  /-- A comparison sign where a term is due. -/
  | bareRelation
  /-- A backslash before a character that needs none. -/
  | badEscape
  /-- An empty term where empty terms are refused. -/
  | emptyTerm
  /-- A term of anchoring characters only. -/
  | anchorOnly
  /-- A word that is no boolean where one is due. -/
  | expectedBoolean
  /-- A prefix declared twice in one group, or a reserved one. -/
  | duplicatePrefix
  deriving DecidableEq

namespace Diagnostic.Kind

/-- All kinds, by number. -/
def all : List Kind :=
  [querySyntax, parenthesis, quote, malformedIndex, nullModifier, bareRelation, badEscape,
   emptyTerm, anchorOnly, expectedBoolean, duplicatePrefix]

/-- The number of the kind. -/
def code : Kind → Nat
  | querySyntax => 10
  | parenthesis => 13
  | quote => 14
  | malformedIndex => 15
  | nullModifier => 20
  | bareRelation => 25
  | badEscape => 26
  | emptyTerm => 27
  | anchorOnly => 32
  | expectedBoolean => 37
  | duplicatePrefix => 45

/-- The message of the kind. -/
def message : Kind → String
  | querySyntax => "Query syntax error"
  | parenthesis => "Invalid or unsupported use of parentheses"
  | quote => "Invalid or unsupported use of quotes"
  | malformedIndex => "Unsupported context set"
  | nullModifier => "Unsupported relation modifier"
  | bareRelation => "Special characters not quoted in term"
  | badEscape => "Non special character escaped in term"
  | emptyTerm => "Empty term unsupported"
  | anchorOnly => "Anchoring character in unsupported position"
  | expectedBoolean => "Unsupported boolean operator"
  | duplicatePrefix => "Prefix assigned to multiple identifiers"

/-- The kind with a given number. -/
def ofCode? (n : Nat) : Option Kind :=
  all.find? (·.code = n)

theorem ofCode?_code (k : Kind) : ofCode? k.code = some k := by
  cases k <;> rfl

end Diagnostic.Kind

/-- A refusal: its kind and the offending piece of text. -/
structure Diagnostic where
  kind : Diagnostic.Kind
  details : String
  deriving DecidableEq

namespace Diagnostic

/-- A refusal for a plain syntax error. -/
def syntaxError (details : String) : Diagnostic :=
  ⟨.querySyntax, details⟩

/-- The refusal of a query that nests deeper than the limit. -/
def tooDeep (limit : Nat) : Diagnostic :=
  syntaxError ("Query nested deeper than " ++ toString limit ++ " levels")

/-- The full text: number, message, and the details when there are any. -/
def message (d : Diagnostic) : String :=
  "diagnostic " ++ toString d.kind.code ++ ": " ++ d.kind.message ++
    (if d.details.isEmpty then "" else ": " ++ d.details)

/-- What the author of the query may do about it. -/
def hint? (d : Diagnostic) : Option String :=
  match d.kind with
  | .parenthesis => some "Check that every '(' has a matching ')'"
  | .quote =>
    if d.details.toList.head? = some '"' then
      some "Add a closing quote (\") to complete the string"
    else none
  | .bareRelation =>
    some "Quote the term if the operator is meant literally, e.g. '\">=\"'"
  | .badEscape => some "Only \\\" \\\\ \\* \\? and \\^ may be escaped"
  | .expectedBoolean => some "Clauses are joined with and, or, not or prox"
  | .duplicatePrefix =>
    some "Declare each prefix once per scope; 'cql' and 'srw' are reserved"
  | _ => none

end Diagnostic

end ContextQuery
