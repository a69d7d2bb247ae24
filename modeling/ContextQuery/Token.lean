import ContextQuery.Text.Alphanumeric

/-!
# Tokens

The lexical units of a query: words, quoted strings, comparison signs and single characters.
-/

namespace ContextQuery

/-- The relational signs. -/
inductive Comparison where
  | eq | gt | ge | lt | le | ne
  deriving DecidableEq

namespace Comparison

/-- The sign as written. -/
def sign : Comparison → String
  | eq => "="
  | gt => ">"
  | ge => ">="
  | lt => "<"
  | le => "<="
  | ne => "<>"

/-- All relational signs. -/
def all : List Comparison :=
  [eq, gt, ge, lt, le, ne]

/-- Reads a sign. -/
def ofSign? (s : String) : Option Comparison :=
  all.find? (·.sign = s)

theorem ofSign?_sign (c : Comparison) : ofSign? c.sign = some c := by
  cases c <;> rfl

end Comparison

/-- The punctuation that may stand in a bare word. -/
def wordPunctuation : List Char :=
  "!@#$%^&*-+\x7b\x7d[];,.?|~`:\\_".toList

/-- A character that starts or continues a bare word. -/
def isWordChar (c : Char) : Bool :=
  Text.isAlphanumeric c || wordPunctuation.contains c

/-- The lexical classes. -/
inductive Token.Kind where
  /-- A bare word. -/
  | word
  /-- A string in double quotes, which belong to the token. -/
  | quoted
  /-- A relational sign. -/
  | comparison
  | leftParen
  | rightParen
  | slash
  /-- Any other single character. -/
  | other
  /-- The end of the text. -/
  | finish
  deriving DecidableEq

/-- The name of a lexical class. -/
def Token.Kind.label : Token.Kind → String
  | word => "Word"
  | quoted => "Quoted"
  | comparison => "Comparison"
  | leftParen => "LParen"
  | rightParen => "RParen"
  | slash => "Slash"
  | other => "Other"
  | finish => "End"

/-- A lexical unit: its class, its text as written, and the byte offset of its first character. -/
structure Token where
  kind : Token.Kind
  text : String
  position : Nat
  deriving DecidableEq

namespace Token

/-- The mark of the end of a text of `length` bytes. -/
def finish (length : Nat) : Token :=
  ⟨.finish, "", length⟩

/-- The mark of the end of the text. -/
def isFinish (t : Token) : Bool :=
  t.kind = .finish

/-- The given relational sign. -/
def isSign (t : Token) (c : Comparison) : Bool :=
  t.kind = .comparison && t.text = c.sign

/-- A token that may stand for a name, a value or an identifier: a word or a quoted string. -/
def isName (t : Token) : Bool :=
  t.kind = .word || t.kind = .quoted

end Token

end ContextQuery
