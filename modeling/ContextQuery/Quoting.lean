import ContextQuery.Token

/-!
# Quoting

Names, values and identifiers stand bare where the lexer takes them for one word, and in double
quotes elsewhere. Inside quotes a double quote is written after a backslash.
-/

namespace ContextQuery

/-- Writes each double quote after a backslash. -/
def escapeQuotes : List Char → List Char
  | [] => []
  | c :: rest => if c = '"' then '\\' :: '"' :: escapeQuotes rest else c :: escapeQuotes rest

/-- Drops each backslash before a double quote. -/
def unescapeQuotes : List Char → List Char
  | '\\' :: '"' :: rest => '"' :: unescapeQuotes rest
  | c :: rest => c :: unescapeQuotes rest
  | [] => []

/-- The text stands between two double quotes. -/
def isQuotedText (cs : List Char) : Bool :=
  match cs with
  | c :: rest => c = '"' && rest.getLast? = some '"'
  | [] => false

/-- The text between the first and the last character. -/
def inner (cs : List Char) : List Char :=
  cs.tail.dropLast

/-- The text that a name, value or identifier token stands for: what is between the quotes, with
escaped quotes restored, or the token itself if it has no quotes. -/
def unquoteText (cs : List Char) : List Char :=
  if isQuotedText cs then unescapeQuotes (inner cs) else cs

/-- The text that a name, value or identifier token stands for. -/
def unquote (s : String) : String :=
  String.ofList (unquoteText s.toList)

/-- The text in double quotes. -/
def quote (s : String) : String :=
  String.ofList ('"' :: escapeQuotes s.toList ++ ['"'])

/-- The lexer would not take the text for one word. -/
def needsQuotes (s : String) : Bool :=
  s.toList.isEmpty || !s.toList.all isWordChar

/-- The text, in double quotes if it needs them. -/
def quoteIfNeeded (s : String) : String :=
  if needsQuotes s then quote s else s

end ContextQuery
