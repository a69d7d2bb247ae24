import ContextQuery.Query.Outline

/-!
# JSON values

The JSON values that queries are shown as, and their text over several lines, indented by two
blanks a level.
-/

namespace ContextQuery

/-- A JSON value without numbers and booleans. The members of an object keep their order. -/
inductive Json where
  | null
  | string (s : String)
  | array (items : List Json)
  | object (members : List (String × Json))

namespace Json

/-- The hexadecimal digits of a code below 256, in two places. -/
def hexByte (n : Nat) : List Char :=
  [Nat.digitChar (n / 16), Nat.digitChar (n % 16)]

/-- A character inside a JSON string. -/
def escapeChar (c : Char) : List Char :=
  if c = '"' then ['\\', '"']
  else if c = '\\' then ['\\', '\\']
  else if c = '\n' then ['\\', 'n']
  else if c = '\r' then ['\\', 'r']
  else if c = '\t' then ['\\', 't']
  else if c = '\x08' then ['\\', 'b']
  else if c = '\x0c' then ['\\', 'f']
  else if c.toNat < 0x20 then ['\\', 'u', '0', '0'] ++ hexByte c.toNat
  else [c]

/-- A JSON string. -/
def quoted (s : String) : String :=
  String.ofList ('"' :: s.toList.flatMap escapeChar ++ ['"'])

/-- Puts lines between a pair of brackets that stand at the given level; nothing stands between
the brackets if there are no lines. -/
def enclose (level : Nat) (opening closing : String) : List String → String
  | [] => opening ++ closing
  | lines =>
    opening ++ "\n" ++ String.intercalate ",\n" lines ++ "\n" ++ indentation level ++ closing

mutual

/-- The text of a value whose lines after the first stand at the given level. -/
def pretty (level : Nat) : Json → String
  | null => "null"
  | string s => quoted s
  | array items => enclose level "[" "]" (prettyItems (level + 1) items)
  | object members => enclose level "\x7b" "\x7d" (prettyMembers (level + 1) members)

/-- The items of an array, each indented. -/
def prettyItems (level : Nat) : List Json → List String
  | [] => []
  | item :: items => (indentation level ++ pretty level item) :: prettyItems level items

/-- The members of an object, each indented. -/
def prettyMembers (level : Nat) : List (String × Json) → List String
  | [] => []
  | entry :: members => prettyMember level entry :: prettyMembers level members

/-- A member of an object, indented. -/
def prettyMember (level : Nat) : String × Json → String
  | (key, value) => indentation level ++ quoted key ++ ": " ++ pretty level value

end

end Json

end ContextQuery
