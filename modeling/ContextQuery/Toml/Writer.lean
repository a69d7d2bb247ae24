import ContextQuery.Toml.Quoted
import ContextQuery.Toml.Statement

/-!
# Writing TOML

Keys and strings in the plainest form that can hold them: bare keys, strings between double quotes
without escapes, between single quotes, over several lines, and last between double quotes with
escapes.

## Main definitions

* `writeKey`: a key.
* `writeString`: a string value.
-/

namespace ContextQuery.Toml

/-- A control character, which strings do not hold as it is; only tabs could stand in them. -/
def isControl (c : Char) : Bool :=
  c.toNat < 0x20 || c.toNat = 0x7f

/-- The length of the longest run of a character, given the length of the run before the text. -/
def longestRun (c : Char) (run : Nat) : List Char → Nat
  | [] => run
  | d :: cs => if d = c then longestRun c (run + 1) cs else max run (longestRun c 0 cs)

/-- A digit in base sixteen, with capital letters. -/
def hexDigit (n : Nat) : Char :=
  (Nat.digitChar n).toUpper

/-- The escape of a character that is a control character, a quote or a backslash. -/
def escapeOf (c : Char) : List Char :=
  if c = '\x08' then ['\\', 'b']
  else if c = '\t' then ['\\', 't']
  else if c = '\n' then ['\\', 'n']
  else if c = '\x0c' then ['\\', 'f']
  else if c = '\r' then ['\\', 'r']
  else if c = '"' then ['\\', '"']
  else if c = '\\' then ['\\', '\\']
  else ['\\', 'u', '0', '0', hexDigit (c.toNat / 16), hexDigit (c.toNat % 16)]

/-- Text between double quotes on one line, with escapes. -/
def escapeLine (text : List Char) : List Char :=
  text.flatMap fun c => if isControl c || c = '"' || c = '\\' then escapeOf c else [c]

/-- Text between three double quotes, with escapes. Line ends stand as they are; a quote is escaped
if two quotes stand right before it, as `quotes` counts. -/
def escapeLines (quotes : Nat) : List Char → List Char
  | [] => []
  | c :: cs =>
    if c = '"' then
      if quotes = 2 then escapeOf c ++ escapeLines 0 cs else c :: escapeLines (quotes + 1) cs
    else if c = '\n' then c :: escapeLines 0 cs
    else if isControl c || c = '\\' then escapeOf c ++ escapeLines 0 cs
    else c :: escapeLines 0 cs

/-- The ways in which a string is written, and its text in them. -/
inductive Written where
  /-- Between quotes, on one line. -/
  | line (quote : Char) (text : List Char)
  /-- Between three quotes. -/
  | lines (quote : Char) (text : List Char)

/-- The characters of a written string. A line end follows three opening quotes if the text has a
line end. -/
def Written.chars : Written → List Char
  | .line quote text => quote :: text ++ [quote]
  | .lines quote text =>
    [quote, quote, quote] ++ (if text.contains '\n' then ['\n'] else []) ++ text ++
      [quote, quote, quote]

/-- Chooses how a key with quotes is written. -/
def chooseKey (text : List Char) : Written :=
  if !text.any fun c => isControl c || c = '"' || c = '\\' then .line '"' text
  else if !text.any fun c => isControl c || c = '\x27' then .line '\x27' text
  else .line '"' (escapeLine text)

/-- A key. -/
def writeKey (key : String) : String :=
  if !key.isEmpty && key.toList.all isBareChar then key
  else String.ofList (chooseKey key.toList).chars

/-- Chooses how a string value is written. -/
def chooseString (text : List Char) : Written :=
  let hasControl := text.any fun c => isControl c && c ≠ '\n'
  let hasLine := text.contains '\n'
  if !hasControl && !hasLine && !text.contains '"' && !text.contains '\\' then .line '"' text
  else if !hasControl && !hasLine && !text.contains '\x27' then .line '\x27' text
  else if !hasControl && !text.contains '\\' && longestRun '"' 0 text ≤ 2 then .lines '"' text
  else if !hasControl && longestRun '\x27' 0 text ≤ 2 then .lines '\x27' text
  else if hasLine then .lines '"' (escapeLines 0 text)
  else .line '"' (escapeLine text)

/-- A string value. -/
def writeString (text : String) : String :=
  String.ofList (chooseString text.toList).chars

end ContextQuery.Toml
