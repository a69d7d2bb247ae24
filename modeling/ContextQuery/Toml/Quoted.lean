import ContextQuery.Text.Digits

/-!
# TOML strings

The four ways of writing a string: between double or single quotes, and either on one line or, with
three quotes at both ends, over several lines. Between double quotes a backslash starts an escape.

A string is read by stepping through its characters in a mode; what a step does depends on the
mode, the character and the text ahead of it.

## Main definitions

* `Form.step`: one step through a string.
* `Form.body`: what stands up to the closing quotes, and the text after them.
* `quoted?`: reads a string.
-/

namespace ContextQuery.Toml

/-- A character that strings and comments may hold as it is. -/
def isTextChar (c : Char) : Bool :=
  c = '\t' || (c.toNat ≥ 0x20 && c.toNat ≠ 0x7f)

/-- A way of writing a string. -/
structure Form where
  quote : Char
  /-- Written over several lines, with three quotes at both ends. -/
  lines : Bool
  deriving DecidableEq

/-- Backslashes start escapes. -/
def Form.escapes (f : Form) : Bool :=
  f.quote = '"'

/-- What the characters after a backslash make so far. -/
inductive Escape where
  | done (c : Char)
  | unfinished
  | wrong
  deriving DecidableEq

namespace Escape

/-- The character that a single letter stands for. -/
def letter? (c : Char) : Option Char :=
  [('b', '\x08'), ('t', '\t'), ('n', '\n'), ('f', '\x0c'), ('r', '\r'), ('e', '\x1b'), ('"', '"'),
   ('\\', '\\')].findSome? fun (letter, r) => if c = letter then some r else none

/-- How many digits follow a letter that announces the number of a character. -/
def digits? (c : Char) : Option Nat :=
  if c = 'x' then some 2 else if c = 'u' then some 4 else if c = 'U' then some 8 else none

/-- Judges the characters after a backslash. -/
def ofChars : List Char → Escape
  | [] => unfinished
  | c :: digits =>
    match letter? c with
    | some r => done r
    | none =>
      match digits? c with
      | none => wrong
      | some n =>
        if !digits.all (Text.isDigit 16) then wrong
        else if digits.length < n then unfinished
        else if (Text.number 16 digits).isValidChar then done (Char.ofNat (Text.number 16 digits))
        else wrong

end Escape

/-- How the next character of a string is to be taken. -/
inductive Mode where
  /-- As text. -/
  | text
  /-- As part of an escape, after the given characters. -/
  | escape (body : List Char)
  /-- As part of a gap that a backslash at the end of a line opens; the flag says that the end of
  the line has been seen. -/
  | gap (broken : Bool)
  deriving DecidableEq

/-- What a step through a string does. -/
inductive Step where
  /-- It adds text and goes on in a mode. -/
  | next (text : List Char) (mode : Mode)
  /-- It adds text and ends the string before the given rest. -/
  | stop (text rest : List Char)
  | wrong
  deriving DecidableEq

/-- The quotes that belong to the text although the string closes, and the rest, if `cs` follows a
quote that closes a string over several lines. At most two quotes before the last three do. -/
def closing? (quote : Char) (cs : List Char) : Option (List Char × List Char) :=
  match cs with
  | a :: b :: rest =>
    if a = quote && b = quote then
      match rest with
      | c :: d :: after =>
        if c = quote && d = quote then some ([quote, quote], after)
        else if c = quote then some ([quote], d :: after)
        else some ([], rest)
      | [c] => if c = quote then some ([quote], []) else some ([], rest)
      | [] => some ([], [])
    else none
  | _ => none

namespace Form

/-- A step in text. -/
def textStep (f : Form) (c : Char) (ahead : List Char) : Step :=
  if c = f.quote then
    if f.lines then
      match closing? f.quote ahead with
      | some (text, rest) => .stop text rest
      | none => .next [c] .text
    else .stop [] ahead
  else if c = '\\' && f.escapes then .next [] (.escape [])
  else if c = '\n' then if f.lines then .next [c] .text else .wrong
  else if c = '\r' then if f.lines && ahead.head? = some '\n' then .next [c] .text else .wrong
  else if isTextChar c then .next [c] .text
  else .wrong

/-- A step in a gap. -/
def gapStep (f : Form) (broken : Bool) (c : Char) (ahead : List Char) : Step :=
  if c = ' ' || c = '\t' then .next [] (.gap broken)
  else if c = '\n' then .next [] (.gap true)
  else if c = '\r' then if ahead.head? = some '\n' then .next [] (.gap broken) else .wrong
  else if broken then f.textStep c ahead
  else .wrong

/-- A step through a string. -/
def step (f : Form) (mode : Mode) (c : Char) (ahead : List Char) : Step :=
  match mode with
  | .text => f.textStep c ahead
  | .gap broken => f.gapStep broken c ahead
  | .escape body =>
    if f.lines && body.isEmpty && (c = ' ' || c = '\t' || c = '\n' || c = '\r') then
      f.gapStep false c ahead
    else
      match Escape.ofChars (body ++ [c]) with
      | .done r => .next [r] .text
      | .unfinished => .next [] (.escape (body ++ [c]))
      | .wrong => .wrong

/-- What a string stands for from here to its closing quotes, and the text after them. -/
def body (f : Form) (mode : Mode) : List Char → Option (List Char × List Char)
  | [] => none
  | c :: cs =>
    match f.step mode c cs with
    | .next text mode => (f.body mode cs).map fun (more, rest) => (text ++ more, rest)
    | .stop text rest => some (text, rest)
    | .wrong => none

end Form

/-- Drops a line end at the front of a text. -/
def dropLineEnd (cs : List Char) : List Char :=
  match cs with
  | '\n' :: rest => rest
  | '\r' :: '\n' :: rest => rest
  | _ => cs

/-- Reads a string on one line. -/
def quotedLine? (cs : List Char) : Option (String × List Char) :=
  match cs with
  | [] => none
  | q :: rest =>
    if q = '"' || q = '\x27' then
      ((Form.mk q false).body .text rest).map fun (text, rest) => (String.ofList text, rest)
    else none

/-- The text after three quotes that open a string over several lines, and the quote. -/
def opening? (cs : List Char) : Option (Char × List Char) :=
  match cs with
  | a :: b :: c :: rest =>
    if (a = '"' || a = '\x27') && b = a && c = a then some (a, rest) else none
  | _ => none

/-- Reads a string. A line end right after three opening quotes is dropped. -/
def quoted? (cs : List Char) : Option (String × List Char) :=
  match opening? cs with
  | some (q, rest) =>
    ((Form.mk q true).body .text (dropLineEnd rest)).map fun (text, rest) =>
      (String.ofList text, rest)
  | none => quotedLine? cs

end ContextQuery.Toml
