import ContextQuery.Text.Digits
import ContextQuery.Word
import ContextQuery.Xml.Markup

/-!
# References and line ends

Texts and attribute values as a document writes them, and what they stand for. The five named
references and references by number are known. Line ends are given as a line feed; a character
right after a reference is taken as it is.
-/

namespace ContextQuery.Xml

/-- The character with the given number. Numbers that are no characters give the replacement
character; numbers from 2^32 on and characters that a document may not hold are refused. -/
def charOfNumber? (n : Nat) : Option Char :=
  if n < Word.count32 then
    let c := if n.isValidChar then Char.ofNat n else '\uFFFD'
    if isAllowed c then some c else none
  else none

/-- The character that a reference by name stands for. -/
def namedReference? (name : List Char) : Option Char :=
  [("quot", '"'), ("amp", '&'), ("apos", '\x27'), ("lt", '<'), ("gt", '>')].findSome?
    fun (known, c) => if known.toList = name then some c else none

/-- The character that a reference stands for, given what stands between `&` and `;`. -/
def reference? (body : List Char) : Option Char :=
  match body with
  | '#' :: 'x' :: digits =>
    if !digits.isEmpty && digits.all (Text.isDigit 16) then
      charOfNumber? (Text.number 16 digits)
    else none
  | '#' :: digits =>
    if !digits.isEmpty && digits.all (Text.isDigit 10) then
      charOfNumber? (Text.number 10 digits)
    else none
  | name => namedReference? name

/-- A character as it comes out of a text: written as it is, or by a reference. -/
inductive Piece where
  | plain (c : Char)
  | referred (c : Char)
  deriving DecidableEq

/-- Reads the references of a text. While a reference is open, `open?` holds what stands after
its `&`, the last character first. -/
def pieces (open? : Option (List Char)) : List Char → Option (List Piece)
  | [] => if open?.isSome then none else some []
  | c :: cs =>
    match open? with
    | none => if c = '&' then pieces (some []) cs else (pieces none cs).map (.plain c :: ·)
    | some body =>
      if c = ';' then
        match reference? body.reverse with
        | some r => (pieces none cs).map (.referred r :: ·)
        | none => none
      else pieces (some (c :: body)) cs

/-- Adds a plain character to a text, given with its last character first. A carriage return
becomes a line feed once it is known what follows it. -/
def pushPlain (text : List Char) (c : Char) (isLast : Bool) : List Char :=
  let c' := if isLast && c = '\r' then '\n' else c
  match text with
  | '\r' :: before => if c = '\n' then '\n' :: before else c' :: '\n' :: before
  | _ => c' :: text

/-- Joins the pieces of a text, given what came before with its last character first. The flag
says that a reference came right before. -/
def joinPieces (text : List Char) (afterReference : Bool) : List Piece → List Char
  | [] => text.reverse
  | .plain c :: rest =>
    joinPieces (if afterReference then c :: text else pushPlain text c rest.isEmpty) false rest
  | .referred c :: rest => joinPieces (c :: text) true rest

/-- What a text between tags stands for. -/
def readText? (raw : List Char) : Option (List Char) :=
  (pieces none raw).map (joinPieces [] false)

/-- What a section without markup stands for: only its line ends are changed. -/
def readVerbatim (raw : List Char) : List Char :=
  joinPieces [] false (raw.map .plain)

/-- The pieces of an attribute value with white space written as blanks; a carriage return before
a line feed is dropped. -/
def flattenPieces : List Piece → List Char
  | [] => []
  | .referred c :: rest => c :: flattenPieces rest
  | .plain c :: rest =>
    if c = '\r' && rest.head? = some (.plain '\n') then flattenPieces rest
    else (if c = '\n' || c = '\r' || c = '\t' then ' ' else c) :: flattenPieces rest

/-- What an attribute value stands for. -/
def readValue? (raw : List Char) : Option (List Char) :=
  (pieces none raw).map flattenPieces

end ContextQuery.Xml
