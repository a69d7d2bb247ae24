import ContextQuery.Toml.Quoted
import ContextQuery.Toml.Scalar
import ContextQuery.Toml.Table

/-!
# TOML statements

A document is a list of statements, one a line: headers of tables, and keys with their values.
Values may nest in arrays and inline tables, down to a fixed depth.

## Main definitions

* `key?`: a key, as the list of its dotted parts.
* `value?`: a value, by recursion on the levels left.
* `statements?`: the statements of a document.
-/

namespace ContextQuery.Toml

/-! ## Blanks and comments -/

/-- A blank inside a line. -/
def isGap (c : Char) : Bool :=
  c = ' ' || c = '\t'

/-- Drops the blanks at the front of a text. -/
def dropGap (cs : List Char) : List Char :=
  cs.dropWhile isGap

/-- Drops blanks, line ends and comments at the front of a text; the flag says that the text starts
inside a comment. A comment may not hold control characters. -/
def dropFiller? (comment : Bool) : List Char → Option (List Char)
  | [] => some []
  | c :: cs =>
    if c = '\n' then dropFiller? false cs
    else if c = '\r' && cs.head? = some '\n' then dropFiller? false cs
    else if comment then if isTextChar c then dropFiller? true cs else none
    else if isGap c then dropFiller? false cs
    else if c = '#' then dropFiller? true cs
    else some (c :: cs)

/-- The text after the line that ends here: only blanks and a comment may come before its end. -/
def endLine? (cs : List Char) : Option (List Char) :=
  match dropGap cs with
  | [] => some []
  | '\n' :: rest => some rest
  | '\r' :: '\n' :: rest => some rest
  | '#' :: rest =>
    match rest.dropWhile isTextChar with
    | [] => some []
    | '\n' :: rest => some rest
    | '\r' :: '\n' :: rest => some rest
    | _ => none
  | _ => none

/-! ## Keys -/

/-- A character of a key that needs no quotes. -/
def isBareChar (c : Char) : Bool :=
  c.isAlphanum || c = '-' || c = '_'

/-- Reads one part of a key. -/
def keyPart? (cs : List Char) : Option (String × List Char) :=
  match cs with
  | [] => none
  | c :: _ =>
    if c = '"' || c = '\x27' then quotedLine? cs
    else if isBareChar c then
      some (String.ofList (cs.takeWhile isBareChar), cs.dropWhile isBareChar)
    else none

/-- Reads the parts of a key that dots lead to, and drops the blanks after them. Each round takes
at least one character, so the length of the text bounds the rounds. -/
def keyParts? : Nat → List Char → Option (List String × List Char)
  | 0, _ => none
  | rounds + 1, cs => do
    let (part, cs) ← keyPart? (dropGap cs)
    match dropGap cs with
    | '.' :: cs =>
      let (parts, cs) ← keyParts? rounds cs
      some (part :: parts, cs)
    | cs => some ([part], cs)

/-- Reads a key and drops the blanks around it. -/
def key? (cs : List Char) : Option (List String × List Char) :=
  keyParts? (cs.length + 1) cs

/-! ## Values -/

/-- Reads items up to a closing bracket. Items are set apart by commas; a comma may follow the last
one. Each round takes at least one character, so the length of the text bounds the rounds. -/
def items? {α : Type} (item? : List Char → Option (α × List Char)) (close : Char) :
    Nat → List Char → Option (List α × List Char)
  | 0, _ => none
  | rounds + 1, cs => do
    match ← dropFiller? false cs with
    | [] => none
    | c :: rest =>
      if c = close then some ([], rest)
      else
        let (item, cs) ← item? (c :: rest)
        match ← dropFiller? false cs with
        | [] => none
        | c :: rest =>
          if c = close then some ([item], rest)
          else if c = ',' then
            let (items, rest) ← items? item? close rounds rest
            some (item :: items, rest)
          else none

/-- Reads a key, an equals sign and a value, given how to read a value. -/
def pair? (value? : List Char → Option (Value × List Char)) (cs : List Char) :
    Option (Pair × List Char) := do
  let (path, cs) ← key? cs
  let cs ← skip? '=' cs
  let (value, cs) ← value? (dropGap cs)
  some (⟨path, value⟩, cs)

/-- How deep arrays and inline tables may nest. -/
def maxNesting : Nat :=
  80

/-- Reads a value that may open as many levels as given. -/
def value? : Nat → List Char → Option (Value × List Char)
  | levels, cs =>
    match cs with
    | [] => none
    | c :: rest =>
      if c = '"' || c = '\x27' then
        (quoted? cs).map fun (text, rest) => (.string text, rest)
      else if c = '[' then
        match levels with
        | 0 => none
        | levels + 1 =>
          (items? (value? levels) ']' (rest.length + 1) rest).map fun (items, rest) =>
            (.array false items, rest)
      else if c = '\x7b' then
        match levels with
        | 0 => none
        | levels + 1 =>
          (items? (pair? (value? levels)) '\x7d' (rest.length + 1) rest).bind fun (pairs, rest) =>
            (insertAll? [] pairs).map fun entries => (.table .inline entries, rest)
      else
        (scalar? (splitScalar cs).1).map fun value => (value, (splitScalar cs).2)

/-! ## Statements -/

/-- A statement of a document. -/
inductive Statement where
  /-- The header of a table. -/
  | header (path : List String)
  /-- The header of a table at the end of a list of tables. -/
  | item (path : List String)
  | pair (pair : Pair)

/-- Reads a statement without the end of its line. -/
def statement? (cs : List Char) : Option (Statement × List Char) :=
  match cs with
  | '[' :: '[' :: rest => do
    let (path, rest) ← key? rest
    let rest ← skip? ']' rest
    let rest ← skip? ']' rest
    some (.item path, rest)
  | '[' :: rest => do
    let (path, rest) ← key? rest
    let rest ← skip? ']' rest
    some (.header path, rest)
  | _ => (pair? (value? maxNesting) cs).map fun (pair, rest) => (.pair pair, rest)

/-- Reads all statements. Each round takes at least one character, so the length of the text bounds
the rounds. -/
def statements? : Nat → List Char → Option (List Statement)
  | 0, _ => none
  | rounds + 1, cs => do
    match ← dropFiller? false cs with
    | [] => some []
    | cs =>
      let (statement, cs) ← statement? cs
      let cs ← endLine? cs
      let statements ← statements? rounds cs
      some (statement :: statements)

end ContextQuery.Toml
