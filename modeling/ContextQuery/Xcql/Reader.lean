import ContextQuery.Query.Reader
import ContextQuery.Xml.Document

/-!
# Reading XCQL

A query from its XML form. Children are looked up by the local part of their names, so their order
and their namespaces do not matter; a child that has no place in its parent is refused. Texts are
taken from the front of an element; blanks around them count only in terms and in the values of
modifiers.

## Main definitions

* `Xcql.elementDepth`: an estimate of how deep the elements of a document nest, taken from its tags
  before the document is read.
* `Xcql.node`: a node from its element, by recursion on the levels left.
* `Query.readXml`: reads a document that a library has taken apart, in any computation that can
  refuse and note.
* `Query.parseXml`: the plain reader.
-/

namespace ContextQuery.Xcql

open Xml (Content Element)

/-! ## Elements -/

/-- The child elements. -/
def elements (children : List Content) : List Element :=
  children.filterMap fun
    | .element name children => some ⟨name, children⟩
    | _ => none

/-- The first child element with a name. -/
def child? (e : Element) (name : String) : Option Element :=
  (elements e.children).find? (·.name = name)

/-- The text at the front of an element, or the empty text. -/
def frontText (e : Element) : String :=
  match e.children with
  | .text s :: _ => s
  | _ => ""

variable {m : Type → Type} [Monad m] [MonadExceptOf Diagnostic m] [Journal m]

/-- Refuses a child that has no place in its parent. -/
def refuseChild {α : Type} (parent child : Element) : m α :=
  Reader.refuse .querySyntax
    ("Unknown element: " ++ child.name ++ " in <" ++ parent.name ++ ">")

/-- The first child element with a name; it must be there. -/
def required (e : Element) (name : String) : m Element :=
  match child? e name with
  | some c => pure c
  | none => Reader.refuse .querySyntax ("Missing <" ++ name ++ "> in <" ++ e.name ++ ">")

/-- Refuses child elements with other names than the given ones. -/
def onlyChildren (e : Element) (names : List String) : m Unit :=
  match (elements e.children).find? fun c => !names.contains c.name with
  | some c => refuseChild e c
  | none => pure ()

/-! ## Parts of a query -/

/-- Reads a name from the text of an element. -/
def name (d : Dialect) (e : Element) : m Name :=
  Reader.lift (Name.parse d (Text.trim (frontText e)))

/-- Reads the comparison of a modifier, if it has one. -/
def comparison? (e : Element) : m (Option Comparison) :=
  match child? e "comparison" with
  | none => pure none
  | some c =>
    match Comparison.ofSign? (Text.trim (frontText c)) with
    | some sign => pure (some sign)
    | none =>
      Reader.refuse .querySyntax ("Unknown comparison: " ++ Text.trim (frontText c))

/-- Reads a modifier. A value without a comparison is taken to be equal. -/
def readModifier (d : Dialect) (e : Element) : m Modifier := do
  onlyChildren e ["type", "comparison", "value"]
  let type ← required e "type"
  if (Text.trim (frontText type)).isEmpty then Reader.refuse .nullModifier "Null modifier"
  else do
    let name ← name d type
    let comparison ← comparison? e
    match comparison, (child? e "value").map frontText with
    | some _, none =>
      Reader.refuse .nullModifier ("Missing value for modifier " ++ name.display)
    | none, some value => pure ⟨name, some .eq, some value⟩
    | comparison, value => pure ⟨name, comparison, value⟩

/-- Reads modifiers from their elements. -/
def readEach (d : Dialect) : List Element → m (List Modifier)
  | [] => pure []
  | e :: rest => do
    let first ← readModifier d e
    let others ← readEach d rest
    pure (first :: others)

/-- Reads the modifiers of a relation or a boolean. -/
def readModifiers (d : Dialect) (e : Element) : m (List Modifier) :=
  match child? e "modifiers" with
  | none => pure []
  | some list => do
    onlyChildren list ["modifier"]
    readEach d (elements list.children)

/-- Reads a relation. -/
def readRelation (d : Dialect) (e : Element) : m Relation := do
  onlyChildren e ["value", "modifiers"]
  let value ← required e "value"
  let name ← name d value
  let mods ← readModifiers d e
  pure ⟨name, mods⟩

/-- Reads a boolean. -/
def readBoolean (d : Dialect) (e : Element) : m Boolean := do
  onlyChildren e ["value", "modifiers"]
  let value ← required e "value"
  let op ← Reader.lift (Connective.parse (Text.trim (frontText value)))
  let mods ← readModifiers d e
  pure ⟨op, mods⟩

/-- Reads a search clause. -/
def readClause (d : Dialect) (e : Element) : m Node := do
  onlyChildren e ["prefixes", "index", "relation", "term"]
  let index ← required e "index"
  let index ← name d index
  let relation ← required e "relation"
  let relation ← readRelation d relation
  let term ← required e "term"
  let term ← Reader.lift (Term.literal d (frontText term))
  Journal.note (.clause ⟨index, relation, term⟩)
  pure (.clause .empty ⟨index, relation, term⟩)

/-- Declares the prefixes of a list of elements on a node; `written` are the names declared so far
as they were written. -/
def declareEach (d : Dialect) (written : List String) (n : Node) : List Element → m Node
  | [] => pure n
  | e :: rest => do
    onlyChildren e ["name", "identifier"]
    let name := ((child? e "name").map fun c => Text.trim (frontText c)).getD ""
    if d.refuseDuplicatePrefix && written.contains name then Reader.refuse .duplicatePrefix name
    else do
      let identifier ← required e "identifier"
      let n ← Reader.declareAll d n [(Text.lowerCase name, Text.trim (frontText identifier))]
      declareEach d (name :: written) n rest

/-- Declares the prefixes that an element lists on a node. -/
def declarePrefixes (d : Dialect) (e : Element) (n : Node) : m Node :=
  match child? e "prefixes" with
  | none => pure n
  | some list => do
    onlyChildren list ["prefix"]
    declareEach d [] n (elements list.children)

/-- Reads the one query element inside an operand, given how to read it. -/
def readOperand (inner : Element → m Node) (e : Element) : m Node :=
  match elements e.children with
  | [] => Reader.refuse .querySyntax ("Empty element: " ++ e.name)
  | [query] => inner query
  | _ :: extra :: _ => refuseChild e extra

/-- Reads a triple, given how to read a query one level down. -/
def readTriple (d : Dialect) (inner : Element → m Node) (e : Element) : m Node := do
  onlyChildren e ["prefixes", "boolean", "leftOperand", "rightOperand"]
  let boolean ← required e "boolean"
  let boolean ← readBoolean d boolean
  let left ← required e "leftOperand"
  let left ← readOperand inner left
  let right ← required e "rightOperand"
  let right ← readOperand inner right
  Journal.note (.triple boolean)
  pure (.triple .empty boolean left right)

/-- Reads a query element that may open as many triples one inside the other as given. -/
def readNode (d : Dialect) : Nat → Element → m Node
  | levels, e => do
    let n ←
      if e.name = "searchClause" then readClause d e
      else if e.name = "triple" then
        match levels with
        | 0 => throw (Diagnostic.tooDeep d.maxDepth)
        | levels + 1 => readTriple d (readNode d levels) e
      else Reader.refuse .querySyntax ("Unknown element: " ++ e.name)
    declarePrefixes d e n

/-! ## Depth -/

/-- The deepest nesting that the tags of a text open, given how deep it is nested at its front.
What looks like a tag inside a comment or a section counts as well; empty tags do not. -/
def depthFrom (depth : Nat) (cs : List Char) : Nat :=
  match cs with
  | [] => 0
  | c :: cs =>
    if c = '<' then
      let tag := cs.takeWhile (· != '>')
      let depth' :=
        if tag.head? = some '/' then depth - 1
        else if tag.head? = some '?' || tag.head? = some '!' || tag.getLast? = some '/' then depth
        else depth + 1
      max depth' (depthFrom depth' (cs.dropWhile (· != '>')))
    else depthFrom depth cs
termination_by cs.length
decreasing_by
  · have := Xml.dropWhile_length (· != '>') cs
    simp only [List.length_cons]
    omega
  · simp

/-- An estimate of how deep the elements of a document nest. -/
def elementDepth (text : String) : Nat :=
  depthFrom 0 text.toList

/-- The largest number that a count may reach. -/
def countLimit : Nat :=
  Word.count64 - 1

/-- How deep elements may nest: two elements for each triple, and the parts of the innermost
clause. -/
def elementLimit (d : Dialect) : Nat :=
  min (min (2 * d.maxDepth) countLimit + 8) countLimit

end ContextQuery.Xcql

namespace ContextQuery.Query

/-- Reads a document as a query. -/
def readXml {m : Type → Type} [Monad m] [MonadExceptOf Diagnostic m] [Journal m] [Xml.Library]
    (d : Dialect) (text : String) : m Query :=
  if Xcql.elementDepth text > Xcql.elementLimit d then throw (Diagnostic.tooDeep d.maxDepth)
  else
    match Xml.Library.parse? text with
    | none => Reader.refuse .querySyntax "Malformed XCQL"
    | some root => do
      Journal.note (.document root.name)
      let n ← Xcql.readNode d d.maxDepth root
      pure ⟨n, d⟩

/-- The plain reader. -/
def parseXml [Xml.Library] (d : Dialect) (text : String) : Except Diagnostic Query :=
  readXml d text

end ContextQuery.Query
