import ContextQuery.ContextSet
import ContextQuery.Query
import ContextQuery.Query.Journal
import ContextQuery.Token.Lexer

/-!
# Reading queries

The grammar, with connectives of one rank that group to the left:

    query       → declaration* operand (boolean operand)*
    operand     → "(" query ")" | declaration+ query | clause
    clause      → name relation term | term
    relation    → (name | comparison) modifier*
    boolean     → ("and" | "or" | "not" | "prox") modifier*
    modifier    → "/" name (comparison value)?
    declaration → ">" (name "=")? identifier

A reader works on the tokens ahead of it and looks at the first two of them. Stepping over a token
therefore pulls the token two places on, and a string that is never closed is refused at that
moment. Parentheses make no node: declarations before a group go to the node inside, and replace
declarations of the same name there.

The nesting limit bounds both the queries that are open at a time and the height of the tree.

## Main definitions

* `Reader.query`: reads a query from the tokens ahead, by recursion on the levels left.
* `Query.read`: reads a text, in any computation that can refuse and note.
* `Query.parse`: the plain reader.
-/

namespace ContextQuery

namespace Reader

/-- What a reader needs besides the tokens ahead. -/
structure Source where
  dialect : Dialect
  /-- The number of bytes of the text. -/
  length : Nat
  /-- The string left open at the end of the text. -/
  unclosed : Option String

variable {m : Type → Type} [Monad m] [MonadExceptOf Diagnostic m] [Journal m]

/-- Refuses with a diagnostic. -/
def refuse {α : Type} (kind : Diagnostic.Kind) (details : String) : m α :=
  throw (Diagnostic.mk kind details)

/-- Passes on a value or a refusal. -/
def lift {α : Type} : Except Diagnostic α → m α
  | .ok a => pure a
  | .error d => throw d

/-- Pulls the token at the front of the tokens not yet pulled. -/
def pull (s : Source) : List Token → m Unit
  | t :: _ => Journal.note (.token t)
  | [] =>
    match s.unclosed with
    | some text => refuse .quote text
    | none => Journal.note (.token (.finish s.length))

/-- Steps over a token; `rest` are the tokens after it, the first of which is pulled already. -/
def step (s : Source) (rest : List Token) : m Unit :=
  pull s rest.tail

/-- The token at the front has the given class. -/
def atKind (kind : Token.Kind) : List Token → Bool
  | t :: _ => t.kind = kind
  | [] => false

/-- The token at the front is the given sign. -/
def atSign (c : Comparison) : List Token → Bool
  | t :: _ => t.isSign c
  | [] => false

/-- A bare word that is a connective. -/
def isConnective (t : Token) : Bool :=
  t.kind = .word && (Connective.ofKeyword? t.text).isSome

/-- No clause goes on after its first token if these are the tokens ahead. -/
def endsClause : List Token → Bool
  | t :: _ => isConnective t || t.kind = .leftParen || t.kind = .rightParen
  | [] => true

/-- Reads modifiers, each after a slash. -/
def modifiers (s : Source) : List Token → m (List Modifier × List Token)
  | [] => pure ([], [])
  | t :: ts =>
    if t.kind = .slash then do
      step s ts
      match ts with
      | [] => refuse .nullModifier "Null modifier: end of query"
      | n :: ts =>
        if n.isName then do
          step s ts
          let name ← lift (Name.parse s.dialect n.text)
          if atKind .comparison ts then
            match ts with
            | [] => refuse .nullModifier ("Missing value for modifier " ++ name.display)
            | c :: ts => do
              step s ts
              match ts with
              | [] => refuse .nullModifier ("Missing value for modifier " ++ name.display)
              | v :: ts =>
                if v.isName then do
                  step s ts
                  let (others, rest) ← modifiers s ts
                  pure (⟨name, Comparison.ofSign? c.text, some (unquote v.text)⟩ :: others, rest)
                else refuse .nullModifier ("Missing value for modifier " ++ name.display)
          else do
            let (others, rest) ← modifiers s ts
            pure (⟨name, none, none⟩ :: others, rest)
        else refuse .nullModifier ("Null modifier: " ++ n.text)
    else pure ([], t :: ts)

/-- A group of declarations as it is read: the names as written, and the map so far. -/
structure Group where
  written : List String
  map : PrefixMap

/-- The group without declarations. -/
def Group.empty : Group :=
  ⟨[], .empty⟩

/-- Takes an identifier token and adds its declaration to the group. -/
def bindIdentifier (s : Source) (g : Group) (name : String) (t : Token) (rest : List Token) :
    m Group :=
  if t.isName then do
    step s rest
    if s.dialect.refuseDuplicatePrefix && g.written.contains name then
      refuse .duplicatePrefix name
    else
      pure ⟨name :: g.written, g.map.insert (Text.lowerCase name) (unquote t.text)⟩
  else refuse .querySyntax ("Expected prefix identifier, got: " ++ t.text)

/-- Reads a group of declarations. -/
def declarations (s : Source) (g : Group) : List Token → m (PrefixMap × List Token)
  | [] => pure (g.map, [])
  | t :: ts =>
    if t.isSign .gt then do
      step s ts
      match ts with
      | [] => refuse .querySyntax "Expected prefix identifier, got: end of query"
      | a :: ts =>
        if atSign .eq ts then
          if a.isName then do
            step s ts
            match ts with
            | [] => refuse .querySyntax "Expected prefix identifier, got: end of query"
            | _ :: ts => do
              step s ts
              match ts with
              | [] => refuse .querySyntax "Expected prefix identifier, got: end of query"
              | i :: ts => do
                let g ← bindIdentifier s g (unquote a.text) i ts
                declarations s g ts
          else refuse .querySyntax ("Expected prefix name, got: " ++ a.text)
        else do
          let g ← bindIdentifier s g "" a ts
          declarations s g ts
    else pure (g.map, t :: ts)

/-- Declares prefixes on a node, in the order given. -/
def declareAll (d : Dialect) (n : Node) : List (String × String) → m Node
  | [] => pure n
  | (name, uri) :: rest =>
    if d.refuseDuplicatePrefix && ContextSet.isReserved name then refuse .duplicatePrefix name
    else do
      Journal.note (.declaration name uri)
      declareAll d (n.declare name uri) rest

/-- Reads the token at the front as a term. -/
def term (s : Source) : List Token → m (Term × List Token)
  | [] => refuse .querySyntax "Expected term, got: end of query"
  | t :: ts =>
    if t.kind = .leftParen || t.kind = .rightParen then
      refuse .querySyntax ("Expected term, got: " ++ t.text)
    else do
      step s ts
      let value ← lift (Term.parse s.dialect t.text)
      pure (value, ts)

/-- Reads a relation with its modifiers. -/
def relation (s : Source) : List Token → m (Relation × List Token)
  | [] => refuse .querySyntax "Expected relation, got: end of query"
  | t :: ts =>
    if t.isName || t.kind = .comparison then do
      step s ts
      let name ← lift (Name.parse s.dialect t.text)
      let (mods, ts) ← modifiers s ts
      pure (⟨name, mods⟩, ts)
    else refuse .querySyntax ("Expected relation, got: " ++ t.text)

/-- Notes a finished clause and makes it a node. -/
def finishClause (c : SearchClause) (rest : List Token) : m (Node × List Token) := do
  Journal.note (.clause c)
  pure (.clause .empty c, rest)

/-- Reads an index, a relation and a term; `t` is the first token. -/
def explicitClause (s : Source) (t : Token) (ts : List Token) : m (Node × List Token) :=
  if t.isName then do
    step s ts
    let index ← lift (Name.parse s.dialect t.text)
    let (rel, ts) ← relation s ts
    if ts.isEmpty then refuse .querySyntax "Expected Term, got end of query."
    else do
      let (value, ts) ← term s ts
      finishClause ⟨index, rel, value⟩ ts
  else refuse .querySyntax ("Expected index, got: " ++ t.text)

/-- Reads a clause: an index, a relation and a term unless the second token ends the clause, and a
bare term otherwise. -/
def clause (s : Source) : List Token → m (Node × List Token)
  | [] => refuse .querySyntax "Expected Boolean or Relation but got: "
  | t :: ts =>
    if endsClause ts then
      if atKind .leftParen ts then
        refuse .querySyntax ("Expected Boolean or Relation but got: " ++ t.text)
      else do
        let (value, ts) ← term s (t :: ts)
        finishClause (.serverChoice s.dialect value) ts
    else explicitClause s t ts

/-- Reads the closing parenthesis of a group. -/
def closeGroup (s : Source) (n : Node) : List Token → m (Node × List Token)
  | [] => refuse .parenthesis "end of query"
  | t :: ts =>
    if t.kind = .rightParen then do
      step s ts
      pure (n, ts)
    else refuse .parenthesis t.text

/-- Reads an operand, given how to read a query one level down. -/
def operand (s : Source) (inner : List Token → m (Node × List Token)) (ts : List Token) :
    m (Node × List Token) :=
  if atKind .leftParen ts then do
    step s ts.tail
    let (n, ts) ← inner ts.tail
    closeGroup s n ts
  else do
    let (map, ts) ← declarations s .empty ts
    if map.isEmpty then clause s ts
    else do
      let (n, ts) ← inner ts
      let n ← declareAll s.dialect n map.entries
      pure (n, ts)

/-- Reads a connective with its modifiers, if one stands at the front. -/
def boolean? (s : Source) : List Token → m (Option Boolean × List Token)
  | [] => pure (none, [])
  | t :: ts =>
    match if t.kind = .word then Connective.ofKeyword? t.text else none with
    | none => pure (none, t :: ts)
    | some op => do
      step s ts
      let (mods, ts) ← modifiers s ts
      pure (some ⟨op, mods⟩, ts)

/-- Joins the operands that follow to the node read so far, as long as connectives follow. Each
round takes at least one token, so the number of tokens ahead bounds the rounds. -/
def chain (s : Source) (operand : List Token → m (Node × List Token)) :
    Nat → Node → List Token → m (Node × List Token)
  | 0, left, ts => pure (left, ts)
  | rounds + 1, left, ts => do
    let (boolean, ts) ← boolean? s ts
    match boolean with
    | none => pure (left, ts)
    | some boolean => do
      let (right, ts) ← operand ts
      Journal.note (.triple boolean)
      let node := Node.triple .empty boolean left right
      if node.height > s.dialect.maxDepth then throw (Diagnostic.tooDeep s.dialect.maxDepth)
      else chain s operand rounds node ts

/-- Reads a query that may open as many levels as given. -/
def query (s : Source) : Nat → List Token → m (Node × List Token)
  | 0, _ => throw (Diagnostic.tooDeep s.dialect.maxDepth)
  | levels + 1, ts => do
    let (map, ts) ← declarations s .empty ts
    let (first, ts) ← operand s (query s levels) ts
    let (n, ts) ← chain s (operand s (query s levels)) ts.length first ts
    let n ← declareAll s.dialect n map.entries
    pure (n, ts)

/-- All tokens must have been read. -/
def finish (d : Dialect) (n : Node) : List Token → m Query
  | [] => pure ⟨n, d⟩
  | t :: _ =>
    if t.kind = .rightParen then
      refuse .parenthesis ("Unbalanced ')' at offset " ++ toString t.position)
    else refuse .querySyntax ("Unprocessed tokens remain: " ++ t.text)

end Reader

namespace Query

/-- Reads a text as a query. -/
def read {m : Type → Type} [Monad m] [MonadExceptOf Diagnostic m] [Journal m] (d : Dialect)
    (text : String) : m Query := do
  let stream := TokenStream.ofText text
  let source : Reader.Source := ⟨d, stream.length, stream.unclosed⟩
  Reader.pull source stream.tokens
  Reader.pull source stream.tokens.tail
  let (root, rest) ← Reader.query source d.maxDepth stream.tokens
  Reader.finish d root rest

/-- The plain reader. -/
def parse (d : Dialect) (text : String) : Except Diagnostic Query :=
  read d text

end Query

end ContextQuery
