import ContextQuery.Clause
import ContextQuery.Terminal.Style
import ContextQuery.Token.Lexer

/-!
# Highlighted queries

The text of a query with its tokens styled by their classes. Blanks between tokens stay as they
are, and so does a text that cannot be cut into tokens.

## Main definitions

* `cut?`: splits a text at a number of bytes.
* `Highlight.paint?`: styles the tokens of a text, cutting the text at their positions.
* `highlight`: the highlighted text.
-/

namespace ContextQuery

/-- Splits a text after the given number of bytes. There is no such split past the end of the text
or inside a character. -/
def cut? : Nat → List Char → Option (List Char × List Char)
  | 0, cs => some ([], cs)
  | _ + 1, [] => none
  | n + 1, c :: cs =>
    if c.utf8Size ≤ n + 1 then
      (cut? (n + 1 - c.utf8Size) cs).map fun (before, after) => (c :: before, after)
    else none

namespace Highlight

/-- The style of a token; plain words have none. -/
def style? (t : Token) : Option Terminal.Style :=
  match t.kind with
  | .word => if (Connective.ofKeyword? t.text).isSome then some .cyan else none
  | .quoted => some .green
  | .comparison | .slash => some .yellow
  | .leftParen | .rightParen => some .dim
  | .other => some .red
  | .finish => none

/-- A token in its style. -/
def styled (t : Token) : String :=
  match style? t with
  | some style => style.apply t.text
  | none => t.text

/-- Styles the tokens of a text. The text ahead starts at the byte `offset`; what stands before
each token is kept. Nothing is returned if a token does not stand where it says. -/
def paint? (offset : Nat) (ahead : List Char) : List Token → Option (List Char)
  | [] => some ahead
  | t :: ts =>
    if t.position < offset then none
    else do
      let (gap, ahead) ← cut? (t.position - offset) ahead
      let (_, ahead) ← cut? (byteLength t.text.toList) ahead
      let painted ← paint? (t.position + byteLength t.text.toList) ahead ts
      some (gap ++ (styled t).toList ++ painted)

end Highlight

/-- The text of a query with its tokens styled. -/
def highlight (text : String) : String :=
  match TokenStream.ofText text with
  | ⟨_, _, some _⟩ => text
  | ⟨tokens, _, none⟩ =>
    match Highlight.paint? 0 text.toList tokens with
    | some painted => String.ofList painted
    | none => text

end ContextQuery
