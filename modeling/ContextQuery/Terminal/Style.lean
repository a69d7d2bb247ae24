/-!
# Styled text

Text on a terminal is styled by escape sequences: each begins with the escape character and ends
with the letter `m`.

## Main definitions

* `Style.apply`: text in a style, which is reset after it.
* `plain`: text without its escape sequences.
-/

namespace ContextQuery.Terminal

/-- The styles in use. -/
inductive Style where
  | bold
  | dim
  | red
  | green
  | yellow
  | cyan
  deriving DecidableEq

/-- The sequence that starts a style. -/
def Style.sequence : Style → String
  | bold => "\x1b[1m"
  | dim => "\x1b[2m"
  | red => "\x1b[31m"
  | green => "\x1b[32m"
  | yellow => "\x1b[33m"
  | cyan => "\x1b[36m"

/-- The sequence that ends all styles. -/
def reset : String :=
  "\x1b[0m"

/-- Text in a style. -/
def Style.apply (style : Style) (text : String) : String :=
  style.sequence ++ text ++ reset

/-- A heading, bold and cyan. -/
def header (text : String) : String :=
  Style.bold.sequence ++ Style.cyan.apply text

/-- A heading of lower rank. -/
def subheader (text : String) : String :=
  Style.bold.apply text

/-- Text of less weight. -/
def dim (text : String) : String :=
  Style.dim.apply text

/-- The mark of a success. -/
def success (text : String) : String :=
  Style.green.apply text

/-- A warning. -/
def warning (text : String) : String :=
  Style.yellow.apply text

/-- The mark of a failure. -/
def failure (text : String) : String :=
  Style.red.apply text

/-- A line of the given number of columns. -/
def rule (columns : Nat) : String :=
  dim (String.ofList (List.replicate columns '─'))

/-- A document in the colours of its format. The colours themselves are left out here; a document
ends with the sequence that ends them. -/
def document (content : String) : String :=
  content ++ reset

/-- Drops escape sequences; `inside` tells that one has begun. -/
def dropSequences : Bool → List Char → List Char
  | _, [] => []
  | true, c :: cs => dropSequences (c ≠ 'm') cs
  | false, c :: cs => if c = '\x1b' then dropSequences true cs else c :: dropSequences false cs

/-- Text without its escape sequences. -/
def plain (text : String) : String :=
  String.ofList (dropSequences false text.toList)

end ContextQuery.Terminal
