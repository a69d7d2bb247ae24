import ContextQuery.Text.Ranges

/-!
# Blanks

The characters with the Unicode property White_Space, and trimming of them at both ends of a
text.
-/

namespace ContextQuery.Text

/-- The blanks from U+0080 on. -/
def blankRanges : Ranges :=
  [(0x85, 0x85), (0xA0, 0xA0), (0x1680, 0x1680), (0x2000, 0x200A), (0x2028, 0x2029),
   (0x202F, 0x202F), (0x205F, 0x205F), (0x3000, 0x3000)]

/-- A blank: a character with the property White_Space. -/
def isBlank (c : Char) : Bool :=
  if c.toNat < 0x80 then c = ' ' || (0x9 ≤ c.toNat && c.toNat ≤ 0xD) else blankRanges.contains c

/-- Drops the blanks at the end of a text. -/
def dropTrailing (cs : List Char) : List Char :=
  (cs.reverse.dropWhile isBlank).reverse

/-- Drops the blanks at both ends of a text. -/
def trimmed (cs : List Char) : List Char :=
  dropTrailing (cs.dropWhile isBlank)

/-- Drops the blanks at both ends of a string. -/
def trim (s : String) : String :=
  String.ofList (trimmed s.toList)

end ContextQuery.Text
