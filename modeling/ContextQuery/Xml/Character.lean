import ContextQuery.Text.Ranges

/-!
# The characters of XML

Which characters a document may hold, and which may stand in names.
-/

namespace ContextQuery.Xml

/-- A character that a document may hold. -/
def isAllowed (c : Char) : Bool :=
  if c.toNat < 0x20 then c = '\t' || c = '\n' || c = '\r'
  else !(c.toNat = 0xFFFE || c.toNat = 0xFFFF)

/-- White space between the parts of a document. -/
def isSpace (c : Char) : Bool :=
  c = ' ' || c = '\t' || c = '\n' || c = '\r'

/-- The code points from U+0080 on that may start a name. -/
def nameStartRanges : Text.Ranges :=
  [(0xC0, 0xD6), (0xD8, 0xF6), (0xF8, 0x2FF), (0x370, 0x37D), (0x37F, 0x1FFF), (0x200C, 0x200D),
   (0x2070, 0x218F), (0x2C00, 0x2FEF), (0x3001, 0xD7FF), (0xF900, 0xFDCF), (0xFDF0, 0xFFFD),
   (0x10000, 0xEFFFF)]

/-- The other code points from U+0080 on that may stand in a name. -/
def nameExtraRanges : Text.Ranges :=
  [(0xB7, 0xB7), (0x300, 0x36F), (0x203F, 0x2040)]

/-- A character that may start a name. -/
def isNameStart (c : Char) : Bool :=
  if c.toNat < 0x80 then c.isAlpha || c = ':' || c = '_' else nameStartRanges.contains c

/-- A character that may stand in a name. -/
def isNameChar (c : Char) : Bool :=
  if c.toNat < 0x80 then c.isAlphanum || c = ':' || c = '_' || c = '-' || c = '.'
  else nameStartRanges.contains c || nameExtraRanges.contains c

end ContextQuery.Xml
