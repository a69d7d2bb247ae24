import ContextQuery.Xml.Reference

/-!
# Documents

The tree of a document: elements by the local part of their names, with texts, comments and
instructions between them. Attributes are checked and dropped.

## Main definitions

* `Element`, `Content`: an element and what it holds.
* `Namespaces`: the namespaces that are bound at an element.
* `Document.parse?`: the root element of a text, if the text is a well-formed document.
* `Library`: a library that reads documents; `Document.library` is the one that is used.
-/

namespace ContextQuery.Xml

/-- What an element may hold. -/
inductive Content where
  | element (name : String) (children : List Content)
  | text (text : String)
  /-- A comment or a processing instruction. -/
  | remark

/-- An element: the local part of its name, and what it holds. -/
structure Element where
  name : String
  children : List Content

/-! ## Namespaces -/

/-- The namespaces bound at an element, by prefix; the empty prefix is the default. -/
abbrev Namespaces := List (String × String)

/-- The namespace that the prefix `xml` stands for. -/
def xmlSpace : String :=
  "http://www.w3.org/XML/1998/namespace"

/-- The namespace that the prefix `xmlns` stands for. -/
def xmlnsSpace : String :=
  "http://www.w3.org/2000/xmlns/"

/-- The namespace that a prefix is bound to. -/
def Namespaces.get? (bound : Namespaces) (space : String) : Option String :=
  bound.lookup space

/-- What the attributes of a tag say: namespaces that it binds, and other attributes by name. -/
structure Declared where
  bound : Namespaces
  others : List QName

/-- Takes in one attribute. -/
def Declared.add? (d : Declared) (a : Attribute) : Option Declared :=
  match readValue? a.value with
  | none => none
  | some value =>
    let uri := String.ofList value
    if a.name.space = "xmlns" then
      if uri = xmlnsSpace || (a.name.base = "xml") != (uri = xmlSpace) ||
          (d.bound.get? a.name.base).isSome then none
      else if uri = xmlSpace then some d
      else some { d with bound := d.bound ++ [(a.name.base, uri)] }
    else if a.name.base = "xmlns" then
      if uri = xmlSpace || uri = xmlnsSpace then none
      else some { d with bound := d.bound ++ [("", uri)] }
    else some { d with others := d.others ++ [a.name] }

/-- Takes in the attributes of a tag. -/
def Declared.ofAttributes? (d : Declared) : List Attribute → Option Declared
  | [] => some d
  | a :: rest => (d.add? a).bind fun d => d.ofAttributes? rest

/-- The namespace of an attribute and the local part of its name; attributes without a prefix
belong to no namespace. -/
def expand? (bound : Namespaces) (name : QName) : Option (Option String × String) :=
  if name.space = "xml" then some (some xmlSpace, name.base)
  else if name.space.isEmpty then some (none, name.base)
  else (bound.get? name.space).map fun uri => (some uri, name.base)

/-- Each attribute has a known namespace, and no two attributes have the same expanded name. -/
def distinctAttributes (bound : Namespaces) : List QName → Bool
  | [] => true
  | a :: rest =>
    match expand? bound a with
    | none => false
    | some name =>
      !(rest.any fun b => expand? bound b = some name) && distinctAttributes bound rest

/-- The namespaces bound at an element with the given tag, if the tag is well-formed where `outer`
are the namespaces bound around it. -/
def openTag? (outer : Namespaces) (name : QName) (attributes : List Attribute) :
    Option Namespaces :=
  match Declared.ofAttributes? ⟨[], []⟩ attributes with
  | none => none
  | some d =>
    let bound := d.bound ++ outer
    if name.space != "xmlns" && (name.space.isEmpty || (bound.get? name.space).isSome) &&
        distinctAttributes bound d.others then some bound
    else none

/-! ## Trees -/

/-- An element whose end has not been seen: its name, the namespaces bound at it, and what it
holds so far, the last piece first. -/
structure Frame where
  name : QName
  bound : Namespaces
  children : List Content

/-- Adds a text to what an element holds; adjacent texts are joined. -/
def addText (text : List Char) : List Content → List Content
  | .text before :: rest => .text (before ++ String.ofList text) :: rest
  | children => .text (String.ofList text) :: children

/-- A document as far as it is read: the open elements, the innermost first, and the root element
once its end has been seen. -/
structure Partial where
  frames : List Frame
  root : Option Element

/-- Adds a finished element to its parent, or makes it the root. -/
def Partial.close? (frames : List Frame) (root : Option Element) (e : Element) : Option Partial :=
  match frames with
  | f :: rest =>
    some ⟨{ f with children := .element e.name e.children :: f.children } :: rest, root⟩
  | [] => if root.isSome then none else some ⟨[], some e⟩

/-- The namespaces bound around the next element. -/
def Partial.bound (p : Partial) : Namespaces :=
  match p.frames with
  | f :: _ => f.bound
  | [] => []

/-- Takes in one piece of markup. -/
def Partial.add? (p : Partial) (m : Markup) : Option Partial :=
  match m, p.frames with
  | .remark, [] => some p
  | .remark, f :: rest =>
    some { p with frames := { f with children := .remark :: f.children } :: rest }
  | .text raw, [] => if raw.all isSpace then some p else none
  | .text raw, f :: rest =>
    (readText? raw).map fun text =>
      { p with frames := { f with children := addText text f.children } :: rest }
  | .verbatim _, [] => none
  | .verbatim raw, f :: rest =>
    some { p with frames := { f with children := addText (readVerbatim raw) f.children } :: rest }
  | .start name attributes, frames =>
    if frames.isEmpty && p.root.isSome then none
    else
      (openTag? p.bound name attributes).map fun bound =>
        { p with frames := ⟨name, bound, []⟩ :: frames }
  | .empty name attributes, frames =>
    match openTag? p.bound name attributes with
    | none => none
    | some _ => Partial.close? frames p.root ⟨name.base, []⟩
  | .stop _, [] => none
  | .stop name, f :: rest =>
    if name = f.name then Partial.close? rest p.root ⟨f.name.base, f.children.reverse⟩ else none

/-- Takes in all markup of a document; at its end no element may be open. -/
def Partial.build? (p : Partial) : List Markup → Option Element
  | [] => if p.frames.isEmpty then p.root else none
  | m :: rest => (p.add? m).bind fun p => p.build? rest

/-! ## Prolog -/

/-- White space, or else the end of the declaration, or the end of the text. -/
def declarationGap? (cs : List Char) : Option (List Char) :=
  match cs with
  | [] => some []
  | c :: rest =>
    if isSpace c then some (dropSpaces rest)
    else if (after? "?>".toList cs).isSome then some cs
    else none

/-- Reads an attribute of the declaration if it stands at the front. -/
def declarationAttribute? (name : String) (cs : List Char) : Option (List Char) :=
  if (after? name.toList cs).isSome then
    (attribute? cs).bind fun (_, rest) => declarationGap? rest
  else some cs

/-- Skips the XML declaration after its `<?xml`: a version, and perhaps an encoding and whether
the document stands alone. -/
def skipDeclaration? (cs : List Char) : Option (List Char) := do
  let cs ← declarationGap? cs
  let (_, cs) ← if (after? "version".toList cs).isSome then attribute? cs else none
  let cs ← declarationGap? cs
  let cs ← declarationAttribute? "encoding" cs
  let cs ← if (after? "standalone".toList cs).isSome then (attribute? cs).map (·.2) else some cs
  after? "?>".toList (dropSpaces cs)

/-- Skips a byte order mark and an XML declaration at the very start of a text. -/
def skipProlog? (cs : List Char) : Option (List Char) :=
  let cs := (after? ['\uFEFF'] cs).getD cs
  match after? "<?xml ".toList cs with
  | some rest => skipDeclaration? (' ' :: rest)
  | none => some cs

/-- The root element of a text, if the text is a well-formed document without a document type. -/
def Document.parse? (text : String) : Option Element := do
  let cs ← skipProlog? text.toList
  let markup ← Markup.scan cs
  Partial.build? ⟨[], none⟩ markup

/-! ## Libraries -/

/-- A library that reads documents. -/
class Library where
  /-- The root element of a text, unless the library refuses the text. -/
  parse? : String → Option Element

/-- The library that is used unless another one is given. -/
instance Document.library : Library where
  parse? := Document.parse?

end ContextQuery.Xml
