import ContextQuery.Xml.Character

/-!
# Markup

A document as the list of its tags, texts, comments and instructions. The shape of each piece is
checked here; whether the tags match is not.

## Main definitions

* `Markup`: a piece of a document.
* `Markup.first`: the piece at the front of a text.
* `Markup.scan`: all pieces of a text.
-/

namespace ContextQuery.Xml

/-- A name with the prefix of its namespace; the prefix may be empty. -/
structure QName where
  space : String
  base : String
  deriving DecidableEq

/-- An attribute with its value as written. -/
structure Attribute where
  name : QName
  value : List Char
  deriving DecidableEq

/-- A piece of a document. -/
inductive Markup where
  /-- Text as written, with its references. -/
  | text (raw : List Char)
  /-- The text of a section in which nothing is markup. -/
  | verbatim (raw : List Char)
  /-- A comment or a processing instruction. -/
  | remark
  | start (name : QName) (attributes : List Attribute)
  | empty (name : QName) (attributes : List Attribute)
  | stop (name : QName)
  deriving DecidableEq

/-! ## Scanners -/

/-- The text after a literal that stands at its front. -/
def after? : List Char → List Char → Option (List Char)
  | [], cs => some cs
  | _ :: _, [] => none
  | l :: literal, c :: cs => if l = c then after? literal cs else none

/-- Splits a text at the first place where the literal stands; the literal is dropped. -/
def splitAt? (literal : List Char) : List Char → Option (List Char × List Char)
  | [] => none
  | c :: cs =>
    match after? literal (c :: cs) with
    | some rest => some ([], rest)
    | none => (splitAt? literal cs).map fun (before, rest) => (c :: before, rest)

/-- Drops the white space at the front of a text. -/
def dropSpaces (cs : List Char) : List Char :=
  cs.dropWhile isSpace

/-- The first character, if there is one, may start a name. -/
def startsName (cs : List Char) : Bool :=
  cs.head?.all isNameStart

/-- Splits the characters of a name at its colon. Of the part before the colon and the part after
it, the first may be empty. -/
def QName.ofChars? (cs : List Char) : Option QName :=
  let before := cs.takeWhile (· != ':')
  match cs.dropWhile (· != ':') with
  | [] => if !cs.isEmpty && startsName cs then some ⟨"", String.ofList cs⟩ else none
  | _ :: base =>
    if !base.isEmpty && startsName base && startsName before && !base.contains ':' then
      some ⟨String.ofList before, String.ofList base⟩
    else none

/-- Reads a name with its prefix. -/
def qname? (cs : List Char) : Option (QName × List Char) :=
  (QName.ofChars? (cs.takeWhile isNameChar)).map fun name => (name, cs.dropWhile isNameChar)

/-- Reads an attribute: a name, an equals sign and a value in quotes. -/
def attribute? (cs : List Char) : Option (Attribute × List Char) :=
  match qname? cs with
  | none => none
  | some (name, cs) =>
    match dropSpaces cs with
    | '=' :: cs =>
      match dropSpaces cs with
      | q :: cs =>
        if q = '"' || q = '\x27' then
          match cs.dropWhile fun c => c != q && c != '<' with
          | e :: rest =>
            if e = q && (cs.takeWhile fun c => c != q && c != '<').all isAllowed then
              some (⟨name, cs.takeWhile fun c => c != q && c != '<'⟩, rest)
            else none
          | [] => none
        else none
      | [] => none
    | _ => none

/-! ## Length laws -/

theorem after?_length {literal cs rest : List Char} (h : after? literal cs = some rest) :
    rest.length ≤ cs.length := by
  fun_induction after? literal cs with
  | case1 => simp_all
  | case2 => simp at h
  | case3 l literal cs ih =>
    have := ih h
    simp only [List.length_cons]
    omega
  | case4 => simp at h

theorem splitAt?_length {literal cs before rest : List Char}
    (h : splitAt? literal cs = some (before, rest)) : rest.length ≤ cs.length := by
  fun_induction splitAt? literal cs generalizing before with
  | case1 => simp at h
  | case2 c cs tail ht =>
    simp only [Option.some.injEq, Prod.mk.injEq] at h
    exact h.2 ▸ after?_length ht
  | case3 c cs _ ih =>
    obtain ⟨⟨b, r⟩, hb, hp⟩ := Option.map_eq_some_iff.1 h
    simp only [Prod.mk.injEq] at hp
    obtain ⟨-, rfl⟩ := hp
    have := ih hb
    simp only [List.length_cons]
    omega

theorem dropWhile_length (p : Char → Bool) (cs : List Char) :
    (cs.dropWhile p).length ≤ cs.length :=
  (List.dropWhile_sublist p).length_le

theorem qname?_length {cs rest : List Char} {name : QName} (h : qname? cs = some (name, rest)) :
    rest.length ≤ cs.length := by
  obtain ⟨n, -, hp⟩ := Option.map_eq_some_iff.1 h
  simp only [Prod.mk.injEq] at hp
  exact hp.2 ▸ dropWhile_length _ _

theorem attribute?_length {cs rest : List Char} {a : Attribute}
    (h : attribute? cs = some (a, rest)) : rest.length ≤ cs.length := by
  unfold attribute? at h
  split at h
  · simp at h
  · rename_i name cs₁ h₁
    have l₁ := qname?_length h₁
    split at h
    · rename_i cs₂ h₂
      have l₂ := dropWhile_length isSpace cs₁
      rw [show cs₁.dropWhile isSpace = '=' :: cs₂ from h₂] at l₂
      split at h
      · rename_i q cs₃ h₃
        have l₃ := dropWhile_length isSpace cs₂
        rw [show cs₂.dropWhile isSpace = q :: cs₃ from h₃] at l₃
        split at h
        · split at h
          · rename_i e cs₄ h₄
            have l₄ := dropWhile_length (fun c => c != q && c != '<') cs₃
            rw [h₄] at l₄
            split at h
            · simp only [Option.some.injEq, Prod.mk.injEq] at h
              obtain ⟨-, rfl⟩ := h
              simp only [List.length_cons] at *
              omega
            · simp at h
          · simp at h
        · simp at h
      · simp at h
    · simp at h

/-! ## Pieces -/

/-- Reads the attributes of a tag and its end; the flag says that the element is empty. White
space must stand before each attribute. -/
def attributes? (cs : List Char) : Option (List Attribute × Bool × List Char) :=
  match cs with
  | [] => none
  | c :: cs =>
    if c = '>' then some ([], false, cs)
    else if c = '/' then (after? ['>'] cs).map fun rest => ([], true, rest)
    else if isSpace c then
      match dropSpaces cs with
      | [] => none
      | d :: ds =>
        if d = '>' then some ([], false, ds)
        else if d = '/' then (after? ['>'] ds).map fun rest => ([], true, rest)
        else
          match _h : attribute? (dropSpaces cs) with
          | none => none
          | some (a, rest) =>
            (attributes? rest).map fun (others, isEmpty, rest) => (a :: others, isEmpty, rest)
    else none
termination_by cs.length
decreasing_by
  have l₁ := attribute?_length _h
  have l₂ := dropWhile_length isSpace cs
  simp only [dropSpaces] at l₁
  simp only [List.length_cons]
  omega

theorem attributes?_length {cs rest : List Char} {as : List Attribute} {isEmpty : Bool}
    (h : attributes? cs = some (as, isEmpty, rest)) : rest.length ≤ cs.length := by
  fun_induction attributes? cs generalizing as isEmpty rest with
  | case1 => simp at h
  | case2 cs =>
    simp only [Option.some.injEq, Prod.mk.injEq] at h
    obtain ⟨-, -, rfl⟩ := h
    simp
  | case3 cs =>
    obtain ⟨r, hr, hp⟩ := Option.map_eq_some_iff.1 h
    simp only [Prod.mk.injEq] at hp
    obtain ⟨-, -, rfl⟩ := hp
    have := after?_length hr
    simp only [List.length_cons]
    omega
  | case4 => simp at h
  | case5 c cs _ _ _ ds hd =>
    simp only [Option.some.injEq, Prod.mk.injEq] at h
    obtain ⟨-, -, rfl⟩ := h
    have := dropWhile_length isSpace cs
    rw [show cs.dropWhile isSpace = '>' :: ds from hd] at this
    simp only [List.length_cons] at *
    omega
  | case6 c cs _ _ _ ds hd =>
    obtain ⟨r, hr, hp⟩ := Option.map_eq_some_iff.1 h
    simp only [Prod.mk.injEq] at hp
    obtain ⟨-, -, rfl⟩ := hp
    have l₁ := after?_length hr
    have l₂ := dropWhile_length isSpace cs
    rw [show cs.dropWhile isSpace = '/' :: ds from hd] at l₂
    simp only [List.length_cons] at *
    omega
  | case7 => simp at h
  | case8 c cs _ _ _ d ds hd _ _ a r ha ih =>
    obtain ⟨⟨o, e, r'⟩, hr, hp⟩ := Option.map_eq_some_iff.1 h
    simp only [Prod.mk.injEq] at hp
    obtain ⟨-, -, rfl⟩ := hp
    have l₁ := ih hr
    have l₂ := attribute?_length ha
    have l₃ := dropWhile_length isSpace cs
    simp only [dropSpaces] at l₂
    simp only [List.length_cons]
    omega
  | case9 => simp at h

/-- Reads a start tag after its `<`. -/
def startTag? (cs : List Char) : Option (Markup × List Char) :=
  match qname? cs with
  | none => none
  | some (name, cs) =>
    (attributes? cs).map fun (as, isEmpty, rest) =>
      (if isEmpty then .empty name as else .start name as, rest)

/-- Reads an end tag after its `</`. -/
def stopTag? (cs : List Char) : Option (Markup × List Char) :=
  match qname? cs with
  | none => none
  | some (name, cs) => (after? ['>'] (dropSpaces cs)).map fun rest => (.stop name, rest)

/-- Two dashes in a row stand in the text, or a dash at its end. -/
def hasDashes : List Char → Bool
  | [] => false
  | c :: cs => (c = '-' && (cs.isEmpty || cs.head? = some '-')) || hasDashes cs

/-- Reads a comment after its `<!--`. -/
def comment? (cs : List Char) : Option (Markup × List Char) :=
  match splitAt? "-->".toList cs with
  | none => none
  | some (body, rest) =>
    if body.all isAllowed && !hasDashes body then some (.remark, rest) else none

/-- Reads a section without markup after its `<![CDATA[`. -/
def verbatim? (cs : List Char) : Option (Markup × List Char) :=
  match splitAt? "]]>".toList cs with
  | none => none
  | some (body, rest) => if body.all isAllowed then some (.verbatim body, rest) else none

/-- Reads a processing instruction after its `<?`. What looks like an XML declaration is refused,
since one may only stand at the very start. -/
def instruction? (cs : List Char) : Option (Markup × List Char) :=
  if (after? "xml ".toList cs).isSome then none
  else if !cs.isEmpty && startsName cs then
    match splitAt? "?>".toList (cs.dropWhile isNameChar) with
    | none => none
    | some (body, rest) => if body.all isAllowed then some (.remark, rest) else none
  else none

/-- The literal stands somewhere in the text. -/
def hasLiteral (literal cs : List Char) : Bool :=
  (splitAt? literal cs).isSome

/-- Text between tags: allowed characters, without the end of a section. -/
def isCharacterData (raw : List Char) : Bool :=
  raw.all isAllowed && !hasLiteral "]]>".toList raw

/-- The piece at the front of the text `c :: cs`. -/
def Markup.first (c : Char) (cs : List Char) : Option (Markup × List Char) :=
  if c = '<' then
    match cs with
    | '/' :: cs => stopTag? cs
    | '?' :: cs => instruction? cs
    | '!' :: cs =>
      match after? "--".toList cs with
      | some cs => comment? cs
      | none =>
        match after? "[CDATA[".toList cs with
        | some cs => verbatim? cs
        | none => none
    | cs => startTag? cs
  else if isCharacterData (c :: cs.takeWhile (· != '<')) then
    some (.text (c :: cs.takeWhile (· != '<')), cs.dropWhile (· != '<'))
  else none

theorem startTag?_length {cs rest : List Char} {m : Markup}
    (h : startTag? cs = some (m, rest)) : rest.length ≤ cs.length := by
  unfold startTag? at h
  split at h
  · simp at h
  · rename_i name cs₁ h₁
    obtain ⟨⟨as, e, r⟩, hr, hp⟩ := Option.map_eq_some_iff.1 h
    simp only [Prod.mk.injEq] at hp
    obtain ⟨-, rfl⟩ := hp
    exact Nat.le_trans (attributes?_length hr) (qname?_length h₁)

theorem stopTag?_length {cs rest : List Char} {m : Markup}
    (h : stopTag? cs = some (m, rest)) : rest.length ≤ cs.length := by
  unfold stopTag? at h
  split at h
  · simp at h
  · rename_i name cs₁ h₁
    obtain ⟨r, hr, hp⟩ := Option.map_eq_some_iff.1 h
    simp only [Prod.mk.injEq] at hp
    obtain ⟨-, rfl⟩ := hp
    exact Nat.le_trans (after?_length hr)
      (Nat.le_trans (dropWhile_length _ _) (qname?_length h₁))

theorem comment?_length {cs rest : List Char} {m : Markup}
    (h : comment? cs = some (m, rest)) : rest.length ≤ cs.length := by
  unfold comment? at h
  split at h
  · simp at h
  · rename_i body r hr
    split at h
    · simp only [Option.some.injEq, Prod.mk.injEq] at h
      exact h.2 ▸ splitAt?_length hr
    · simp at h

theorem verbatim?_length {cs rest : List Char} {m : Markup}
    (h : verbatim? cs = some (m, rest)) : rest.length ≤ cs.length := by
  unfold verbatim? at h
  split at h
  · simp at h
  · rename_i body r hr
    split at h
    · simp only [Option.some.injEq, Prod.mk.injEq] at h
      exact h.2 ▸ splitAt?_length hr
    · simp at h

theorem instruction?_length {cs rest : List Char} {m : Markup}
    (h : instruction? cs = some (m, rest)) : rest.length ≤ cs.length := by
  unfold instruction? at h
  split at h
  · simp at h
  · split at h
    · split at h
      · simp at h
      · rename_i body r hr
        split at h
        · simp only [Option.some.injEq, Prod.mk.injEq] at h
          exact h.2 ▸ Nat.le_trans (splitAt?_length hr) (dropWhile_length _ _)
        · simp at h
    · simp at h

/-- The text after the first piece is no longer than what followed its first character. -/
theorem Markup.first_length {c : Char} {cs rest : List Char} {m : Markup}
    (h : Markup.first c cs = some (m, rest)) : rest.length ≤ cs.length := by
  unfold Markup.first at h
  split at h
  · split at h
    · exact Nat.le_succ_of_le (stopTag?_length h)
    · exact Nat.le_succ_of_le (instruction?_length h)
    · split at h
      · rename_i cs₁ h₁
        exact Nat.le_succ_of_le (Nat.le_trans (comment?_length h) (after?_length h₁))
      · split at h
        · rename_i cs₁ h₁
          exact Nat.le_succ_of_le (Nat.le_trans (verbatim?_length h) (after?_length h₁))
        · simp at h
    · exact startTag?_length h
  · split at h
    · simp only [Option.some.injEq, Prod.mk.injEq] at h
      exact h.2 ▸ dropWhile_length _ _
    · simp at h

/-- All pieces of a text; nothing is returned if one of them is malformed. -/
def Markup.scan (cs : List Char) : Option (List Markup) :=
  match cs with
  | [] => some []
  | c :: cs =>
    match _h : Markup.first c cs with
    | none => none
    | some (m, rest) => (Markup.scan rest).map (m :: ·)
termination_by cs.length
decreasing_by
  have := Markup.first_length _h
  simp only [List.length_cons]
  omega

end ContextQuery.Xml
