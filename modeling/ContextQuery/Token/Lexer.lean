import ContextQuery.Diagnostic
import ContextQuery.Text.Blank
import ContextQuery.Token

/-!
# Cutting a text into tokens

Blanks separate tokens. A word runs as far as it can; a quoted string ends at the first quote that
no backslash takes; `<=`, `>=` and `<>` are taken whole; every other character is a token of its
own. A string that is never closed ends the cut.

## Main definitions

* `Token.first`: the token at the front of a text that starts with no blank.
* `TokenStream.ofText`: the tokens of a text, its length, and the string left open at its end.
* `tokenize`: all tokens and the end mark, or the refusal of an open string.
-/

namespace ContextQuery

/-- The number of bytes that a text takes in UTF-8. -/
def byteLength : List Char → Nat
  | [] => 0
  | c :: rest => c.utf8Size + byteLength rest

/-- A character that continues a word: quotes do so, though they never start one. -/
def continuesWord (c : Char) : Bool :=
  isWordChar c || c = '"'

/-- Splits a text that follows an opening quote after the closing one. A backslash takes the
character after it. Nothing is returned if the string is not closed. -/
def closeQuote : List Char → Option (List Char × List Char)
  | [] => none
  | c :: rest =>
    if c = '"' then some (['"'], rest)
    else if c = '\\' then
      match rest with
      | [] => none
      | e :: rest => (closeQuote rest).map fun (body, after) => ('\\' :: e :: body, after)
    else (closeQuote rest).map fun (body, after) => (c :: body, after)

/-- The class of a character that is a token on its own. -/
def Token.Kind.ofChar (c : Char) : Token.Kind :=
  if c = '(' then .leftParen
  else if c = ')' then .rightParen
  else if c = '/' then .slash
  else if c = '=' then .comparison
  else .other

/-- The character after `c` that makes a two-character sign with it. -/
def extendsSign (c next : Char) : Bool :=
  (c = '<' && (next = '=' || next = '>')) || (c = '>' && next = '=')

/-- The first token of the text `c :: rest`, where `c` is no blank: its class, its characters
after `c`, and the text after it. Nothing is returned for a string that is not closed. -/
def Token.first (c : Char) (rest : List Char) : Option (Token.Kind × List Char × List Char) :=
  if c = '"' then
    (closeQuote rest).map fun (body, after) => (.quoted, body, after)
  else if c = '<' || c = '>' then
    match rest with
    | next :: after =>
      if extendsSign c next then some (.comparison, [next], after)
      else some (.comparison, [], rest)
    | [] => some (.comparison, [], [])
  else if isWordChar c then
    some (.word, rest.takeWhile continuesWord, rest.dropWhile continuesWord)
  else some (.ofChar c, [], rest)

/-- A closed string and the text after it make up the text. -/
theorem closeQuote_append {cs body after : List Char} (h : closeQuote cs = some (body, after)) :
    body ++ after = cs := by
  fun_induction closeQuote cs generalizing body after with
  | case1 => simp at h
  | case2 rest =>
    simp only [Option.some.injEq, Prod.mk.injEq] at h
    obtain ⟨rfl, rfl⟩ := h
    rfl
  | case3 => simp at h
  | case4 _ e rest ih =>
    obtain ⟨⟨b, a⟩, hb, hp⟩ := Option.map_eq_some_iff.1 h
    simp only [Prod.mk.injEq] at hp
    obtain ⟨rfl, rfl⟩ := hp
    simp [ih hb]
  | case5 c rest _ _ ih =>
    obtain ⟨⟨b, a⟩, hb, hp⟩ := Option.map_eq_some_iff.1 h
    simp only [Prod.mk.injEq] at hp
    obtain ⟨rfl, rfl⟩ := hp
    simp [ih hb]

/-- The first token and the text after it make up the text. -/
theorem Token.first_append {c : Char} {rest body after : List Char} {kind : Token.Kind}
    (h : Token.first c rest = some (kind, body, after)) : body ++ after = rest := by
  unfold Token.first at h
  split at h
  · obtain ⟨⟨b, a⟩, hb, hp⟩ := Option.map_eq_some_iff.1 h
    simp only [Prod.mk.injEq] at hp
    obtain ⟨-, rfl, rfl⟩ := hp
    exact closeQuote_append hb
  · split at h
    · split at h
      · split at h <;> simp only [Option.some.injEq, Prod.mk.injEq] at h <;>
          obtain ⟨-, rfl, rfl⟩ := h <;> rfl
      · simp only [Option.some.injEq, Prod.mk.injEq] at h
        obtain ⟨-, rfl, rfl⟩ := h
        rfl
    · split at h
      · simp only [Option.some.injEq, Prod.mk.injEq] at h
        obtain ⟨-, rfl, rfl⟩ := h
        exact List.takeWhile_append_dropWhile
      · simp only [Option.some.injEq, Prod.mk.injEq] at h
        obtain ⟨-, rfl, rfl⟩ := h
        rfl

/-- The text after the first token is no longer than what followed its first character. -/
theorem Token.first_length {c : Char} {rest body after : List Char} {kind : Token.Kind}
    (h : Token.first c rest = some (kind, body, after)) : after.length ≤ rest.length := by
  rw [← Token.first_append h]
  simp

/-- The tokens of a text, the number of its bytes, and the string left open at its end. -/
structure TokenStream where
  tokens : List Token
  length : Nat
  unclosed : Option String
  deriving DecidableEq

namespace TokenStream

/-- The stream with a token in front. -/
def cons (t : Token) (s : TokenStream) : TokenStream :=
  { s with tokens := t :: s.tokens }

/-- The tokens of a text that starts at byte `position`. -/
def scan (position : Nat) (cs : List Char) : TokenStream :=
  match cs with
  | [] => ⟨[], position, none⟩
  | c :: rest =>
    if Text.isBlank c then scan (position + c.utf8Size) rest
    else
      match _h : Token.first c rest with
      | none => ⟨[], position + byteLength cs, some (String.ofList cs)⟩
      | some (kind, body, after) =>
        (scan (position + byteLength (c :: body)) after).cons
          ⟨kind, String.ofList (c :: body), position⟩
termination_by cs.length
decreasing_by
  · simp
  · have := Token.first_length _h
    simp only [List.length_cons]
    omega

/-- The tokens of a text. -/
def ofText (text : String) : TokenStream :=
  scan 0 text.toList

/-- Takes the next token. An open string is refused once; after that, and after the last token,
every call gives the end mark. -/
def next (s : TokenStream) : Except Diagnostic Token × TokenStream :=
  match s.tokens with
  | t :: rest => (.ok t, { s with tokens := rest })
  | [] =>
    match s.unclosed with
    | some text => (.error ⟨.quote, text⟩, { s with unclosed := none })
    | none => (.ok (.finish s.length), s)

/-- The answers of `n` calls of `next`. -/
def pulls : Nat → TokenStream → List (Except Diagnostic Token)
  | 0, _ => []
  | n + 1, s => s.next.1 :: pulls n s.next.2

/-- All tokens and the end mark, or the refusal of the open string. -/
def complete (s : TokenStream) : Except Diagnostic (List Token) :=
  match s.unclosed with
  | some text => .error ⟨.quote, text⟩
  | none => .ok (s.tokens ++ [.finish s.length])

end TokenStream

/-- All tokens of a text and the end mark, or the refusal of a string that is not closed. -/
def tokenize (text : String) : Except Diagnostic (List Token) :=
  (TokenStream.ofText text).complete

end ContextQuery
