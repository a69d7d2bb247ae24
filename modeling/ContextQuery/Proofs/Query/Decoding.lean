import ContextQuery.Proofs.Query.Rereading

/-!
# What printed strings decode to

Canonical text writes each name, value and identifier as one lexeme of its own. Taken alone, such a
text is cut into one token just if it is closed where it was meant to be, and then the token decodes
to what is stored, except that a dialect may refuse the quotes around a name. Backslashes outside
quotes are what gets strings into a query that cannot be put in quotes.

## Main definitions

* `Decodes`: a text is one token, which decodes to a value.
* `Strings`: what is asked of strings, by where they stand in a query.
* `Strings.decoded`, `Strings.legible`: the string decodes from what is printed for it; it can be
  put in quotes where it has to be, and these are not refused.

## Main results

* `Query.decoded_iff_legible`: the strings of a query that decode.
-/

namespace ContextQuery

/-- The text is one token, and the value is what the token decodes to. -/
def Decodes {α : Type} (decode : String → Except Diagnostic α) (text : String) (value : α) :
    Prop :=
  ∃ t, tokenize text = .ok [t, .finish text.utf8ByteSize] ∧ decode t.text = .ok value

/-! ## Texts that are one token -/

/-- A token that starts and ends with quotes is a string that no other quote closes. -/
theorem Token.Shape.escaped {kind : Kind} {inside text after : List Char}
    (h : Shape kind text after) (eq : text = '"' :: inside ++ ['"']) : Escaped inside := by
  cases h with
  | quoted escaped =>
    simp only [List.cons_append, List.cons.injEq, List.append_cancel_right_eq, true_and] at eq
    exact eq ▸ escaped
  | word starts =>
    obtain ⟨rfl, -⟩ := List.cons.inj eq
    simp [isWordChar_quote] at starts
  | @comparison s => cases s <;> simp [Comparison.sign] at eq
  | leftParen | rightParen | slash | other => simp at eq

/-- The only token of a text without blanks at its ends is the whole text. -/
theorem Token.Cut.shape_of_single {position : Nat} {cs : List Char} {t : Token}
    (h : Cut position cs [t] []) (first : ∀ c ∈ cs.head?, Text.isBlank c = false)
    (last : ∀ c ∈ cs.getLast?, Text.isBlank c = false) : Shape t.kind cs [] := by
  generalize none_left : ([] : List Char) = rest at h
  cases h with
  | @token _ gap text after _ kind _ blank shape more =>
    cases more with
    | @done _ gap' _ blank' =>
      subst none_left
      have no_gap : gap = [] := by
        cases gap with
        | nil => rfl
        | cons c gap => simpa [blank c (by simp)] using first c (by simp)
      have no_gap' : gap' = [] := by
        rcases List.eq_nil_or_concat gap' with eq | ⟨init, c, rfl⟩
        · exact eq
        · simpa [blank' c (by simp)] using last c (by simp)
      simpa [no_gap, no_gap'] using shape

theorem quotable_of_tokenize_quote {s : String} {t : Token}
    (h : tokenize (quote s) = .ok [t, .finish (quote s).utf8ByteSize]) : Quotable s.toList := by
  obtain ⟨body, cut, eq⟩ := tokenize_eq_ok_iff.1 h
  obtain rfl : [t] = body := List.append_cancel_right (show [t] ++ [_] = body ++ [_] from eq)
  rw [toList_quote] at cut
  have visible : Text.isBlank '"' = false := by decide
  refine (cut.shape_of_single ?_ ?_).escaped rfl
  · simpa using visible
  · rw [List.getLast?_concat]
    simpa using visible

theorem TokenStream.length_ofText (text : String) : (ofText text).length = text.utf8ByteSize := by
  obtain ⟨rest, cut, final, -⟩ := cut_scan 0 text.toList
  rw [ofText_of_cut cut final]

namespace Lexeme

variable {l : Lexeme}

theorem tokenize_text (cuts : Cuts l.text.toList [l]) (closed : Closed [l]) :
    ∃ t, tokenize l.text = .ok [t, .finish l.text.utf8ByteSize] ∧ t.lexeme = l := by
  obtain ⟨closed', spelled⟩ := (cuts 0).spelled closed
  obtain ⟨t, tokens, isLexeme⟩ := List.map_eq_singleton_iff.1 spelled
  refine ⟨t, tokenize_eq_ok.2 ⟨closed', ?_⟩, isLexeme⟩
  rw [TokenStream.length_ofText, TokenStream.ofText, tokens, List.singleton_append]

theorem closed_of_tokenize {t : Token}
    (h : tokenize l.text = .ok [t, .finish l.text.utf8ByteSize]) : Closed [l] := by
  intro s mem
  obtain rfl := List.mem_singleton.1 mem
  exact quotable_of_tokenize_quote h

/-- A lexeme taken alone is one token just if it is closed. -/
theorem decodes_iff {α : Type} {decode : String → Except Diagnostic α} {value : α}
    (cuts : Cuts l.text.toList [l]) :
    Decodes decode l.text value ↔ Closed [l] ∧ decode l.text = .ok value := by
  constructor
  · rintro ⟨t, one, decoded⟩
    have closed := closed_of_tokenize one
    obtain ⟨t', one', isLexeme⟩ := tokenize_text cuts closed
    obtain rfl : t' = t := by simpa [one'] using one
    have same : t'.text = l.text := congrArg Lexeme.text isLexeme
    exact ⟨closed, same ▸ decoded⟩
  · rintro ⟨closed, decoded⟩
    obtain ⟨t, one, isLexeme⟩ := tokenize_text cuts closed
    have same : t.text = l.text := congrArg Lexeme.text isLexeme
    exact ⟨t, one, same ▸ decoded⟩

/-! ## Printed strings -/

theorem text_ofText (s : String) : (ofText s).text = quoteIfNeeded s := by
  unfold ofText quoteIfNeeded
  split <;> rfl

@[simp] theorem text_quoted (s : String) : (quoted s).text = quote s := rfl

@[simp] theorem text_sign (c : Comparison) : (sign c).text = c.sign := rfl

theorem cuts_ofText (s : String) : Cuts (ofText s).text.toList [ofText s] := by
  rw [text_ofText]
  simpa using Cuts.text s rfl .nil

theorem cuts_quoted (s : String) : Cuts (quoted s).text.toList [quoted s] := by
  simpa using Cuts.quoted s .nil

end Lexeme

theorem Relation.text_nameLexeme (n : Name) : (nameLexeme n).text = displayName n := by
  unfold nameLexeme displayName
  cases found : Comparison.ofSign? n.fullName with
  | some c => simp [found, Comparison.sign_of_ofSign? found]
  | none =>
    by_cases keyword : (Connective.ofKeyword? n.fullName).isSome
    · simp [found, keyword]
    · simp [found, keyword, Lexeme.text_ofText]

theorem Relation.cuts_nameLexeme (n : Name) : Cuts (nameLexeme n).text.toList [nameLexeme n] := by
  rw [text_nameLexeme]
  simpa using cuts_displayName n rfl (by simp) .nil

/-- The lexeme is closed, and it has no quotes if the dialect refuses them around names. -/
structure Lexeme.Legible (d : Dialect) (l : Lexeme) : Prop where
  closed : Closed [l]
  bare : d.refuseQuotedName = true → l.Bare

/-- A lexeme that spells a name reads as the name unless quotes are refused. -/
theorem Name.Canonical.parse_text_iff {d : Dialect} {n : Name} {l : Lexeme}
    (canonical : n.Canonical) (spelled : n.SpelledBy l) :
    Name.parse d l.text = .ok n ↔ (d.refuseQuotedName = true → l.Bare) := by
  constructor
  · intro parsed refuse
    refine Bool.eq_false_iff.2 fun quoted => ?_
    unfold Name.parse at parsed
    simp [Text.lower_eq_self spelled.settled, quoted, refuse] at parsed
  · intro bare
    exact canonical.parse_of_spelled (t := ⟨l.kind, l.text, 0⟩) bare spelled rfl

theorem Name.Canonical.decodes_iff {d : Dialect} {n : Name} {l : Lexeme} (canonical : n.Canonical)
    (spelled : n.SpelledBy l) (cuts : Cuts l.text.toList [l]) :
    Decodes (Name.parse d) l.text n ↔ l.Legible d := by
  rw [Lexeme.decodes_iff cuts, canonical.parse_text_iff spelled]
  exact ⟨fun ⟨closed, bare⟩ => ⟨closed, bare⟩, fun ⟨closed, bare⟩ => ⟨closed, bare⟩⟩

/-- Values and identifiers decode by taking off their quotes. -/
def decodeValue (raw : String) : Except Diagnostic String :=
  .ok (unquote raw)

/-- Names of prefixes decode by taking off their quotes and lower-casing them. -/
def decodePrefix (raw : String) : Except Diagnostic String :=
  .ok (Text.lowerCase (unquote raw))

theorem decodes_quoteIfNeeded_iff {s : String} :
    Decodes decodeValue (quoteIfNeeded s) s ↔ Closed [.ofText s] := by
  rw [← Lexeme.text_ofText, Lexeme.decodes_iff (Lexeme.cuts_ofText s), Lexeme.text_ofText]
  simp [decodeValue]

theorem decodes_quote_iff {s : String} :
    Decodes decodeValue (quote s) s ↔ Quotable s.toList := by
  rw [show quote s = (Lexeme.quoted s).text from rfl, Lexeme.decodes_iff (Lexeme.cuts_quoted s),
    closed_quoted]
  simp [decodeValue]

theorem decodes_prefix_iff {s : String} (settled : ∀ c ∈ s.toList, Text.Settled c) :
    Decodes decodePrefix (quoteIfNeeded s) s ↔ Closed [.ofText s] := by
  have lowered : Text.lowerCase s = s := by
    rw [Text.lowerCase, Text.lower_eq_self settled, String.ofList_toList]
  rw [← Lexeme.text_ofText, Lexeme.decodes_iff (Lexeme.cuts_ofText s), Lexeme.text_ofText]
  simp [decodePrefix, lowered]

/-! ## The strings of a query -/

/-- What is asked of strings, by where they stand: of indexes and the types of modifiers, of
relations, of the values of modifiers, and of the names and identifiers of prefixes. -/
structure Strings where
  name : Name → Prop
  relation : Name → Prop
  value : String → Prop
  declared : String → Prop
  identifier : String → Prop

namespace Strings

/-- What is printed for a string is one token, which decodes to the string. Nothing is printed for
the name of a prefix that has none. -/
def decoded (d : Dialect) : Strings where
  name n := Decodes (Name.parse d) n.display n
  relation n := Decodes (Name.parse d) (Relation.displayName n) n
  value s := Decodes decodeValue (quoteIfNeeded s) s
  declared s := s ≠ "" → Decodes decodePrefix (quoteIfNeeded s) s
  identifier s := Decodes decodeValue (quote s) s

/-- The string can be put in quotes if it has to be, and they are not refused around a name. -/
def legible (d : Dialect) : Strings where
  name n := (Lexeme.ofText n.fullName).Legible d
  relation n := (Relation.nameLexeme n).Legible d
  value s := Closed [.ofText s]
  declared s := s ≠ "" → Closed [.ofText s]
  identifier s := Quotable s.toList

/-- Both are the same of a string. -/
def iff (a b : Strings) : Strings where
  name n := a.name n ↔ b.name n
  relation n := a.relation n ↔ b.relation n
  value s := a.value s ↔ b.value s
  declared s := a.declared s ↔ b.declared s
  identifier s := a.identifier s ↔ b.identifier s

end Strings

/-- Holds of the type and the value. -/
structure Modifier.EachString (p : Strings) (m : Modifier) : Prop where
  name : p.name m.name
  value : ∀ s ∈ m.value, p.value s

/-- Holds of the index, the relation and the modifiers. -/
structure SearchClause.EachString (p : Strings) (c : SearchClause) : Prop where
  index : p.name c.index
  relation : p.relation c.relation.name
  modifiers : ∀ m ∈ c.relation.modifiers, m.EachString p

/-- Holds of all names and identifiers. -/
def PrefixMap.EachString (p : Strings) (map : PrefixMap) : Prop :=
  ∀ e ∈ map.entries, p.declared e.1 ∧ p.identifier e.2

/-- Holds of all strings of the tree but its terms. -/
def Node.EachString (p : Strings) : Node → Prop :=
  Node.Each (PrefixMap.EachString p) (SearchClause.EachString p)
    fun b => ∀ m ∈ b.modifiers, m.EachString p

section iff

variable {d : Dialect}

theorem Modifier.Readable.decoded_iff {m : Modifier} (readable : m.Readable) :
    m.EachString (.iff (.decoded d) (.legible d)) := by
  refine ⟨?_, fun s _ => decodes_quoteIfNeeded_iff⟩
  have decodes := readable.name.decodes_iff (d := d) readable.name.spelledBy_ofText
    (Lexeme.cuts_ofText _)
  rwa [Lexeme.text_ofText] at decodes

theorem SearchClause.Canonical.decoded_iff {c : SearchClause} (canonical : c.Canonical) :
    c.EachString (.iff (.decoded d) (.legible d)) := by
  refine ⟨?_, ?_, fun m hm => (canonical.modifiers m hm).decoded_iff⟩
  · have decodes := canonical.index.decodes_iff (d := d) canonical.index.spelledBy_ofText
      (Lexeme.cuts_ofText _)
    rwa [Lexeme.text_ofText] at decodes
  · have decodes := canonical.relation.decodes_iff (d := d) canonical.relation.spelledBy_nameLexeme
      (Relation.cuts_nameLexeme _)
    rwa [Relation.text_nameLexeme] at decodes

theorem PrefixMap.Canonical.decoded_iff {map : PrefixMap} (canonical : map.Canonical) :
    map.EachString (.iff (.decoded d) (.legible d)) := by
  intro e he
  exact ⟨imp_congr_right fun _ => decodes_prefix_iff (canonical e he), decodes_quote_iff⟩

theorem Node.Canonical.decoded_iff {n : Node} (canonical : n.Canonical) :
    n.EachString (.iff (.decoded d) (.legible d)) :=
  canonical.mono PrefixMap.Canonical.decoded_iff SearchClause.Canonical.decoded_iff
    fun mods m hm => (mods m hm).decoded_iff

end iff

/-! ## Legible strings -/

section legible

variable {d : Dialect}

theorem Lexeme.legible_of_closed {l : Lexeme} (lenient : d.refuseQuotedName = false)
    (closed : Closed [l]) : l.Legible d :=
  ⟨closed, fun refuse => by simp [lenient] at refuse⟩

theorem Modifier.Quotable.legible {m : Modifier} (quotable : m.Quotable)
    (lenient : d.refuseQuotedName = false) : m.EachString (.legible d) :=
  ⟨Lexeme.legible_of_closed lenient (closed_ofText quotable.name),
    fun s hs => closed_ofText (quotable.value s hs)⟩

theorem SearchClause.Quotable.legible {c : SearchClause} (quotable : c.Quotable)
    (lenient : d.refuseQuotedName = false) : c.EachString (.legible d) :=
  ⟨Lexeme.legible_of_closed lenient (closed_ofText quotable.index),
    Lexeme.legible_of_closed lenient (Relation.closed_nameLexeme quotable.relation),
    fun m hm => (quotable.modifiers m hm).legible lenient⟩

theorem PrefixMap.Quotable.legible {map : PrefixMap} (quotable : map.Quotable) :
    map.EachString (.legible d) := by
  intro e he
  obtain ⟨name, identifier⟩ := quotable e he
  exact ⟨fun _ => closed_ofText name, identifier⟩

theorem Node.Quotable.legible {n : Node} (quotable : n.Quotable)
    (lenient : d.refuseQuotedName = false) : n.EachString (.legible d) :=
  Node.Each.mono quotable PrefixMap.Quotable.legible (fun c => c.legible lenient)
    fun mods m hm => (mods m hm).legible lenient

/-- If the two are the same of all strings of a tree, and one of them holds of all, so does the
other. -/
theorem Node.EachString.mpr {n : Node} {a b : Strings} (h : n.EachString (a.iff b))
    (h' : n.EachString b) : n.EachString a := by
  have modifier {m : Modifier} (h : m.EachString (a.iff b)) (h' : m.EachString b) :
      m.EachString a :=
    ⟨h.name.2 h'.name, fun s hs => (h.value s hs).2 (h'.value s hs)⟩
  refine Node.Each.mono (Node.Each.and h h') (fun {p} maps => ?_) (fun {c} clauses => ?_) ?_
  · exact fun e he => ⟨(maps.1 e he).1.2 (maps.2 e he).1, (maps.1 e he).2.2 (maps.2 e he).2⟩
  · obtain ⟨clause, clause'⟩ := clauses
    exact ⟨clause.index.2 clause'.index, clause.relation.2 clause'.relation, fun m hm =>
      modifier (clause.modifiers m hm) (clause'.modifiers m hm)⟩
  · exact fun booleans m hm => modifier (booleans.1 m hm) (booleans.2 m hm)

end legible

namespace Query

/-- A string of a query that was read is printed as one token that decodes to it just if it can be
put in quotes where it has to be, and the dialect does not refuse them around a name. Where quotes
are not refused that is so of all strings if the query was written without backslashes outside of
quotes. -/
theorem decoded_iff_legible {d : Dialect} {text : String} {q : Query}
    (parsed : parse d text = .ok q) :
    q.root.EachString (.iff (.decoded d) (.legible d)) ∧
      (d.refuseQuotedName = false →
        (∀ t ∈ (TokenStream.ofText text).tokens, '\\' ∈ t.text.toList → t.kind = .quoted) →
        q.root.EachString (.decoded d)) := by
  have exact : q.root.EachString (.iff (.decoded d) (.legible d)) :=
    (readable_of_parse parsed).canonical.decoded_iff
  refine ⟨exact, fun lenient inside => exact.mpr ?_⟩
  obtain ⟨-, -, derives⟩ := parse_eq_ok_iff.1 parsed
  have tidy : ∀ t ∈ (TokenStream.ofText text).tokens, t.Tidy := fun t ht =>
    ⟨TokenStream.genuine_of_mem_scan ht, inside t ht⟩
  have quotable : q.root.Quotable := derives.each Grammar.invariant_quotable tidy trivial
  exact quotable.legible lenient

/-- A backslash that takes a quote does no harm to an index or to the value of a modifier. -/
theorem decoded_escaped : ∃ q,
    parse {} ">p=u \"p.a\\\"\" any/m=\"\\\\\" x" = .ok q ∧
      q.root.EachString (.iff (.decoded {}) (.legible {})) ∧ q.root.EachString (.decoded {}) := by
  let q : Query := ⟨.clause (.ofList [("p", "u")])
    ⟨⟨some "p", "a\""⟩, ⟨⟨none, "any"⟩, [⟨⟨none, "m"⟩, some .eq, some "\\\\"⟩]⟩, ⟨"x"⟩⟩, {}⟩
  have parsed : parse {} ">p=u \"p.a\\\"\" any/m=\"\\\\\" x" = .ok q := by decide +kernel
  have inside : ∀ t ∈ (TokenStream.ofText ">p=u \"p.a\\\"\" any/m=\"\\\\\" x").tokens,
      '\\' ∈ t.text.toList → t.kind = .quoted := by decide +kernel
  obtain ⟨exact, all⟩ := decoded_iff_legible parsed
  exact ⟨q, parsed, exact, all rfl inside⟩

/-- The index `a\"b`, read from a word, is printed in quotes that close before its end, and the
index `a"b`, read from a word, in quotes that a strict dialect refuses. -/
theorem not_decoded_word : ∃ q r,
    parse {} "a\\\"b = x" = .ok q ∧ ¬ q.root.EachString (.decoded {}) ∧
    parse { refuseQuotedName := true } "a\"b = x" = .ok r ∧
      ¬ r.root.EachString (.decoded { refuseQuotedName := true }) := by
  let q : Query := ⟨.clause .empty ⟨⟨none, "a\\\"b"⟩, ⟨⟨none, "="⟩, []⟩, ⟨"x"⟩⟩, {}⟩
  let r : Query := ⟨.clause .empty ⟨⟨none, "a\"b"⟩, ⟨⟨none, "="⟩, []⟩, ⟨"x"⟩⟩,
    { refuseQuotedName := true }⟩
  have parsed : parse {} "a\\\"b = x" = .ok q := by decide +kernel
  have parsed_strict : parse { refuseQuotedName := true } "a\"b = x" = .ok r := by decide +kernel
  refine ⟨q, r, parsed, fun all => ?_, parsed_strict, fun all => ?_⟩
  · obtain ⟨t, one, -⟩ := all.2.index
    have cut : tokenize "\"a\\\\\"b\"" =
        .ok [⟨.quoted, "\"a\\\\\"", 0⟩, ⟨.word, "b\"", 5⟩, .finish 7] := by
      decide +kernel
    have printed : Name.display ⟨none, "a\\\"b"⟩ = "\"a\\\\\"b\"" := by decide +kernel
    rw [printed, cut] at one
    simp at one
  · obtain ⟨t, one, decoded⟩ := all.2.index
    have cut : tokenize "\"a\\\"b\"" = .ok [⟨.quoted, "\"a\\\"b\"", 0⟩, .finish 6] := by
      decide +kernel
    have printed : Name.display ⟨none, "a\"b"⟩ = "\"a\\\"b\"" := by decide +kernel
    have refused : (Name.parse { refuseQuotedName := true } "\"a\\\"b\"").toOption = none := by
      decide +kernel
    rw [printed, cut] at one
    simp only [Except.ok.injEq, List.cons.injEq, and_true] at one
    rw [← one.1] at decoded
    simp [decoded, Except.toOption] at refused

end Query

end ContextQuery
