import ContextQuery.Proofs.Query.Forest
import ContextQuery.Proofs.Query.Usage
import ContextQuery.Proofs.Text.Recasing
import Mathlib.Data.List.Forall2

/-!
# Queries in another case

Keywords and names are read in lower case, wherever they stand: where a connective is looked for,
where one is looked out for that would end a clause, where a name is taken in, and where a prefix is
declared. So their case may be changed without changing the tree that is read, as long as no dialect
compares the names of a group of declarations as they are written.

## Main definitions

* `Used.Admits`: a token may stand in the place of another one with its usage.
* `Query.UsedFor`: tokens with an end mark, used as given, make a phrase.

## Main results

* `Grammar.Uses.recase`: what tokens in another case derive.
* `Query.parse_recased`: texts in another case are read as the same tree.
-/

namespace ContextQuery

open Text (SameButCase)

/-! ## Quotes -/

theorem isQuotedText_map_toLower (cs : List Char) :
    isQuotedText (cs.map Char.toLower) = isQuotedText cs := by
  have quote (c : Char) : c.toLower = '"' ↔ c = '"' := Text.toLower_eq_iff rfl
  cases cs with
  | nil => rfl
  | cons c rest =>
    simp only [List.map_cons, isQuotedText, quote, List.getLast?_map]
    cases rest.getLast? <;> simp [quote]

theorem unescapeQuotes_map_toLower (cs : List Char) :
    unescapeQuotes (cs.map Char.toLower) = (unescapeQuotes cs).map Char.toLower := by
  fun_induction unescapeQuotes cs with
  | case1 rest ih =>
    rw [List.map_cons, List.map_cons]
    exact congrArg ('"' :: ·) ih
  | case2 c rest unpaired ih =>
    rw [List.map_cons, List.map_cons, ← ih, unescapeQuotes_cons]
    intro backslash quote
    rw [List.head?_map, Option.map_eq_some_iff] at quote
    obtain ⟨e, head, quote⟩ := quote
    obtain ⟨others, rfl⟩ := List.head?_eq_some_iff.1 head
    exact unpaired others ((Text.toLower_eq_iff rfl).1 backslash)
      (congrArg (· :: others) ((Text.toLower_eq_iff rfl).1 quote))
  | case3 => rfl

theorem unquoteText_map_toLower (cs : List Char) :
    unquoteText (cs.map Char.toLower) = (unquoteText cs).map Char.toLower := by
  have inside : inner (cs.map Char.toLower) = (inner cs).map Char.toLower := by
    rw [inner, inner, List.map_dropLast, List.map_tail]
  rw [unquoteText, unquoteText, isQuotedText_map_toLower, inside, unescapeQuotes_map_toLower]
  split <;> rfl

/-- Declared names are bound in lower case, quoted or not. -/
theorem lowerCase_unquote {s t : String} (h : SameButCase s.toList t.toList) :
    Text.lowerCase (unquote s) = Text.lowerCase (unquote t) := by
  have same : SameButCase (unquoteText s.toList) (unquoteText t.toList) := by
    rw [SameButCase, ← unquoteText_map_toLower, h, unquoteText_map_toLower]
  rw [Text.lowerCase, Text.lowerCase, unquote, unquote, String.toList_ofList, String.toList_ofList,
    same.lower_eq]

/-! ## Tokens -/

namespace Token

/-- The tokens are of one class, and their texts are equal apart from the case of ASCII letters. -/
structure Alike (t t' : Token) : Prop where
  kind : t'.kind = t.kind
  text : SameButCase t'.text.toList t.text.toList

variable {t t' : Token}

theorem Alike.isName (h : Alike t t') : t'.isName = t.isName := by
  rw [Token.isName, h.kind, Token.isName]

theorem Alike.isSign (h : Alike t t') (c : Comparison) : t'.isSign c = t.isSign c := by
  have caseless : ∀ e ∈ c.sign.toList, e.isAlpha = false := by
    cases c <;> decide
  have same : t'.text = c.sign ↔ t.text = c.sign := by
    constructor
    · intro sign
      have text := Eq.symm h.text
      rw [sign] at text
      exact String.toList_injective (SameButCase.eq_of_caseless text caseless)
    · intro sign
      have text := h.text
      rw [sign] at text
      exact String.toList_injective (text.eq_of_caseless caseless)
  simp only [Token.isSign, h.kind, same]

theorem Alike.ofKeyword? (h : Alike t t') :
    Connective.ofKeyword? t'.text = Connective.ofKeyword? t.text := by
  rw [Connective.ofKeyword?, Connective.ofKeyword?, Text.lowerCase, Text.lowerCase,
    h.text.lower_eq]

theorem Alike.isConnective (h : Alike t t') : Reader.isConnective t' = Reader.isConnective t := by
  rw [Reader.isConnective, Reader.isConnective, h.kind, h.ofKeyword?]

theorem Alike.parse (h : Alike t t') (d : Dialect) :
    Name.parse d t'.text = Name.parse d t.text := by
  rw [Name.parse, Name.parse, h.text.lower_eq]

end Token

namespace Grammar

open Reader (atKind atSign endsClause)

variable {ts ts' : List Token}

theorem atKind_alike (h : List.Forall₂ Token.Alike ts ts') (kind : Token.Kind) :
    atKind kind ts' = atKind kind ts := by
  cases h with
  | nil => rfl
  | cons alike => rw [atKind, alike.kind, atKind]

theorem atSign_alike (h : List.Forall₂ Token.Alike ts ts') (c : Comparison) :
    atSign c ts' = atSign c ts := by
  cases h with
  | nil => rfl
  | cons alike => rw [atSign, alike.isSign, atSign]

theorem endsClause_alike (h : List.Forall₂ Token.Alike ts ts') :
    endsClause ts' = endsClause ts := by
  cases h with
  | nil => rfl
  | cons alike => rw [endsClause, alike.isConnective, alike.kind, endsClause]

theorem atConnective_alike (h : List.Forall₂ Token.Alike ts ts') :
    atConnective ts' = atConnective ts := by
  cases h with
  | nil => rfl
  | cons alike => rw [atConnective, alike.isConnective, atConnective]

end Grammar

namespace Used

/-- The token may stand in the place of another one with its usage: a keyword or a name may have
other case, and any other token has the same text. -/
structure Admits (u : Used) (t : Token) : Prop where
  kind : t.kind = u.token.kind
  text : if u.usage.isFolded then SameButCase t.text.toList u.token.text.toList
    else t.text = u.token.text

instance (u : Used) (t : Token) : Decidable (u.Admits t) :=
  decidable_of_iff (t.kind = u.token.kind ∧ if u.usage.isFolded then
    SameButCase t.text.toList u.token.text.toList else t.text = u.token.text)
    ⟨fun h => ⟨h.1, h.2⟩, fun h => ⟨h.1, h.2⟩⟩

variable {u : Used} {t : Token}

theorem Admits.text_eq (h : u.Admits t) (exact : u.usage.isFolded = false) :
    t.text = u.token.text := by
  simpa [exact] using h.text

theorem Admits.alike (h : u.Admits t) : u.token.Alike t := by
  refine ⟨h.kind, ?_⟩
  cases folded : u.usage.isFolded with
  | true => simpa [folded] using h.text
  | false => rw [h.text_eq folded]; exact .refl _

/-- Each token may stand in the place of the used one. -/
abbrev AdmitAll (us : List Used) (ts : List Token) : Prop :=
  List.Forall₂ Admits us ts

theorem alike_of_admitAll {us : List Used} {ts : List Token} (h : AdmitAll us ts) :
    List.Forall₂ Token.Alike (tokens us) ts :=
  List.forall₂_map_left_iff.2 (h.imp fun _ _ => Admits.alike)

/-- A token may stand in its own place. -/
theorem admitAll_tokens (us : List Used) : AdmitAll us (tokens us) := by
  refine List.forall₂_map_right_iff.2 (List.forall₂_same.2 fun u _ => ⟨rfl, ?_⟩)
  split
  · exact .refl _
  · rfl

end Used

/-! ## Derivations -/

namespace Grammar

open Used (AdmitAll alike_of_admitAll)

variable {d : Dialect} {us rest : List Used} {ts : List Token}

theorem UsedModifiers.recase {ms : List Modifier} (h : UsedModifiers d us ms rest)
    (same : AdmitAll us ts) : ∃ ts', AdmitAll rest ts' ∧ Modifiers d ts ms ts' := by
  induction h generalizing ts with
  | done stop => exact ⟨ts, same, .done (by rwa [atKind_alike (alike_of_admitAll same)])⟩
  | bare isSlash isName parsed stop _ ih =>
    obtain _ | ⟨slash, _ | ⟨name, same⟩⟩ := same
    obtain ⟨ts', others, mods⟩ := ih same
    refine ⟨ts', others, .bare (slash.kind.trans isSlash) (name.alike.isName.trans isName)
      ((name.alike.parse d).trans parsed) ?_ mods⟩
    rwa [atKind_alike (alike_of_admitAll same)]
  | valued isSlash isName parsed isComparison isValue _ ih =>
    obtain _ | ⟨slash, _ | ⟨name, _ | ⟨sign, _ | ⟨value, same⟩⟩⟩⟩ := same
    obtain ⟨ts', others, mods⟩ := ih same
    refine ⟨ts', others, ?_⟩
    have whole := Modifiers.valued (slash.kind.trans isSlash) (name.alike.isName.trans isName)
      ((name.alike.parse d).trans parsed) (sign.kind.trans isComparison)
      (value.alike.isName.trans isValue) mods
    rwa [sign.text_eq rfl, value.text_eq rfl] at whole

/-- Declarations in another case bind the same names to the same identifiers. -/
theorem UsedDeclarations.recase {ds : DeclarationGroup} (h : UsedDeclarations us ds rest)
    (same : AdmitAll us ts) : ∃ ts' ds', AdmitAll rest ts' ∧ Declarations ts ds' ts' ∧
      bindings ds' = bindings ds ∧ (ds' = [] ↔ ds = []) := by
  suffices ∃ ts' ds', AdmitAll rest ts' ∧ Declarations ts ds' ts' ∧
      (ds'.map fun e => (Text.lowerCase e.1, e.2)) = ds.map fun e => (Text.lowerCase e.1, e.2) by
    obtain ⟨ts', ds', others, group, eq⟩ := this
    refine ⟨ts', ds', others, group, congrArg PrefixMap.ofList eq, ?_⟩
    rw [← List.map_eq_nil_iff, eq, List.map_eq_nil_iff]
  induction h generalizing ts with
  | done stop => exact ⟨ts, [], same, .done (by rwa [atSign_alike (alike_of_admitAll same)]), rfl⟩
  | named opens isName isSign isIdentifier _ ih =>
    obtain _ | ⟨opening, _ | ⟨name, _ | ⟨sign, _ | ⟨identifier, same⟩⟩⟩⟩ := same
    obtain ⟨ts', ds', others, group, eq⟩ := ih same
    refine ⟨ts', _, others, .named ((opening.alike.isSign _).trans opens)
      (name.alike.isName.trans isName) ((sign.alike.isSign _).trans isSign)
      (identifier.alike.isName.trans isIdentifier) group, ?_⟩
    rw [List.map_cons, List.map_cons, eq, lowerCase_unquote name.alike.text,
      identifier.text_eq rfl]
  | unnamed opens isIdentifier stop _ ih =>
    obtain _ | ⟨opening, _ | ⟨identifier, same⟩⟩ := same
    obtain ⟨ts', ds', others, group, eq⟩ := ih same
    refine ⟨ts', _, others, .unnamed ((opening.alike.isSign _).trans opens)
      (identifier.alike.isName.trans isIdentifier) ?_ group, ?_⟩
    · rwa [atSign_alike (alike_of_admitAll same)]
    · rw [List.map_cons, List.map_cons, eq, identifier.text_eq rfl]

theorem ReadsTerm.recase {t t' : Token} {value : Term} (h : ReadsTerm d t value)
    (same : Used.Admits ⟨t, .term⟩ t') : ReadsTerm d t' value := by
  obtain ⟨notLeft, notRight, parsed⟩ := h
  refine ⟨?_, ?_, ?_⟩
  · rwa [same.kind]
  · rwa [same.kind]
  · rwa [same.text_eq rfl]

theorem UsedClause.recase {c : SearchClause} (h : UsedClause d us c rest)
    (same : AdmitAll us ts) : ∃ ts', AdmitAll rest ts' ∧ Clause d ts c ts' := by
  cases h with
  | full isName goesOn index_parsed isRelation relation_parsed mods term =>
    obtain _ | ⟨index, _ | ⟨relation, same⟩⟩ := same
    obtain ⟨ts', others, mods⟩ := mods.recase same
    obtain _ | ⟨read, others⟩ := others
    refine ⟨_, others, .full (index.alike.isName.trans isName) ?_
      ((index.alike.parse d).trans index_parsed) ?_
      ((relation.alike.parse d).trans relation_parsed) mods (term.recase read)⟩
    · rwa [endsClause_alike (.cons relation.alike (alike_of_admitAll same))]
    · rwa [relation.alike.isName, relation.kind]
  | short ends stop term =>
    obtain _ | ⟨read, others⟩ := same
    refine ⟨_, others, .short ?_ ?_ (term.recase read)⟩
    · rwa [endsClause_alike (alike_of_admitAll others)]
    · rwa [atKind_alike (alike_of_admitAll others)]

/-- Tokens in another case derive the tree of the phrase. -/
theorem Uses.recase {limit opens : ℕ∞} {part : Phrase.Part} {p : Phrase}
    (h : Uses d limit part opens us p rest) (lenient : d.refuseDuplicatePrefix = false)
    (same : AdmitAll us ts) :
    ∃ ts', AdmitAll rest ts' ∧ Derives d limit part.toGrammar opens ts p.node ts' := by
  -- Neither names as they are written nor reserved names are looked at.
  have distinct (ds : DeclarationGroup) : Distinct d ds := by simp [Distinct, lenient]
  have declarable (map : PrefixMap) : Declarable d map := by simp [Declarable, lenient]
  induction h generalizing ts with
  | group isLeft _ isRight ih =>
    obtain _ | ⟨left, same⟩ := same
    obtain ⟨ts', others, inner⟩ := ih same
    obtain _ | ⟨right, others⟩ := others
    exact ⟨_, others, .group (left.kind.trans isLeft) inner (right.kind.trans isRight)⟩
  | clause reads =>
    obtain ⟨ts', others, reads⟩ := reads.recase same
    exact ⟨ts', others, .clause reads⟩
  | declared group nonempty _ _ _ ih =>
    obtain ⟨ts₁, ds', same, group, bound, empty⟩ := group.recase same
    obtain ⟨ts', others, inner⟩ := ih same
    refine ⟨ts', others, ?_⟩
    have whole := Derives.declared group (mt empty.1 nonempty) (distinct ds') inner
      (declarable (bindings ds'))
    rwa [bound] at whole
  | done stop => exact ⟨ts, same, .done (by rwa [atConnective_alike (alike_of_admitAll same)])⟩
  | joined isWord isKeyword mods _ bounded _ ih_operand ih_more =>
    obtain _ | ⟨word, same⟩ := same
    obtain ⟨ts₁, same, mods⟩ := mods.recase same
    obtain ⟨ts₂, same, operand⟩ := ih_operand same
    obtain ⟨ts', others, more⟩ := ih_more same
    exact ⟨ts', others, .joined (word.kind.trans isWord) (word.alike.ofKeyword?.trans isKeyword)
      mods operand bounded more⟩
  | query open_le group _ _ _ _ ih_operand ih_more =>
    obtain ⟨ts₁, ds', same, group, bound, -⟩ := group.recase same
    obtain ⟨ts₂, same, operand⟩ := ih_operand same
    obtain ⟨ts', others, more⟩ := ih_more same
    refine ⟨ts', others, ?_⟩
    have whole := Derives.query open_le group (distinct ds') operand more
      (declarable (bindings ds'))
    rwa [bound] at whole

end Grammar

/-! ## Texts -/

namespace Query

open Used (tokens lettersOf AdmitAll)

/-- The tokens of a text, with its end mark, are used as given in reading it as the phrase. -/
def UsedFor (d : Dialect) (us : List Used) (p : Phrase) : Prop :=
  ∃ body mark, us = body ++ [⟨mark, .mark⟩] ∧ mark.isFinish ∧
    Grammar.Uses d d.maxDepth .query d.maxDepth body p []

variable {d : Dialect} {text : String} {ts : List Token} {us : List Used} {p : Phrase} {q : Query}

theorem exists_usedFor (lexed : tokenize text = .ok ts) (parsed : parse d text = .ok q) :
    ∃ us p, tokens us = ts ∧ UsedFor d us p := by
  obtain ⟨-, rfl⟩ := tokenize_eq_ok.1 lexed
  obtain ⟨-, -, derives⟩ := parse_eq_ok_iff.1 parsed
  obtain ⟨us, p, eq, -, uses⟩ := derives.uses (f := .query) rfl
  let mark : Token := .finish (TokenStream.ofText text).length
  refine ⟨us ++ [⟨mark, .mark⟩], p, ?_, us, mark, rfl, rfl, by simpa using uses [] rfl⟩
  simp [eq, mark]

/-- Tokens in another case are read as the tree of the phrase. -/
theorem UsedFor.parse (h : UsedFor d us p) (lenient : d.refuseDuplicatePrefix = false)
    (lexed : tokenize text = .ok ts) (same : AdmitAll us ts) :
    Query.parse d text = .ok ⟨p.node, d⟩ := by
  obtain ⟨body, mark, rfl, -, uses⟩ := h
  obtain ⟨closed, rfl⟩ := tokenize_eq_ok.1 lexed
  have length := same.length_eq
  have ahead : AdmitAll body (TokenStream.ofText text).tokens := by
    have front := List.forall₂_take_append _ _ _ same
    rw [List.take_left'] at front
    · exact front
    · simpa using length
  obtain ⟨_, _ | _, derives⟩ := uses.recase lenient ahead
  exact parse_eq_ok_iff.2 ⟨rfl, closed, derives⟩

theorem UsedFor.stored_eq (h : UsedFor d us p) {usage : Usage} (kept : usage.isKept = true) :
    lettersAll (p.stored usage) = lettersOf usage us := by
  obtain ⟨body, mark, rfl, -, uses⟩ := h
  have stored : lettersOf usage body = lettersAll (p.stored usage) ++ [] := uses.stored_eq kept
  have unused : lettersOf usage [⟨mark, .mark⟩] = [] := by
    cases usage <;> cases kept <;> rfl
  rw [Used.lettersOf_append, stored, unused, List.append_nil, List.append_nil]

/-- Case does not matter in keywords and names. The tokens of a text that is read are used for the
tree in some way; another text that differs from it only in the case of connectives, indexes,
relations, types of modifiers and names of prefixes is read as the same tree, with the same nodes at
the same places. What is used as a term, a value or an identifier keeps its letters as they are. -/
theorem parse_recased (lenient : d.refuseDuplicatePrefix = false) (lexed : tokenize text = .ok ts)
    (parsed : parse d text = .ok q) :
    (∃ us p, tokens us = ts ∧ UsedFor d us p) ∧
    ∀ us p, tokens us = ts → UsedFor d us p → p.node = q.root ∧
      (∀ text' ts', tokenize text' = .ok ts' → AdmitAll us ts' → parse d text' = .ok q ∧
        ∃ a, arena d text = .ok a ∧ arena d text' = .ok a) ∧
      (∀ usage, usage.isKept = true → lettersAll (p.stored usage) = lettersOf usage us) ∧
      (∀ usage ≠ .identifier, q.root.stored usage = p.stored usage) ∧
      q.root.Each (fun map => ∀ entry ∈ map.entries, entry.2 ∈ p.stored .identifier)
        (fun _ => True) fun _ => True := by
  refine ⟨exists_usedFor lexed parsed, ?_⟩
  rintro us p rfl used
  obtain rfl : ⟨p.node, d⟩ = q := by
    have itself := used.parse lenient lexed (Used.admitAll_tokens us)
    exact Except.ok.inj (itself.symm.trans parsed)
  refine ⟨rfl, fun text' ts' lexed' same => ?_, fun usage => used.stored_eq, fun usage other =>
    p.stored_node other, p.each_identifier⟩
  have parsed' := used.parse lenient lexed' same
  refine ⟨parsed', p.node.arena, ?_, ?_⟩
  · rw [arena_eq, parsed]
    rfl
  · rw [arena_eq, parsed']
    rfl

/-- Only the identifier and the terms are written alike in both texts. -/
theorem parse_recased_names :
    let text := ">Dc=Uri DC.Title=Two AND b"
    let text' := ">dC=Uri dc.tITLE=Two and b"
    ∃ q a, parse {} text = .ok q ∧ parse {} text' = .ok q ∧ arena {} text = .ok a ∧
      arena {} text' = .ok a ∧ q.root.stored .term = ["Two", "b"] := by
  intro text text'
  let title : SearchClause := ⟨⟨some "dc", "title"⟩, ⟨⟨none, "="⟩, []⟩, ⟨"Two"⟩⟩
  let p : Phrase := .declared [("Dc", "Uri")]
    (.joined ⟨.and, []⟩ (.clause title) (.clause (.serverChoice {} ⟨"b"⟩)))
  let us : List Used := [
    ⟨⟨.comparison, ">", 0⟩, .mark⟩, ⟨⟨.word, "Dc", 1⟩, .prefixName⟩, ⟨⟨.comparison, "=", 3⟩, .mark⟩,
    ⟨⟨.word, "Uri", 4⟩, .identifier⟩, ⟨⟨.word, "DC.Title", 8⟩, .index⟩,
    ⟨⟨.comparison, "=", 16⟩, .relation⟩, ⟨⟨.word, "Two", 17⟩, .term⟩,
    ⟨⟨.word, "AND", 21⟩, .connective⟩, ⟨⟨.word, "b", 25⟩, .term⟩, ⟨.finish 26, .mark⟩]
  have lexed : tokenize text = .ok (tokens us) := by decide +kernel
  have parsed : parse {} text = .ok ⟨p.node, {}⟩ := by decide +kernel
  have first : Grammar.UsedClause {} ((us.take 9).drop 4) title ((us.take 9).drop 7) :=
    .full rfl (by decide) rfl rfl rfl (.done rfl) ⟨by decide, by decide, rfl⟩
  have last : Grammar.UsedClause {} ((us.take 9).drop 8) (.serverChoice {} ⟨"b"⟩) [] :=
    .short rfl rfl ⟨by decide, by decide, rfl⟩
  have used : UsedFor {} us p := by
    refine ⟨us.take 9, .finish 26, rfl, rfl, ?_⟩
    have room : (0 : ℕ∞) + 1 ≤ ({} : Dialect).maxDepth := Nat.cast_le.2 (by decide)
    refine .query room (.named rfl rfl rfl rfl (.done rfl)) nofun (.clause first) ?_ nofun
    exact .joined rfl (by decide) (.done rfl) (.clause last) (Nat.cast_le.2 (by decide)) (.done rfl)
  obtain ⟨-, alike⟩ := parse_recased (d := {}) rfl lexed parsed
  obtain ⟨-, recased, -, stored, -⟩ := alike us p rfl used
  obtain ⟨parsed', a, arena, arena'⟩ := recased text' [
    ⟨.comparison, ">", 0⟩, ⟨.word, "dC", 1⟩, ⟨.comparison, "=", 3⟩, ⟨.word, "Uri", 4⟩,
    ⟨.word, "dc.tITLE", 8⟩, ⟨.comparison, "=", 16⟩, ⟨.word, "Two", 17⟩, ⟨.word, "and", 21⟩,
    ⟨.word, "b", 25⟩, .finish 26] (by decide +kernel) (by decide +kernel)
  exact ⟨_, a, parsed, parsed', arena, arena', stored .term (by decide)⟩

end Query

end ContextQuery
