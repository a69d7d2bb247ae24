import ContextQuery.Proofs.Query.Phrase
import ContextQuery.Proofs.Query.Readable
import ContextQuery.Proofs.Term

/-!
# What tokens are used for

A token of a query is a keyword, a part of a name, something that is stored as it stands, or a mark
that only holds the others together. Which of these it is cannot be told from the token: `and` may
be a term or a connective. So the grammar is repeated here over tokens with their usage, and a text
that is read can be derived with usages.

Terms, values of modifiers and identifiers stand in the query as they were written, in the order of
the text; only the quotes around them and the backslashes before quotes are gone.

## Main definitions

* `Usage`: what a token is used for.
* `Grammar.Uses`: the grammar, with usages.
* `Phrase.stored`: the strings of a phrase that come from tokens of a usage.

## Main results

* `Grammar.Derives.uses`: what derives a node can be used for it.
* `Grammar.Uses.stored_eq`: what is stored are the letters of the tokens.
-/

namespace ContextQuery

open Text (isEscaping)

/-! ## Letters -/

/-- The characters of a text but the quotes and backslashes. -/
def letters (cs : List Char) : List Char :=
  cs.filter (!isEscaping ·)

@[simp] theorem letters_append (cs ds : List Char) :
    letters (cs ++ ds) = letters cs ++ letters ds :=
  List.filter_append ..

theorem letters_cons (c : Char) (cs : List Char) :
    letters (c :: cs) = if isEscaping c then letters cs else c :: letters cs := by
  unfold letters
  rw [List.filter_cons]
  cases isEscaping c <;> rfl

@[simp] theorem letters_quote (cs : List Char) : letters ('"' :: cs) = letters cs :=
  letters_cons '"' cs

@[simp] theorem letters_backslash (cs : List Char) : letters ('\\' :: cs) = letters cs :=
  letters_cons '\\' cs

theorem letters_unescapeQuotes (cs : List Char) : letters (unescapeQuotes cs) = letters cs := by
  fun_induction unescapeQuotes cs with
  | case1 rest ih => simpa using ih
  | case2 c rest _ ih => rw [letters_cons, letters_cons, ih]
  | case3 => rfl

theorem letters_body (cs : List Char) : letters (Term.body cs) = letters cs := by
  by_cases quoted : isQuotedText cs = true
  · obtain ⟨inside, rfl⟩ := Term.isQuotedText_iff.1 quoted
    rw [Term.body, if_pos quoted, inner_quoted, List.cons_append, letters_quote, letters_append]
    exact (List.append_nil _).symm
  · rw [Term.body, if_neg quoted]

theorem letters_readEscapes {cs value : List Char} (read : Term.readEscapes cs = some value) :
    letters value = letters cs := by
  fun_induction Term.readEscapes cs generalizing value with
  | case1 =>
    cases read
    rfl
  | case2 => cases read
  | case3 rest ih =>
    obtain ⟨value, more, rfl⟩ := Option.map_eq_some_iff.1 read
    simpa using ih more
  | case4 e rest _ _ ih =>
    obtain ⟨value, more, rfl⟩ := Option.map_eq_some_iff.1 read
    rw [letters_backslash, letters_backslash, letters_cons, letters_cons, ih more]
  | case5 => cases read
  | case6 c rest _ ih =>
    obtain ⟨value, more, rfl⟩ := Option.map_eq_some_iff.1 read
    rw [letters_cons, letters_cons, ih more]

/-- A name, value or identifier token stands for a text with its letters. -/
theorem letters_unquote (s : String) : letters (unquote s).toList = letters s.toList := by
  have whole := letters_body s.toList
  unfold Term.body at whole
  rw [unquote, String.toList_ofList, unquoteText]
  split
  · rename_i quoted
    rw [if_pos quoted] at whole
    rw [letters_unescapeQuotes, whole]
  · rfl

/-- A token is read as a term with its letters. -/
theorem letters_term {d : Dialect} {raw : String} {t : Term} (read : Term.parse d raw = .ok t) :
    letters t.value.toList = letters raw.toList := by
  obtain ⟨-, -, escapes, -⟩ := Term.parse_eq_ok.1 read
  rw [letters_readEscapes escapes, letters_body]

/-! ## Usages -/

/-- What a token is used for. -/
inductive Usage where
  | connective | index | relation | modifier | prefixName
  | term | value | identifier
  /-- The token holds others together: a parenthesis, a slash, a sign that is no relation. -/
  | mark
  deriving DecidableEq

namespace Usage

/-- The token is a keyword, or the name of something. -/
def isFolded : Usage → Bool
  | connective | index | relation | modifier | prefixName => true
  | term | value | identifier | mark => false

/-- The token is stored as it stands. -/
def isKept : Usage → Bool
  | term | value | identifier => true
  | connective | index | relation | modifier | prefixName | mark => false

end Usage

/-- A token with its usage. -/
structure Used where
  token : Token
  usage : Usage

namespace Used

/-- The tokens alone. -/
abbrev tokens (us : List Used) : List Token :=
  us.map Used.token

/-- The letters of the tokens of a usage. -/
def lettersOf (usage : Usage) (us : List Used) : List (List Char) :=
  (us.filter (·.usage = usage)).map (letters ·.token.text.toList)

theorem lettersOf_cons (usage : Usage) (u : Used) (us : List Used) : lettersOf usage (u :: us) =
    if u.usage = usage then letters u.token.text.toList :: lettersOf usage us
    else lettersOf usage us := by
  by_cases same : u.usage = usage <;> simp [lettersOf, same]

theorem lettersOf_append (usage : Usage) (us us' : List Used) :
    lettersOf usage (us ++ us') = lettersOf usage us ++ lettersOf usage us' := by
  rw [lettersOf, List.filter_append, List.map_append, lettersOf, lettersOf]

end Used

namespace Grammar

open Reader (atKind atSign endsClause)
open Used (tokens)

/-- Modifiers, with usages. -/
inductive UsedModifiers (d : Dialect) : List Used → List Modifier → List Used → Prop where
  | done {us : List Used} (stop : atKind .slash (tokens us) = false) : UsedModifiers d us [] us
  | bare {slash n : Token} {name : Name} {us rest : List Used} {ms : List Modifier}
      (isSlash : slash.kind = .slash) (isName : n.isName) (parsed : Name.parse d n.text = .ok name)
      (stop : atKind .comparison (tokens us) = false) (more : UsedModifiers d us ms rest) :
      UsedModifiers d (⟨slash, .mark⟩ :: ⟨n, .modifier⟩ :: us) (⟨name, none, none⟩ :: ms) rest
  | valued {slash n c v : Token} {name : Name} {us rest : List Used} {ms : List Modifier}
      (isSlash : slash.kind = .slash) (isName : n.isName) (parsed : Name.parse d n.text = .ok name)
      (isComparison : c.kind = .comparison) (isValue : v.isName)
      (more : UsedModifiers d us ms rest) :
      UsedModifiers d (⟨slash, .mark⟩ :: ⟨n, .modifier⟩ :: ⟨c, .mark⟩ :: ⟨v, .value⟩ :: us)
        (⟨name, Comparison.ofSign? c.text, some (unquote v.text)⟩ :: ms) rest

/-- Declarations, with usages. -/
inductive UsedDeclarations : List Used → DeclarationGroup → List Used → Prop where
  | done {us : List Used} (stop : atSign .gt (tokens us) = false) : UsedDeclarations us [] us
  | named {opening a sign i : Token} {us rest : List Used} {ds : DeclarationGroup}
      (opens : opening.isSign .gt) (isName : a.isName) (isSign : sign.isSign .eq)
      (isIdentifier : i.isName) (more : UsedDeclarations us ds rest) :
      UsedDeclarations
        (⟨opening, .mark⟩ :: ⟨a, .prefixName⟩ :: ⟨sign, .mark⟩ :: ⟨i, .identifier⟩ :: us)
        ((unquote a.text, unquote i.text) :: ds) rest
  | unnamed {opening i : Token} {us rest : List Used} {ds : DeclarationGroup}
      (opens : opening.isSign .gt) (isIdentifier : i.isName)
      (stop : atSign .eq (tokens us) = false) (more : UsedDeclarations us ds rest) :
      UsedDeclarations (⟨opening, .mark⟩ :: ⟨i, .identifier⟩ :: us) (("", unquote i.text) :: ds)
        rest

/-- A search clause, with usages. -/
inductive UsedClause (d : Dialect) : List Used → SearchClause → List Used → Prop where
  | full {i r t : Token} {index name : Name} {ms : List Modifier} {value : Term}
      {us rest : List Used} (isName : i.isName) (goesOn : endsClause (r :: tokens us) = false)
      (index_parsed : Name.parse d i.text = .ok index)
      (isRelation : r.isName || r.kind = .comparison)
      (relation_parsed : Name.parse d r.text = .ok name)
      (mods : UsedModifiers d us ms (⟨t, .term⟩ :: rest)) (term : ReadsTerm d t value) :
      UsedClause d (⟨i, .index⟩ :: ⟨r, .relation⟩ :: us) ⟨index, ⟨name, ms⟩, value⟩ rest
  | short {t : Token} {value : Term} {rest : List Used} (ends : endsClause (tokens rest) = true)
      (stop : atKind .leftParen (tokens rest) = false) (term : ReadsTerm d t value) :
      UsedClause d (⟨t, .term⟩ :: rest) (.serverChoice d value) rest

/-- The first tokens, used as given, make a phrase and leave the others over. The bounds are those
of `Derives`. -/
inductive Uses (d : Dialect) (limit : ℕ∞) :
    Phrase.Part → ℕ∞ → List Used → Phrase → List Used → Prop where
  | group {later : Bool} {opens : ℕ∞} {t u : Token} {us rest : List Used} {p : Phrase}
      (isLeft : t.kind = .leftParen) (inner : Uses d limit .query opens us p (⟨u, .mark⟩ :: rest))
      (isRight : u.kind = .rightParen) :
      Uses d limit (.operand later) opens (⟨t, .mark⟩ :: us) (.enclosed p) rest
  | clause {later : Bool} {opens : ℕ∞} {us rest : List Used} {c : SearchClause}
      (reads : UsedClause d us c rest) : Uses d limit (.operand later) opens us (.clause c) rest
  | declared {opens : ℕ∞} {us us' rest : List Used} {ds : DeclarationGroup} {p : Phrase}
      (group : UsedDeclarations us ds us') (nonempty : ds ≠ []) (distinct : Distinct d ds)
      (inner : Uses d limit .query opens us' p rest) (declarable : Declarable d (bindings ds)) :
      Uses d limit (.operand true) opens us (.declared ds p) rest
  | done {opens : ℕ∞} {left : Phrase} {us : List Used} (stop : atConnective (tokens us) = false) :
      Uses d limit (.tail left) opens us left us
  | joined {opens : ℕ∞} {left right p : Phrase} {t : Token} {us us' us'' rest : List Used}
      {op : Connective} {ms : List Modifier} (isWord : t.kind = .word)
      (isKeyword : Connective.ofKeyword? t.text = some op) (mods : UsedModifiers d us ms us')
      (operand : Uses d limit (.operand true) opens us' right us'')
      (bounded : (Phrase.joined ⟨op, ms⟩ left right).node.height ≤ limit)
      (more : Uses d limit (.tail (.joined ⟨op, ms⟩ left right)) opens us'' p rest) :
      Uses d limit (.tail left) opens (⟨t, .connective⟩ :: us) p rest
  | query {opens inner : ℕ∞} {us us' us'' rest : List Used} {ds : DeclarationGroup}
      {first p : Phrase} (open_le : inner + 1 ≤ opens) (group : UsedDeclarations us ds us')
      (distinct : Distinct d ds) (operand : Uses d limit (.operand false) inner us' first us'')
      (more : Uses d limit (.tail first) inner us'' p rest)
      (declarable : Declarable d (bindings ds)) :
      Uses d limit .query opens us (.declared ds p) rest

/-! ## Each derivation has usages -/

variable {d : Dialect} {ts rest : List Token}

theorem Modifiers.uses {ms : List Modifier} (h : Modifiers d ts ms rest) :
    ∃ us, ts = tokens us ++ rest ∧
      ∀ others, tokens others = rest → UsedModifiers d (us ++ others) ms others := by
  induction h with
  | done stop => exact ⟨[], rfl, fun others eq => .done (eq ▸ stop)⟩
  | bare isSlash isName parsed stop _ ih =>
    obtain ⟨us, rfl, uses⟩ := ih
    exact ⟨⟨_, .mark⟩ :: ⟨_, .modifier⟩ :: us, rfl, fun others eq =>
      .bare isSlash isName parsed (by simpa [eq] using stop) (uses others eq)⟩
  | valued isSlash isName parsed isComparison isValue _ ih =>
    obtain ⟨us, rfl, uses⟩ := ih
    exact ⟨⟨_, .mark⟩ :: ⟨_, .modifier⟩ :: ⟨_, .mark⟩ :: ⟨_, .value⟩ :: us, rfl, fun others eq =>
      .valued isSlash isName parsed isComparison isValue (uses others eq)⟩

theorem Declarations.uses {ds : DeclarationGroup} (h : Declarations ts ds rest) :
    ∃ us, ts = tokens us ++ rest ∧
      ∀ others, tokens others = rest → UsedDeclarations (us ++ others) ds others := by
  induction h with
  | done stop => exact ⟨[], rfl, fun others eq => .done (eq ▸ stop)⟩
  | named opens isName isSign isIdentifier _ ih =>
    obtain ⟨us, rfl, uses⟩ := ih
    exact ⟨⟨_, .mark⟩ :: ⟨_, .prefixName⟩ :: ⟨_, .mark⟩ :: ⟨_, .identifier⟩ :: us, rfl,
      fun others eq => .named opens isName isSign isIdentifier (uses others eq)⟩
  | unnamed opens isIdentifier stop _ ih =>
    obtain ⟨us, rfl, uses⟩ := ih
    exact ⟨⟨_, .mark⟩ :: ⟨_, .identifier⟩ :: us, rfl, fun others eq =>
      .unnamed opens isIdentifier (by simpa [eq] using stop) (uses others eq)⟩

theorem Clause.uses {c : SearchClause} (h : Clause d ts c rest) :
    ∃ us, ts = tokens us ++ rest ∧
      ∀ others, tokens others = rest → UsedClause d (us ++ others) c others := by
  cases h with
  | @full i r t _ _ _ _ ts _ isName goesOn index_parsed isRelation relation_parsed mods term =>
    obtain ⟨us, rfl, uses⟩ := mods.uses
    refine ⟨⟨i, .index⟩ :: ⟨r, .relation⟩ :: us ++ [⟨t, .term⟩], by simp, ?_⟩
    rintro others rfl
    simp only [List.cons_append, List.append_assoc, List.nil_append]
    exact .full isName (by simpa using goesOn) index_parsed isRelation relation_parsed
      (uses (⟨t, .term⟩ :: others) rfl) term
  | @short t _ rest ends stop term =>
    refine ⟨[⟨t, .term⟩], rfl, ?_⟩
    rintro others rfl
    exact .short ends stop term

/-- What derives a node makes a phrase for it, with usages that do not depend on the tokens left
over. -/
theorem Derives.uses {limit opens : ℕ∞} {part : Part} {n : Node}
    (h : Derives d limit part opens ts n rest) {f : Phrase.Part} (same : f.toGrammar = part) :
    ∃ us p, ts = tokens us ++ rest ∧ p.node = n ∧
      ∀ others, tokens others = rest → Uses d limit f opens (us ++ others) p others := by
  induction h generalizing f with
  | @group _ _ t u _ _ _ isLeft _ isRight ih =>
    cases f <;> cases same
    obtain ⟨us, p, rfl, rfl, uses⟩ := ih (f := .query) rfl
    refine ⟨⟨t, .mark⟩ :: us ++ [⟨u, .mark⟩], .enclosed p, by simp, rfl, fun others eq => ?_⟩
    simp only [List.cons_append, List.append_assoc, List.nil_append]
    exact .group isLeft (uses (⟨u, .mark⟩ :: others) (by simp [eq])) isRight
  | clause reads =>
    cases f <;> cases same
    obtain ⟨us, rfl, uses⟩ := reads.uses
    exact ⟨us, .clause _, rfl, rfl, fun others eq => .clause (uses others eq)⟩
  | declared group nonempty distinct _ declarable ih =>
    cases f <;> cases same
    obtain ⟨us, p, rfl, rfl, uses⟩ := ih (f := .query) rfl
    obtain ⟨us', rfl, named⟩ := group.uses
    refine ⟨us' ++ us, .declared _ p, by simp, rfl, fun others eq => ?_⟩
    rw [List.append_assoc]
    exact .declared (named _ (by simp [eq])) nonempty distinct (uses others eq) declarable
  | done stop =>
    cases f <;> cases same
    exact ⟨[], _, rfl, rfl, fun others eq => .done (eq ▸ stop)⟩
  | @joined _ _ _ _ t _ _ _ _ _ _ isWord isKeyword mods _ bounded _ ih_operand ih_more =>
    cases f <;> cases same
    obtain ⟨us, right, rfl, rfl, operand⟩ := ih_operand (f := .operand true) rfl
    obtain ⟨us', p, rfl, node, more⟩ := ih_more (f := .tail (.joined _ _ right)) rfl
    obtain ⟨us'', rfl, modified⟩ := mods.uses
    refine ⟨⟨t, .connective⟩ :: us'' ++ us ++ us', p, by simp, node, fun others eq => ?_⟩
    simp only [List.cons_append, List.append_assoc]
    exact .joined isWord isKeyword (modified _ (by simp [eq])) (operand _ (by simp [eq])) bounded
      (more others eq)
  | query open_le group distinct _ _ declarable ih_operand ih_more =>
    cases f <;> cases same
    obtain ⟨us, first, rfl, rfl, operand⟩ := ih_operand (f := .operand false) rfl
    obtain ⟨us', p, rfl, rfl, more⟩ := ih_more (f := .tail first) rfl
    obtain ⟨us'', rfl, named⟩ := group.uses
    refine ⟨us'' ++ us ++ us', .declared _ p, by simp, rfl, fun others eq => ?_⟩
    simp only [List.append_assoc]
    exact .query open_le (named _ (by simp [eq])) distinct (operand _ (by simp [eq]))
      (more others eq) declarable

end Grammar

/-! ## What is stored -/

/-- The strings of modifiers that come from tokens of a usage. -/
def Modifier.storedAll (usage : Usage) (ms : List Modifier) : List String :=
  if usage = .value then ms.filterMap (·.value) else []

/-- The strings of a clause that come from tokens of a usage. -/
def SearchClause.stored (usage : Usage) (c : SearchClause) : List String :=
  Modifier.storedAll usage c.relation.modifiers ++ if usage = .term then [c.term.value] else []

/-- The strings of a phrase that come from tokens of a usage, from left to right. Strings that are
folded, or stand for more than the token, do not count. -/
def Phrase.stored (usage : Usage) : Phrase → List String
  | clause c => c.stored usage
  | enclosed p => p.stored usage
  | declared ds p => (if usage = .identifier then ds.map (·.2) else []) ++ p.stored usage
  | joined b l r => l.stored usage ++ (Modifier.storedAll usage b.modifiers ++ r.stored usage)

/-- The strings of the clauses and booleans of a tree that come from tokens of a usage, from left to
right. -/
def Node.stored (usage : Usage) : Node → List String
  | clause _ c => c.stored usage
  | triple _ b l r => l.stored usage ++ (Modifier.storedAll usage b.modifiers ++ r.stored usage)

@[simp] theorem Node.stored_declareMap (usage : Usage) (n : Node) (map : PrefixMap) :
    (n.declareMap map).stored usage = n.stored usage := by
  rw [declareMap_eq]
  cases n <;> rfl

/-- Terms and values of a phrase are those of its tree. -/
theorem Phrase.stored_node {usage : Usage} (h : usage ≠ .identifier) (p : Phrase) :
    p.node.stored usage = p.stored usage := by
  induction p with
  | clause => rfl
  | enclosed _ ih => exact ih
  | declared _ _ ih => simp [node, stored, h, ih]
  | joined _ _ _ ihl ihr => simp [node, stored, Node.stored, ihl, ihr]

/-- The tree of a phrase binds prefixes to identifiers of the phrase. -/
theorem Phrase.each_identifier (p : Phrase) : p.node.Each
    (fun map => ∀ entry ∈ map.entries, entry.2 ∈ p.stored .identifier) (fun _ => True)
    fun _ => True := by
  induction p with
  | clause => exact ⟨nofun, trivial⟩
  | enclosed _ ih => exact ih
  | declared ds p ih =>
    have wider : p.node.Each
        (fun map => ∀ entry ∈ map.entries, entry.2 ∈ (declared ds p).stored .identifier)
        (fun _ => True) fun _ => True :=
      ih.mono (fun h entry mem => List.mem_append_right _ (h entry mem)) id id
    rw [node, Node.declareMap_eq]
    refine wider.withPrefixes fun entry mem => ?_
    rcases PrefixMap.mem_insertAll mem with mem | mem
    · exact wider.prefixes entry mem
    · -- A name of the group is bound to an identifier of the group.
      rcases PrefixMap.mem_insertAll mem with mem | mem
      · cases mem
      · obtain ⟨pair, written, rfl⟩ := List.mem_map.1 mem
        exact List.mem_append_left _ (List.mem_map.2 ⟨pair, written, rfl⟩)
  | joined b l r ihl ihr =>
    refine ⟨nofun, trivial, ihl.mono (fun h entry mem => ?_) id id,
      ihr.mono (fun h entry mem => ?_) id id⟩
    · exact List.mem_append_left _ (h entry mem)
    · exact List.mem_append_right _ (List.mem_append_right _ (h entry mem))

/-- The strings that are there before the part is read. -/
def Phrase.Part.stored (usage : Usage) : Phrase.Part → List String
  | tail left => left.stored usage
  | _ => []

/-- The letters of strings. -/
abbrev lettersAll (strings : List String) : List (List Char) :=
  strings.map fun s => letters s.toList

namespace Grammar

open Used (lettersOf lettersOf_cons)

variable {d : Dialect} {us rest : List Used} {usage : Usage}

theorem UsedModifiers.stored_eq {ms : List Modifier} (h : UsedModifiers d us ms rest)
    (kept : usage.isKept = true) :
    lettersOf usage us = lettersAll (Modifier.storedAll usage ms) ++ lettersOf usage rest := by
  induction h with
  | done => simp [Modifier.storedAll]
  | bare _ _ _ _ _ ih =>
    cases usage <;> cases kept <;> simpa [Modifier.storedAll, lettersOf_cons] using ih
  | valued _ _ _ _ _ _ ih =>
    cases usage <;> cases kept <;>
      simpa [Modifier.storedAll, lettersOf_cons, letters_unquote] using ih

theorem UsedDeclarations.stored_eq {ds : DeclarationGroup} (h : UsedDeclarations us ds rest)
    (kept : usage.isKept = true) : lettersOf usage us =
      lettersAll (if usage = .identifier then ds.map (·.2) else []) ++ lettersOf usage rest := by
  induction h with
  | done => simp
  | named _ _ _ _ _ ih | unnamed _ _ _ _ ih =>
    cases usage <;> cases kept <;> simpa [lettersOf_cons, letters_unquote] using ih

theorem UsedClause.stored_eq {c : SearchClause} (h : UsedClause d us c rest)
    (kept : usage.isKept = true) : lettersOf usage us =
      lettersAll (c.stored usage) ++ lettersOf usage rest := by
  cases h with
  | full _ _ _ _ _ mods term =>
    have stored := mods.stored_eq kept
    have same := letters_term term.2.2
    cases usage <;> cases kept <;>
      simpa [SearchClause.stored, lettersOf_cons, Modifier.storedAll, same] using stored
  | short _ _ term =>
    have same := letters_term term.2.2
    cases usage <;> cases kept <;>
      simp [SearchClause.stored, SearchClause.serverChoice, lettersOf_cons, Modifier.storedAll,
        same]

/-- What a phrase stores are the letters of the tokens, in their order. -/
theorem Uses.stored_eq {limit opens : ℕ∞} {part : Phrase.Part} {p : Phrase}
    (h : Uses d limit part opens us p rest) (kept : usage.isKept = true) :
    lettersAll (part.stored usage) ++ lettersOf usage us =
      lettersAll (p.stored usage) ++ lettersOf usage rest := by
  induction h with
  | group _ _ _ ih =>
    cases usage <;> cases kept <;>
      simpa [Phrase.Part.stored, Phrase.stored, lettersOf_cons] using ih
  | clause reads => exact reads.stored_eq kept
  | @declared _ us us' rest ds p group _ _ _ _ ih =>
    have inner : lettersOf usage us' = lettersAll (p.stored usage) ++ lettersOf usage rest := ih
    simp [Phrase.Part.stored, Phrase.stored, group.stored_eq kept, inner]
  | done => rfl
  | @joined _ left right p t us us' us'' _ _ _ _ _ mods _ _ _ ih_operand ih_more =>
    have keyword : lettersOf usage (⟨t, .connective⟩ :: us) = lettersOf usage us := by
      cases usage <;> cases kept <;> simp [lettersOf_cons]
    have operand : lettersOf usage us' = lettersAll (right.stored usage) ++ lettersOf usage us'' :=
      ih_operand
    rw [← ih_more, keyword, mods.stored_eq kept, operand]
    simp [Phrase.Part.stored, Phrase.stored]
  | @query _ _ us us' us'' rest ds first p _ group _ _ _ _ ih_operand ih_more =>
    have operand : lettersOf usage us' = lettersAll (first.stored usage) ++ lettersOf usage us'' :=
      ih_operand
    have more : lettersAll (first.stored usage) ++ lettersOf usage us'' =
        lettersAll (p.stored usage) ++ lettersOf usage rest := ih_more
    simp [Phrase.Part.stored, Phrase.stored, group.stored_eq kept, operand, more]

end Grammar

end ContextQuery
