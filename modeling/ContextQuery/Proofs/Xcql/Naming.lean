import ContextQuery.Proofs.Query.ContextSets
import ContextQuery.Proofs.Text.Trimming

/-!
# Names in the XML form

The XML form of a query holds the full name of each index, relation and modifier type as the text of
an element. The reader of XCQL trims that text and then reads it as it would read a token: it takes
quotes off once more, and refuses a modifier type of which nothing is left. So a name keeps its
identity just if there is nothing to take off. That is not so of every quoted name; words have
neither blanks nor quotes at their ends, so in a dialect that refuses quoted names all names are
kept.

## Main definitions

* `Name.Kept`, `Modifier.Kept`: the name is read back from its full name.
* `Name.Undressed`, `Modifier.Undressed`: nothing would be taken off the full name.

## Main results

* `Query.names_kept_iff`: which names of a query keep their identity.
-/

namespace ContextQuery

/-! ## Lengths -/

theorem length_unescapeQuotes_le (cs : List Char) : (unescapeQuotes cs).length ≤ cs.length := by
  fun_induction unescapeQuotes cs <;> grind

/-- Taking quotes off makes a text shorter. -/
theorem length_unquoteText_lt {cs : List Char} (quoted : isQuotedText cs = true) :
    (unquoteText cs).length < cs.length := by
  have shorter := length_unescapeQuotes_le (inner cs)
  cases cs with
  | nil => simp [isQuotedText] at quoted
  | cons c cs =>
    rw [unquoteText, if_pos quoted]
    simp only [inner, List.tail_cons, List.length_dropLast, List.length_cons] at *
    omega

theorem length_unquoteText_le (cs : List Char) : (unquoteText cs).length ≤ cs.length := by
  by_cases quoted : isQuotedText cs = true
  · exact (length_unquoteText_lt quoted).le
  · rw [unquoteText, if_neg quoted]

/-! ## Names that are kept -/

/-- The name is read back from the text that stands for it. -/
def Name.Kept (d : Dialect) (n : Name) : Prop :=
  Name.parse d (Text.trim n.fullName) = .ok n

/-- The full name has no blanks at its ends and no quotes around it. -/
structure Name.Undressed (n : Name) : Prop where
  trimmed : Text.trim n.fullName = n.fullName
  bare : isQuotedText n.fullName.toList = false

/-- The type is read back from the text that stands for it, which is not refused for being empty. -/
structure Modifier.Kept (d : Dialect) (m : Modifier) : Prop where
  name : m.name.Kept d
  nonempty : Text.trim m.name.fullName ≠ ""

/-- The full name of the type has no blanks at its ends and no quotes around it, and is not
empty. -/
structure Modifier.Undressed (m : Modifier) : Prop where
  name : m.name.Undressed
  nonempty : m.name.fullName ≠ ""

theorem Name.Canonical.kept_iff {d : Dialect} {n : Name} (canonical : n.Canonical) :
    n.Kept d ↔ n.Undressed := by
  constructor
  · intro kept
    -- What is taken off a text would be missing from the name.
    have full := (canonical_of_parse kept).2
    have settled : ∀ c ∈ (Text.trim n.fullName).toList, Text.Settled c := fun c hc =>
      canonical.settled c ((Text.trimmed_sublist _).subset (by rwa [← Text.toList_trim]))
    rw [Text.lower_eq_self settled] at full
    have length := congrArg List.length full
    have shorter := length_unquoteText_le (Text.trim n.fullName).toList
    have trimmed : Text.trim n.fullName = n.fullName := Text.trim_eq_self_of_length (by omega)
    refine ⟨trimmed, Bool.eq_false_iff.2 fun quoted => ?_⟩
    rw [trimmed] at length
    have := length_unquoteText_lt quoted
    omega
  · rintro ⟨trimmed, bare⟩
    rw [Kept, trimmed]
    refine parse_of_unquote canonical canonical.settled ?_ fun quoted => ?_
    · rw [unquote, unquoteText, if_neg (by simp [bare]), String.ofList_toList]
    · simp [bare] at quoted

theorem Modifier.Readable.kept_iff {d : Dialect} {m : Modifier} (readable : m.Readable) :
    m.Kept d ↔ m.Undressed := by
  constructor
  · rintro ⟨name, nonempty⟩
    have undressed := readable.name.kept_iff.1 name
    exact ⟨undressed, undressed.trimmed ▸ nonempty⟩
  · rintro ⟨undressed, nonempty⟩
    exact ⟨readable.name.kept_iff.2 undressed, undressed.trimmed.symm ▸ nonempty⟩

/-! ## Names read from words -/

/-- The token has the shape of its class, it is not empty, and it has blanks only between quotes. -/
structure Token.Compact (t : Token) : Prop extends t.Genuine where
  nonempty : t.text ≠ ""
  visible : t.kind ≠ .quoted → ∀ c ∈ t.text.toList, Text.isBlank c = false

theorem isBlank_of_continuesWord {c : Char} (h : continuesWord c = true) :
    Text.isBlank c = false := by
  simp only [continuesWord, Bool.or_eq_true, decide_eq_true_eq] at h
  rcases h with isWord | rfl
  · exact isBlank_of_isWordChar isWord
  · decide

theorem Token.Shape.visible {kind : Kind} {text after : List Char} (h : Shape kind text after)
    (other : kind ≠ .quoted) : ∀ c ∈ text, Text.isBlank c = false := by
  cases h with
  | quoted => exact absurd rfl other
  | word starts continues =>
    refine List.forall_mem_cons.2 ⟨isBlank_of_isWordChar starts, fun c hc => ?_⟩
    exact isBlank_of_continuesWord (continues c hc)
  | @comparison s => cases s <;> decide
  | leftParen | rightParen | slash => decide
  | other visible => simpa using visible

theorem TokenStream.compact_of_mem_scan {position : Nat} {cs : List Char} {t : Token}
    (h : t ∈ (scan position cs).tokens) : t.Compact := by
  refine ⟨genuine_of_mem_scan h, text_ne_empty_of_mem_scan h, fun other => ?_⟩
  obtain ⟨text, after, shape, eq⟩ := shape_of_mem_scan h
  rw [eq, String.toList_ofList]
  exact shape.visible other

/-- Where quoted names are refused, nothing would be taken off a name. -/
theorem Token.Compact.undressed {d : Dialect} {t : Token} {n : Name} (compact : t.Compact)
    (refuse : d.refuseQuotedName = true) (parsed : Name.parse d t.text = .ok n) :
    n.Undressed ∧ n.fullName ≠ "" := by
  obtain ⟨unquoted, full⟩ := compact.fullName_of_parse refuse parsed
  have visible : ∀ c ∈ n.fullName.toList, Text.isBlank c = false := by
    rw [full, Text.lowerCase, String.toList_ofList]
    exact Text.isBlank_of_mem_lower (compact.visible unquoted)
  refine ⟨⟨Text.trim_eq_self visible, Bool.eq_false_iff.2 fun quoted => ?_⟩, ?_⟩
  · rw [full, Text.lowerCase, String.toList_ofList] at quoted
    simp [Name.parse, quoted, refuse] at parsed
  · rw [full]
    exact Text.lowerCase_ne_empty compact.nonempty

/-! ## All names of a query -/

/-- Holds of the index and the relation, and of the modifiers. -/
def SearchClause.EachName (names : Name → Prop) (modifiers : Modifier → Prop)
    (c : SearchClause) : Prop :=
  names c.index ∧ names c.relation.name ∧ ∀ m ∈ c.relation.modifiers, modifiers m

/-- Holds of all indexes and relations of the tree, and of all modifiers. -/
def Node.EachName (names : Name → Prop) (modifiers : Modifier → Prop) : Node → Prop :=
  Node.Each (fun _ => True) (SearchClause.EachName names modifiers)
    fun b => ∀ m ∈ b.modifiers, modifiers m

/-- Modus ponens for all names of a tree. -/
theorem Node.EachName.mpr {n : Node} {names names' : Name → Prop}
    {modifiers modifiers' : Modifier → Prop}
    (h : n.EachName (fun n => names n ↔ names' n) fun m => modifiers m ↔ modifiers' m)
    (h' : n.EachName names' modifiers') : n.EachName names modifiers := by
  refine Node.Each.mono (Node.Each.and h h') (fun _ => trivial) (fun {c} clauses => ?_) ?_
  · obtain ⟨⟨index, relation, mods⟩, index', relation', mods'⟩ := clauses
    exact ⟨index.2 index', relation.2 relation', fun m hm => (mods m hm).2 (mods' m hm)⟩
  · exact fun booleans m hm => (booleans.1 m hm).2 (booleans.2 m hm)

namespace Grammar

variable {d : Dialect} {ts rest : List Token}

theorem Modifiers.undressed {ms : List Modifier} (h : Modifiers d ts ms rest)
    (refuse : d.refuseQuotedName = true) (compact : ∀ t ∈ ts, t.Compact) :
    ∀ m ∈ ms, m.Undressed := by
  induction h with
  | done => simp
  | @bare _ n _ _ _ _ _ _ parsed _ _ ih | @valued _ n _ _ _ _ _ _ _ _ parsed _ _ _ ih =>
    obtain ⟨name, nonempty⟩ := (compact n (by simp)).undressed refuse parsed
    exact List.forall_mem_cons.2 ⟨⟨name, nonempty⟩, ih fun t ht => compact t (by simp [ht])⟩

theorem Clause.undressed {c : SearchClause} (h : Clause d ts c rest)
    (refuse : d.refuseQuotedName = true) (compact : ∀ t ∈ ts, t.Compact) :
    c.EachName Name.Undressed Modifier.Undressed := by
  cases h with
  | @full i r _ _ _ _ _ _ _ _ _ index_parsed _ relation_parsed mods =>
    have index := (compact i (by simp)).undressed refuse index_parsed
    have relation := (compact r (by simp)).undressed refuse relation_parsed
    exact ⟨index.1, relation.1, mods.undressed refuse fun t ht => compact t (by simp [ht])⟩
  | short =>
    have index : Name.serverChoice.Undressed := ⟨by decide +kernel, by decide⟩
    have relation : ∀ v : Version, Name.Undressed ⟨none, v.impliedRelation⟩ := by
      rintro (_ | _) <;> exact ⟨by decide +kernel, by decide⟩
    exact ⟨index, relation d.version, by simp [SearchClause.serverChoice]⟩

theorem invariant_undressed (refuse : d.refuseQuotedName = true) :
    Invariant d Token.Compact (fun _ => True)
      (SearchClause.EachName Name.Undressed Modifier.Undressed)
      fun b => ∀ m ∈ b.modifiers, m.Undressed where
  empty := trivial
  declare _ _ _ _ := trivial
  clause compact reads := reads.undressed refuse compact
  boolean compact mods := mods.undressed refuse compact

end Grammar

namespace Query

/-- Nothing would be taken off the names of a query whose dialect refuses quoted names. -/
theorem undressed_of_parse {d : Dialect} {text : String} {q : Query}
    (refuse : d.refuseQuotedName = true) (parsed : parse d text = .ok q) :
    q.root.EachName Name.Undressed Modifier.Undressed := by
  obtain ⟨-, -, derives⟩ := parse_eq_ok_iff.1 parsed
  exact derives.each (Grammar.invariant_undressed refuse)
    (fun t ht => TokenStream.compact_of_mem_scan ht) trivial

/-- A name of a query that was read is kept in the XML form just if it has no blanks at its ends and
no quotes around it; the type of a modifier must not be empty either. In a dialect that refuses
quoted names that is so of all names. -/
theorem names_kept_iff {d : Dialect} {text : String} {q : Query} (parsed : parse d text = .ok q) :
    q.root.EachName (fun n => n.Kept d ↔ n.Undressed) (fun m => m.Kept d ↔ m.Undressed) ∧
      (d.refuseQuotedName = true → q.root.EachName (·.Kept d) (·.Kept d)) := by
  have readable := (readable_of_parse parsed).canonical
  have exact : q.root.EachName (fun n => n.Kept d ↔ n.Undressed)
      (fun m => m.Kept d ↔ m.Undressed) := by
    refine Node.Each.mono readable (fun _ => trivial) (fun c => ?_) fun b m hm => (b m hm).kept_iff
    exact ⟨c.index.kept_iff, c.relation.kept_iff, fun m hm => (c.modifiers m hm).kept_iff⟩
  exact ⟨exact, fun refuse => exact.mpr (undressed_of_parse refuse parsed)⟩

/-- A quoted index with a blank inside, and a modifier, are kept; so are the names of a strict
dialect. -/
theorem names_kept_quoted : ∃ q r,
    parse {} "\"a b\" any/\"m\" x" = .ok q ∧
      q.root.EachName (fun n => n.Kept {} ↔ n.Undressed) (fun m => m.Kept {} ↔ m.Undressed) ∧
    parse .strict "a any/m=1 x" = .ok r ∧ r.root.EachName (·.Kept .strict) (·.Kept .strict) := by
  let q : Query := ⟨.clause .empty
    ⟨⟨none, "a b"⟩, ⟨⟨none, "any"⟩, [⟨⟨none, "m"⟩, none, none⟩]⟩, ⟨"x"⟩⟩, {}⟩
  let r : Query := ⟨.clause .empty
    ⟨⟨none, "a"⟩, ⟨⟨none, "any"⟩, [⟨⟨none, "m"⟩, some .eq, some "1"⟩]⟩, ⟨"x"⟩⟩, .strict⟩
  have parsed : parse {} "\"a b\" any/\"m\" x" = .ok q := by decide +kernel
  have parsed_strict : parse .strict "a any/m=1 x" = .ok r := by decide +kernel
  exact ⟨q, r, parsed, (names_kept_iff parsed).1, parsed_strict,
    (names_kept_iff parsed_strict).2 rfl⟩

/-- Blanks at the ends of a quoted index are lost, and so are quotes inside its quotes; a modifier
with an empty type is refused. -/
theorem names_not_kept : ∃ q r s,
    parse {} "\" a\" = x" = .ok q ∧ ¬ q.root.EachName (·.Kept {}) (·.Kept {}) ∧
    parse {} "\"\\\"a\\\"\" = x" = .ok r ∧ ¬ r.root.EachName (·.Kept {}) (·.Kept {}) ∧
    parse {} "a =/\"\" b" = .ok s ∧ ¬ s.root.EachName (·.Kept {}) (·.Kept {}) := by
  let q : Query := ⟨.clause .empty ⟨⟨none, " a"⟩, ⟨⟨none, "="⟩, []⟩, ⟨"x"⟩⟩, {}⟩
  let r : Query := ⟨.clause .empty ⟨⟨none, "\"a\""⟩, ⟨⟨none, "="⟩, []⟩, ⟨"x"⟩⟩, {}⟩
  let s : Query := ⟨.clause .empty
    ⟨⟨none, "a"⟩, ⟨⟨none, "="⟩, [⟨⟨none, ""⟩, none, none⟩]⟩, ⟨"b"⟩⟩, {}⟩
  have parsed_blank : parse {} "\" a\" = x" = .ok q := by decide +kernel
  have parsed_quotes : parse {} "\"\\\"a\\\"\" = x" = .ok r := by decide +kernel
  have parsed_empty : parse {} "a =/\"\" b" = .ok s := by decide +kernel
  have blank : Name.parse {} (Text.trim " a") ≠ .ok ⟨none, " a"⟩ := by decide +kernel
  have quotes : Name.parse {} (Text.trim "\"a\"") ≠ .ok ⟨none, "\"a\""⟩ := by decide +kernel
  have empty : Text.trim "" = "" := by decide +kernel
  refine ⟨q, r, s, parsed_blank, fun kept => blank kept.2.1, parsed_quotes,
    fun kept => quotes kept.2.1, parsed_empty, fun kept => ?_⟩
  exact (kept.2.2.2 _ List.mem_cons_self).nonempty empty

end Query

end ContextQuery
