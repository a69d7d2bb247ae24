import ContextQuery.Proofs.Query.Rereading

/-!
# What becomes of a part that is printed and read again

Whatever strings a name, a modifier or a clause holds: if its text is read at all, it is read as it
was printed just if its strings are closed by the quotes that were written last. The tokens after
it are then still in step with the lexemes. Otherwise another part is read in its place.

## Main definitions

* `Grammar.modifiers_kept`, `Grammar.clause_kept`: the parts that tell.
* `Grammar.declarations_kept`: declarations, which are told from others only while they are closed.
-/

namespace ContextQuery

/-! ## Tokens -/

theorem Token.Genuine.quotable_of_lexeme {t : Token} {s : String} (genuine : t.Genuine)
    (h : t.lexeme = .quoted s) : Quotable s.toList := by
  obtain ⟨kind, text⟩ := Token.of_lexeme_eq_quoted h
  have quotable := genuine.quotable_unquote kind
  rwa [text, unquote_quote] at quotable

namespace Agrees

variable {l : Lexeme} {ls : List Lexeme} {t : Token} {ts : List Token}

/-- Where a lexeme is due, its token stands, or another string because its own is not closed. -/
theorem head_inv (h : Agrees (l :: ls) (t :: ts) none) : t.Genuine ∧
    (t.lexeme = l ∧ Closed [l] ∧ Agrees ls ts none ∨
      t.kind = .quoted ∧ ∃ s, l = .quoted s ∧ ¬Quotable s.toList) := by
  cases h with
  | cons genuine rest =>
    refine ⟨genuine, .inl ⟨rfl, fun s mem => ?_, rest⟩⟩
    exact genuine.quotable_of_lexeme (List.mem_singleton.1 mem).symm
  | astray broken genuine isQuoted => exact ⟨genuine, .inr ⟨isQuoted, _, rfl, broken⟩⟩

/-- A lexeme without quotes is never missed. -/
theorem head_of_kind (h : Agrees (l :: ls) (t :: ts) none) (kind : l.kind ≠ .quoted) :
    t.lexeme = l ∧ Agrees ls ts none := by
  obtain ⟨-, ⟨eq, -, rest⟩ | ⟨-, s, rfl, -⟩⟩ := h.head_inv
  · exact ⟨eq, rest⟩
  · exact absurd rfl kind

theorem head_of_closed (h : Agrees (l :: ls) (t :: ts) none) (closed : Closed [l]) :
    t.lexeme = l ∧ Agrees ls ts none := by
  obtain ⟨-, ⟨eq, -, rest⟩ | ⟨-, s, rfl, broken⟩⟩ := h.head_inv
  · exact ⟨eq, rest⟩
  · exact absurd (closed_quoted.1 closed) broken

/-- The token has the class of the lexeme. -/
theorem head_kind (h : Agrees (l :: ls) (t :: ts) none) : t.kind = l.kind := by
  obtain ⟨-, ⟨rfl, -, -⟩ | ⟨kind, s, rfl, -⟩⟩ := h.head_inv
  · rfl
  · exact kind

theorem not_nil : ¬Agrees (l :: ls) [] none := by
  rintro ⟨⟩

theorem eq_nil (h : Agrees [] ts none) : ts = [] := by
  cases h
  rfl

end Agrees

/-! ## Parts that do not nest

Each part is read as it was printed, and then all its strings were closed and what follows it is
still in step; or it is read as something else, and then one of its strings was not. -/

/-- A name reads back as itself in any dialect that takes it. -/
theorem Name.Canonical.eq_of_parse {d : Dialect} {t : Token} {l : Lexeme} {n n' : Name}
    (canonical : n.Canonical) (spelled : n.SpelledBy l) (eq : t.lexeme = l)
    (parsed : Name.parse d t.text = .ok n') : n' = n := by
  have lax :=
    canonical.parse_of_spelled (d := { d with refuseQuotedName := false }) nofun spelled eq
  simp only [Name.parse, Bool.and_false, Bool.false_eq_true, reduceIte] at lax parsed
  split at parsed
  · cases parsed
  · rw [lax] at parsed
    cases parsed
    rfl

namespace Grammar

open Reader (atKind atSign endsClause)

variable {d : Dialect} {ls : List Lexeme} {ts rest : List Token} {t : Token}

theorem name_kept {n n' : Name} {l : Lexeme} (canonical : n.Canonical) (spelled : n.SpelledBy l)
    (agrees : Agrees (l :: ls) (t :: ts) none) (parsed : Name.parse d t.text = .ok n') :
    n' = n ∧ t.lexeme = l ∧ Closed [l] ∧ Agrees ls ts none ∨ n' ≠ n ∧ ¬Closed [l] := by
  obtain ⟨genuine, ⟨eq, closed, agrees⟩ | ⟨kind, s, rfl, broken⟩⟩ := agrees.head_inv
  · exact .inl ⟨canonical.eq_of_parse spelled eq parsed, eq, closed, agrees⟩
  · refine .inr ⟨?_, fun closed => broken (closed_quoted.1 closed)⟩
    rintro rfl
    refine broken ?_
    have full : s = n'.fullName := (unquote_quote s).symm.trans spelled.unquote_text
    rw [full, (Name.canonical_of_parse parsed).2]
    exact genuine.quotable_lower kind

theorem value_kept {value : String} (agrees : Agrees (.ofText value :: ls) (t :: ts) none) :
    unquote t.text = value ∧ Closed [.ofText value] ∧ Agrees ls ts none ∨
      unquote t.text ≠ value ∧ ¬Closed [.ofText value] := by
  obtain ⟨genuine, ⟨eq, closed, agrees⟩ | ⟨kind, s, eq, broken⟩⟩ := agrees.head_inv
  · exact .inl ⟨Token.unquote_of_lexeme eq, closed, agrees⟩
  · obtain rfl := Lexeme.eq_of_quoted_eq_ofText eq.symm
    rw [eq, closed_quoted]
    exact .inr ⟨fun same => broken (same ▸ genuine.quotable_unquote kind), broken⟩

theorem term_kept {term term' : Term} (agrees : Agrees (.quoted term.value :: ls) (t :: ts) none)
    (parsed : Term.parse d t.text = .ok term') :
    term' = term ∧ Closed [.quoted term.value] ∧ Agrees ls ts none ∨
      term' ≠ term ∧ ¬Closed [.quoted term.value] := by
  obtain ⟨genuine, ⟨eq, closed, agrees⟩ | ⟨kind, s, eq, broken⟩⟩ := agrees.head_inv
  · rw [(Token.of_lexeme_eq_quoted eq).2] at parsed
    exact .inl ⟨Term.eq_of_parse_display (closed_quoted.1 closed) parsed, closed, agrees⟩
  · obtain rfl := Lexeme.quoted_inj eq
    rw [closed_quoted]
    refine .inr ⟨?_, broken⟩
    rintro rfl
    exact broken (Term.parse_display parsed).2

/-- The last modifier has no value, and a comparison follows. -/
def clash (ms : List Modifier) (ls : List Lexeme) : Bool :=
  ms.getLast?.any (·.value.isNone) && ls.head?.any (·.kind = .comparison)

theorem clash_cons (m : Modifier) (ms : List Modifier) (ls : List Lexeme) :
    clash (m :: ms) ls = (clash [m] (ms.flatMap Modifier.lexemes ++ ls) || clash ms ls) := by
  cases ms with
  | nil => simp [clash]
  | cons => simp [clash, Modifier.lexemes]

theorem atKind_of_agrees (agrees : Agrees ls ts none) (kind : Token.Kind) :
    atKind kind ts = ls.head?.any (·.kind = kind) := by
  cases ls with
  | nil =>
    rw [agrees.eq_nil]
    rfl
  | cons l ls =>
    cases ts with
    | nil => exact absurd agrees Agrees.not_nil
    | cons t ts => simp [atKind, agrees.head_kind]

/-- What is read from a slash: a name first, then a comparison with a value or neither. -/
theorem Modifiers.slash_inv {ms : List Modifier} (h : Modifiers d ts ms rest)
    (slash : atKind .slash ts = true) : ∃ s n ts' name ms', ts = s :: n :: ts' ∧
      Name.parse d n.text = .ok name ∧
      (atKind .comparison ts' = false ∧ ms = ⟨name, none, none⟩ :: ms' ∧ Modifiers d ts' ms' rest ∨
        ∃ c v ts'', ts' = c :: v :: ts'' ∧ c.kind = .comparison ∧
          ms = ⟨name, Comparison.ofSign? c.text, some (unquote v.text)⟩ :: ms' ∧
          Modifiers d ts'' ms' rest) := by
  cases h with
  | done stop => simp [slash] at stop
  | bare _ _ parsed stop more => exact ⟨_, _, _, _, _, rfl, parsed, .inl ⟨stop, rfl, more⟩⟩
  | valued _ _ parsed isComparison _ more =>
    exact ⟨_, _, _, _, _, rfl, parsed, .inr ⟨_, _, _, rfl, isComparison, rfl, more⟩⟩

/-- The first of some modifiers is read as it was printed, unless one of its strings is not closed
or what follows is taken for its value. -/
theorem modifier_kept {m : Modifier} {ms : List Modifier} (readable : m.Readable)
    (agrees : Agrees (m.lexemes ++ ls) ts none) (read : Modifiers d ts ms rest) :
    (∃ ms' ts', ms = m :: ms' ∧ (Closed m.lexemes ∧ clash [m] ls = false) ∧ Agrees ls ts' none ∧
        Modifiers d ts' ms' rest) ∨
      (∀ ms', ms ≠ m :: ms') ∧ ¬(Closed m.lexemes ∧ clash [m] ls = false) := by
  have slash : atKind .slash ts = true := atKind_of_agrees agrees .slash
  obtain ⟨s, n, ts, name', ms', rfl, parsed, forms⟩ := read.slash_inv slash
  obtain ⟨name, comparison, value⟩ := m
  obtain ⟨canonical, whole⟩ := readable
  obtain ⟨-, agrees⟩ := agrees.head_of_kind (by simp)
  obtain ⟨rfl, -, closed, agrees⟩ | ⟨ne, broken⟩ :=
    name_kept canonical canonical.spelledBy_ofText agrees parsed
  swap
  · -- A type that went astray makes it another modifier, whatever is read after it.
    refine .inr ⟨fun ms eq => ?_, fun h => broken (closed_cons.1 (closed_cons.1 h.1).2).1⟩
    rcases forms with ⟨-, eq', -⟩ | ⟨c, v, ts', -, -, eq', -⟩ <;> simp_all
  cases value with
  | none =>
    obtain rfl : comparison = none := by simpa [Modifier.Whole] using whole
    have follows := atKind_of_agrees agrees .comparison
    rcases forms with ⟨stop, rfl, more⟩ | ⟨c, v, ts', rfl, isComparison, rfl, more⟩
    · have clear : clash [⟨name', none, none⟩] ls = false := by
        simpa [clash, stop] using follows.symm
      exact .inl ⟨_, _, rfl, ⟨closed_cons.2 ⟨closed_slash, closed⟩, clear⟩, agrees, more⟩
    · have taken : clash [⟨name', none, none⟩] ls = true := by
        simpa [clash, atKind, isComparison] using follows.symm
      exact .inr ⟨by simp, fun h => by simp [taken] at h⟩
  | some value =>
    obtain ⟨c, rfl⟩ : ∃ c, comparison = some c := by
      simpa [Modifier.Whole, Option.isSome_iff_exists] using whole
    rcases forms with ⟨stop, -, -⟩ | ⟨k, v, ts', rfl, -, rfl, more⟩
    · have sign : atKind .comparison ts = true := atKind_of_agrees agrees .comparison
      simp [stop] at sign
    obtain ⟨sign, agrees⟩ := agrees.head_of_kind (by simp)
    rw [(Token.of_lexeme_eq_sign sign).2, Comparison.ofSign?_sign]
    obtain ⟨rfl, closedValue, agrees⟩ | ⟨ne, broken⟩ := value_kept agrees
    · have closed := closed_cons.2 ⟨closed, closed_cons.2 ⟨closed_sign c, closedValue⟩⟩
      exact .inl ⟨_, _, rfl, ⟨closed_cons.2 ⟨closed_slash, closed⟩, rfl⟩, agrees, more⟩
    · refine .inr ⟨by simp [ne], fun h => broken ?_⟩
      exact (closed_cons.1 (closed_cons.1 (closed_cons.1 h.1).2).2).2

theorem modifiers_kept {ms ms' : List Modifier} (canonical : ∀ m ∈ ms, m.Readable)
    (noSlash : ls.head?.any (·.kind = .slash) = false)
    (agrees : Agrees (ms.flatMap Modifier.lexemes ++ ls) ts none)
    (read : Modifiers d ts ms' rest) :
    ms' = ms ∧ (Closed (ms.flatMap Modifier.lexemes) ∧ clash ms ls = false) ∧
        Agrees ls rest none ∨
      ms' ≠ ms ∧ ¬(Closed (ms.flatMap Modifier.lexemes) ∧ clash ms ls = false) := by
  induction ms generalizing ts ms' with
  | nil =>
    have stop : atKind .slash ts = false := (atKind_of_agrees agrees .slash).trans noSlash
    cases read with
    | done => exact .inl ⟨rfl, ⟨closed_nil, rfl⟩, agrees⟩
    | bare isSlash | valued isSlash => simp [atKind, isSlash] at stop
  | cons m ms ih =>
    obtain ⟨readable, others⟩ := List.forall_mem_cons.1 canonical
    rw [List.flatMap_cons, List.append_assoc] at agrees
    rw [List.flatMap_cons, closed_append, clash_cons, Bool.or_eq_false_iff]
    obtain ⟨ms', ts, rfl, ⟨closed, clear⟩, agrees, more⟩ | ⟨ne, broken⟩ :=
      modifier_kept readable agrees read
    · obtain ⟨rfl, ⟨closed', clear'⟩, agrees⟩ | ⟨ne, broken⟩ := ih others agrees more
      · exact .inl ⟨rfl, ⟨⟨closed, closed'⟩, clear, clear'⟩, agrees⟩
      · exact .inr ⟨by simpa using ne, fun h => broken ⟨h.1.2, h.2.2⟩⟩
    · exact .inr ⟨ne ms, fun h => broken ⟨h.1.1, h.2.1⟩⟩

theorem endsClause_of_agrees {n : Name}
    (agrees : Agrees (Relation.nameLexeme n :: ls) ts none) : endsClause ts = false := by
  cases ts with
  | nil => exact absurd agrees Agrees.not_nil
  | cons r ts =>
    obtain ⟨-, ⟨eq, -, -⟩ | ⟨kind, -⟩⟩ := agrees.head_inv
    · exact (relation_of_lexeme eq ts).2
    · simp [endsClause, Reader.isConnective, kind]

theorem quotable_serverChoice : Quotable Name.serverChoice.fullName.toList :=
  quotable_of_not_mem (by decide)

theorem clause_kept {c c' : SearchClause} (canonical : c.Canonical)
    (agrees : Agrees (c.lexemes ++ ls) ts none) (read : Clause d ts c' rest) :
    c' = c ∧ Closed c.lexemes ∧ Agrees ls rest none ∨ c' ≠ c ∧ ¬Closed c.lexemes := by
  obtain ⟨index, ⟨name, ms⟩, term⟩ := c
  rw [SearchClause.lexemes, closed_cons, closed_cons (l := Relation.nameLexeme _), closed_append]
  rw [SearchClause.lexemes, List.cons_append, List.cons_append, List.append_assoc] at agrees
  cases read with
  | full _ _ index_parsed _ relation_parsed mods reads =>
    obtain ⟨rfl, -, closedIndex, agrees⟩ | ⟨ne, broken⟩ :=
      name_kept canonical.index canonical.index.spelledBy_ofText agrees index_parsed
    swap
    · exact .inr ⟨by simp [ne], fun h => broken h.1⟩
    obtain ⟨rfl, -, closedRelation, agrees⟩ | ⟨ne, broken⟩ :=
      name_kept canonical.relation canonical.relation.spelledBy_nameLexeme agrees relation_parsed
    swap
    · exact .inr ⟨by simp [ne], fun h => broken h.2.1⟩
    obtain ⟨rfl, ⟨closedMods, -⟩, agrees⟩ | ⟨ne, broken⟩ :=
      modifiers_kept canonical.modifiers rfl agrees mods
    swap
    · exact .inr ⟨by simp [ne], fun h => broken ⟨h.2.2.1, by simp [clash, Lexeme.quoted]⟩⟩
    obtain ⟨rfl, closedTerm, agrees⟩ | ⟨ne, broken⟩ := term_kept agrees reads.2.2
    · exact .inl ⟨rfl, ⟨closedIndex, closedRelation, closedMods, closedTerm⟩, agrees⟩
    · exact .inr ⟨by simp [ne], fun h => broken h.2.2.2⟩
  | short ends =>
    obtain ⟨-, ⟨-, -, agrees⟩ | ⟨-, s, eq, broken⟩⟩ := agrees.head_inv
    · simp [endsClause_of_agrees agrees] at ends
    · obtain rfl := Lexeme.eq_of_quoted_eq_ofText eq.symm
      refine .inr ⟨fun same => broken ?_, fun h => broken ?_⟩
      · have index_eq : Name.serverChoice = index := congrArg SearchClause.index same
        exact index_eq ▸ quotable_serverChoice
      · exact h.1 _ (by rw [← eq]; exact List.mem_cons_self)

theorem atSign_of_agrees (follows : ls.head?.any (·.kind = .comparison) = false)
    (agrees : Agrees ls ts none) (c : Comparison) : atSign c ts = false := by
  have other : atKind .comparison ts = false :=
    (atKind_of_agrees agrees .comparison).trans follows
  cases ts with
  | nil => rfl
  | cons t ts => simp_all [atSign, atKind, Token.isSign]

/-- An equals sign follows declarations nowhere but in one that has a name. -/
theorem atSign_eq_of_agrees {entries : List (String × String)}
    (follows : ls.head?.any (·.kind = .comparison) = false)
    (agrees : Agrees (entries.flatMap declarationLexemes ++ ls) ts none) :
    atSign .eq ts = false := by
  cases entries with
  | nil => exact atSign_of_agrees follows agrees .eq
  | cons e entries =>
    obtain ⟨ls', starts⟩ := declarations_start e entries
    rw [starts] at agrees
    cases ts with
    | nil => exact absurd agrees Agrees.not_nil
    | cons t ts =>
      obtain ⟨isSign, -⟩ := agrees.head_of_kind (by simp)
      simp [atSign, Token.isSign_of_lexeme isSign]

theorem atSign_of_agrees_sign {c : Comparison} (agrees : Agrees (.sign c :: ls) ts none) :
    atSign c ts = true := by
  cases ts with
  | nil => exact absurd agrees Agrees.not_nil
  | cons t ts => simp [atSign, Token.isSign_of_lexeme (agrees.head_of_kind (by simp)).1]

/-- What is read from the sign that opens a declaration. -/
theorem Declarations.opening_inv {ds : List (String × String)} (h : Declarations ts ds rest)
    (opens : atSign .gt ts = true) : ∃ o i ts' ds', Declarations ts' ds' rest ∧
      (ts = o :: i :: ts' ∧ atSign .eq ts' = false ∧ ds = ("", unquote i.text) :: ds' ∨
        ∃ a sign, ts = o :: a :: sign :: i :: ts' ∧ sign.isSign .eq ∧
          ds = (unquote a.text, unquote i.text) :: ds') := by
  cases h with
  | done stop => simp [opens] at stop
  | named _ _ isSign _ more => exact ⟨_, _, _, _, more, .inr ⟨_, _, rfl, isSign, rfl⟩⟩
  | unnamed _ _ stop more => exact ⟨_, _, _, _, more, .inl ⟨rfl, stop, rfl⟩⟩

/-- The first declaration is read as it was printed if its strings are closed. -/
theorem declaration_kept {e : String × String} {ds : List (String × String)}
    (closed : Closed (declarationLexemes e))
    (noName : ∀ {ts}, Agrees ls ts none → atSign .eq ts = false)
    (agrees : Agrees (declarationLexemes e ++ ls) ts none) (read : Declarations ts ds rest) :
    ∃ ds' ts', ds = e :: ds' ∧ Agrees ls ts' none ∧ Declarations ts' ds' rest := by
  obtain ⟨name, uri⟩ := e
  by_cases unnamed : name = ""
  · subst unnamed
    change Closed [.sign .gt, .quoted uri] at closed
    change Agrees (.sign .gt :: .quoted uri :: ls) ts none at agrees
    obtain ⟨o, i, ts, ds, more, forms⟩ := read.opening_inv (atSign_of_agrees_sign agrees)
    rcases forms with ⟨rfl, -, rfl⟩ | ⟨a, sign, rfl, isSign, -⟩
    · obtain ⟨-, agrees⟩ := agrees.head_of_kind (by simp)
      obtain ⟨isUri, agrees⟩ := agrees.head_of_closed (closed_cons.1 closed).2
      rw [(Token.of_lexeme_eq_quoted isUri).2, unquote_quote]
      exact ⟨_, _, rfl, agrees, more⟩
    · obtain ⟨-, agrees⟩ := agrees.head_of_kind (by simp)
      obtain ⟨-, agrees⟩ := agrees.head_of_closed (closed_cons.1 closed).2
      have stop := noName agrees
      simp [atSign, isSign] at stop
  · have eq : declarationLexemes (name, uri) =
        [.sign .gt, .ofText name, .sign .eq, .quoted uri] := by
      simp [declarationLexemes, unnamed]
    rw [eq] at closed agrees
    obtain ⟨-, closed⟩ := closed_cons.1 closed
    obtain ⟨closedName, closed⟩ := closed_cons.1 closed
    obtain ⟨o, i, ts, ds, more, forms⟩ := read.opening_inv (atSign_of_agrees_sign agrees)
    rcases forms with ⟨rfl, stop, -⟩ | ⟨a, sign, rfl, isSign, rfl⟩
    · obtain ⟨-, agrees⟩ := agrees.head_of_kind (by simp)
      obtain ⟨-, agrees⟩ := agrees.head_of_closed closedName
      simp [atSign_of_agrees_sign agrees] at stop
    · obtain ⟨-, agrees⟩ := agrees.head_of_kind (by simp)
      obtain ⟨isName, agrees⟩ := agrees.head_of_closed closedName
      obtain ⟨-, agrees⟩ := agrees.head_of_kind (by simp)
      obtain ⟨isUri, agrees⟩ := agrees.head_of_closed (closed_cons.1 closed).2
      rw [(Token.of_lexeme_eq_quoted isUri).2, unquote_quote, Token.unquote_of_lexeme isName]
      exact ⟨_, _, rfl, agrees, more⟩

/-- Declarations whose strings are closed are read as they were printed. -/
theorem declarations_kept {entries ds : List (String × String)}
    (closed : Closed (entries.flatMap declarationLexemes))
    (follows : ls.head?.any (·.kind = .comparison) = false)
    (agrees : Agrees (entries.flatMap declarationLexemes ++ ls) ts none)
    (read : Declarations ts ds rest) : ds = entries ∧ Agrees ls rest none := by
  induction entries generalizing ts ds with
  | nil =>
    have stop := atSign_of_agrees follows agrees .gt
    cases read with
    | done => exact ⟨rfl, agrees⟩
    | named opens | unnamed opens => simp [atSign, opens] at stop
  | cons e entries ih =>
    rw [List.flatMap_cons, closed_append] at closed
    rw [List.flatMap_cons, List.append_assoc] at agrees
    obtain ⟨ds, ts, rfl, agrees, more⟩ :=
      declaration_kept closed.1 (atSign_eq_of_agrees follows) agrees read
    obtain ⟨rfl, kept⟩ := ih closed.2 agrees more
    exact ⟨rfl, kept⟩

end Grammar

end ContextQuery
