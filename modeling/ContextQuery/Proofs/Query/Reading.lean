import ContextQuery.Proofs.Query.Grammar

/-!
# What the reader's routines read

The routines that do not open a query read what the grammar says, and read all of it. A reader
looks two tokens ahead, so a string left open at the end of the text is refused before the last
token is stepped over: `Ahead` says that this has not happened yet.

## Main results

* `Reader.modifiers_sound`, `Reader.modifiers_complete`: modifiers.
* `Reader.group_sound`, `Reader.group_complete`: declarations and the map that they make.
* `Reader.clause_sound`, `Reader.clause_complete`: search clauses.
-/

namespace ContextQuery

namespace Reader

open Grammar

variable {s : Source} {ts rest : List Token}

theorem bind_eq_ok {α β : Type} {x : Except Diagnostic α} {f : α → Except Diagnostic β} {b : β} :
    x >>= f = .ok b ↔ ∃ a, x = .ok a ∧ f a = .ok b := by
  cases x <;> simp [bind, Except.bind]

theorem bind_of_eq_ok {α β : Type} {x : Except Diagnostic α} {f : α → Except Diagnostic β} {a : α}
    (h : x = .ok a) : x >>= f = f a := by
  rw [h]
  rfl

theorem bind_of_eq_error {α β : Type} {x : Except Diagnostic α} {refusal : Diagnostic}
    (h : x = .error refusal) (f : α → Except Diagnostic β) : x >>= f = .error refusal := by
  rw [h]
  rfl

theorem pure_eq_ok {α : Type} {a b : α} : (pure a : Except Diagnostic α) = .ok b ↔ a = b := by
  simp [pure, Except.pure]

theorem throw_eq_ok {α : Type} {diagnostic : Diagnostic} {a : α} :
    (throw diagnostic : Except Diagnostic α) = .ok a ↔ False := by
  simp [throw, throwThe, MonadExceptOf.throw]

theorem refuse_eq_ok {α : Type} {kind : Diagnostic.Kind} {details : String} {a : α} :
    (refuse kind details : Except Diagnostic α) = .ok a ↔ False := by
  rw [refuse, throw_eq_ok]

theorem lift_eq {α : Type} (x : Except Diagnostic α) : (lift x : Except Diagnostic α) = x := by
  cases x <;> rfl

/-- The two tokens that a reader looks at can be pulled. -/
def Ahead (s : Source) (ts : List Token) : Prop :=
  s.unclosed = none ∨ ts.tail ≠ []

theorem pull_eq_ok {u : Unit} :
    (pull s ts : Except Diagnostic Unit) = .ok u ↔ s.unclosed = none ∨ ts ≠ [] := by
  unfold pull
  split
  · simp [Journal.note]
  · cases h : s.unclosed <;> simp [Journal.note, refuse_eq_ok]

theorem step_eq_ok {u : Unit} : (step s ts : Except Diagnostic Unit) = .ok u ↔ Ahead s ts :=
  pull_eq_ok

theorem Ahead.mono (h : Ahead s rest) (suffix : rest <:+ ts) : Ahead s ts := by
  rcases h with closed | two
  · exact .inl closed
  · have shorter := suffix.length_le
    have long := List.length_pos_iff.2 two
    refine .inr (List.length_pos_iff.1 ?_)
    rw [List.length_tail] at *
    omega

theorem step_of_ahead (ahead : Ahead s ts) : (step s ts : Except Diagnostic Unit) = .ok () :=
  step_eq_ok.2 ahead

/-- Where all that follows some token can be stepped over, so can what follows some more tokens. -/
theorem ahead_append {after : List Token} (room : ∀ t, Ahead s (t :: after)) (nonempty : ts ≠ []) :
    Ahead s (ts ++ after) := by
  obtain ⟨t, ts, rfl⟩ := List.exists_cons_of_ne_nil nonempty
  exact (room t).imp_right (by simp_all)

theorem modifiers_sound {ms : List Modifier} (ahead : Ahead s ts)
    (h : (modifiers s ts : Except Diagnostic _) = .ok (ms, rest)) :
    Modifiers s.dialect ts ms rest ∧ Ahead s rest := by
  induction hn : ts.length using Nat.strong_induction_on generalizing ts ms with
  | _ _ ih =>
    subst hn
    obtain - | ⟨slash, ts⟩ := ts
    · simp only [modifiers, pure_eq_ok, Prod.mk.injEq] at h
      obtain ⟨rfl, rfl⟩ := h
      exact ⟨.done rfl, ahead⟩
    by_cases isSlash : slash.kind = .slash
    swap
    · unfold modifiers at h
      simp only [isSlash, reduceIte, pure_eq_ok, Prod.mk.injEq] at h
      obtain ⟨rfl, rfl⟩ := h
      exact ⟨.done (by simpa [atKind] using isSlash), ahead⟩
    obtain - | ⟨n, ts⟩ := ts
    · simp only [modifiers, isSlash, reduceIte, bind_eq_ok, refuse_eq_ok, and_false,
        exists_false] at h
    by_cases isName : n.isName
    swap
    · simp [modifiers, isSlash, isName, bind_eq_ok, refuse_eq_ok] at h
    by_cases isComparison : atKind .comparison ts
    · obtain - | ⟨c, - | ⟨v, ts⟩⟩ := ts
      · simp [atKind] at isComparison
      · simp [modifiers, isSlash, isName, isComparison, bind_eq_ok, refuse_eq_ok] at h
      by_cases isValue : v.isName
      swap
      · simp [modifiers, isSlash, isName, isComparison, isValue, bind_eq_ok, refuse_eq_ok] at h
      simp only [modifiers, isSlash, isName, isComparison, isValue, reduceIte, bind_eq_ok,
        step_eq_ok, lift_eq, pure_eq_ok, Prod.exists, Prod.mk.injEq] at h
      obtain ⟨-, -, -, -, name, parsed, -, -, -, ahead, others, _, more, rfl, rfl⟩ := h
      obtain ⟨more, ahead⟩ := ih _ (by simp; omega) ahead more rfl
      exact ⟨.valued isSlash isName parsed (by simpa [atKind] using isComparison) isValue more,
        ahead⟩
    · simp only [modifiers, isSlash, isName, isComparison, reduceIte, bind_eq_ok,
        step_eq_ok, lift_eq, pure_eq_ok, Prod.exists, Prod.mk.injEq, Bool.false_eq_true] at h
      obtain ⟨-, -, -, ahead, name, parsed, others, _, more, rfl, rfl⟩ := h
      obtain ⟨more, ahead⟩ := ih _ (by simp) ahead more rfl
      exact ⟨.bare isSlash isName parsed (by simpa using isComparison) more, ahead⟩

theorem modifiers_complete {ms : List Modifier} (ahead : Ahead s rest)
    (h : Modifiers s.dialect ts ms rest) :
    (modifiers s ts : Except Diagnostic _) = .ok (ms, rest) := by
  induction h with
  | @done ts stop =>
    unfold modifiers
    cases ts <;> simp_all [atKind, pure_eq_ok]
  | @bare slash n _ ts _ _ isSlash isName parsed stop more ih =>
    have ahead₁ := ahead.mono more.suffix
    have ahead₂ := ahead₁.mono (List.suffix_cons n ts)
    simp [modifiers, bind_eq_ok, step_eq_ok, lift_eq, *]
  | @valued slash n c v _ ts _ _ isSlash isName parsed isComparison isValue more ih =>
    have ahead₁ := ahead.mono more.suffix
    have ahead₂ := ahead₁.mono (List.suffix_cons v ts)
    have ahead₃ := ahead₂.mono (List.suffix_cons c (v :: ts))
    have ahead₄ := ahead₃.mono (List.suffix_cons n (c :: v :: ts))
    simp [modifiers, bind_eq_ok, step_eq_ok, lift_eq, atKind, *]

theorem bindIdentifier_eq_ok {g g' : Group} {name : String} {t : Token} :
    (bindIdentifier s g name t rest : Except Diagnostic Group) = .ok g' ↔
      t.isName ∧ Ahead s rest ∧ (s.dialect.refuseDuplicatePrefix = true → name ∉ g.written) ∧
        ⟨name :: g.written, g.map.insert (Text.lowerCase name) (unquote t.text)⟩ = g' := by
  unfold bindIdentifier
  by_cases isName : t.isName
  swap
  · simp [isName, refuse_eq_ok]
  by_cases twice : s.dialect.refuseDuplicatePrefix = true ∧ name ∈ g.written
  · simp only [isName, twice, List.contains_eq_mem, decide_true, Bool.and_self, reduceIte,
      bind_eq_ok, refuse_eq_ok]
    simp
  · simp only [isName, reduceIte, bind_eq_ok, step_eq_ok, exists_const, true_and,
      Bool.and_eq_true, List.contains_eq_mem, decide_eq_true_eq, twice, pure_eq_ok]
    simpa using fun _ _ => not_and.1 twice

/-- What a group holds after more declarations. -/
def Group.add (g : Group) (ds : List (String × String)) : PrefixMap :=
  g.map.insertAll (ds.map fun entry => (Text.lowerCase entry.1, entry.2))

/-- The dialect lets the names of more declarations join those of the group. -/
def Group.Admits (d : Dialect) (g : Group) (ds : List (String × String)) : Prop :=
  d.refuseDuplicatePrefix = true → (ds.map (·.1)).Nodup ∧ ∀ e ∈ ds, e.1 ∉ g.written

theorem Group.admits_cons {d : Dialect} {g : Group} {name uri key : String}
    {ds : List (String × String)} :
    g.Admits d ((name, uri) :: ds) ↔ (d.refuseDuplicatePrefix = true → name ∉ g.written) ∧
      Group.Admits d ⟨name :: g.written, g.map.insert key uri⟩ ds := by
  unfold Group.Admits
  cases d.refuseDuplicatePrefix with
  | false => simp
  | true =>
    simp only [List.map_cons, List.nodup_cons, List.mem_map, List.mem_cons, not_or, forall_const,
      forall_eq_or_imp, not_exists, not_and]
    constructor
    · rintro ⟨⟨fresh, distinct⟩, unseen, others⟩
      exact ⟨unseen, distinct, fun e he => ⟨fun eq => fresh e he eq, others e he⟩⟩
    · rintro ⟨unseen, distinct, others⟩
      exact ⟨⟨fun e he => (others e he).1, distinct⟩, unseen, fun e he => (others e he).2⟩

theorem declarations_sound {g : Group} {map : PrefixMap} (ahead : Ahead s ts)
    (h : (declarations s g ts : Except Diagnostic _) = .ok (map, rest)) :
    ∃ ds, Declarations ts ds rest ∧ g.Admits s.dialect ds ∧ g.add ds = map ∧ Ahead s rest := by
  induction hn : ts.length using Nat.strong_induction_on generalizing ts g with
  | _ _ ih =>
    subst hn
    unfold declarations at h
    obtain - | ⟨opening, ts⟩ := ts
    · simp only [pure_eq_ok, Prod.mk.injEq] at h
      obtain ⟨rfl, rfl⟩ := h
      exact ⟨[], .done rfl, by simp [Group.Admits], rfl, ahead⟩
    by_cases opens : opening.isSign .gt
    swap
    · simp only [opens, Bool.false_eq_true, reduceIte, pure_eq_ok, Prod.mk.injEq] at h
      obtain ⟨rfl, rfl⟩ := h
      exact ⟨[], .done (by simpa [atSign] using opens), by simp [Group.Admits], rfl, ahead⟩
    obtain - | ⟨a, ts⟩ := ts
    · simp [opens, bind_eq_ok, refuse_eq_ok] at h
    by_cases isSign : atSign .eq ts
    · by_cases isName : a.isName
      swap
      · simp [opens, isSign, isName, bind_eq_ok, refuse_eq_ok] at h
      obtain - | ⟨sign, - | ⟨i, ts⟩⟩ := ts
      · simp [atSign] at isSign
      · simp [opens, isSign, isName, bind_eq_ok, refuse_eq_ok] at h
      simp only [opens, isSign, isName, reduceIte, bind_eq_ok, bindIdentifier_eq_ok] at h
      obtain ⟨-, -, -, -, -, -, _, ⟨isIdentifier, ahead, unseen, rfl⟩, h⟩ := h
      obtain ⟨ds, group, admits, rfl, ahead⟩ := ih _ (by simp; omega) ahead h rfl
      exact ⟨_ :: ds, .named opens isName (by simpa [atSign] using isSign) isIdentifier group,
        Group.admits_cons.2 ⟨unseen, admits⟩, rfl, ahead⟩
    · simp only [opens, isSign, reduceIte, bind_eq_ok, bindIdentifier_eq_ok,
        Bool.false_eq_true] at h
      obtain ⟨-, -, _, ⟨isIdentifier, ahead, unseen, rfl⟩, h⟩ := h
      obtain ⟨ds, group, admits, rfl, ahead⟩ := ih _ (by simp) ahead h rfl
      exact ⟨_ :: ds, .unnamed opens isIdentifier (by simpa using isSign) group,
        Group.admits_cons.2 ⟨unseen, admits⟩, rfl, ahead⟩

theorem declarations_complete {g : Group} {ds : List (String × String)}
    (ahead : Ahead s rest) (h : Declarations ts ds rest) (admits : g.Admits s.dialect ds) :
    (declarations s g ts : Except Diagnostic _) = .ok (g.add ds, rest) := by
  induction h generalizing g with
  | @done ts stop =>
    unfold declarations
    cases ts <;> simp_all [atSign, pure_eq_ok, Group.add]
  | @named opening a sign i ts _ _ opens isName isSign isIdentifier more ih =>
    obtain ⟨unseen, admits⟩ := Group.admits_cons.1 admits
    have ahead₁ := ahead.mono more.suffix
    have ahead₂ := ahead₁.mono (List.suffix_cons i ts)
    have ahead₃ := ahead₂.mono (List.suffix_cons sign (i :: ts))
    have ahead₄ := ahead₃.mono (List.suffix_cons a (sign :: i :: ts))
    unfold declarations
    simp only [opens, isName, atSign, isSign, reduceIte, bind_eq_ok, bindIdentifier_eq_ok,
      step_eq_ok]
    exact ⟨(), ahead₄, (), ahead₃, (), ahead₂, _, ⟨isIdentifier, ahead₁, unseen, rfl⟩,
      ih ahead admits⟩
  | @unnamed opening i ts _ _ opens isIdentifier stop more ih =>
    obtain ⟨unseen, admits⟩ := Group.admits_cons.1 admits
    have ahead₁ := ahead.mono more.suffix
    have ahead₂ := ahead₁.mono (List.suffix_cons i ts)
    unfold declarations
    simp only [opens, stop, reduceIte, bind_eq_ok, bindIdentifier_eq_ok, step_eq_ok,
      Bool.false_eq_true]
    exact ⟨(), ahead₂, _, ⟨isIdentifier, ahead₁, unseen, rfl⟩, ih ahead admits⟩

theorem declareAll_eq_ok {d : Dialect} {n n' : Node} {entries : List (String × String)} :
    (declareAll d n entries : Except Diagnostic Node) = .ok n' ↔
      (d.refuseDuplicatePrefix = true → ∀ e ∈ entries, ContextSet.isReserved e.1 = false) ∧
        entries.foldl (fun n e => n.declare e.1 e.2) n = n' := by
  induction entries generalizing n with
  | nil => simp [declareAll, pure_eq_ok]
  | cons e entries ih =>
    obtain ⟨name, uri⟩ := e
    unfold declareAll
    by_cases strict : d.refuseDuplicatePrefix = true
    · cases reserved : ContextSet.isReserved name <;>
        simp [strict, reserved, refuse_eq_ok, bind_eq_ok, Journal.note, ih]
    · simp [strict, bind_eq_ok, Journal.note, ih]

theorem term_eq_ok {value : Term} {t : Token} {ts : List Token} :
    (term s (t :: ts) : Except Diagnostic _) = .ok (value, rest) ↔
      ReadsTerm s.dialect t value ∧ Ahead s ts ∧ ts = rest := by
  unfold term ReadsTerm
  by_cases left : t.kind = .leftParen
  · simp [left, refuse_eq_ok]
  by_cases right : t.kind = .rightParen
  · simp [right, refuse_eq_ok]
  simp only [left, right, decide_false, Bool.or_self, Bool.false_eq_true, reduceIte, bind_eq_ok,
    step_eq_ok, lift_eq, pure_eq_ok, exists_const, Prod.mk.injEq]
  grind

theorem relation_eq_ok {r : Relation} {t : Token} {ts : List Token} :
    (relation s (t :: ts) : Except Diagnostic _) = .ok (r, rest) ↔
      (t.isName || t.kind = .comparison) ∧ Ahead s ts ∧ Name.parse s.dialect t.text = .ok r.name ∧
        (modifiers s ts : Except Diagnostic _) = .ok (r.modifiers, rest) := by
  unfold relation
  by_cases starts : (t.isName || t.kind = .comparison)
  · simp only [starts, reduceIte, bind_eq_ok, step_eq_ok, lift_eq, pure_eq_ok, exists_const,
      Prod.exists, Prod.mk.injEq]
    constructor
    · rintro ⟨ahead, name, parsed, ms, _, mods, rfl, rfl⟩
      exact ⟨trivial, ahead, parsed, mods⟩
    · rintro ⟨-, ahead, parsed, mods⟩
      exact ⟨ahead, _, parsed, _, _, mods, rfl, rfl⟩
  · simp [starts, refuse_eq_ok]

theorem finishClause_eq_ok {c : SearchClause} {n : Node} :
    (finishClause c ts : Except Diagnostic _) = .ok (n, rest) ↔
      .clause .empty c = n ∧ ts = rest := by
  simp [finishClause, Journal.note]

theorem clause_sound {n : Node} (h : (clause s ts : Except Diagnostic _) = .ok (n, rest)) :
    ∃ c, Clause s.dialect ts c rest ∧ .clause .empty c = n ∧ Ahead s rest := by
  obtain - | ⟨t, ts⟩ := ts
  · simp [clause, refuse_eq_ok] at h
  unfold clause at h
  by_cases ends : endsClause ts
  · by_cases paren : atKind .leftParen ts
    · simp [ends, paren, refuse_eq_ok] at h
    simp only [ends, paren, Bool.false_eq_true, reduceIte, bind_eq_ok, Prod.exists, term_eq_ok,
      finishClause_eq_ok] at h
    obtain ⟨value, _, ⟨reads, ahead, rfl⟩, rfl, rfl⟩ := h
    exact ⟨_, .short ends (by simpa using paren) reads, rfl, ahead⟩
  · by_cases isName : t.isName
    swap
    · simp [ends, explicitClause, isName, refuse_eq_ok] at h
    obtain - | ⟨r, ts⟩ := ts
    · simp [endsClause] at ends
    simp only [ends, explicitClause, isName, Bool.false_eq_true, reduceIte, bind_eq_ok,
      step_eq_ok, lift_eq, Prod.exists, relation_eq_ok] at h
    obtain ⟨-, -, index, index_parsed, ⟨name, ms⟩, ts', ⟨isRelation, ahead, parsed, mods⟩, h⟩ := h
    obtain ⟨mods, ahead⟩ := modifiers_sound ahead mods
    obtain - | ⟨t, ts'⟩ := ts'
    · simp [refuse_eq_ok] at h
    simp only [List.isEmpty_cons, Bool.false_eq_true, reduceIte, bind_eq_ok, Prod.exists,
      term_eq_ok, finishClause_eq_ok] at h
    obtain ⟨value, _, ⟨reads, ahead, rfl⟩, rfl, rfl⟩ := h
    exact ⟨_, .full isName (by simpa using ends) index_parsed isRelation parsed mods reads, rfl,
      ahead⟩

/-- Steps over the last token of a part that has been read. -/
def arrive {α : Type} (s : Source) (a : α) (rest : List Token) :
    Except Diagnostic (α × List Token) :=
  step s rest >>= fun _ => pure (a, rest)

theorem arrive_of_ahead {α : Type} {a : α} (ahead : Ahead s rest) :
    arrive s a rest = .ok (a, rest) := by
  rw [arrive, bind_eq_ok]
  exact ⟨(), step_eq_ok.2 ahead, rfl⟩

theorem term_arrives {value : Term} {t : Token} (reads : ReadsTerm s.dialect t value) :
    term s (t :: rest) = arrive s value rest := by
  obtain ⟨left, right, parsed⟩ := reads
  simp only [term, left, right, decide_false, Bool.or_self, Bool.false_eq_true, reduceIte, parsed]
  rfl

theorem finishClause_arrive {α : Type} {a : α} (c : α → SearchClause) :
    (arrive s a rest >>= fun (a, ts) => finishClause (c a) ts) =
      arrive s (.clause .empty (c a)) rest := by
  unfold arrive
  cases (step s rest : Except Diagnostic Unit) <;> rfl

/-- A clause is read up to its last token, if the tokens before can be stepped over. -/
theorem clause_arrives {c : SearchClause} (room : ∀ t, Ahead s (t :: rest))
    (h : Clause s.dialect ts c rest) : clause s ts = arrive s (.clause .empty c) rest := by
  cases h with
  | @full i r t index name ms value ts _ isName goesOn index_parsed isRelation relation_parsed mods
      reads =>
    have ahead₁ := (room t).mono mods.suffix
    have ahead₂ := ahead₁.mono (List.suffix_cons r ts)
    have relation_ok : (relation s (r :: ts) : Except Diagnostic _) =
        .ok (⟨name, ms⟩, t :: rest) :=
      relation_eq_ok.2 ⟨isRelation, ahead₁, relation_parsed, modifiers_complete (room t) mods⟩
    unfold clause explicitClause
    simp only [goesOn, isName, Bool.false_eq_true, reduceIte]
    rw [bind_of_eq_ok (step_of_ahead ahead₂), lift_eq, bind_of_eq_ok index_parsed,
      bind_of_eq_ok relation_ok]
    simp only [List.isEmpty_cons, Bool.false_eq_true, reduceIte]
    rw [term_arrives reads]
    exact finishClause_arrive fun value => ⟨index, ⟨name, ms⟩, value⟩
  | short ends stop reads =>
    unfold clause
    simp only [ends, stop, Bool.false_eq_true, reduceIte]
    rw [term_arrives reads]
    exact finishClause_arrive (.serverChoice s.dialect)

theorem clause_complete {c : SearchClause} (closed : s.unclosed = none)
    (h : Clause s.dialect ts c rest) :
    (clause s ts : Except Diagnostic _) = .ok (.clause .empty c, rest) := by
  rw [clause_arrives (fun _ => .inl closed) h, arrive_of_ahead (.inl closed)]

/-- A whole group is read into its bindings. -/
theorem group_sound {map : PrefixMap} (ahead : Ahead s ts)
    (h : (declarations s .empty ts : Except Diagnostic _) = .ok (map, rest)) :
    ∃ ds, Declarations ts ds rest ∧ Distinct s.dialect ds ∧ bindings ds = map ∧ Ahead s rest := by
  obtain ⟨ds, group, admits, added, ahead⟩ := declarations_sound ahead h
  exact ⟨ds, group, fun strict => (admits strict).1, added, ahead⟩

theorem group_complete {ds : List (String × String)} (ahead : Ahead s rest)
    (h : Declarations ts ds rest) (distinct : Distinct s.dialect ds) :
    (declarations s .empty ts : Except Diagnostic _) = .ok (bindings ds, rest) :=
  declarations_complete ahead h fun strict => ⟨distinct strict, by simp [Group.empty]⟩

theorem boolean?_eq_none :
    (boolean? s ts : Except Diagnostic _) = .ok (none, rest) ↔
      atConnective ts = false ∧ ts = rest := by
  unfold boolean?
  cases ts with
  | nil => simp [atConnective, pure_eq_ok]
  | cons t ts =>
    by_cases word : t.kind = .word
    · cases keyword : Connective.ofKeyword? t.text with
      | none => simp [atConnective, isConnective, word, keyword, pure_eq_ok]
      | some op =>
        simp only [word, keyword, reduceIte, bind_eq_ok, pure_eq_ok, Prod.mk.injEq, reduceCtorEq,
          false_and, and_false, exists_const]
        simp [atConnective, isConnective, word, keyword]
    · simp [atConnective, isConnective, word, pure_eq_ok]

theorem boolean?_eq_some {b : Boolean} :
    (boolean? s ts : Except Diagnostic _) = .ok (some b, rest) ↔
      ∃ t ts', ts = t :: ts' ∧ t.kind = .word ∧ Connective.ofKeyword? t.text = some b.op ∧
        Ahead s ts' ∧ (modifiers s ts' : Except Diagnostic _) = .ok (b.modifiers, rest) := by
  unfold boolean?
  cases ts with
  | nil => simp [pure_eq_ok]
  | cons t ts =>
    by_cases word : t.kind = .word
    · cases keyword : Connective.ofKeyword? t.text with
      | none => simp [word, keyword, pure_eq_ok]
      | some op =>
        simp only [word, keyword, reduceIte, bind_eq_ok, step_eq_ok, pure_eq_ok, Prod.exists,
          Prod.mk.injEq, Option.some.injEq, exists_const, List.cons.injEq]
        constructor
        · rintro ⟨ahead, ms, _, mods, rfl, rfl⟩
          exact ⟨t, ts, ⟨rfl, rfl⟩, word, keyword, ahead, mods⟩
        · rintro ⟨_, _, ⟨rfl, rfl⟩, -, keyword', ahead, mods⟩
          obtain rfl : op = b.op := by simpa [keyword] using keyword'
          exact ⟨ahead, _, _, mods, rfl, rfl⟩
    · simp [word, pure_eq_ok]

end Reader

end ContextQuery
