import ContextQuery.Proofs.Query.Binding
import ContextQuery.Proofs.Query.Unplaced

/-!
# Declarations in front of a query

What becomes of a text when a group of declarations is put in front of it: the bindings of the group
are declared on its root, or the group is refused, for a name that is declared twice while it is
read, or for a reserved name after all that follows it was read.

## Main results

* `Reader.declarations_refused`, `Reader.declareAll_refused`: the two refusals.
* `Query.parse_declared`: a text with declarations in front of it.
-/

namespace ContextQuery

namespace Reader

open Grammar

variable {s : Source} {d : Dialect} {ts rest : List Token}

theorem bindIdentifier_of_seen {g : Group} {name : String} {t : Token} (ahead : Ahead s ts)
    (isName : t.isName = true) (strict : s.dialect.refuseDuplicatePrefix = true)
    (seen : name ∈ g.written) :
    (bindIdentifier s g name t ts : Except Diagnostic Group) =
      .error ⟨.duplicatePrefix, name⟩ := by
  have pulled : (step s ts : Except Diagnostic Unit) = .ok () := step_of_ahead ahead
  rw [bindIdentifier, if_pos isName, bind_of_eq_ok pulled, strict]
  simp only [List.contains_eq_mem, seen, decide_true, Bool.and_self, reduceIte]
  rfl

/-- If a group is refused, then it is for the next name or for a later one. -/
theorem bindIdentifier_refused {α : Type} {g : Group} {name : String} {t : Token}
    {ds : List (String × String)} {f : Group → Except Diagnostic α} (ahead : Ahead s ts)
    (isName : t.isName = true) (refused : ¬g.Admits s.dialect ((name, unquote t.text) :: ds))
    (later : ∀ g : Group, ¬g.Admits s.dialect ds →
      ∃ details, f g = .error ⟨.duplicatePrefix, details⟩) :
    ∃ details, (bindIdentifier s g name t ts >>= f) = .error ⟨.duplicatePrefix, details⟩ := by
  by_cases seen : s.dialect.refuseDuplicatePrefix = true ∧ name ∈ g.written
  · exact ⟨name, bind_of_eq_error (bindIdentifier_of_seen ahead isName seen.1 seen.2) f⟩
  · have unseen : s.dialect.refuseDuplicatePrefix = true → name ∉ g.written := not_and.1 seen
    rw [bind_of_eq_ok (bindIdentifier_eq_ok.2 ⟨isName, ahead, unseen, rfl⟩)]
    exact later _ fun admits => refused (Group.admits_cons.2 ⟨unseen, admits⟩)

/-- A group that the dialect does not admit is refused. -/
theorem declarations_refused {g : Group} {ds : List (String × String)} (ahead : Ahead s rest)
    (h : Declarations ts ds rest) (refused : ¬g.Admits s.dialect ds) : ∃ details,
    (declarations s g ts : Except Diagnostic _) = .error ⟨.duplicatePrefix, details⟩ := by
  induction h generalizing g with
  | done => exact absurd (fun _ => by simp) refused
  | @named opening a sign i ts _ _ opens isName isSign isIdentifier more ih =>
    have ahead₁ := ahead.mono more.suffix
    have ahead₂ := ahead₁.mono (List.suffix_cons i ts)
    have ahead₃ := ahead₂.mono (List.suffix_cons sign (i :: ts))
    have ahead₄ := ahead₃.mono (List.suffix_cons a (sign :: i :: ts))
    unfold declarations
    simp only [opens, isName, atSign, isSign, reduceIte]
    rw [bind_of_eq_ok (step_of_ahead ahead₄), bind_of_eq_ok (step_of_ahead ahead₃),
      bind_of_eq_ok (step_of_ahead ahead₂)]
    exact bindIdentifier_refused ahead₁ isIdentifier refused fun g => ih ahead
  | @unnamed opening i ts _ _ opens isIdentifier stop more ih =>
    have ahead₁ := ahead.mono more.suffix
    have ahead₂ := ahead₁.mono (List.suffix_cons i ts)
    unfold declarations
    simp only [opens, stop, reduceIte, Bool.false_eq_true]
    rw [bind_of_eq_ok (step_of_ahead ahead₂)]
    exact bindIdentifier_refused ahead₁ isIdentifier refused fun g => ih ahead

/-- Where a reserved name may not be declared, the first one is refused. -/
theorem declareAll_refused {n : Node} {entries : List (String × String)}
    (strict : d.refuseDuplicatePrefix = true)
    (reserved : ∃ e ∈ entries, ContextSet.isReserved e.1 = true) : ∃ details,
    (declareAll d n entries : Except Diagnostic Node) = .error ⟨.duplicatePrefix, details⟩ := by
  induction entries generalizing n with
  | nil => simp at reserved
  | cons e entries ih =>
    obtain ⟨name, uri⟩ := e
    rw [declareAll, strict, Bool.true_and]
    split
    · exact ⟨name, rfl⟩
    · next free =>
      have later : ∃ e ∈ entries, ContextSet.isReserved e.1 = true := by
        obtain ⟨e, mem, isReserved⟩ := reserved
        obtain rfl | mem := List.mem_cons.1 mem
        · exact absurd isReserved free
        · exact ⟨e, mem, isReserved⟩
      exact ih later

/-- The group at the front of a query is declared on what the query is without it. -/
theorem query_of_declarations {levels : Nat} {map : PrefixMap} {n : Node} {ts' : List Token}
    (ahead : Ahead s ts')
    (group : (declarations s .empty ts : Except Diagnostic _) = .ok (map, ts'))
    (stop : atSign .gt ts' = false)
    (read : (query s (levels + 1) ts' : Except Diagnostic _) = .ok (n, rest)) :
    (query s (levels + 1) ts : Except Diagnostic _) =
      declareAll s.dialect n map.entries >>= fun n => .ok (n, rest) := by
  have none : (declarations s .empty ts' : Except Diagnostic _) = .ok (.empty, ts') :=
    declarations_complete ahead (.done stop) fun _ => by simp
  -- Without the group, the same operands are read, and nothing is declared on them.
  rw [query, bind_of_eq_ok none] at read
  rw [query, bind_of_eq_ok group]
  obtain ⟨⟨first, ts₁⟩, operand, read⟩ := bind_eq_ok.1 read
  obtain ⟨⟨n', ts₂⟩, chain, read⟩ := bind_eq_ok.1 read
  obtain ⟨rfl, rfl⟩ : n' = n ∧ ts₂ = rest := by
    simpa [declareAll, PrefixMap.empty, pure_eq_ok] using read
  dsimp only at operand chain ⊢
  rw [bind_of_eq_ok operand]
  dsimp only
  rw [bind_of_eq_ok chain]
  rfl

end Reader

namespace Query

open Reader Grammar Token

variable {d : Dialect} {text body : String} {q : Query} {ds : DeclarationGroup} {ts : List Token}

/-- Tokens that a query stands at the end of are read with at least one level. -/
theorem whole_of_group (parsed : parse d body = .ok q)
    (group : Declarations ts ds ((TokenStream.ofText body).tokens.map Token.unplaced)) :
    ∃ levels, d.maxDepth = levels + 1 ∧ whole ⟨d, 0, none⟩ ts =
      query ⟨d, 0, none⟩ (levels + 1) ts >>= fun (root, rest) => finish d root rest := by
  have nonempty := (derives_unplaced parsed le_rfl).ne_nil rfl
  have whole_eq := whole_of_ahead (s := ⟨d, 0, none⟩) (.inl rfl) fun empty =>
    nonempty (List.suffix_nil.1 (empty ▸ group.suffix))
  have read := query_of_parse parsed
  cases depth : d.maxDepth with
  | zero => simp [depth, query, throw_eq_ok] at read
  | succ levels => exact ⟨levels, rfl, depth ▸ whole_eq⟩

/-- The group is declared on what the query is read as. -/
theorem whole_declared (parsed : parse d body = .ok q)
    (group : Declarations ts ds ((TokenStream.ofText body).tokens.map Token.unplaced))
    (distinct : Distinct d ds) :
    whole ⟨d, 0, none⟩ ts = declareAll d q.root (bindings ds).entries >>= fun n => .ok ⟨n, d⟩ := by
  obtain ⟨levels, depth, whole_eq⟩ := whole_of_group parsed group
  have read := query_of_parse parsed
  have ahead (ts : List Token) : Ahead ⟨d, 0, none⟩ ts := .inl rfl
  rw [depth] at read
  rw [whole_eq, query_of_declarations (ahead _) (group_complete (ahead _) group distinct) group.stop
    read]
  cases (declareAll d q.root (bindings ds).entries : Except Diagnostic Node) <;> rfl

theorem whole_repeated (parsed : parse d body = .ok q)
    (group : Declarations ts ds ((TokenStream.ofText body).tokens.map Token.unplaced))
    (repeated : ¬Distinct d ds) :
    ∃ details, whole ⟨d, 0, none⟩ ts = .error ⟨.duplicatePrefix, details⟩ := by
  obtain ⟨levels, -, whole_eq⟩ := whole_of_group parsed group
  have refused : ¬Group.Admits d .empty ds := fun admits => repeated fun strict => (admits strict).1
  obtain ⟨details, read⟩ := declarations_refused (s := ⟨d, 0, none⟩) (.inl rfl) group refused
  refine ⟨details, ?_⟩
  rw [whole_eq, query, bind_of_eq_error read]
  rfl

/-- A text that starts with declarations and goes on with a text that is read as a query. If the
dialect refuses the declarations, it does so as duplicate prefixes. -/
theorem parse_declared (parsed : parse d body = .ok q) (cut : CutAnywhere text.toList ts [])
    (group : Declarations ts ds ((TokenStream.ofText body).tokens.map Token.unplaced)) :
    (Distinct d ds ∧ Declarable d (bindings ds) →
      parse d text = .ok ⟨q.root.declareMap (bindings ds), d⟩) ∧
    (¬(Distinct d ds ∧ Declarable d (bindings ds)) →
      ∃ details, parse d text = .error ⟨.duplicatePrefix, details⟩) := by
  have same := parse_of_cutAnywhere (d := d) cut
  constructor
  · rintro ⟨distinct, declarable⟩
    have declared : (declareAll d q.root (bindings ds).entries : Except Diagnostic Node) =
        .ok (q.root.declareMap (bindings ds)) := declareAll_eq_ok.2 ⟨declarable, rfl⟩
    rw [whole_declared parsed group distinct, bind_of_eq_ok declared] at same
    exact mapError_eq_ok.1 same
  · intro refused
    obtain ⟨details, whole_eq⟩ : ∃ details,
        whole ⟨d, 0, none⟩ ts = .error ⟨.duplicatePrefix, details⟩ := by
      by_cases distinct : Distinct d ds
      · obtain ⟨strict, e, mem, isReserved⟩ : d.refuseDuplicatePrefix = true ∧
            ∃ e ∈ (bindings ds).entries, ContextSet.isReserved e.1 = true := by
          simpa [Declarable, distinct] using refused
        obtain ⟨details, declared⟩ := declareAll_refused (n := q.root) strict ⟨e, mem, isReserved⟩
        exact ⟨details, by rw [whole_declared parsed group distinct, bind_of_eq_error declared]⟩
      · exact whole_repeated parsed group distinct
    rw [whole_eq] at same
    cases read : parse d text with
    | error refusal =>
      obtain ⟨kind, details⟩ := refusal
      obtain rfl : kind = .duplicatePrefix := by simpa [read, Except.mapError] using same
      exact ⟨details, rfl⟩
    | ok read' => simp [read, Except.mapError] at same

end Query

end ContextQuery
