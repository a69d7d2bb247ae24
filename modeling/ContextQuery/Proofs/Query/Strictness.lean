import ContextQuery.Proofs.Query.Forest
import ContextQuery.Proofs.Xcql.Reading

/-!
# Strict dialects only refuse

Nothing that a dialect may refuse has a say in what is built: where a strict dialect reads a text or
a document, a lenient one reads the same tree. For texts the derivation is the same; for documents
each routine gives under the lenient dialect what it gave under the strict one.

## Main definitions

* `Dialect.Stricter`: one dialect refuses all that another one refuses.
* `Reader.Gives`: a computation succeeds wherever another one does, with the same result.

## Main results

* `Query.read_of_stricter`: what a strict dialect reads is read alike by a lenient one.
-/

namespace ContextQuery

/-- The first dialect refuses all that the second one refuses, and both imply the same relation.
What is bound outside a query, and how result sets combine, does not matter to a reader. -/
structure Dialect.Stricter (s c : Dialect) : Prop where
  version : s.version = c.version
  emptyTerm : c.refuseEmptyTerm = true → s.refuseEmptyTerm = true
  quotedName : c.refuseQuotedName = true → s.refuseQuotedName = true
  duplicatePrefix : c.refuseDuplicatePrefix = true → s.refuseDuplicatePrefix = true
  maxDepth : s.maxDepth ≤ c.maxDepth

variable {s c : Dialect}

namespace Dialect.Stricter

variable (strict : s.Stricter c)

include strict

theorem parse_name {raw : String} {n : Name} (h : Name.parse s raw = .ok n) :
    Name.parse c raw = .ok n := by
  unfold Name.parse at h ⊢
  dsimp only at h ⊢
  split at h
  · cases h
  · rename_i noQuotes
    rwa [if_neg]
    simp only [Bool.and_eq_true, not_and] at noQuotes ⊢
    exact fun quoted refuse => noQuotes quoted (strict.quotedName refuse)

theorem literal {value : String} {t : Term} (h : Term.literal s value = .ok t) :
    Term.literal c value = .ok t := by
  obtain ⟨same, nonempty⟩ := Term.literal_eq_ok.1 h
  exact Term.literal_eq_ok.2 ⟨same, fun refuse => nonempty (strict.emptyTerm refuse)⟩

theorem parse_term {raw : String} {t : Term} (h : Term.parse s raw = .ok t) :
    Term.parse c raw = .ok t := by
  obtain ⟨bare, anchors, read, literal⟩ := Term.parse_eq_ok.1 h
  exact Term.parse_eq_ok.2 ⟨bare, anchors, read, strict.literal literal⟩

theorem serverChoice (t : Term) : SearchClause.serverChoice s t = .serverChoice c t := by
  rw [SearchClause.serverChoice, SearchClause.serverChoice, strict.version]

end Dialect.Stricter

/-! ## Texts -/

namespace Grammar

variable {ts rest : List Token}

theorem Modifiers.of_stricter (strict : s.Stricter c) {ms : List Modifier}
    (h : Modifiers s ts ms rest) : Modifiers c ts ms rest := by
  induction h with
  | done stop => exact .done stop
  | bare isSlash isName parsed stop _ ih =>
    exact .bare isSlash isName (strict.parse_name parsed) stop ih
  | valued isSlash isName parsed isComparison isValue _ ih =>
    exact .valued isSlash isName (strict.parse_name parsed) isComparison isValue ih

theorem ReadsTerm.of_stricter (strict : s.Stricter c) {t : Token} {value : Term}
    (h : ReadsTerm s t value) : ReadsTerm c t value :=
  ⟨h.1, h.2.1, strict.parse_term h.2.2⟩

theorem Clause.of_stricter (strict : s.Stricter c) {clause : SearchClause}
    (h : Clause s ts clause rest) : Clause c ts clause rest := by
  cases h with
  | full isName goesOn index_parsed isRelation relation_parsed mods term =>
    exact .full isName goesOn (strict.parse_name index_parsed) isRelation
      (strict.parse_name relation_parsed) (mods.of_stricter strict) (term.of_stricter strict)
  | short ends stop term =>
    rw [strict.serverChoice]
    exact .short ends stop (term.of_stricter strict)

theorem Distinct.of_stricter (strict : s.Stricter c) {ds : List (String × String)}
    (h : Distinct s ds) : Distinct c ds :=
  fun refuse => h (strict.duplicatePrefix refuse)

theorem Declarable.of_stricter (strict : s.Stricter c) {map : PrefixMap} (h : Declarable s map) :
    Declarable c map :=
  fun refuse => h (strict.duplicatePrefix refuse)

theorem Derives.of_stricter (strict : s.Stricter c) {limit opens : ℕ∞} {part : Part} {n : Node}
    (h : Derives s limit part opens ts n rest) : Derives c limit part opens ts n rest := by
  induction h with
  | group isLeft _ isRight ih => exact .group isLeft ih isRight
  | clause reads => exact .clause (reads.of_stricter strict)
  | declared group nonempty distinct _ declarable ih =>
    exact .declared group nonempty (distinct.of_stricter strict) ih (declarable.of_stricter strict)
  | done stop => exact .done stop
  | joined isWord isKeyword mods _ bounded _ ih_operand ih_more =>
    exact .joined isWord isKeyword (mods.of_stricter strict) ih_operand bounded ih_more
  | query open_le group distinct _ _ declarable ih_operand ih_more =>
    exact .query open_le group (distinct.of_stricter strict) ih_operand ih_more
      (declarable.of_stricter strict)

end Grammar

theorem Query.parse_of_stricter (strict : s.Stricter c) {text : String} {q : Query}
    (h : Query.parse s text = .ok q) : Query.parse c text = .ok ⟨q.root, c⟩ := by
  obtain ⟨-, closed, derives⟩ := Query.parse_eq_ok_iff.1 h
  have deeper : (s.maxDepth : ℕ∞) ≤ c.maxDepth := Nat.cast_le.2 strict.maxDepth
  exact Query.parse_eq_ok_iff.2 ⟨rfl, closed, (derives.of_stricter strict).mono deeper deeper⟩

/-! ## Documents -/

/-- Where the first computation succeeds, the second one does so with the same result. -/
def Reader.Gives {α : Type} (x y : Except Diagnostic α) : Prop :=
  ∀ a, x = .ok a → y = .ok a

namespace Reader.Gives

variable {α β : Type}

theorem refl (x : Except Diagnostic α) : Gives x x :=
  fun _ => id

theorem refuse {kind : Diagnostic.Kind} {details : String} {y : Except Diagnostic α} :
    Gives (Reader.refuse kind details) y :=
  fun _ h => by simp [refuse_eq_ok] at h

theorem throw {e : Diagnostic} {y : Except Diagnostic α} :
    Gives (MonadExcept.throw e) y :=
  fun _ h => by simp [throw_eq_ok] at h

theorem bind {x y : Except Diagnostic α} {f g : α → Except Diagnostic β} (first : Gives x y)
    (next : ∀ a, Gives (f a) (g a)) : Gives (x >>= f) (y >>= g) := by
  intro b h
  obtain ⟨a, ok, more⟩ := bind_eq_ok.1 h
  exact bind_eq_ok.2 ⟨a, first a ok, next a b more⟩

theorem declareAll (strict : s.Stricter c) (n : Node) (entries : List (String × String)) :
    Gives (Reader.declareAll s n entries) (Reader.declareAll c n entries) := by
  intro n' h
  obtain ⟨declarable, same⟩ := declareAll_eq_ok.1 h
  exact declareAll_eq_ok.2 ⟨fun refuse => declarable (strict.duplicatePrefix refuse), same⟩

end Reader.Gives

namespace Xcql

open Reader (Gives lift_eq)
open Xml (Element)

variable (strict : s.Stricter c)

include strict

theorem gives_name (e : Element) : Gives (name s e) (name c e) := by
  intro n h
  rw [name, lift_eq] at h ⊢
  exact strict.parse_name h

theorem gives_readModifier (e : Element) : Gives (readModifier s e) (readModifier c e) := by
  refine .bind (.refl _) fun _ => .bind (.refl _) fun type => ?_
  split
  · exact .refuse
  · exact .bind (gives_name strict type) fun n => .refl _

theorem gives_readEach (es : List Element) : Gives (readEach s es) (readEach c es) := by
  induction es with
  | nil => exact .refl _
  | cons e es ih => exact .bind (gives_readModifier strict e) fun _ => .bind ih fun _ => .refl _

theorem gives_readModifiers (e : Element) : Gives (readModifiers s e) (readModifiers c e) := by
  unfold readModifiers
  cases child? e "modifiers" with
  | none => exact .refl _
  | some list => exact .bind (.refl _) fun _ => gives_readEach strict _

theorem gives_readRelation (e : Element) : Gives (readRelation s e) (readRelation c e) :=
  .bind (.refl _) fun _ => .bind (.refl _) fun value => .bind (gives_name strict value) fun _ =>
    .bind (gives_readModifiers strict e) fun _ => .refl _

theorem gives_readBoolean (e : Element) : Gives (readBoolean s e) (readBoolean c e) :=
  .bind (.refl _) fun _ => .bind (.refl _) fun _ => .bind (.refl _) fun _ =>
    .bind (gives_readModifiers strict e) fun _ => .refl _

theorem gives_readClause (e : Element) : Gives (readClause s e) (readClause c e) := by
  refine .bind (.refl _) fun _ => .bind (.refl _) fun index => ?_
  refine .bind (gives_name strict index) fun _ => .bind (.refl _) fun relation => ?_
  refine .bind (gives_readRelation strict relation) fun _ => .bind (.refl _) fun term => ?_
  refine .bind (fun _ h => ?_) fun _ => .refl _
  rw [lift_eq] at h ⊢
  exact strict.literal h

theorem gives_declareEach (written : List String) (n : Node) (es : List Element) :
    Gives (declareEach s written n es) (declareEach c written n es) := by
  induction es generalizing written n with
  | nil => exact .refl _
  | cons e es ih =>
    refine .bind (.refl _) fun _ => ?_
    dsimp only
    generalize ((child? e "name").map fun c => Text.trim (frontText c)).getD "" = name
    by_cases twice : (s.refuseDuplicatePrefix && written.contains name) = true
    · rw [if_pos twice]
      exact .refuse
    · have fresh : ¬(c.refuseDuplicatePrefix && written.contains name) = true := by
        simp only [Bool.and_eq_true, not_and] at twice ⊢
        exact fun refuse => twice (strict.duplicatePrefix refuse)
      rw [if_neg twice, if_neg fresh]
      exact .bind (.refl _) fun _ => .bind (.declareAll strict n _) fun n => ih _ n

theorem gives_declarePrefixes (e : Element) (n : Node) :
    Gives (declarePrefixes s e n) (declarePrefixes c e n) := by
  unfold declarePrefixes
  cases child? e "prefixes" with
  | none => exact .refl _
  | some list => exact .bind (.refl _) fun _ => gives_declareEach strict _ n _

omit strict in
theorem gives_readOperand {inner inner' : Element → Except Diagnostic Node}
    (within : ∀ e, Gives (inner e) (inner' e)) (e : Element) :
    Gives (readOperand inner e) (readOperand inner' e) := by
  unfold readOperand
  split
  · exact .refuse
  · exact within _
  · exact .refuse

theorem gives_readTriple {inner inner' : Element → Except Diagnostic Node}
    (within : ∀ e, Gives (inner e) (inner' e)) (e : Element) :
    Gives (readTriple s inner e) (readTriple c inner' e) := by
  refine .bind (.refl _) fun _ => .bind (.refl _) fun boolean => ?_
  refine .bind (gives_readBoolean strict boolean) fun _ => .bind (.refl _) fun left => ?_
  refine .bind (gives_readOperand within left) fun _ => .bind (.refl _) fun right => ?_
  exact .bind (gives_readOperand within right) fun _ => .refl _

/-- More levels allow more as well. -/
theorem gives_readNode {levels levels' : Nat} (more : levels ≤ levels') (e : Element) :
    Gives (readNode s levels e) (readNode c levels' e) := by
  -- Declarations are read last, whatever came before them.
  induction levels generalizing levels' e with
  | zero =>
    have declared := gives_declarePrefixes strict e
    unfold readNode
    split
    · exact .bind (gives_readClause strict e) declared
    split
    · cases levels' with
      | zero | succ => exact .bind .throw declared
    · exact .bind .refuse declared
  | succ levels ih =>
    obtain ⟨levels', rfl⟩ : ∃ l, levels' = l + 1 := ⟨levels' - 1, by omega⟩
    have declared := gives_declarePrefixes strict e
    unfold readNode
    split
    · exact .bind (gives_readClause strict e) declared
    split
    · exact .bind (gives_readTriple strict (ih (by omega)) e) declared
    · exact .bind .refuse declared

theorem elementLimit_le : elementLimit s ≤ elementLimit c := by
  have := strict.maxDepth
  unfold elementLimit
  omega

end Xcql

theorem Query.parseXml_of_stricter [Xml.Library] (strict : s.Stricter c) {document : String}
    {q : Query} (h : Query.parseXml s document = .ok q) :
    Query.parseXml c document = .ok ⟨q.root, c⟩ := by
  have limit := Xcql.elementLimit_le strict
  unfold Query.parseXml Query.readXml at h ⊢
  split at h
  · simp [Reader.throw_eq_ok] at h
  · rename_i low
    rw [if_neg (by omega)]
    cases parsed : Xml.Library.parse? document with
    | none => simp [parsed, Reader.refuse_eq_ok] at h
    | some root =>
      simp only [parsed, Reader.bind_eq_ok, Reader.pure_eq_ok] at h ⊢
      obtain ⟨u, noted, n, read, rfl⟩ := h
      exact ⟨u, noted, n, Xcql.gives_readNode strict strict.maxDepth root n read, rfl⟩

/-! ## Both readers -/

/-- What a strict dialect reads, from a text or from a document, is read by a lenient one as the
same tree, in an arena with the same nodes, parents, prefixes and root. -/
theorem Query.read_of_stricter [Xml.Library] (strict : s.Stricter c) :
    (∀ text q, Query.parse s text = .ok q → Query.parse c text = .ok ⟨q.root, c⟩ ∧
      ∃ a, Query.arena s text = .ok a ∧ Query.arena c text = .ok a) ∧
    ∀ document q, Query.parseXml s document = .ok q →
      Query.parseXml c document = .ok ⟨q.root, c⟩ ∧
        ∃ a, Query.arenaXml s document = .ok a ∧ Query.arenaXml c document = .ok a := by
  constructor
  · intro text q parsed
    have again := Query.parse_of_stricter strict parsed
    exact ⟨again, q.root.arena, by rw [arena_eq, parsed]; rfl, by rw [arena_eq, again]; rfl⟩
  · intro document q read
    have again := Query.parseXml_of_stricter strict read
    exact ⟨again, q.root.arena, by rw [arenaXml_eq, read]; rfl, by rw [arenaXml_eq, again]; rfl⟩

/-- Two levels are enough for a text with a declaration; a document of one clause needs none. -/
theorem Query.read_of_stricter_declared :
    (∃ q, Query.parse { Dialect.strict with maxDepth := 2 } ">x=u a or b" = .ok q ∧
      Query.parse {} ">x=u a or b" = .ok ⟨q.root, {}⟩ ∧
      ∃ a, Query.arena { Dialect.strict with maxDepth := 2 } ">x=u a or b" = .ok a ∧
        Query.arena {} ">x=u a or b" = .ok a) ∧
    ∃ q, Query.parseXml { Dialect.strict with maxDepth := 0 }
        ("<searchClause><index>t</index><relation><value>=</value></relation>" ++
          "<term>a</term></searchClause>") = .ok q ∧
      Query.parseXml {} ("<searchClause><index>t</index><relation><value>=</value></relation>" ++
        "<term>a</term></searchClause>") = .ok ⟨q.root, {}⟩ := by
  have stricter (levels : Nat) (few : levels ≤ 256) :
      Dialect.Stricter { Dialect.strict with maxDepth := levels } {} :=
    ⟨rfl, nofun, nofun, nofun, few⟩
  constructor
  · let q : Query := ⟨.triple (.ofList [("x", "u")]) ⟨.or, []⟩
      (.clause .empty (.serverChoice {} ⟨"a"⟩)) (.clause .empty (.serverChoice {} ⟨"b"⟩)),
      { Dialect.strict with maxDepth := 2 }⟩
    have parsed : Query.parse { Dialect.strict with maxDepth := 2 } ">x=u a or b" = .ok q := by
      decide +kernel
    exact ⟨q, parsed, (Query.read_of_stricter (stricter 2 (by decide))).1 _ _ parsed⟩
  · let q : Query := ⟨.clause .empty ⟨⟨none, "t"⟩, ⟨⟨none, "="⟩, []⟩, ⟨"a"⟩⟩,
      { Dialect.strict with maxDepth := 0 }⟩
    have read : Query.parseXml { Dialect.strict with maxDepth := 0 }
        ("<searchClause><index>t</index><relation><value>=</value></relation>" ++
          "<term>a</term></searchClause>") = .ok q := by
      decide +kernel
    exact ⟨q, read, ((Query.read_of_stricter (stricter 0 (by decide))).2 _ _ read).1⟩

end ContextQuery
