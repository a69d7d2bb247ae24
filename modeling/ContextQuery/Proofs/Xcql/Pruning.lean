import ContextQuery.Proofs.Xcql.Heeding

/-!
# Elements without a place spoil a document

A document that is read without the elements that have no place in it is refused with them, as a
syntax error, wherever they stand. Each reading routine gives for an element what it gives for the
pruned element, or such a refusal.

## Main definitions

* `Xcql.Spoils`: a computation gives what another one gives, or a syntax error.

## Main results

* `Query.layout_of_parseXml`: what a document has to hold, and what else it is refused for.
-/

namespace ContextQuery

open Xml (Content Element)

namespace Xcql

open Reader (bind_eq_ok pure_eq_ok throw_eq_ok refuse_eq_ok lift_eq)

variable {d : Dialect} {e : Element} {p q : Part} {keep : Bool}

/-! ## Taken elements -/

theorem frontText_take (q : Part) (e : Element) : frontText (q.take keep e) = frontText e := by
  obtain ⟨name, children⟩ := e
  cases children with
  | nil => rfl
  | cons c cs =>
    cases c with
    | text | remark => rfl
    | element name children =>
      simp only [frontText, Part.take, Part.siftAll, Part.sift]
      cases q.standing [] name <;> cases keep <;> rfl

theorem child?_take (first : p.intake = .first) {name : String} (child : p.child? name = some q) :
    child? (p.take keep e) name = (child? e name).map (q.take keep) :=
  Part.find?_siftAll first child List.not_mem_nil e.children

/-- The text of a child is the same. -/
theorem frontText_child?_take (first : p.intake = .first) {name : String}
    (child : p.child? name = some q) :
    (child? (p.take keep e) name).map frontText = (child? e name).map frontText := by
  rw [child?_take first child, Option.map_map]
  exact congrArg (Option.map · _) (funext fun c => frontText_take q c)

theorem name_take (q : Part) (e : Element) :
    (name d (q.take keep e) : Except Diagnostic Name) = name d e := by
  rw [name, name, frontText_take]

/-! ## Refusals -/

/-- Where the second computation succeeds, the first one does so with the same result or refuses
with a syntax error. -/
def Spoils {α : Type} (x y : Except Diagnostic α) : Prop :=
  ∀ a, y = .ok a → x = .ok a ∨ ∃ details, x = .error (.syntaxError details)

namespace Spoils

variable {α β : Type} {x y : Except Diagnostic α} {f g : α → Except Diagnostic β}

theorem refl (x : Except Diagnostic α) : Spoils x x :=
  fun _ => .inl

theorem syntaxError {details : String} : Spoils (.error (.syntaxError details)) y :=
  fun _ _ => .inr ⟨details, rfl⟩

theorem bind (first : Spoils x y) (next : ∀ a, Spoils (f a) (g a)) :
    Spoils (x >>= f) (y >>= g) := by
  intro b h
  obtain ⟨a, ok, more⟩ := bind_eq_ok.1 h
  obtain rfl | ⟨details, rfl⟩ := first a ok
  · exact next a b more
  · exact .inr ⟨details, rfl⟩

/-- Elements with other names are refused as syntax errors. -/
theorem onlyChildren (e : Element) (names : List String) {y : Except Diagnostic Unit}
    {f g : Unit → Except Diagnostic β}
    (next : (∀ c ∈ elements e.children, c.name ∈ names) → Spoils (f ()) (g ())) :
    Spoils (Xcql.onlyChildren e names >>= f) (y >>= g) := by
  cases only : (Xcql.onlyChildren e names : Except Diagnostic Unit) with
  | ok u => exact .bind (fun _ _ => .inl rfl) fun _ => next (onlyChildren_eq_ok.1 only)
  | error refusal =>
    obtain ⟨details, rfl⟩ : ∃ details, refusal = .syntaxError details := by
      unfold Xcql.onlyChildren at only
      split at only
      · exact ⟨_, (Except.error.inj only).symm⟩
      · cases only
    exact .syntaxError

theorem required (first : p.intake = .first) {name : String} (child : p.child? name = some q)
    {f g : Element → Except Diagnostic β} (next : ∀ c, Spoils (f c) (g (q.take keep c))) :
    Spoils (Xcql.required e name >>= f) (Xcql.required (p.take keep e) name >>= g) := by
  unfold Xcql.required
  rw [child?_take first child]
  cases child? e name with
  | none => exact fun a h => absurd h (by simp [bind_eq_ok, refuse_eq_ok])
  | some c => exact next c

end Spoils

/-! ## Parts -/

theorem spoils_readModifier (e : Element) :
    Spoils (readModifier d e) (readModifier d (Part.modifier.take keep e)) := by
  have comparison : (comparison? (Part.modifier.take keep e) : Except Diagnostic _) =
      comparison? e := by
    unfold comparison?
    rw [child?_take rfl (q := .leaf) rfl]
    cases child? e "comparison" with
    | none => rfl
    | some c => simp only [Option.map_some, frontText_take]
  refine .onlyChildren e _ fun _ => .required rfl rfl fun type => ?_
  rw [frontText_take, name_take, comparison, frontText_child?_take rfl (q := .leaf) rfl]
  exact .refl _

theorem spoils_readEach (es : List Element) :
    Spoils (readEach d es) (readEach d (es.map (Part.modifier.take keep))) := by
  induction es with
  | nil => exact .refl _
  | cons e es ih => exact .bind (spoils_readModifier e) fun _ => .bind ih fun _ => .refl _

theorem spoils_readModifiers (e : Element) :
    Spoils (readModifiers d e) (readModifiers d (Part.valued.take keep e)) := by
  unfold readModifiers
  rw [child?_take rfl (q := .modifiers) rfl]
  cases child? e "modifiers" with
  | none => exact .refl _
  | some list =>
    refine .onlyChildren list _ fun known => ?_
    have taken : elements (Part.modifiers.take keep list).children = _ :=
      Part.elements_siftAll_every rfl (q := .modifier) fun c mem => by
        rw [List.mem_singleton.1 (known c mem)]
        rfl
    rw [taken]
    exact spoils_readEach _

theorem spoils_readRelation (e : Element) :
    Spoils (readRelation d e) (readRelation d (Part.valued.take keep e)) := by
  refine .onlyChildren e _ fun _ => .required rfl rfl fun value => ?_
  rw [name_take]
  exact .bind (.refl _) fun _ => .bind (spoils_readModifiers e) fun _ => .refl _

theorem spoils_readBoolean (e : Element) :
    Spoils (readBoolean d e) (readBoolean d (Part.valued.take keep e)) := by
  refine .onlyChildren e _ fun _ => .required rfl rfl fun value => ?_
  rw [frontText_take]
  exact .bind (.refl _) fun _ => .bind (spoils_readModifiers e) fun _ => .refl _

theorem spoils_readClause (e : Element) :
    Spoils (readClause d e) (readClause d (Part.clause.take keep e)) := by
  refine .onlyChildren e _ fun _ => .required rfl rfl fun index => ?_
  rw [name_take]
  refine .bind (.refl _) fun _ => .required rfl rfl fun relation => ?_
  refine .bind (spoils_readRelation relation) fun _ => .required rfl rfl fun term => ?_
  rw [frontText_take]
  exact .refl _

theorem spoils_declareEach (written : List String) (n : Node) (es : List Element) :
    Spoils (declareEach d written n es)
      (declareEach d written n (es.map (Part.declaration.take keep))) := by
  induction es generalizing written n with
  | nil => exact .refl _
  | cons e es ih =>
    refine .onlyChildren e _ fun _ => ?_
    have named : ((child? (Part.declaration.take keep e) "name").map fun c =>
        Text.trim (frontText c)) = (child? e "name").map fun c => Text.trim (frontText c) := by
      have front : (child? (Part.declaration.take keep e) "name").map frontText = _ :=
        frontText_child?_take rfl (q := .leaf) rfl
      simpa [Option.map_map, Function.comp_def] using congrArg (Option.map Text.trim) front
    dsimp only
    rw [named]
    split
    · exact .refl _
    · refine .required rfl rfl fun identifier => ?_
      rw [frontText_take]
      exact .bind (.refl _) fun n => ih _ n

theorem spoils_declarePrefixes (first : p.intake = .first)
    (child : p.child? "prefixes" = some .declarations) (e : Element) (n : Node) :
    Spoils (declarePrefixes d e n) (declarePrefixes d (p.take keep e) n) := by
  unfold declarePrefixes
  rw [child?_take first child]
  cases child? e "prefixes" with
  | none => exact .refl _
  | some list =>
    refine .onlyChildren list _ fun known => ?_
    have taken : elements (Part.declarations.take keep list).children = _ :=
      Part.elements_siftAll_every rfl (q := .declaration) fun c mem => by
        rw [List.mem_singleton.1 (known c mem)]
        rfl
    rw [taken]
    exact spoils_declareEach _ n _

/-! ## Nodes -/

theorem child?_operand {name : String} (h : Part.operand.child? name = some p) :
    name = "searchClause" ∧ p = .clause ∨ name = "triple" ∧ p = .triple := by
  have mem := Part.mem_of_child? h
  simpa [Part.layout] using mem

theorem readNode_of_unknown {levels : Nat} (unknown : Part.operand.child? e.name = none) :
    (readNode d levels e : Except Diagnostic Node) =
      .error (.syntaxError ("Unknown element: " ++ e.name)) := by
  have absent := List.lookup_eq_none_iff.1 unknown
  simp only [Part.layout, List.forall_mem_cons, bne_iff_ne] at absent
  unfold readNode
  rw [if_neg absent.1, if_neg absent.2.1]
  rfl

theorem spoils_readOperand {inner : Element → Except Diagnostic Node}
    (known : ∀ {c q}, Part.operand.child? c.name = some q →
      Spoils (inner c) (inner (q.take keep c)))
    (unknown : ∀ {c}, Part.operand.child? c.name = none →
      ∃ details, inner c = .error (.syntaxError details)) (e : Element) :
    Spoils (readOperand inner e) (readOperand inner (Part.operand.take keep e)) := by
  unfold readOperand
  cases only : elements e.children with
  | nil => exact .syntaxError
  | cons c rest =>
    cases rest with
    | cons => exact .syntaxError
    | nil =>
      cases child : Part.operand.child? c.name with
      | none =>
        obtain ⟨details, refused⟩ := unknown child
        dsimp only
        rw [refused]
        exact .syntaxError
      | some q =>
        have taken : elements (Part.operand.take keep e).children = [q.take keep c] :=
          Part.elements_siftAll_sole rfl child only
        rw [taken]
        exact known child

theorem spoils_readTriple {inner : Element → Except Diagnostic Node}
    (operand : ∀ e, Spoils (readOperand inner e) (readOperand inner (Part.operand.take keep e)))
    (e : Element) :
    Spoils (readTriple d inner e) (readTriple d inner (Part.triple.take keep e)) := by
  refine .onlyChildren e _ fun _ => .required rfl rfl fun boolean => ?_
  refine .bind (spoils_readBoolean boolean) fun _ => .required rfl rfl fun left => ?_
  refine .bind (operand left) fun _ => .required rfl rfl fun right => ?_
  exact .bind (operand right) fun _ => .refl _

theorem spoils_readNode_clause {levels : Nat} (named : e.name = "searchClause") :
    Spoils (readNode d levels e) (readNode d levels (Part.clause.take keep e)) := by
  unfold readNode
  rw [Part.name_take, if_pos named, if_pos named]
  exact .bind (spoils_readClause e) fun n => spoils_declarePrefixes rfl rfl e n

/-- The elements without a place in a query element spoil it. -/
theorem spoils_readNode {levels : Nat} (child : Part.operand.child? e.name = some p) :
    Spoils (readNode d levels e) (readNode d levels (p.take keep e)) := by
  -- The operands of a triple are read with one level less than the triple.
  induction levels generalizing e p with
  | zero =>
    obtain ⟨named, rfl⟩ | ⟨named, rfl⟩ := child?_operand child
    · exact spoils_readNode_clause named
    · have deep : (readNode d 0 e : Except Diagnostic Node) = .error (.tooDeep d.maxDepth) := by
        unfold readNode
        rw [if_neg (by simp [named]), if_pos named]
        rfl
      rw [deep]
      exact .syntaxError
  | succ levels ih =>
    obtain ⟨named, rfl⟩ | ⟨named, rfl⟩ := child?_operand child
    · exact spoils_readNode_clause named
    · have operand (e : Element) : Spoils (readOperand (readNode d levels) e)
          (readOperand (readNode d levels) (Part.operand.take keep e)) :=
        spoils_readOperand ih (fun unknown => ⟨_, readNode_of_unknown unknown⟩) e
      have notClause : e.name ≠ "searchClause" := by simp [named]
      unfold readNode
      rw [Part.name_take, if_neg notClause, if_neg notClause, if_pos named, if_pos named]
      exact .bind (spoils_readTriple operand e) fun n => spoils_declarePrefixes rfl rfl e n

end Xcql

/-- What a pruned document is read as, the document is read as too, or it is refused with a syntax
error. -/
theorem Xcql.spoils_prune {d : Dialect} {levels : Nat} {root pruned : Element}
    (same : pruned.toContent = Part.prune root) :
    Spoils (readNode d levels root) (readNode d levels pruned) := by
  cases child : Part.operand.child? root.name with
  | none =>
    rw [readNode_of_unknown child]
    exact .syntaxError
  | some p =>
    have read : Part.operand.standing [] root.name = .read p := by
      simp [Part.standing, Part.intake, child]
    have taken : pruned = p.take false root := by
      have content := same.trans (Part.sift_of_read read)
      cases pruned
      injection content with name children
      exact congrArg₂ Element.mk name children
    rw [taken]
    exact spoils_readNode child

/-! ## Documents -/

namespace Query

open Xcql (Part Counted)

/-- A document that is read has its layout, apart from elements that are passed over, and none of
its clauses, triples and modifiers is dropped. A document with any other element is refused, as a
syntax error if it would be read without the elements that have no place, or if the root has none:
what is left of such a document is nothing that could be read. -/
theorem layout_of_parseXml [Xml.Library] {d : Dialect} {document : String} {root : Element}
    (opened : Xml.Library.parse? document = some root) :
    (∀ q, parseXml d document = .ok q → Part.operand.fits (Part.heed root) = true ∧
      ∀ k : Counted, (Part.heed root).amount k.tag = q.root.amount k) ∧
    (Part.operand.fits (Part.heed root) = false → ∃ refusal, parseXml d document = .error refusal ∧
      ∀ pruned n, pruned.toContent = Part.prune root →
        (Xcql.readNode d d.maxDepth pruned : Except Diagnostic Node) = .ok n →
        refusal.kind.code = 10) ∧
    (root.name ≠ "searchClause" → root.name ≠ "triple" → ∃ refusal,
      parseXml d document = .error refusal ∧ refusal.kind.code = 10) := by
  have read : (parseXml d document : Except Diagnostic Query) = .error (.tooDeep d.maxDepth) ∨
      parseXml d document = (Xcql.readNode d d.maxDepth root >>= fun n => .ok ⟨n, d⟩) := by
    unfold parseXml readXml
    rw [opened]
    split
    · exact .inl rfl
    · exact .inr rfl
  have heeded (q : Query) (h : parseXml d document = .ok q) :
      Part.operand.fits (Part.heed root) = true ∧
        ∀ k : Counted, (Part.heed root).amount k.tag = q.root.amount k := by
    obtain read | read := read <;> rw [read] at h
    · cases h
    · obtain ⟨n, ok, same⟩ := Reader.bind_eq_ok.1 h
      obtain rfl := Except.ok.inj same
      exact Xcql.heed_of_readNode ok
  refine ⟨heeded, fun outside => ?_, fun notClause notTriple => ?unknown⟩
  case unknown =>
    have unknown : Part.operand.child? root.name = none :=
      Option.eq_none_iff_forall_ne_some.2 fun p child =>
        (Xcql.child?_operand child).elim (notClause ·.1) (notTriple ·.1)
    rw [Xcql.readNode_of_unknown unknown] at read
    obtain read | read := read
    · exact ⟨_, read, rfl⟩
    · exact ⟨_, read, rfl⟩
  cases result : (parseXml d document : Except Diagnostic Query) with
  | ok q => simp [(heeded q result).1] at outside
  | error refusal =>
    refine ⟨refusal, rfl, fun pruned n same ok => ?_⟩
    obtain read | read := read <;> rw [result] at read
    · rw [Except.error.inj read]
      rfl
    · obtain root_ok | ⟨details, refused⟩ := Xcql.spoils_prune same n ok
      · rw [root_ok] at read
        cases read
      · rw [refused] at read
        rw [Except.error.inj read]
        rfl

/-- An element in a text is passed over; an unknown element in a relation, or as the root, is not. -/
theorem layout_of_parseXml_modified :
    let document (index relation : String) :=
      "<searchClause><index>" ++ index ++ "</index><relation><value>=</value>" ++ relation ++
        "</relation><term>a</term></searchClause>"
    (∃ root q,
      Xml.Document.parse? (document "t<b/>"
        "<modifiers><modifier><type>m</type></modifier></modifiers>") = some root ∧
      parseXml {} (document "t<b/>"
        "<modifiers><modifier><type>m</type></modifier></modifiers>") = .ok q ∧
      Part.operand.fits (Part.heed root) = true ∧ (Part.heed root).amount "modifier" = 1) ∧
    (∃ root refusal,
      Xml.Document.parse? (document "t" "<b/>") = some root ∧
      Part.operand.fits (Part.heed root) = false ∧
      parseXml {} (document "t" "<b/>") = .error refusal ∧ refusal.kind.code = 10) ∧
    ∃ root refusal, Xml.Document.parse? "<query/>" = some root ∧
      parseXml {} "<query/>" = .error refusal ∧ refusal.kind.code = 10 := by
  intro document
  refine ⟨?_, ?_, ?_⟩
  · generalize hd : document "t<b/>"
      "<modifiers><modifier><type>m</type></modifier></modifiers>" = modified
    let relation : Relation := ⟨⟨none, "="⟩, [⟨⟨none, "m"⟩, none, none⟩]⟩
    let q : Query := ⟨.clause .empty ⟨⟨none, "t"⟩, relation, ⟨"a"⟩⟩, {}⟩
    have parsed : parseXml {} modified = .ok q := by
      subst hd
      decide +kernel
    have opens : (Xml.Document.parse? modified).isSome := by
      subst hd
      decide +kernel
    obtain ⟨root, opened⟩ := Option.isSome_iff_exists.1 opens
    obtain ⟨fits, amounts⟩ := (layout_of_parseXml opened).1 q parsed
    exact ⟨root, q, opened, parsed, fits, amounts .modifier⟩
  · generalize hd : document "t" "<b/>" = unknown
    let n : Node := .clause .empty ⟨⟨none, "t"⟩, ⟨⟨none, "="⟩, []⟩, ⟨"a"⟩⟩
    have facts : (Xml.Document.parse? unknown).map (fun root =>
        (root.name, Part.operand.fits (Part.heed root),
          (Xcql.readNode {} 256 (Part.clause.take false root) : Except Diagnostic Node))) =
        some ("searchClause", false, .ok n) := by
      subst hd
      decide +kernel
    obtain ⟨root, opened, same⟩ := Option.map_eq_some_iff.1 facts
    obtain ⟨named, outside, read⟩ : root.name = "searchClause" ∧ _ ∧ _ := by
      simpa only [Prod.mk.injEq] using same
    obtain ⟨refusal, refused, code⟩ := (layout_of_parseXml (d := {}) opened).2.1 outside
    have pruned : (Part.clause.take false root).toContent = Part.prune root :=
      (Part.sift_of_read (by rw [named]; rfl)).symm
    exact ⟨root, refusal, opened, outside, refused, code _ n pruned read⟩
  · have facts : (Xml.Document.parse? "<query/>").map Element.name = some "query" := by
      decide +kernel
    obtain ⟨root, opened, named⟩ := Option.map_eq_some_iff.1 facts
    obtain ⟨refusal, refused, code⟩ := (layout_of_parseXml (d := {}) opened).2.2
      (by simp [named]) (by simp [named])
    exact ⟨root, refusal, opened, refused, code⟩

/-- An element in a text is accepted, although it has no place there, and of two lists of modifiers
one is dropped with its modifier. -/
theorem layout_of_parseXml_dropped :
    let document (index relation : String) :=
      "<searchClause><index>" ++ index ++ "</index><relation><value>=</value>" ++ relation ++
        "</relation><term>a</term></searchClause>"
    let twice := document "t" "<modifiers/><modifiers><modifier/></modifiers>"
    (∃ root q, Xml.Document.parse? (document "t<b/>" "") = some root ∧
      parseXml {} (document "t<b/>" "") = .ok q ∧ Part.operand.fits root.toContent = false) ∧
    ∃ root q, Xml.Document.parse? twice = some root ∧ parseXml {} twice = .ok q ∧
      root.toContent.amount "modifier" = 1 ∧ q.root.amount .modifier = 0 := by
  intro document twice
  let q : Query := ⟨.clause .empty ⟨⟨none, "t"⟩, ⟨⟨none, "="⟩, []⟩, ⟨"a"⟩⟩, {}⟩
  constructor
  · have outside : (Xml.Document.parse? (document "t<b/>" "")).map
        (Part.operand.fits ·.toContent) = some false := by
      decide +kernel
    obtain ⟨root, opened, outside⟩ := Option.map_eq_some_iff.1 outside
    exact ⟨root, q, opened, by decide +kernel, outside⟩
  · have one : (Xml.Document.parse? twice).map (·.toContent.amount "modifier") = some 1 := by
      decide +kernel
    obtain ⟨root, opened, one⟩ := Option.map_eq_some_iff.1 one
    exact ⟨root, q, opened, by decide +kernel, one, rfl⟩

end Query

end ContextQuery
