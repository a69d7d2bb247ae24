import ContextQuery.Proofs.Query.Forest
import ContextQuery.Proofs.Xcql.Heeding
import Mathlib.Data.List.Find
import Mathlib.Data.List.Nodup

/-!
# The order of child elements

A document says the same when the parts of a clause, a relation, a triple, a boolean, a modifier or
a prefix change places, as long as none of these holds two parts of one name. Children are looked up
by their names there, so the reader comes to the same child from both documents, and what it reads
in the one it reads in the other, up to the refusal.

## Main definitions

* `Xcql.Rearranged`: elements that differ in the order of such parts, and in what stands between
  elements.
* `Xcql.Distinct`: no such element has two child elements of one name, at any depth.
* `Xcql.Alike`: two computations that both refuse, or both succeed with related results.

## Main results

* `Xcql.alike_readNode`: rearranged elements are read alike, whatever the nesting.
* `Query.parseXml_rearranged`: rearranged documents are the same query, with the same listing.
-/

namespace ContextQuery

open Xml (Content Element)

namespace Xcql

/-! ## Rearranged elements -/

/-- The elements whose child elements may stand in any order. -/
def unordered : List String :=
  ["searchClause", "relation", "triple", "boolean", "modifier", "prefix"]

/-- The elements whose text is read. -/
def textual : List String :=
  ["index", "value", "term", "type", "comparison", "name", "identifier"]

/-- The elements differ in the order of child elements where it is free, at every depth, and in
what else stands between child elements, but not in a text that is read. -/
inductive Rearranged : Element → Element → Prop
  | intro {name : String} {cs cs' : List Content} {moved : List Element}
    (perm : (elements cs).Perm moved) (kept : name ∉ unordered → elements cs = moved)
    (each : List.Forall₂ Rearranged moved (elements cs'))
    (text : name ∈ textual → frontText ⟨name, cs⟩ = frontText ⟨name, cs'⟩) :
    Rearranged ⟨name, cs⟩ ⟨name, cs'⟩

/-- The second element is the first one, or is inside it at any depth. -/
inductive Within : Element → Element → Prop
  | self {e : Element} : Within e e
  | child {e c f : Element} (mem : c ∈ elements e.children) (within : Within c f) : Within e f

/-- Where the order of child elements is free, no two of them have the same name. -/
def Distinct (root : Element) : Prop :=
  ∀ e, Within root e → e.name ∈ unordered → ((elements e.children).map (·.name)).Nodup

theorem Distinct.child {e c : Element} (h : Distinct e) (mem : c ∈ elements e.children) :
    Distinct c :=
  fun f within => h f (.child mem within)

theorem distinct_mk {name : String} {cs : List Content} : Distinct ⟨name, cs⟩ ↔
    (name ∈ unordered → ((elements cs).map (·.name)).Nodup) ∧ ∀ c ∈ elements cs, Distinct c := by
  refine ⟨fun h => ⟨h _ .self, fun c mem => h.child mem⟩, fun ⟨here, below⟩ e within => ?_⟩
  cases within with
  | self => exact here
  | child mem within => exact below _ mem e within

/-- The elements of two documents that a reader of a name comes to. -/
structure Counterparts (name : String) (e e' : Element) : Prop where
  named : e.name = name
  distinct : Distinct e
  rearranged : Rearranged e e'

/-! ## Computations that differ in refusals -/

/-- Both computations refuse, or both succeed with related results. -/
inductive Alike {α β : Type} (R : α → β → Prop) : Except Diagnostic α → Except Diagnostic β → Prop
  | ok {a : α} {b : β} (related : R a b) : Alike R (.ok a) (.ok b)
  | refused (refusal refusal' : Diagnostic) : Alike R (.error refusal) (.error refusal')

namespace Alike

variable {α β γ δ : Type} {R : α → β → Prop} {S : γ → δ → Prop}

protected theorem rfl {x : Except Diagnostic α} : Alike Eq x x := by
  cases x with
  | ok a => exact .ok rfl
  | error refusal => exact .refused refusal refusal

theorem bind {x : Except Diagnostic α} {y : Except Diagnostic β} {f : α → Except Diagnostic γ}
    {g : β → Except Diagnostic δ} (first : Alike R x y)
    (next : ∀ a b, R a b → Alike S (f a) (g b)) :
    Alike S (x >>= f) (y >>= g) := by
  cases first with
  | ok related => exact next _ _ related
  | refused refusal refusal' => exact .refused refusal refusal'

theorem toOption {x y : Except Diagnostic α} (h : Alike Eq x y) : x.toOption = y.toOption := by
  cases h with
  | ok related => rw [related]
  | refused => rfl

end Alike

/-! ## Looking children up -/

theorem Rearranged.name_eq {e e' : Element} (h : Rearranged e e') : e.name = e'.name := by
  obtain ⟨-, -, -, -⟩ := h
  rfl

/-- The child elements have the same names. -/
theorem Rearranged.names_perm {e e' : Element} (h : Rearranged e e') :
    ((elements e.children).map (·.name)).Perm ((elements e'.children).map (·.name)) := by
  obtain ⟨perm, -, each, -⟩ := h
  have same : List.Forall₂ Eq _ _ := List.forall₂_map_left_iff.2 (List.forall₂_map_right_iff.2
    (each.imp fun _ _ => Rearranged.name_eq))
  rw [List.forall₂_eq_eq_eq] at same
  exact (perm.map _).trans (.of_eq same)

theorem rel_find? {α : Type} {R S : α → α → Prop} {p : α → Bool} {as bs : List α}
    (each : List.Forall₂ R as bs) (same : ∀ a b, R a b → p a = p b)
    (found : ∀ a b, p a = true → R a b → S a b) : Option.Rel S (as.find? p) (bs.find? p) := by
  induction each with
  | nil => exact .none
  | @cons a b as bs related rest ih =>
    have both := same a b related
    cases holds : p a with
    | true =>
      rw [List.find?_cons_of_pos holds, List.find?_cons_of_pos (both ▸ holds)]
      exact .some (found a b holds related)
    | false =>
      rw [List.find?_cons_of_neg (by simp [holds]),
        List.find?_cons_of_neg (by simp [← both, holds])]
      exact ih

/-- Where names do not repeat, one finds the same element in any order. -/
theorem find?_name_eq_of_perm {es es' : List Element} (perm : es.Perm es')
    (distinct : (es.map (·.name)).Nodup) (name : String) :
    es.find? (·.name = name) = es'.find? (·.name = name) := by
  refine List.find?_eq_find?_of_perm perm fun a ha b hb => ?_
  simp only [Set.mem_ofPred_eq, decide_eq_true_eq] at ha hb
  exact List.inj_on_of_nodup_map distinct ha.1 hb.1 (ha.2.trans hb.2.symm)

namespace Counterparts

variable {parent name : String} {e e' : Element}

theorem name_eq (h : Counterparts parent e e') : e'.name = parent :=
  h.rearranged.name_eq.symm.trans h.named

theorem frontText (h : Counterparts name e e') (text : name ∈ textual) :
    frontText e = frontText e' := by
  obtain ⟨rfl, -, ⟨-, -, -, same⟩⟩ := h
  exact same text

/-- Child elements that keep their places. -/
theorem children (h : Counterparts parent e e') (fixed : parent ∉ unordered) :
    List.Forall₂ (fun c c' => Counterparts c.name c c') (elements e.children)
      (elements e'.children) := by
  obtain ⟨rfl, distinct, ⟨-, kept, each, -⟩⟩ := h
  rw [← kept fixed] at each
  have inside := (List.forall₂_and_left _ _).2 ⟨fun _ mem => mem, each⟩
  exact inside.imp fun c c' h => ⟨rfl, distinct.child h.1, h.2⟩

/-- Child elements that are looked up by name. -/
theorem child? (h : Counterparts parent e e') (free : parent ∈ unordered) (name : String) :
    Option.Rel (Counterparts name) (child? e name) (child? e' name) := by
  obtain ⟨rfl, distinct, ⟨perm, -, each, -⟩⟩ := h
  have found := find?_name_eq_of_perm perm (distinct _ .self free) name
  have inside := (List.forall₂_and_left _ _).2 ⟨fun _ mem => perm.mem_iff.2 mem, each⟩
  rw [Xcql.child?, found]
  refine rel_find? inside (fun c c' h => by rw [h.2.name_eq]) fun c c' named h => ?_
  exact ⟨of_decide_eq_true named, distinct.child h.1, h.2⟩

/-- The text of a child that is looked up. -/
theorem frontText_child? (h : Counterparts parent e e') (free : parent ∈ unordered) (name : String)
    (text : name ∈ textual) :
    (Xcql.child? e name).map Xcql.frontText = (Xcql.child? e' name).map Xcql.frontText := by
  have rel := h.child? free name
  generalize Xcql.child? e name = c, Xcql.child? e' name = c' at rel
  cases rel with
  | none => rfl
  | some same => exact congrArg some (same.frontText text)

theorem required (h : Counterparts parent e e') (free : parent ∈ unordered) (name : String) :
    Alike (Counterparts name) (required e name) (required e' name) := by
  have rel := h.child? free name
  unfold Xcql.required
  generalize Xcql.child? e name = c, Xcql.child? e' name = c' at rel
  cases rel with
  | none => exact .refused _ _
  | some same => exact .ok same

theorem onlyChildren (h : Counterparts parent e e') (names : List String) :
    Alike (fun _ _ => ∀ c ∈ elements e.children, c.name ∈ names) (onlyChildren e names)
      (onlyChildren e' names) := by
  have both : (∀ c ∈ elements e.children, c.name ∈ names) ↔
      ∀ c ∈ elements e'.children, c.name ∈ names := by
    have mapped (es : List Element) :
        (∀ c ∈ es, c.name ∈ names) ↔ ∀ n ∈ es.map (·.name), n ∈ names := List.forall_mem_map.symm
    rw [mapped, mapped]
    exact forall_congr' fun _ => imp_congr_left h.rearranged.names_perm.mem_iff
  have ok : (Xcql.onlyChildren e names : Except Diagnostic Unit) = .ok () ↔ _ := onlyChildren_eq_ok
  have ok' : (Xcql.onlyChildren e' names : Except Diagnostic Unit) = .ok () ↔ _ :=
    onlyChildren_eq_ok
  by_cases known : ∀ c ∈ elements e.children, c.name ∈ names
  · rw [ok.2 known, ok'.2 (both.1 known)]
    exact .ok known
  · cases read : (Xcql.onlyChildren e names : Except Diagnostic Unit) with
    | ok u => exact absurd (ok.1 read) known
    | error refusal =>
      cases read' : (Xcql.onlyChildren e' names : Except Diagnostic Unit) with
      | ok u => exact absurd (both.2 (ok'.1 read')) known
      | error refusal' => exact .refused refusal refusal'

end Counterparts

/-! ## Parts of a query -/

variable {d : Dialect} {e e' : Element} {n : Node}

/-- Names are read from a text. -/
theorem Counterparts.name_eq_name {name : String} (h : Counterparts name e e')
    (text : name ∈ textual) :
    (Xcql.name d e : Except Diagnostic Name) = Xcql.name d e' := by
  rw [Xcql.name, Xcql.name, h.frontText text]

theorem comparison?_eq (h : Counterparts "modifier" e e') :
    (comparison? e : Except Diagnostic (Option Comparison)) = comparison? e' := by
  have rel := h.child? (by decide) "comparison"
  unfold comparison?
  generalize child? e "comparison" = c, child? e' "comparison" = c' at rel
  cases rel with
  | none => rfl
  | some same => simp only [same.frontText (by decide)]

theorem alike_readModifier (h : Counterparts "modifier" e e') :
    Alike Eq (readModifier d e) (readModifier d e') := by
  unfold readModifier
  refine (h.onlyChildren _).bind fun _ _ _ => (h.required (by decide) "type").bind ?_
  intro type type' same
  rw [same.frontText (by decide), same.name_eq_name (by decide), comparison?_eq h,
    h.frontText_child? (by decide) "value" (by decide)]
  exact .rfl

theorem alike_readEach {es es' : List Element}
    (each : List.Forall₂ (Counterparts "modifier") es es') :
    Alike Eq (readEach d es) (readEach d es') := by
  induction each with
  | nil => exact .rfl
  | cons same rest ih =>
    refine (alike_readModifier same).bind fun first _ eq => ih.bind fun others _ eq' => ?_
    subst eq eq'
    exact .rfl

/-- Child elements that keep their places, after a check of their names. -/
theorem Counterparts.each {parent name : String} (h : Counterparts parent e e')
    (fixed : parent ∉ unordered) (known : ∀ c ∈ elements e.children, c.name ∈ [name]) :
    List.Forall₂ (Counterparts name) (elements e.children) (elements e'.children) := by
  have inside := (List.forall₂_and_left _ _).2 ⟨known, h.children fixed⟩
  exact inside.imp fun c c' h => List.mem_singleton.1 h.1 ▸ h.2

theorem alike_readModifiers {parent : String} (h : Counterparts parent e e')
    (free : parent ∈ unordered) : Alike Eq (readModifiers d e) (readModifiers d e') := by
  have rel := h.child? free "modifiers"
  unfold readModifiers
  generalize child? e "modifiers" = c, child? e' "modifiers" = c' at rel
  cases rel with
  | none => exact .rfl
  | some same =>
    refine (same.onlyChildren _).bind fun _ _ known => alike_readEach ?_
    exact same.each (by decide) known

theorem alike_readRelation (h : Counterparts "relation" e e') :
    Alike Eq (readRelation d e) (readRelation d e') := by
  unfold readRelation
  refine (h.onlyChildren _).bind fun _ _ _ => (h.required (by decide) "value").bind ?_
  intro value value' same
  rw [same.name_eq_name (by decide)]
  refine Alike.rfl.bind fun name _ eq =>
    (alike_readModifiers h (by decide)).bind fun mods _ eq' => ?_
  subst eq eq'
  exact .rfl

theorem alike_readBoolean (h : Counterparts "boolean" e e') :
    Alike Eq (readBoolean d e) (readBoolean d e') := by
  unfold readBoolean
  refine (h.onlyChildren _).bind fun _ _ _ => (h.required (by decide) "value").bind ?_
  intro value value' same
  rw [same.frontText (by decide)]
  refine Alike.rfl.bind fun op _ eq => (alike_readModifiers h (by decide)).bind fun mods _ eq' => ?_
  subst eq eq'
  exact .rfl

theorem alike_readClause (h : Counterparts "searchClause" e e') :
    Alike Eq (readClause d e) (readClause d e') := by
  unfold readClause
  refine (h.onlyChildren _).bind fun _ _ _ => (h.required (by decide) "index").bind ?_
  intro index index' same
  rw [same.name_eq_name (by decide)]
  refine Alike.rfl.bind fun index _ eq => (h.required (by decide) "relation").bind ?_
  intro relation relation' same
  refine (alike_readRelation same).bind fun relation _ eq' =>
    (h.required (by decide) "term").bind ?_
  intro term term' same
  rw [same.frontText (by decide)]
  subst eq eq'
  exact .rfl

/-! ## Declarations -/

theorem alike_declareEach {es es' : List Element} {written : List String}
    (each : List.Forall₂ (Counterparts "prefix") es es') :
    Alike Eq (declareEach d written n es) (declareEach d written n es') := by
  induction each generalizing written n with
  | nil => exact .rfl
  | @cons e e' es es' same rest ih =>
    unfold declareEach
    refine (same.onlyChildren _).bind fun _ _ _ => ?_
    have name : (child? e "name").map (fun c => Text.trim (frontText c)) =
        (child? e' "name").map fun c => Text.trim (frontText c) := by
      have text := congrArg (Option.map Text.trim) <|
        same.frontText_child? (by decide) "name" (by decide)
      rwa [Option.map_map, Option.map_map] at text
    rw [name]
    dsimp only
    split
    · exact .rfl
    refine (same.required (by decide) "identifier").bind fun identifier identifier' same => ?_
    rw [same.frontText (by decide)]
    refine Alike.rfl.bind fun n _ eq => ?_
    subst eq
    exact ih

theorem alike_declarePrefixes {parent : String} (h : Counterparts parent e e')
    (free : parent ∈ unordered) :
    Alike Eq (declarePrefixes d e n) (declarePrefixes d e' n) := by
  have rel := h.child? free "prefixes"
  unfold declarePrefixes
  generalize child? e "prefixes" = c, child? e' "prefixes" = c' at rel
  cases rel with
  | none => exact .rfl
  | some same =>
    refine (same.onlyChildren _).bind fun _ _ known => alike_declareEach ?_
    exact same.each (by decide) known

/-! ## Triples -/

section

variable {inner : Element → Except Diagnostic Node}

theorem alike_readOperand {parent : String} (h : Counterparts parent e e')
    (fixed : parent ∉ unordered)
    (within : ∀ c c', Counterparts c.name c c' → Alike Eq (inner c) (inner c')) :
    Alike Eq (readOperand inner e) (readOperand inner e') := by
  have each := h.children fixed
  unfold readOperand
  generalize elements e.children = es, elements e'.children = es' at each
  match each with
  | .nil => exact .refused _ _
  | .cons same .nil => exact within _ _ same
  | .cons _ (.cons _ _) => exact .refused _ _

theorem alike_readTriple (h : Counterparts "triple" e e')
    (within : ∀ c c', Counterparts c.name c c' → Alike Eq (inner c) (inner c')) :
    Alike Eq (readTriple d inner e) (readTriple d inner e') := by
  unfold readTriple
  refine (h.onlyChildren _).bind fun _ _ _ => (h.required (by decide) "boolean").bind ?_
  intro boolean boolean' same
  refine (alike_readBoolean same).bind fun boolean _ eq =>
    (h.required (by decide) "leftOperand").bind fun left left' same => ?_
  refine (alike_readOperand same (by decide) within).bind fun left _ eq' =>
    (h.required (by decide) "rightOperand").bind fun right right' same => ?_
  refine (alike_readOperand same (by decide) within).bind fun right _ eq'' => ?_
  subst eq eq' eq''
  exact .rfl

end

/-- Rearranged elements are read alike, if those inside operands are. -/
theorem alike_readNode_of {levels : Nat} (h : Counterparts e.name e e')
    (within : ∀ l, levels = l + 1 → ∀ c c', Counterparts c.name c c' →
      Alike Eq (readNode d l c) (readNode d l c')) :
    Alike Eq (readNode d levels e) (readNode d levels e') := by
  unfold readNode
  rw [h.name_eq]
  split
  · next clause =>
    refine (alike_readClause (clause ▸ h)).bind fun n _ eq => ?_
    exact eq ▸ alike_declarePrefixes h (by simp [clause, unordered])
  split
  · next triple =>
    cases levels with
    | zero => exact .refused _ _
    | succ l =>
      refine (alike_readTriple (triple ▸ h) (within l rfl)).bind fun n _ eq => ?_
      exact eq ▸ alike_declarePrefixes h (by simp [triple, unordered])
  · exact .refused _ _

/-- Rearranged elements are read alike, whatever the nesting. -/
theorem alike_readNode {levels : Nat} (h : Counterparts e.name e e') :
    Alike Eq (readNode d levels e) (readNode d levels e') := by
  -- The operands of a triple are read with one level less than the triple.
  induction levels generalizing e e' with
  | zero => exact alike_readNode_of h fun l eq => absurd eq (Nat.succ_ne_zero l).symm
  | succ levels ih =>
    refine alike_readNode_of h fun l eq c c' same => ?_
    obtain rfl := Nat.succ.inj eq
    exact ih same

end Xcql

namespace Query

open Xcql

/-- Documents that differ in the order of the parts of clauses, relations, triples, booleans,
modifiers and prefixes, none of which has two parts of one name, are read as the same query with the
same listing, or both refused. -/
theorem parseXml_rearranged [Xml.Library] {d : Dialect} {document document' : String}
    {root root' : Element}
    (opened : Xml.Library.parse? document = some root)
    (opened' : Xml.Library.parse? document' = some root')
    (distinct : Distinct root) (rearranged : Rearranged root root')
    (shallow : elementDepth document ≤ elementLimit d)
    (shallow' : elementDepth document' ≤ elementLimit d) :
    (parseXml d document).toOption = (parseXml d document').toOption ∧
      (arenaXml d document).toOption = (arenaXml d document').toOption := by
  have alike : Alike Eq (parseXml d document) (parseXml d document') := by
    rw [parseXml_of_shallow opened shallow, parseXml_of_shallow opened' shallow']
    refine (alike_readNode ⟨rfl, distinct, rearranged⟩).bind fun n _ eq => ?_
    rw [eq]
    exact .rfl
  have same := alike.toOption
  refine ⟨same, ?_⟩
  rw [arenaXml_eq, arenaXml_eq]
  generalize parseXml d document = read, parseXml d document' = read' at alike
  cases alike with
  | ok eq => rw [eq]
  | refused => rfl

/-- The parts of a clause change places, and a comment stands between them. -/
theorem parseXml_rearranged_clause :
    let relation := "<relation><value>=</value></relation>"
    ∃ q, parseXml {} ("<searchClause><index>t</index>" ++ relation ++
        "<term>x</term></searchClause>") = .ok q ∧
      (parseXml {} ("<searchClause><term>x</term>" ++ relation ++
        "<!----><index>t</index></searchClause>")).toOption = some q := by
  intro relation
  let leaf (name text : String) : Content := .element name [.text text]
  let equals : Content := .element "relation" [leaf "value" "="]
  let root : Element := ⟨"searchClause", [leaf "index" "t", equals, leaf "term" "x"]⟩
  let root' : Element := ⟨"searchClause", [leaf "term" "x", equals, .remark, leaf "index" "t"]⟩
  have opened : Xml.Document.parse? ("<searchClause><index>t</index>" ++ relation ++
      "<term>x</term></searchClause>") = some root := by
    decide +kernel
  have opened' : Xml.Document.parse? ("<searchClause><term>x</term>" ++ relation ++
      "<!----><index>t</index></searchClause>") = some root' := by
    decide +kernel
  have distinct : Distinct root := by
    simp [distinct_mk, root, elements, leaf, equals]
  have kept (name text : String) : Rearranged ⟨name, [.text text]⟩ ⟨name, [.text text]⟩ :=
    .intro .rfl (fun _ => rfl) .nil fun _ => rfl
  have rearranged : Rearranged root root' := by
    have perm : (elements root.children).Perm (elements root'.children) := by decide
    refine .intro perm (by decide) ?_ (by decide)
    exact .cons (kept ..) (.cons (.intro .rfl (fun _ => rfl) (.cons (kept ..) .nil) (by decide))
      (.cons (kept ..) .nil))
  have parsed : parseXml {} ("<searchClause><index>t</index>" ++ relation ++
      "<term>x</term></searchClause>") =
        .ok ⟨.clause .empty ⟨⟨none, "t"⟩, ⟨⟨none, "="⟩, []⟩, ⟨"x"⟩⟩, {}⟩ := by
    decide +kernel
  have same := (parseXml_rearranged (d := {}) opened opened' distinct rearranged
    (by decide +kernel) (by decide +kernel)).1
  exact ⟨_, parsed, same.symm.trans (congrArg Except.toOption parsed)⟩

end Query

end ContextQuery
