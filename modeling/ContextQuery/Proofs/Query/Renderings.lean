import ContextQuery.Json.Query
import ContextQuery.Proofs.Query.Readable
import ContextQuery.Proofs.Xcql.Unambiguous
import Mathlib.Data.List.TFAE

/-!
# Renderings carry the whole query

A rendering shows all that a query says: two queries that were read under one dialect have the same
XML form, at whatever level, just if they have the same JSON tree, and just if they have the same
shape, clauses and booleans and the same declarations at every node.

## Main results

* `Node.toJson_inj`: the JSON tree of a tree with canonical names determines the tree.
* `Node.eq_iff_sameAs`: trees are equal if they are the same up to prefixes and declare the same.
* `Query.renderings_tfae`: XML form, JSON tree and parts of a query determine one another.
-/

namespace ContextQuery

/-! ## JSON trees -/

/-- A member that is left out where the list is empty is known from what comes next. -/
theorem Json.optional_append_inj {α : Type} {key : String} (value : List α → Json) {as bs : List α}
    {next next' : String} {json json' : Json} {rest rest' : List (String × Json)}
    (ne : next ≠ key) (ne' : next' ≠ key)
    (eq : (if as.isEmpty then [] else [(key, value as)]) ++ (next, json) :: rest =
      (if bs.isEmpty then [] else [(key, value bs)]) ++ (next', json') :: rest') :
    ((as = [] ∧ bs = []) ∨ value as = value bs) ∧ json = json' ∧ rest = rest' := by
  cases as <;> cases bs <;> grind

/-- A modifier that can be read back is known from its object. -/
theorem Modifier.Readable.toJson_inj {a b : Modifier} (ha : a.Readable) (hb : b.Readable)
    (eq : a.toJson = b.toJson) : a = b := by
  have named : a.name.fullName = b.name.fullName := by
    simp only [toJson, Json.object.injEq, List.cons_append, List.nil_append, List.cons.injEq,
      Prod.mk.injEq, Json.string.injEq, true_and] at eq
    exact eq.1
  have name := ha.name.fullName_inj hb.name named
  obtain ⟨n, comparison, value⟩ := a
  obtain ⟨n', comparison', value'⟩ := b
  obtain ⟨rfl, rfl⟩ | ⟨c, v, rfl, rfl⟩ := ha.cases <;>
    obtain ⟨rfl, rfl⟩ | ⟨c', v', rfl, rfl⟩ := hb.cases <;>
    simp_all [toJson, Comparison.sign_injective.eq_iff]

theorem Modifier.map_toJson_inj {as bs : List Modifier} (ha : ∀ m ∈ as, m.Readable)
    (hb : ∀ m ∈ bs, m.Readable) (eq : as.map toJson = bs.map toJson) : as = bs := by
  induction as generalizing bs with
  | nil => simpa [eq_comm] using eq
  | cons a as ih =>
    cases bs with
    | nil => simp at eq
    | cons b bs =>
      obtain ⟨ha, has⟩ := List.forall_mem_cons.1 ha
      obtain ⟨hb, hbs⟩ := List.forall_mem_cons.1 hb
      obtain ⟨first, others⟩ := List.cons.inj eq
      rw [ha.toJson_inj hb first, ih has hbs others]

theorem Modifier.jsonMembers_append_inj {as bs : List Modifier} (ha : ∀ m ∈ as, m.Readable)
    (hb : ∀ m ∈ bs, m.Readable) {next next' : String} {json json' : Json}
    {rest rest' : List (String × Json)} (ne : next ≠ "modifiers") (ne' : next' ≠ "modifiers")
    (eq : jsonMembers as ++ (next, json) :: rest = jsonMembers bs ++ (next', json') :: rest') :
    as = bs ∧ json = json' ∧ rest = rest' := by
  obtain ⟨none | some, following⟩ :=
    Json.optional_append_inj (fun ms => .array (ms.map toJson)) ne ne' eq
  · exact ⟨none.1.trans none.2.symm, following⟩
  · exact ⟨map_toJson_inj ha hb (Json.array.inj some), following⟩

theorem PrefixMap.jsonMembers_append_inj {p p' : PrefixMap} {next next' : String}
    {json json' : Json} {rest rest' : List (String × Json)} (ne : next ≠ "prefixes")
    (ne' : next' ≠ "prefixes")
    (eq : p.jsonMembers ++ (next, json) :: rest = p'.jsonMembers ++ (next', json') :: rest') :
    p = p' ∧ json = json' ∧ rest = rest' := by
  have injective : Function.Injective fun e : String × String => (e.1, Json.string e.2) := by
    intro a b h
    grind
  simp only [jsonMembers, isEmpty] at eq
  obtain ⟨none | some, following⟩ := Json.optional_append_inj
    (fun entries : List (String × String) => .object (entries.map fun e => (e.1, .string e.2)))
    ne ne' eq
  · exact ⟨PrefixMap.ext (none.1.trans none.2.symm), following⟩
  · exact ⟨PrefixMap.ext (injective.list_map (Json.object.inj some)), following⟩

namespace Node

/-- A tree with canonical names is known from its JSON tree, whatever encloses it. -/
theorem toJson_inj {d d' : Dialect} {outer outer' : Enclosing} {n n' : Node} (h : n.Canonical)
    (h' : n'.Canonical) (eq : n.toJson d outer = n'.toJson d' outer') : n = n' := by
  induction n generalizing n' outer outer' with
  | clause p c =>
    cases n' with
    | triple => simp [toJson] at eq
    | clause p' c' =>
      simp only [toJson, List.append_assoc] at eq
      have members := List.append_cancel_left (Json.object.inj eq)
      obtain ⟨rfl, index, eq⟩ := PrefixMap.jsonMembers_append_inj (by decide) (by decide) members
      obtain ⟨-, eq⟩ := List.cons.inj eq
      obtain ⟨relation, eq⟩ := List.cons.inj eq
      obtain ⟨modifiers, term, -⟩ := Modifier.jsonMembers_append_inj h.2.modifiers h'.2.modifiers
        (by decide) (by decide) eq
      have index := h.2.index.fullName_inj h'.2.index (by simpa using index)
      have relation := h.2.relation.fullName_inj h'.2.relation (by simpa using relation)
      obtain ⟨i, r, ⟨value⟩⟩ := c
      obtain ⟨i', r', ⟨value'⟩⟩ := c'
      cases r
      cases r'
      simp_all
  | triple p b l r ihl ihr =>
    cases n' with
    | clause => simp [toJson] at eq
    | triple p' b' l' r' =>
      obtain ⟨-, hb, hl, hr⟩ := h
      obtain ⟨-, hb', hl', hr'⟩ := h'
      simp only [toJson, List.append_assoc] at eq
      have members := List.append_cancel_left (Json.object.inj eq)
      obtain ⟨rfl, op, eq⟩ := PrefixMap.jsonMembers_append_inj (by decide) (by decide) members
      obtain ⟨modifiers, left, eq⟩ :=
        Modifier.jsonMembers_append_inj hb hb' (by decide) (by decide) eq
      obtain ⟨right, -⟩ := List.cons.inj eq
      obtain rfl := ihl hl hl' left
      obtain rfl := ihr hr hr' (Prod.mk.inj right).2
      have op := Connective.keyword_injective (Json.string.inj op)
      cases b
      cases b'
      simp_all

/-! ## Corresponding nodes -/

theorem length_postorder_eq {n n' : Node} (h : n.sameAs n' = true) :
    n.postorder.length = n'.postorder.length := by
  induction n generalizing n' with
  | clause => cases n' <;> simp_all [sameAs, postorder]
  | triple _ _ _ _ ihl ihr =>
    cases n' with
    | clause => simp [sameAs] at h
    | triple =>
      simp only [sameAs, Bool.and_eq_true] at h
      simp [postorder, ihl h.1.2, ihr h.2]

/-- Trees are equal if they are the same up to prefixes and declare the same at every node. -/
theorem eq_iff_sameAs {n n' : Node} : n = n' ↔
    n.sameAs n' = true ∧ n.postorder.map prefixes = n'.postorder.map prefixes := by
  constructor
  · rintro rfl
    exact ⟨sameAs_self n, rfl⟩
  · rintro ⟨same, declared⟩
    induction n generalizing n' with
    | clause => cases n' <;> simp_all [sameAs, postorder, prefixes]
    | triple p b l r ihl ihr =>
      cases n' with
      | clause => simp [sameAs] at same
      | triple p' b' l' r' =>
        simp only [sameAs, Bool.and_eq_true, decide_eq_true_eq] at same
        obtain ⟨⟨rfl, sameLeft⟩, sameRight⟩ := same
        simp only [postorder, List.map_append, List.map_cons, List.map_nil] at declared
        obtain ⟨operands, root⟩ := List.append_inj' declared rfl
        obtain ⟨left, right⟩ :=
          List.append_inj operands (by simp [length_postorder_eq sameLeft])
        obtain rfl := ihl sameLeft left
        obtain rfl := ihr sameRight right
        simp_all [prefixes]

end Node

namespace Query

theorem canonical_of_read [Xml.Library] {d : Dialect} {q : Query}
    (read : (∃ text, parse d text = .ok q) ∨ ∃ document, parseXml d document = .ok q) :
    q.dialect = d ∧ q.root.Canonical := by
  obtain ⟨text, parsed⟩ | ⟨document, parsed⟩ := read
  · exact ⟨(parse_eq_ok_iff.1 parsed).1, (readable_of_parse parsed).canonical⟩
  · exact Xcql.canonical_parseXml parsed

theorem toXcql_inj {level : Nat} {a b : Query} (ha : a.root.Canonical) (hb : b.root.Canonical)
    (eq : a.toXcql level = b.toXcql level) : a.root = b.root := by
  have texts := congrArg (·.toList ++ []) eq
  exact (Xcql.delimited_node level ha hb texts).1

/-- Of two queries that were read under one dialect, the XML forms at a level are equal just if the
JSON trees are, and just if the queries are the same up to prefixes and declare the same at every
node. -/
theorem renderings_tfae [Xml.Library] {d : Dialect} {a b : Query}
    (readA : (∃ text, parse d text = .ok a) ∨ ∃ document, parseXml d document = .ok a)
    (readB : (∃ text, parse d text = .ok b) ∨ ∃ document, parseXml d document = .ok b)
    (level : Nat) :
    [a.toXcql level = b.toXcql level,
      a.toJson = b.toJson,
      a.sameAs b = true ∧ ∀ i, (a.node? i).map Node.prefixes = (b.node? i).map Node.prefixes].TFAE
    := by
  obtain ⟨rfl, canonicalA⟩ := canonical_of_read readA
  obtain ⟨dialect, canonicalB⟩ := canonical_of_read readB
  have parts : (∀ i, (a.node? i).map Node.prefixes = (b.node? i).map Node.prefixes) ↔
      a.root.postorder.map Node.prefixes = b.root.postorder.map Node.prefixes := by
    simp only [node?, ← List.getElem?_map, List.ext_getElem?_iff]
  tfae_have 1 → 2 := by
    intro forms
    rw [toJson, toJson, dialect, toXcql_inj canonicalA canonicalB forms]
  tfae_have 2 → 3 := by
    intro trees
    have root := Node.toJson_inj canonicalA canonicalB trees
    rw [parts]
    exact Node.eq_iff_sameAs.1 root
  tfae_have 3 → 1 := by
    rintro ⟨same, declared⟩
    rw [toXcql, toXcql, Node.eq_iff_sameAs.2 ⟨same, parts.1 declared⟩]
  tfae_finish

/-- A term that looks like markup has one XML form, from a text and from a document. A declaration
that nothing uses makes a difference. -/
theorem renderings_tfae_markup : ∃ a b c,
    parse {} "x = \"<term>\n\"" = .ok a ∧
    parseXml {} ("<searchClause><index>x</index><relation><value>=</value></relation>" ++
      "<term>&lt;term&gt;\n</term></searchClause>") = .ok b ∧
    parse {} "> p = u x = \"<term>\n\"" = .ok c ∧
    a.toXcql 1 = b.toXcql 1 ∧ a.toXcql 1 ≠ c.toXcql 1 := by
  let tree (p : PrefixMap) : Node := .clause p ⟨⟨none, "x"⟩, ⟨⟨none, "="⟩, []⟩, ⟨"<term>\n"⟩⟩
  have readA : parse {} "x = \"<term>\n\"" = .ok ⟨tree .empty, {}⟩ := by decide +kernel
  have readB : parseXml {} ("<searchClause><index>x</index><relation><value>=</value></relation>" ++
      "<term>&lt;term&gt;\n</term></searchClause>") = .ok ⟨tree .empty, {}⟩ := by decide +kernel
  have readC : parse {} "> p = u x = \"<term>\n\"" = .ok ⟨tree (.ofList [("p", "u")]), {}⟩ := by
    decide +kernel
  refine ⟨_, _, _, readA, readB, readC, ?_, fun forms => ?_⟩
  · have same := (renderings_tfae (.inl ⟨_, readA⟩) (.inr ⟨_, readB⟩) 1).out 0 2
    exact same.2 ⟨by decide, fun _ => rfl⟩
  · have same := (renderings_tfae (.inl ⟨_, readA⟩) (.inl ⟨_, readC⟩) 1).out 0 2
    exact absurd ((same.1 forms).2 0) (by decide)

end Query

end ContextQuery
