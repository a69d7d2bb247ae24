import ContextQuery.Proofs.Query.Binding

/-!
# References to result sets

A clause refers to a result set by the index `resultsetid` of the context set `cql`. A triple does
so through its clauses: all of them must refer to the same result set, and only `and` and `or` may
stand between them. That is said in three ways. The reader of references lists what the clauses
below a triple refer to, and gives up at the first `not` or `prox`; the nodes below a triple are
those whose way starts with its own; and a triple may be seen to refer to what both its operands
refer to.

## Main definitions

* `Connective.combines`: the connectives that keep a reference.
* `Node.commonResultSet`: the reference put together from those of the operands.

## Main results

* `Node.mem_located_below`: the nodes below a node, by their ways.
* `Query.resultSet_eq_iff`: which nodes of a query refer to a result set.
-/

namespace ContextQuery

/-- A triple of the connective refers to what its operands refer to. -/
def Connective.combines : Connective → Bool
  | and | or => true
  | not | prox => false

theorem Connective.combines_iff {op : Connective} :
    op.combines = true ↔ op ≠ .not ∧ op ≠ .prox := by
  cases op <;> decide

namespace Node

/-- The boolean of a triple. -/
def boolean? : Node → Option Boolean
  | clause _ _ => none
  | triple _ b _ _ => some b

/-- The result set that both operands of a triple refer to, and so on down to the clauses. -/
def commonResultSet (d : Dialect) (outer : Enclosing) : Node → String
  | clause p c => clauseResultSet d outer p c
  | triple p b l r =>
    if b.op.combines ∧ l.commonResultSet d (p :: outer) = r.commonResultSet d (p :: outer) then
      l.commonResultSet d (p :: outer)
    else ""

/-! ## Nodes and their ways -/

variable {way : List Side} {outer : Enclosing} {n : Node} {l m : Located}

/-- The way to a node goes on from that to the node it is below. -/
theorem way_of_mem_located (h : m ∈ n.located way outer) : way <+: m.way := by
  induction n generalizing way outer with
  | clause p c =>
    obtain rfl : m = ⟨way, outer, clause p c⟩ := by simpa [located] using h
    exact List.prefix_rfl
  | triple p b l r ihl ihr =>
    simp only [located, List.mem_cons, List.mem_append] at h
    rcases h with rfl | h | h
    · exact List.prefix_rfl
    · exact (List.prefix_append way _).trans (ihl h)
    · exact (List.prefix_append way _).trans (ihr h)

/-- Ways into different operands do not meet. -/
theorem side_of_prefix {way way' : List Side} {s s' : Side} (h : way ++ [s] <+: way')
    (h' : way ++ [s'] <+: way') : s = s' := by
  have same := List.prefix_of_prefix_length_le h h' (by simp)
  simpa using same

/-- The nodes below a node of a tree are those whose way starts with its own. -/
theorem mem_located_below (inside : l ∈ n.located way outer) :
    m ∈ l.node.located l.way l.outer ↔ m ∈ n.located way outer ∧ l.way <+: m.way := by
  induction n generalizing way outer with
  | clause p c =>
    obtain rfl : l = ⟨way, outer, clause p c⟩ := by simpa [located] using inside
    exact ⟨fun h => ⟨h, way_of_mem_located h⟩, fun h => h.1⟩
  | triple p b x y ihx ihy =>
    -- An operand has nothing to do with the triple itself and with the other operand.
    simp only [located, List.mem_cons, List.mem_append] at inside
    rcases inside with rfl | inside | inside
    · exact ⟨fun h => ⟨h, way_of_mem_located h⟩, fun h => h.1⟩
    · rw [ihx inside]
      refine and_congr_left fun onward => ?_
      have into := (way_of_mem_located inside).trans onward
      refine ⟨fun h => by simp [located, h], fun h => ?_⟩
      simp only [located, List.mem_cons, List.mem_append] at h
      rcases h with rfl | h | h
      · simpa using into.length_le
      · exact h
      · cases side_of_prefix into (way_of_mem_located h)
    · rw [ihy inside]
      refine and_congr_left fun onward => ?_
      have into := (way_of_mem_located inside).trans onward
      refine ⟨fun h => by simp [located, h], fun h => ?_⟩
      simp only [located, List.mem_cons, List.mem_append] at h
      rcases h with rfl | h | h
      · simpa using into.length_le
      · cases side_of_prefix into (way_of_mem_located h)
      · exact h

/-! ## The clauses below a node -/

variable {d : Dialect} {r : String}

theorem clauseResultSets_triple {p : PrefixMap} {b : Boolean} {x y : Node} {ids : List String} :
    (triple p b x y).clauseResultSets d outer = some ids ↔ b.op.combines = true ∧
      ∃ xs ys, x.clauseResultSets d (p :: outer) = some xs ∧
        y.clauseResultSets d (p :: outer) = some ys ∧ xs ++ ys = ids := by
  rw [clauseResultSets]
  by_cases parts : b.op = .not ∨ b.op = .prox
  · have apart : b.op.combines = false := by rcases parts with eq | eq <;> rw [eq] <;> rfl
    simp [parts, apart]
  · have joined : b.op.combines = true := Connective.combines_iff.2 (not_or.1 parts)
    cases x.clauseResultSets d (p :: outer) <;> cases y.clauseResultSets d (p :: outer) <;>
      simp [parts, joined]

theorem clauseResultSets_ne_nil {ids : List String}
    (h : n.clauseResultSets d outer = some ids) : ids ≠ [] := by
  induction n generalizing outer ids with
  | clause p c =>
    obtain rfl : [clauseResultSet d outer p c] = ids := by simpa [clauseResultSets] using h
    exact List.cons_ne_nil _ _
  | triple p b x y ihx ihy =>
    obtain ⟨-, xs, ys, readx, -, rfl⟩ := clauseResultSets_triple.1 h
    simp [ihx readx]

/-- All clauses of a tree refer to the result set, and no other connective stands between them. -/
def Agrees (d : Dialect) (outer : Enclosing) (r : String) (n : Node) : Prop :=
  ∃ ids, n.clauseResultSets d outer = some ids ∧ ∀ id ∈ ids, id = r

theorem agrees_triple {p : PrefixMap} {b : Boolean} {x y : Node} :
    (triple p b x y).Agrees d outer r ↔
      b.op.combines = true ∧ x.Agrees d (p :: outer) r ∧ y.Agrees d (p :: outer) r := by
  simp only [Agrees, clauseResultSets_triple]
  constructor
  · rintro ⟨_, ⟨combines, xs, ys, readx, ready, rfl⟩, same⟩
    rw [List.forall_mem_append] at same
    exact ⟨combines, ⟨xs, readx, same.1⟩, ys, ready, same.2⟩
  · rintro ⟨combines, ⟨xs, readx, samex⟩, ys, ready, samey⟩
    exact ⟨xs ++ ys, ⟨combines, xs, ys, readx, ready, rfl⟩, List.forall_mem_append.2 ⟨samex, samey⟩⟩

/-- The clauses agree just if each node of the tree does its part. -/
theorem agrees_iff (way : List Side) : n.Agrees d outer r ↔
    ∀ m ∈ n.located way outer, (∀ b ∈ m.node.boolean?, b.op.combines = true) ∧
      (m.node.isClause = true → m.resultSet d = r) := by
  induction n generalizing way outer with
  | clause p c =>
    simp [Agrees, clauseResultSets, located, boolean?, isClause, clause?, Located.resultSet,
      resultSet]
  | triple p b x y ihx ihy =>
    rw [agrees_triple, ihx (way ++ [.left]), ihy (way ++ [.right])]
    rw [located, List.forall_mem_cons, List.forall_mem_append]
    simp [boolean?, isClause, clause?]

/-- What a triple refers to, if anything. -/
theorem resultSet_triple_eq_iff {p : PrefixMap} {b : Boolean} {x y : Node} (named : r ≠ "") :
    (triple p b x y).resultSet d outer = r ↔
      d.combineResultSets = true ∧ (triple p b x y).Agrees d outer r := by
  rw [resultSet, Agrees]
  cases read : (triple p b x y).clauseResultSets d outer with
  | none => simp [named.symm]
  | some ids =>
    obtain ⟨first, rest, rfl⟩ := List.exists_cons_of_ne_nil (clauseResultSets_ne_nil read)
    cases d.combineResultSets with
    | false => simp [named.symm]
    | true =>
      simp only [reduceIte, List.all_eq_true, decide_eq_true_eq, true_and, Option.some.injEq,
        exists_eq_left', List.forall_mem_cons]
      split
      · next same => exact ⟨fun eq => ⟨eq, fun id mem => (same id mem).trans eq⟩, fun h => h.1⟩
      · next differ =>
        refine ⟨fun eq => absurd eq.symm named, fun ⟨eq, others⟩ => ?_⟩
        exact absurd (fun id mem => (others id mem).trans eq.symm) differ

theorem commonResultSet_eq_iff (named : r ≠ "") :
    n.commonResultSet d outer = r ↔ n.Agrees d outer r := by
  induction n generalizing outer with
  | clause p c => simp [commonResultSet, Agrees, clauseResultSets]
  | triple p b x y ihx ihy =>
    rw [agrees_triple, ← ihx, ← ihy, commonResultSet]
    by_cases both : b.op.combines = true ∧
        x.commonResultSet d (p :: outer) = y.commonResultSet d (p :: outer)
    · rw [if_pos both]
      simp [both.1, ← both.2]
    · rw [if_neg both]
      refine ⟨fun eq => absurd eq.symm named, fun ⟨combines, eqx, eqy⟩ => ?_⟩
      exact absurd ⟨combines, eqx.trans eqy.symm⟩ both

/-- If result sets are combined, each triple refers to what both its operands refer to. -/
theorem resultSet_eq_common (combine : d.combineResultSets = true) :
    n.resultSet d outer = n.commonResultSet d outer := by
  cases n with
  | clause p c => rfl
  | triple p b x y =>
    -- Both are empty, or else they agree with whichever of them is not.
    have same {r : String} (named : r ≠ "") :
        (triple p b x y).resultSet d outer = r ↔ (triple p b x y).commonResultSet d outer = r := by
      rw [resultSet_triple_eq_iff named, commonResultSet_eq_iff named]
      exact and_iff_right combine
    by_cases empty : (triple p b x y).commonResultSet d outer = ""
    · by_contra differs
      exact differs ((same fun none => differs (none.trans empty.symm)).1 rfl).symm
    · exact (same empty).2 rfl

end Node

namespace Query

open Node

/-- A node of a query refers to a result set just if it is a clause that names it by the index
`resultsetid` of the context set `cql`, or a triple, where the dialect combines result sets, no
`not` or `prox` joins anything at it or below it, and all clauses below it refer to that result
set. In such a dialect it is what both operands of the triple refer to. -/
theorem resultSet_eq_iff {q : Query} {l : Located} (inside : l ∈ q.located) :
    (∀ r, r ≠ "" → (l.resultSet q.dialect = r ↔
      (∃ c, l.node.clause? = some c ∧ l.indexSet? q.dialect = some ContextSet.cql ∧
        c.index.value = "resultsetid" ∧ c.term.value = r) ∨
      (l.node.isClause = false ∧ q.dialect.combineResultSets = true ∧
        ∀ m ∈ q.located, l.way <+: m.way →
          (∀ b ∈ m.node.boolean?, b.op ≠ .not ∧ b.op ≠ .prox) ∧
          (m.node.isClause = true → m.resultSet q.dialect = r)))) ∧
    (q.dialect.combineResultSets = true →
      l.resultSet q.dialect = l.node.commonResultSet q.dialect l.outer) := by
  refine ⟨fun r named => ?_, resultSet_eq_common⟩
  have below := fun m => mem_located_below (m := m) inside
  obtain ⟨way, outer, n⟩ := l
  cases n with
  | clause p c =>
    have reads : (⟨way, outer, .clause p c⟩ : Located).resultSet q.dialect =
      clauseResultSet q.dialect outer p c := rfl
    rw [reads, clauseResultSet]
    simp only [clause?, isClause, Located.indexSet?, prefixes, Option.bind_some,
      Option.isSome_some, Bool.true_eq_false, false_and, or_false, Option.some.injEq,
      exists_eq_left', Bool.and_eq_true, decide_eq_true_eq]
    split
    · next reserved => simp [reserved]
    · next other => exact ⟨fun eq => absurd eq.symm named, fun h => absurd ⟨h.1, h.2.1⟩ other⟩
  | triple p b x y =>
    have reads : (⟨way, outer, .triple p b x y⟩ : Located).resultSet q.dialect =
      (triple p b x y).resultSet q.dialect outer := rfl
    rw [reads, resultSet_triple_eq_iff named, agrees_iff way]
    have inner : (triple p b x y).clause? = none ∧ (triple p b x y).isClause = false := ⟨rfl, rfl⟩
    simp only [inner, reduceCtorEq, false_and, exists_false, false_or, true_and]
    refine and_congr_right fun _ => forall_congr' fun m => ?_
    rw [below, and_imp]
    simp only [Query.located, Connective.combines_iff]

/-- The context set may be bound to another prefix too. -/
theorem resultSet_eq_iff_prefixed :
    ∃ q, parse {} ("cql.resultsetid = a and >x=\"" ++ ContextSet.cql ++ "\" x.resultsetid = a") =
        .ok q ∧
      q.resultSet = "a" ∧ q.resultSet = q.root.commonResultSet q.dialect [] ∧
      ∃ l ∈ q.located, l.way = [.right] ∧ l.resultSet q.dialect = "a" := by
  let names (set : String) : SearchClause :=
    ⟨⟨some set, "resultsetid"⟩, ⟨⟨none, "="⟩, []⟩, ⟨"a"⟩⟩
  let renamed : Node := .clause (.ofList [("x", ContextSet.cql)]) (names "x")
  let q : Query := ⟨.triple .empty ⟨.and, []⟩ (.clause .empty (names "cql")) renamed, {}⟩
  have parsed : parse {} ("cql.resultsetid = a and >x=\"" ++ ContextSet.cql ++
      "\" x.resultsetid = a") = .ok q := by
    decide +kernel
  have root : ⟨[], [], q.root⟩ ∈ q.located := List.mem_cons_self
  have operand : ⟨[.right], [.empty], renamed⟩ ∈ q.located := by
    simp [Query.located, Node.located, q, renamed]
  have both := resultSet_eq_iff root
  refine ⟨q, parsed, (both.1 "a" (by decide)).2 (.inr ⟨rfl, rfl, ?_⟩), both.2 rfl, _, operand, rfl,
    ((resultSet_eq_iff operand).1 "a" (by decide)).2 (.inl ⟨_, rfl, rfl, rfl, rfl⟩)⟩
  decide +kernel

end Query

end ContextQuery
