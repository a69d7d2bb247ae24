import ContextQuery.Proofs.Query.Phrase
import ContextQuery.Query.Scope

/-!
# What a prefix is bound to

Several groups of declarations may be written for one node, since parentheses make no node. They
are attached from the inside out, so the outermost group that declares a name binds it, and within
a group the last declaration does. Across a triple it is the other way round: what an operand
declares comes before what the triple declares. The reserved prefixes stand between what a clause
declares itself and what is declared around it.

## Main definitions

* `DeclarationGroup.binding?`: what the groups written for one node bind a name to.
* `Phrase.Occurrence`: a clause with the groups written for it and for the triples around it.
* `Phrase.Occurrence.resolve?`: what a prefix is bound to there, from the text alone.

## Main results

* `Query.clauses_of_phrase`: the clauses of a tree and those of the phrase it was read from.
* `Query.indexSet?_of_parse`: the context sets of all indexes of a query that was read.
-/

namespace ContextQuery

namespace DeclarationGroup

/-- What a group binds a name to: its last declaration of the name counts. -/
def declaration? (ds : DeclarationGroup) (name : String) : Option String :=
  (ds.reverse.find? fun entry => Text.lowerCase entry.1 = name).map (·.2)

/-- What groups, the outermost one first, bind a name to: the outermost one that declares it
counts. -/
def binding? (groups : List DeclarationGroup) (name : String) : Option String :=
  groups.findSome? (·.declaration? name)

/-- The map of a node that groups are written for, the outermost one first. -/
def merge (groups : List DeclarationGroup) : PrefixMap :=
  groups.foldr (fun ds map => map.insertAll (Grammar.bindings ds).entries) .empty

theorem get?_bindings (ds : DeclarationGroup) (name : String) :
    (Grammar.bindings ds).get? name = ds.declaration? name := by
  rw [Grammar.bindings, PrefixMap.ofList_eq, PrefixMap.get?_insertAll, PrefixMap.get?_empty,
    Option.or_none, declaration?, ← List.map_reverse, List.find?_map, Option.map_map]
  rfl

@[simp] theorem get?_merge (groups : List DeclarationGroup) (name : String) :
    (merge groups).get? name = binding? groups name := by
  induction groups with
  | nil => rfl
  | cons ds groups ih =>
    have outer := PrefixMap.get?_insertAll_entries (merge groups) (Grammar.bindings ds) name
    rw [ih, get?_bindings] at outer
    rw [binding?, List.findSome?_cons, ← binding?]
    refine outer.trans ?_
    cases ds.declaration? name <;> rfl

end DeclarationGroup

open DeclarationGroup

namespace Node

/-- Declares the groups written for a node, from the inside out. -/
def declareGroups (n : Node) (groups : List DeclarationGroup) : Node :=
  groups.foldr (fun ds n => n.declareMap (Grammar.bindings ds)) n

theorem prefixes_withPrefixes (n : Node) (map : PrefixMap) :
    (n.withPrefixes map).prefixes = map := by
  cases n <;> rfl

theorem withPrefixes_prefixes (n : Node) : n.withPrefixes n.prefixes = n := by
  cases n <;> rfl

theorem withPrefixes_withPrefixes (n : Node) (map map' : PrefixMap) :
    (n.withPrefixes map).withPrefixes map' = n.withPrefixes map' := by
  cases n <;> rfl

theorem declareGroups_eq {n : Node} (bare : n.prefixes = .empty)
    (groups : List DeclarationGroup) : n.declareGroups groups = n.withPrefixes (merge groups) := by
  induction groups with
  | nil => rw [merge, List.foldr_nil, ← bare, withPrefixes_prefixes, declareGroups, List.foldr_nil]
  | cons ds groups ih =>
    have inner : n.declareGroups (ds :: groups) =
        (n.declareGroups groups).declareMap (Grammar.bindings ds) := rfl
    rw [inner, ih, declareMap_eq, prefixes_withPrefixes, withPrefixes_withPrefixes]
    rfl

theorem clauses_located_clause (way : List Side) (outer : Enclosing) (map : PrefixMap)
    (c : SearchClause) :
    ((clause map c).located way outer).filter (·.node.isClause) = [⟨way, outer, clause map c⟩] :=
  rfl

theorem clauses_located_triple (way : List Side) (outer : Enclosing) (map : PrefixMap)
    (b : Boolean) (l r : Node) :
    ((triple map b l r).located way outer).filter (·.node.isClause) =
      (l.located (way ++ [.left]) (map :: outer)).filter (·.node.isClause) ++
        (r.located (way ++ [.right]) (map :: outer)).filter (·.node.isClause) := by
  simp [located, isClause, clause?]

end Node

namespace Phrase

/-- A clause as it stands in a phrase. -/
structure Occurrence where
  /-- The way to the clause from the root of the tree. -/
  way : List Side
  /-- The groups written for the clause, the outermost one first. -/
  own : List DeclarationGroup
  /-- The groups written for each of the triples around it, the nearest triple first. -/
  outer : List (List DeclarationGroup)
  clause : SearchClause

namespace Occurrence

/-- What a prefix is bound to where the clause stands. -/
def resolve? (d : Dialect) (o : Occurrence) (name : String) : Option String :=
  (binding? o.own name).or <| (ContextSet.reserved? name).or <|
    (o.outer.findSome? (binding? · name)).or (d.defaults.get? name)

/-- The clause with its place in the tree, where the groups of each node are merged. -/
def located (o : Occurrence) : Located :=
  ⟨o.way, o.outer.map merge, .clause (merge o.own) o.clause⟩

theorem resolve?_located (d : Dialect) (o : Occurrence) (name : String) :
    o.located.resolve? d name = o.resolve? d name := by
  simp [Located.resolve?, Scope.resolve?, located, Node.prefixes, resolve?, List.findSome?_map,
    Function.comp_def]

end Occurrence

/-- The clauses of a phrase from left to right, given the groups written for the whole phrase and
for the triples around it. -/
def occurrences (way : List Side) (own : List DeclarationGroup)
    (outer : List (List DeclarationGroup)) : Phrase → List Occurrence
  | clause c => [⟨way, own, outer, c⟩]
  | enclosed p => p.occurrences way own outer
  | declared ds p => p.occurrences way (own ++ [ds]) outer
  | joined _ l r =>
    l.occurrences (way ++ [.left]) [] (own :: outer) ++
      r.occurrences (way ++ [.right]) [] (own :: outer)

/-- The groups that wait for a phrase go to the root of its tree. -/
theorem clauses_declareGroups (p : Phrase) (way : List Side) (own : List DeclarationGroup)
    (outer : List (List DeclarationGroup)) :
    ((p.node.declareGroups own).located way (outer.map merge)).filter (·.node.isClause) =
      (p.occurrences way own outer).map Occurrence.located := by
  induction p generalizing way own outer with
  | clause c =>
    rw [node, Node.declareGroups_eq rfl]
    rfl
  | enclosed p ih => exact ih way own outer
  | declared ds p ih =>
    have inside := ih way (own ++ [ds]) outer
    rwa [Node.declareGroups, List.foldr_append] at inside
  | joined b l r ihl ihr =>
    have left := ihl (way ++ [.left]) [] (own :: outer)
    have right := ihr (way ++ [.right]) [] (own :: outer)
    rw [node, Node.declareGroups_eq rfl, Node.withPrefixes, Node.clauses_located_triple,
      occurrences, List.map_append, ← left, ← right]
    rfl

end Phrase

namespace Query

/-- The clauses of a tree are those of any phrase that stands for it. -/
theorem clauses_of_phrase {q : Query} {p : Phrase} (node : p.node = q.root) :
    q.clauses = (p.occurrences [] [] []).map Phrase.Occurrence.located := by
  have same := p.clauses_declareGroups [] [] []
  rwa [Node.declareGroups, List.foldr_nil, node] at same

/-- The context set of each index of a query that was read follows from the text: the text writes
one phrase, the clauses of the query are those of the phrase, and the prefix of an index, or the
empty name, is bound to what the phrase says. -/
theorem indexSet?_of_parse {d : Dialect} {text : String} {q : Query}
    (parsed : parse d text = .ok q) :
    ∃ p : Phrase, (∀ p', p'.WrittenBy d text ↔ p' = p) ∧
      q.clauses.map (fun l => (l.way, l.node.clause?, l.indexSet? q.dialect)) =
        (p.occurrences [] [] []).map fun o =>
          (o.way, some o.clause, o.resolve? d (o.clause.index.set.getD "")) := by
  obtain ⟨p, written, node⟩ := writes_of_parse parsed
  obtain ⟨rfl, -⟩ := parse_eq_ok_iff.1 parsed
  refine ⟨p, written, ?_⟩
  rw [clauses_of_phrase node, List.map_map]
  refine List.map_congr_left fun o _ => ?_
  rw [← o.resolve?_located]
  rfl

/-- An outer group rebinds what stands in parentheses, an operand what stands around it, and only a
clause of its own a reserved prefix. -/
theorem indexSet?_of_parse_rebound :
    ∃ q, parse {} ">dc=a >DC=b >cql=c (>dc=d (dc.x = y and >Dc=e dc.x = y or cql.x = y))" = .ok q ∧
      ∃ p : Phrase, (∀ p', p'.WrittenBy {}
          ">dc=a >DC=b >cql=c (>dc=d (dc.x = y and >Dc=e dc.x = y or cql.x = y))" ↔ p' = p) ∧
        q.clauses.map (fun l => (l.way, l.node.clause?, l.indexSet? q.dialect)) =
          (p.occurrences [] [] []).map fun o =>
            (o.way, some o.clause, o.resolve? {} (o.clause.index.set.getD "")) := by
  let dc : SearchClause := ⟨⟨some "dc", "x"⟩, ⟨⟨none, "="⟩, []⟩, ⟨"y"⟩⟩
  let cql : SearchClause := ⟨⟨some "cql", "x"⟩, ⟨⟨none, "="⟩, []⟩, ⟨"y"⟩⟩
  let q : Query := ⟨.triple (.ofList [("cql", "c"), ("dc", "b")]) ⟨.and, []⟩ (.clause .empty dc)
    (.triple (.ofList [("dc", "e")]) ⟨.or, []⟩ (.clause .empty dc) (.clause .empty cql)), {}⟩
  have parsed : parse {}
      ">dc=a >DC=b >cql=c (>dc=d (dc.x = y and >Dc=e dc.x = y or cql.x = y))" = .ok q := by
    decide +kernel
  exact ⟨q, parsed, indexSet?_of_parse parsed⟩

/-- What the phrase of that text says. -/
example :
    let clause (set : String) : Phrase :=
      .clause ⟨⟨some set, "x"⟩, ⟨⟨none, "="⟩, []⟩, ⟨"y"⟩⟩
    let inner : Phrase := .joined ⟨.and, []⟩ (clause "dc")
      (.declared [("Dc", "e")] (.declared [] (.joined ⟨.or, []⟩ (clause "dc") (clause "cql"))))
    let p : Phrase := .declared [("dc", "a"), ("DC", "b"), ("cql", "c")]
      (.enclosed (.declared [("dc", "d")] (.enclosed (.declared [] inner))))
    (p.occurrences [] [] []).map (fun o => o.resolve? {} (o.clause.index.set.getD "")) =
      [some "b", some "e", some ContextSet.cql] := by
  decide +kernel

end Query

end ContextQuery
