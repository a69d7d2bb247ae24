import Mathlib.Data.ENat.Basic
import ContextQuery.Proofs.PrefixMap
import ContextQuery.Query.Reader

/-!
# The grammar of queries

Which token lists are queries, and which tree each of them stands for, without a reader: a
derivation relates the tokens ahead, the node they derive and the tokens left over. The grammar is
ambiguous as it is usually written down; the conditions on the tokens left over settle it.

* Declarations, modifiers and booleans are taken as long as they go on.
* The declarations of a group are attached to the node that the query after them derives, so a
  later attachment replaces the bindings of an earlier one.
* The first token is a term on its own if the next one is a connective, a parenthesis or missing.

A derivation carries two bounds, on the queries that are open at a time and on the height of the
triples it joins. With `⊤` for both, it is the grammar alone.

## Main definitions

* `Grammar.Modifiers`, `Grammar.Declarations`, `Grammar.Clause`: the parts that do not nest.
* `Grammar.Derives`: the parts that nest.
* `Grammar.Accepts`: a whole token list, with its end mark, derives a query.
-/

namespace ContextQuery

namespace Node

/-- Declares the bindings of a map on a node, which replace those that the node has. -/
def declareMap (n : Node) (map : PrefixMap) : Node :=
  map.entries.foldl (fun n entry => n.declare entry.1 entry.2) n

@[simp] theorem size_withPrefixes (n : Node) (map : PrefixMap) :
    (n.withPrefixes map).size = n.size := by
  cases n <;> rfl

@[simp] theorem height_withPrefixes (n : Node) (map : PrefixMap) :
    (n.withPrefixes map).height = n.height := by
  cases n <;> rfl

/-- Declaring one prefix after the other binds them all. -/
theorem foldl_declare (n : Node) (entries : List (String × String)) :
    entries.foldl (fun n entry => n.declare entry.1 entry.2) n =
      n.withPrefixes (n.prefixes.insertAll entries) := by
  induction entries generalizing n with
  | nil => cases n <;> rfl
  | cons entry entries ih =>
    rw [List.foldl_cons, ih]
    cases n <;> rfl

theorem declareMap_eq (n : Node) (map : PrefixMap) :
    n.declareMap map = n.withPrefixes (n.prefixes.insertAll map.entries) :=
  foldl_declare n map.entries

@[simp] theorem size_declareMap (n : Node) (map : PrefixMap) :
    (n.declareMap map).size = n.size := by
  simp [declareMap_eq]

@[simp] theorem height_declareMap (n : Node) (map : PrefixMap) :
    (n.declareMap map).height = n.height := by
  simp [declareMap_eq]

@[simp] theorem sameAs_self (n : Node) : n.sameAs n = true := by
  induction n with
  | clause => simp [sameAs]
  | triple _ _ _ _ ihl ihr => simp [sameAs, ihl, ihr]

theorem size_pos (n : Node) : 0 < n.size := by
  cases n <;> simp [size]

/-- A high tree has many nodes: each level adds a triple and an operand beside the higher one. -/
theorem two_mul_height_lt_size (n : Node) : 2 * n.height < n.size := by
  induction n with
  | clause => simp [height, size]
  | triple _ _ l r ihl ihr =>
    have := l.size_pos
    have := r.size_pos
    simp only [height, size]
    omega

end Node

namespace Grammar

open Reader (atKind atSign endsClause)

/-- Modifiers, each after a slash. A comparison after the type calls for a value. -/
inductive Modifiers (d : Dialect) : List Token → List Modifier → List Token → Prop where
  | done {ts : List Token} (stop : atKind .slash ts = false) : Modifiers d ts [] ts
  | bare {slash n : Token} {name : Name} {ts rest : List Token} {ms : List Modifier}
      (isSlash : slash.kind = .slash) (isName : n.isName) (parsed : Name.parse d n.text = .ok name)
      (stop : atKind .comparison ts = false) (more : Modifiers d ts ms rest) :
      Modifiers d (slash :: n :: ts) (⟨name, none, none⟩ :: ms) rest
  | valued {slash n c v : Token} {name : Name} {ts rest : List Token} {ms : List Modifier}
      (isSlash : slash.kind = .slash) (isName : n.isName) (parsed : Name.parse d n.text = .ok name)
      (isComparison : c.kind = .comparison) (isValue : v.isName) (more : Modifiers d ts ms rest) :
      Modifiers d (slash :: n :: c :: v :: ts)
        (⟨name, Comparison.ofSign? c.text, some (unquote v.text)⟩ :: ms) rest

/-- Declarations with their names as written; a declaration without a name has the empty one. -/
inductive Declarations : List Token → List (String × String) → List Token → Prop where
  | done {ts : List Token} (stop : atSign .gt ts = false) : Declarations ts [] ts
  | named {opening a sign i : Token} {ts rest : List Token} {ds : List (String × String)}
      (opens : opening.isSign .gt) (isName : a.isName) (isSign : sign.isSign .eq)
      (isIdentifier : i.isName) (more : Declarations ts ds rest) :
      Declarations (opening :: a :: sign :: i :: ts) ((unquote a.text, unquote i.text) :: ds) rest
  | unnamed {opening i : Token} {ts rest : List Token} {ds : List (String × String)}
      (opens : opening.isSign .gt) (isIdentifier : i.isName) (stop : atSign .eq ts = false)
      (more : Declarations ts ds rest) :
      Declarations (opening :: i :: ts) (("", unquote i.text) :: ds) rest

/-- The map of a group of declarations: names count in lower case, and the last one wins. -/
def bindings (ds : List (String × String)) : PrefixMap :=
  PrefixMap.ofList (ds.map fun entry => (Text.lowerCase entry.1, entry.2))

/-- The dialect lets the names of a group be declared together. -/
def Distinct (d : Dialect) (ds : List (String × String)) : Prop :=
  d.refuseDuplicatePrefix = true → (ds.map (·.1)).Nodup

/-- The dialect lets the bindings be declared on a node. -/
def Declarable (d : Dialect) (map : PrefixMap) : Prop :=
  d.refuseDuplicatePrefix = true → ∀ entry ∈ map.entries, ContextSet.isReserved entry.1 = false

/-- A token is read as a term. -/
def ReadsTerm (d : Dialect) (t : Token) (value : Term) : Prop :=
  t.kind ≠ .leftParen ∧ t.kind ≠ .rightParen ∧ Term.parse d t.text = .ok value

/-- A search clause: in full, or a term alone that a connective, a closing parenthesis or the end
of the tokens follows. -/
inductive Clause (d : Dialect) : List Token → SearchClause → List Token → Prop where
  | full {i r t : Token} {index name : Name} {ms : List Modifier} {value : Term}
      {ts rest : List Token} (isName : i.isName) (goesOn : endsClause (r :: ts) = false)
      (index_parsed : Name.parse d i.text = .ok index)
      (isRelation : r.isName || r.kind = .comparison)
      (relation_parsed : Name.parse d r.text = .ok name) (mods : Modifiers d ts ms (t :: rest))
      (term : ReadsTerm d t value) : Clause d (i :: r :: ts) ⟨index, ⟨name, ms⟩, value⟩ rest
  | short {t : Token} {value : Term} {rest : List Token} (ends : endsClause rest = true)
      (stop : atKind .leftParen rest = false) (term : ReadsTerm d t value) :
      Clause d (t :: rest) (.serverChoice d value) rest

/-- The token at the front is a connective. -/
def atConnective : List Token → Bool
  | t :: _ => Reader.isConnective t
  | [] => false

/-- The parts of a query that nest. -/
inductive Part where
  /-- Declarations, an operand, and what is joined to it. -/
  | query
  /-- One operand. Only after a boolean may it open with declarations of its own. -/
  | operand (afterBoolean : Bool)
  /-- Booleans and operands that are joined to the node so far. -/
  | tail (left : Node)

/-- The first tokens derive a node and leave the others over. No triple is higher than `limit`,
and no more queries than `opens` are open at a time. -/
inductive Derives (d : Dialect) (limit : ℕ∞) :
    Part → ℕ∞ → List Token → Node → List Token → Prop where
  | group {later : Bool} {opens : ℕ∞} {t u : Token} {ts rest : List Token} {n : Node}
      (isLeft : t.kind = .leftParen) (inner : Derives d limit .query opens ts n (u :: rest))
      (isRight : u.kind = .rightParen) : Derives d limit (.operand later) opens (t :: ts) n rest
  | clause {later : Bool} {opens : ℕ∞} {ts rest : List Token} {c : SearchClause}
      (reads : Clause d ts c rest) :
      Derives d limit (.operand later) opens ts (.clause .empty c) rest
  | declared {opens : ℕ∞} {ts ts' rest : List Token} {ds : List (String × String)} {n : Node}
      (group : Declarations ts ds ts') (nonempty : ds ≠ []) (distinct : Distinct d ds)
      (inner : Derives d limit .query opens ts' n rest) (declarable : Declarable d (bindings ds)) :
      Derives d limit (.operand true) opens ts (n.declareMap (bindings ds)) rest
  | done {opens : ℕ∞} {left : Node} {ts : List Token} (stop : atConnective ts = false) :
      Derives d limit (.tail left) opens ts left ts
  | joined {opens : ℕ∞} {left right n : Node} {t : Token} {ts ts' ts'' rest : List Token}
      {op : Connective} {ms : List Modifier} (isWord : t.kind = .word)
      (isKeyword : Connective.ofKeyword? t.text = some op) (mods : Modifiers d ts ms ts')
      (operand : Derives d limit (.operand true) opens ts' right ts'')
      (bounded : (Node.triple .empty ⟨op, ms⟩ left right).height ≤ limit)
      (more : Derives d limit (.tail (.triple .empty ⟨op, ms⟩ left right)) opens ts'' n rest) :
      Derives d limit (.tail left) opens (t :: ts) n rest
  | query {opens inner : ℕ∞} {ts ts' ts'' rest : List Token} {ds : List (String × String)}
      {first n : Node} (open_le : inner + 1 ≤ opens) (group : Declarations ts ds ts')
      (distinct : Distinct d ds) (operand : Derives d limit (.operand false) inner ts' first ts'')
      (more : Derives d limit (.tail first) inner ts'' n rest)
      (declarable : Declarable d (bindings ds)) :
      Derives d limit .query opens ts (n.declareMap (bindings ds)) rest

/-- The tokens up to the end mark derive the query, whatever its depth. -/
def Accepts (d : Dialect) (ts : List Token) (q : Query) : Prop :=
  q.dialect = d ∧ ∃ body mark, ts = body ++ [mark] ∧ mark.isFinish ∧
    Derives d ⊤ .query ⊤ body q.root []

@[simp] theorem isEmpty_bindings (ds : List (String × String)) :
    (bindings ds).isEmpty = ds.isEmpty := by
  rw [bindings, PrefixMap.ofList_eq, PrefixMap.isEmpty_insertAll]
  simp [PrefixMap.empty, PrefixMap.isEmpty]

/-! ## What a derivation takes -/

variable {d : Dialect} {ts rest : List Token}

theorem Declarations.starts {ds : List (String × String)} (h : Declarations ts ds rest)
    (nonempty : ds ≠ []) : atSign .gt ts = true ∧ atKind .leftParen ts = false := by
  cases h with
  | done => exact absurd rfl nonempty
  | named opens | unnamed opens => simp_all [atSign, atKind, Token.isSign]

theorem Declarations.stop {ds : List (String × String)} (h : Declarations ts ds rest) :
    atSign .gt rest = false := by
  induction h with
  | done stop => exact stop
  | named _ _ _ _ _ ih | unnamed _ _ _ _ ih => exact ih

/-- Neither declarations nor a group can be taken for a clause. -/
theorem Clause.starts {c : SearchClause} (h : Clause d ts c rest) :
    atSign .gt ts = false ∧ atKind .leftParen ts = false := by
  cases h with
  | full isName => simp_all [atSign, atKind, Token.isSign, Token.isName]; grind
  | @short t _ _ _ _ term =>
    refine ⟨?_, by simpa [atKind] using term.1⟩
    by_contra sign
    simp only [atSign, Token.isSign, Bool.not_eq_false, Bool.and_eq_true, decide_eq_true_eq] at sign
    have parsed := term.2.2
    simp [Term.parse, sign.2, Comparison.sign, Term.bareOperators] at parsed

theorem Modifiers.suffix {ms : List Modifier} (h : Modifiers d ts ms rest) : rest <:+ ts := by
  induction h with
  | done => exact List.suffix_rfl
  | @bare slash n _ ts _ _ _ _ _ _ _ ih => exact ih.trans (List.suffix_append [slash, n] ts)
  | @valued slash n c v _ ts _ _ _ _ _ _ _ _ ih =>
    exact ih.trans (List.suffix_append [slash, n, c, v] ts)

theorem Declarations.suffix {ds : List (String × String)} (h : Declarations ts ds rest) :
    rest <:+ ts := by
  induction h with
  | done => exact List.suffix_rfl
  | @named opening a sign i ts _ _ _ _ _ _ _ ih =>
    exact ih.trans (List.suffix_append [opening, a, sign, i] ts)
  | @unnamed opening i ts _ _ _ _ _ _ ih => exact ih.trans (List.suffix_append [opening, i] ts)

theorem Clause.suffix {c : SearchClause} (h : Clause d ts c rest) : rest <:+ ts := by
  cases h with
  | @full i r t _ _ _ _ ts _ _ _ _ _ _ mods =>
    exact ((List.suffix_cons t rest).trans mods.suffix).trans (List.suffix_append [i, r] ts)
  | short => exact List.suffix_cons _ _

theorem Derives.suffix {limit opens : ℕ∞} {part : Part} {n : Node}
    (h : Derives d limit part opens ts n rest) : rest <:+ ts := by
  induction h with
  | group _ _ _ ih => exact ((List.suffix_cons _ _).trans ih).trans (List.suffix_cons _ _)
  | clause reads => exact reads.suffix
  | declared group _ _ _ _ ih => exact ih.trans group.suffix
  | done => exact List.suffix_rfl
  | joined _ _ mods _ _ _ ih_operand ih_more =>
    exact ((ih_more.trans ih_operand).trans mods.suffix).trans (List.suffix_cons _ _)
  | query _ group _ _ _ _ ih_operand ih_more => exact (ih_more.trans ih_operand).trans group.suffix

theorem Declarations.length_le {ds : List (String × String)} (h : Declarations ts ds rest) :
    rest.length + 2 * ds.length ≤ ts.length := by
  induction h with
  | done => simp
  | named | unnamed =>
    simp only [List.length_cons]
    omega

theorem Clause.length_lt {c : SearchClause} (h : Clause d ts c rest) : rest.length < ts.length := by
  cases h with
  | full _ _ _ _ _ mods =>
    have := mods.suffix.length_le
    simp only [List.length_cons] at *
    omega
  | short => simp

/-- The number of nodes that are there before the part is read. -/
def Part.size : Part → Nat
  | .tail left => left.size
  | _ => 0

/-- Each node takes a token of its own. -/
theorem Derives.size_add_length_le {limit opens : ℕ∞} {part : Part} {n : Node}
    (h : Derives d limit part opens ts n rest) : n.size + rest.length ≤ part.size + ts.length := by
  induction h with
  | group _ _ _ ih =>
    simp only [Part.size, List.length_cons] at *
    omega
  | clause reads =>
    have := reads.length_lt
    simp only [Part.size, Node.size]
    omega
  | declared group _ _ _ _ ih =>
    have := group.length_le
    simp only [Part.size, Node.size_declareMap] at *
    omega
  | done => simp [Part.size]
  | joined _ _ mods _ _ _ ih_operand ih_more =>
    have := mods.suffix.length_le
    simp only [Part.size, Node.size, List.length_cons] at *
    omega
  | query _ group _ _ _ _ ih_operand ih_more =>
    have := group.length_le
    simp only [Part.size, Node.size_declareMap] at *
    omega

/-- A query is not high for the number of its tokens. -/
theorem Derives.two_mul_height_lt {limit opens : ℕ∞} {n : Node}
    (h : Derives d limit .query opens ts n rest) : 2 * n.height < ts.length := by
  have high := n.two_mul_height_lt_size
  have large := h.size_add_length_le
  simp only [Part.size] at large
  omega

theorem Derives.height_le_limit {limit opens : ℕ∞} {part : Part} {n : Node}
    (h : Derives d limit part opens ts n rest)
    (left : ∀ m, part = .tail m → (m.height : ℕ∞) ≤ limit) : (n.height : ℕ∞) ≤ limit := by
  induction h with
  | group _ _ _ ih => exact ih nofun
  | clause => simp [Node.height]
  | declared _ _ _ _ _ ih => simpa using ih nofun
  | done => exact left _ rfl
  | joined _ _ _ _ bounded _ _ ih => exact ih fun m eq => by cases eq; exact bounded
  | query _ _ _ _ _ _ ih_operand ih_more =>
    simpa using ih_more fun m eq => by cases eq; exact ih_operand nofun

theorem Derives.mono {limit limit' opens opens' : ℕ∞} {part : Part} {n : Node}
    (h : Derives d limit part opens ts n rest) (hl : limit ≤ limit') (ho : opens ≤ opens') :
    Derives d limit' part opens' ts n rest := by
  induction h generalizing opens' with
  | group isLeft _ isRight ih => exact .group isLeft (ih ho) isRight
  | clause reads => exact .clause reads
  | declared group nonempty distinct _ declarable ih =>
    exact .declared group nonempty distinct (ih ho) declarable
  | done stop => exact .done stop
  | joined isWord isKeyword mods _ bounded _ ih_operand ih_more =>
    exact .joined isWord isKeyword mods (ih_operand ho) (bounded.trans hl) (ih_more ho)
  | query open_le group distinct _ _ declarable ih_operand ih_more =>
    exact .query (open_le.trans ho) group distinct (ih_operand le_rfl) (ih_more le_rfl) declarable

/-- A node is no higher than the one it is joined into. -/
theorem Derives.height_le {limit opens : ℕ∞} {left n : Node}
    (h : Derives d limit (.tail left) opens ts n rest) : left.height ≤ n.height := by
  generalize hp : Part.tail left = part at h
  induction h generalizing left with
  | done => cases hp; exact Nat.le_refl _
  | joined _ _ _ _ _ _ _ ih =>
    cases hp
    have := ih rfl
    simp only [Node.height] at this
    omega
  | _ => cases hp

/-- How many more tokens than open queries the part may take. -/
def Part.slack : Part → Nat
  | .query => 0
  | _ => 1

/-- Bounds that the height of the result and the number of its tokens keep are no bounds: each
query that opens another one has taken a token before. -/
theorem Derives.bounded {limit opens : ℕ∞} {part : Part} {n : Node}
    (h : Derives d limit part opens ts n rest) {limit' opens' : Nat} (hn : n.height ≤ limit')
    (hl : ts.length ≤ rest.length + opens' + part.slack) :
    Derives d limit' part opens' ts n rest := by
  induction h generalizing opens' with
  | group isLeft _ isRight ih =>
    simp only [Part.slack, List.length_cons] at *
    exact .group isLeft (ih hn (by omega)) isRight
  | clause reads => exact .clause reads
  | declared group nonempty distinct _ declarable ih =>
    have := group.length_le
    have := List.length_pos_iff.2 nonempty
    simp only [Part.slack, Node.height_declareMap] at *
    exact .declared group nonempty distinct (ih hn (by omega)) declarable
  | done stop => exact .done stop
  | joined isWord isKeyword mods operand _ more ih_operand ih_more =>
    have := mods.suffix.length_le
    have := operand.suffix.length_le
    have := more.suffix.length_le
    have high := more.height_le
    simp only [Part.slack, Node.height, List.length_cons] at *
    exact .joined isWord isKeyword mods (ih_operand (by omega) (by omega))
      (by simpa only [Node.height] using mod_cast high.trans hn) (ih_more hn (by omega))
  | @query _ _ _ _ _ _ _ first _ _ group distinct operand more declarable ih_operand ih_more =>
    have := group.length_le
    have := operand.size_add_length_le
    have := first.size_pos
    have := more.suffix.length_le
    have := more.height_le
    simp only [Part.slack, Part.size, Node.height_declareMap] at *
    obtain ⟨inner, rfl⟩ : ∃ inner, opens' = inner + 1 := ⟨opens' - 1, by omega⟩
    have open_le : (inner : ℕ∞) + 1 ≤ (inner + 1 : Nat) := by simp
    exact .query open_le group distinct (ih_operand (by omega) (by omega)) (ih_more hn (by omega))
      declarable

end Grammar

end ContextQuery
