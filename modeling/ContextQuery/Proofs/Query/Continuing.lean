import ContextQuery.Proofs.Query.Grammar

/-!
# Parts of a query before other tokens

No clause, modifier or declaration goes on with a connective or a closing parenthesis, so what is
taken up to the end of the tokens is taken before one of these as well.

## Main definitions

* `Node.undeclared`: no prefixes are declared anywhere in a tree.
* `Grammar.Closes`: tokens that none of these parts goes on with.

## Main results

* `Grammar.Modifiers.append`, `Grammar.Declarations.append`, `Grammar.Clause.append`: the parts
  before such tokens.
-/

namespace ContextQuery

namespace Node

/-- No prefixes are declared on the node nor on those below it. -/
def undeclared : Node → Bool
  | clause p _ => p.isEmpty
  | triple p _ l r => p.isEmpty && l.undeclared && r.undeclared

/-- Declaring prefixes leaves nothing undeclared. -/
@[simp] theorem undeclared_declareMap (n : Node) (map : PrefixMap) :
    (n.declareMap map).undeclared = (n.undeclared && map.isEmpty) := by
  rw [declareMap_eq]
  cases n <;> grind [withPrefixes, prefixes, undeclared, PrefixMap.isEmpty_insertAll,
    PrefixMap.isEmpty]

end Node

namespace Grammar

open Reader (atKind atSign endsClause)

variable {d : Dialect} {ts rest after : List Token}

/-- No clause, modifier or declaration goes on with the tokens. -/
structure Closes (ts : List Token) : Prop where
  ends : endsClause ts = true
  stop : atKind .leftParen ts = false

theorem closes_nil : Closes [] :=
  ⟨rfl, rfl⟩

theorem closes_rightParen {t : Token} (h : t.kind = .rightParen) (ts : List Token) :
    Closes (t :: ts) := by
  constructor <;> simp [endsClause, atKind, h]

theorem closes_of_atConnective (h : atConnective ts = true) : Closes ts := by
  cases ts with
  | nil => exact closes_nil
  | cons t ts =>
    have isWord : t.kind = .word := by
      grind [atConnective, Reader.isConnective]
    have isConnective : Reader.isConnective t = true := h
    constructor <;> simp [endsClause, atKind, isWord, isConnective]

namespace Closes

theorem kind {t : Token} (h : Closes (t :: ts)) : t.kind = .word ∨ t.kind = .rightParen := by
  have ends := h.ends
  have stop := h.stop
  grind [endsClause, atKind, Reader.isConnective]

theorem atSlash (h : Closes ts) : atKind .slash ts = false := by
  cases ts with
  | nil => rfl
  | cons t ts => rcases h.kind with kind | kind <;> simp [atKind, kind]

theorem atComparison (h : Closes ts) : atKind .comparison ts = false := by
  cases ts with
  | nil => rfl
  | cons t ts => rcases h.kind with kind | kind <;> simp [atKind, kind]

theorem atSign (h : Closes ts) (c : Comparison) : atSign c ts = false := by
  cases ts with
  | nil => rfl
  | cons t ts => rcases h.kind with kind | kind <;> simp [Reader.atSign, Token.isSign, kind]

end Closes

theorem atKind_append {kind : Token.Kind} (h : atKind kind ts = false)
    (h' : atKind kind after = false) : atKind kind (ts ++ after) = false := by
  cases ts with
  | nil => exact h'
  | cons => exact h

theorem atSign_append {c : Comparison} (h : atSign c ts = false) (h' : atSign c after = false) :
    atSign c (ts ++ after) = false := by
  cases ts with
  | nil => exact h'
  | cons => exact h

theorem Modifiers.append {ms : List Modifier} (h : Modifiers d ts ms rest)
    (closes : Closes after) : Modifiers d (ts ++ after) ms (rest ++ after) := by
  induction h with
  | done stop => exact .done (atKind_append stop closes.atSlash)
  | bare isSlash isName parsed stop _ ih =>
    exact .bare isSlash isName parsed (atKind_append stop closes.atComparison) ih
  | valued isSlash isName parsed isComparison isValue _ ih =>
    exact .valued isSlash isName parsed isComparison isValue ih

theorem Declarations.append {ds : List (String × String)} (h : Declarations ts ds rest)
    (closes : Closes after) : Declarations (ts ++ after) ds (rest ++ after) := by
  induction h with
  | done stop => exact .done (atSign_append stop (closes.atSign _))
  | named opens isName isSign isIdentifier _ ih =>
    exact .named opens isName isSign isIdentifier ih
  | unnamed opens isIdentifier stop _ ih =>
    exact .unnamed opens isIdentifier (atSign_append stop (closes.atSign _)) ih

theorem Clause.append {c : SearchClause} (h : Clause d ts c rest) (closes : Closes after) :
    Clause d (ts ++ after) c (rest ++ after) := by
  cases h with
  | full isName goesOn index_parsed isRelation relation_parsed mods term =>
    exact .full isName goesOn index_parsed isRelation relation_parsed (mods.append closes) term
  | short ends stop term =>
    refine .short ?_ (atKind_append stop closes.stop) term
    cases rest with
    | nil => exact closes.ends
    | cons => exact ends

/-- What is joined to a node keeps its declarations. -/
theorem Derives.undeclared_left {limit opens : ℕ∞} {left n : Node}
    (h : Derives d limit (.tail left) opens ts n rest) (none : n.undeclared = true) :
    left.undeclared = true := by
  generalize hp : Part.tail left = part at h
  induction h generalizing left with
  | done =>
    cases hp
    exact none
  | joined _ _ _ _ _ _ _ ih =>
    cases hp
    have := ih none rfl
    grind [Node.undeclared]
  | _ => cases hp

/-- What was read last before the end of a query is no connective. -/
theorem Derives.stop {limit opens : ℕ∞} {part : Part} {n : Node}
    (h : Derives d limit part opens ts n rest) (whole : ∀ later, part ≠ .operand later) :
    atConnective rest = false := by
  induction h with
  | group | clause | declared => exact absurd rfl (whole _)
  | done stop => exact stop
  | joined _ _ _ _ _ _ _ ih | query _ _ _ _ _ _ _ ih => exact ih nofun

/-- A node that was not there before takes a token at least. -/
theorem Derives.ne_nil {limit opens : ℕ∞} {part : Part} {n : Node}
    (h : Derives d limit part opens ts n rest) (fresh : part.size = 0) : ts ≠ [] := by
  have large := h.size_add_length_le
  have := n.size_pos
  exact List.length_pos_iff.1 (by omega)

end Grammar

end ContextQuery
