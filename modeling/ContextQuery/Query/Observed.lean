import ContextQuery.Query.Journal

/-!
# Observed runs

A reader can be watched while it runs: a state follows its notes, and is there when the run ends,
be it in a result or in a refusal.
-/

namespace ContextQuery

/-- States that follow the notes of a reader. -/
class Observer (σ : Type) where
  /-- The state after a note. -/
  note : Event → σ → σ

/-- A run that a state follows. -/
abbrev Observed (σ : Type) := ExceptT Diagnostic (StateM σ)

/-- The state follows the notes. -/
instance {σ : Type} [Observer σ] : Journal (Observed σ) where
  note event := ExceptT.lift (modify (Observer.note event))

/-- The result of an observed run from a state, and the state that it leaves. -/
def Observed.runFrom {σ α : Type} (run : Observed σ α) (start : σ) : Except Diagnostic α × σ :=
  run.run.run start

end ContextQuery
