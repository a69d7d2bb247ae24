import ContextQuery.Clause

/-!
# The journal of a reader

A reader notes each token that it pulls and each piece of the query that it finishes. The plain
reader drops these notes; a journalled run keeps them, also when it ends in a refusal.
-/

namespace ContextQuery

/-- What a reader notes. -/
inductive Event where
  /-- A token was pulled. -/
  | token (token : Token)
  /-- A search clause was finished. -/
  | clause (clause : SearchClause)
  /-- A triple was finished. -/
  | triple (boolean : Boolean)
  /-- A prefix was declared on a node. -/
  | declaration (name uri : String)
  /-- A document with the given root element was opened. -/
  | document (root : String)
  deriving DecidableEq

/-- Computations that can note events. -/
class Journal (m : Type → Type) where
  /-- Notes an event. -/
  note : Event → m Unit

/-- The plain reader drops its notes. -/
instance : Journal (Except Diagnostic) where
  note _ := .ok ()

/-- A run that keeps its notes, the last one first. -/
abbrev Journalled := ExceptT Diagnostic (StateM (List Event))

/-- The journalled run keeps its notes. -/
instance : Journal Journalled where
  note event := ExceptT.lift (modify (event :: ·))

/-- The result of a journalled run and its notes in the order of time. -/
def Journalled.outcome {α : Type} (run : Journalled α) : Except Diagnostic α × List Event :=
  let (result, events) := run.run.run []
  (result, events.reverse)

end ContextQuery
