import ContextQuery.Proofs.Query.Faithful
import ContextQuery.Proofs.Xcql.Reading

/-!
# From the XML form to canonical text

A document may hold any string as a term, the value of a modifier or an identifier, while a token
holds none that ends in the middle of an escape. So the canonical text of a query that was read
from a document need not be read as this query, even where it is read at all. It is if the tree is
faithful, and else the clauses and booleans differ.

## Main results

* `Query.reread_parseXml`: when canonical text keeps a query that was read from a document.
-/

namespace ContextQuery

/-- Canonical text that is read keeps a query from a document, with the prefixes of all nodes, if
the tree is faithful. If the strings of its declarations are closed, the clauses and booleans are
kept only then. -/
theorem Query.reread_parseXml [Xml.Library] {d : Dialect} {document : String} {q q' : Query}
    (read : Query.parseXml d document = .ok q) (reread : Query.parse d q.toCql = .ok q') :
    (q.root.Faithful → q' = q) ∧
      (q.root.DeclarationsClosed → (q'.sameAs q = true ↔ q.root.Faithful)) := by
  obtain ⟨dialect, canonical⟩ := Xcql.canonical_parseXml read
  obtain ⟨dialect', -⟩ := Query.parse_eq_ok_iff.1 reread
  have same : q.root.Faithful → q' = q := by
    intro faithful
    rcases Query.outcome_toCql canonical faithful.declarationsClosed reread with
      ⟨root, -⟩ | ⟨unfaithful, -⟩
    · obtain ⟨root', d'⟩ := q'
      obtain ⟨root, d⟩ := q
      simp_all
    · exact absurd faithful unfaithful
  refine ⟨same, fun closed => ⟨fun alike => ?_, fun faithful => ?_⟩⟩
  · rcases Query.outcome_toCql canonical closed reread with ⟨-, faithful, -⟩ | ⟨-, diverge⟩
    · exact faithful
    · exact absurd (Node.items_eq_of_sameAs alike).symm diverge.ne
  · rw [same faithful]
    exact Node.sameAs_self q.root

/-- A quote and a pair of backslashes are kept. -/
theorem Query.reread_parseXml_quoted : ∃ q q',
    Query.parseXml {} ("<searchClause><index>t</index><relation><value>=</value></relation>" ++
        "<term>a \"b \\\\</term></searchClause>") = .ok q ∧
      Query.parse {} q.toCql = .ok q' ∧ q' = q := by
  let q : Query := ⟨.clause .empty ⟨⟨none, "t"⟩, ⟨⟨none, "="⟩, []⟩, ⟨"a \"b \\\\"⟩⟩, {}⟩
  have reread : Query.parse {} q.toCql = .ok q := by
    decide +kernel
  refine ⟨q, q, ?read, reread, (Query.reread_parseXml ?read reread).1 (by decide +kernel)⟩
  decide +kernel

/-- A term may close its string and go on as a query of its own. -/
theorem Query.reread_parseXml_joined : ∃ q q',
    Query.parseXml {} ("<searchClause><index>title</index>" ++
        "<relation><value>=</value></relation><term>x\\\" or a = \\\"b</term></searchClause>") =
          .ok q ∧
      Query.parse {} q.toCql = .ok q' ∧ q.root.isClause = true ∧ q'.root.isClause = false ∧
        q'.sameAs q = false := by
  let q : Query := ⟨.clause .empty
    ⟨⟨none, "title"⟩, ⟨⟨none, "="⟩, []⟩, ⟨"x\\\" or a = \\\"b"⟩⟩, {}⟩
  let q' : Query := ⟨.triple .empty ⟨.or, []⟩
    (.clause .empty ⟨⟨none, "title"⟩, ⟨⟨none, "="⟩, []⟩, ⟨"x\\\\"⟩⟩)
    (.clause .empty ⟨⟨none, "a"⟩, ⟨⟨none, "="⟩, []⟩, ⟨"\\\\\"b\""⟩⟩), {}⟩
  exact ⟨q, q', by decide +kernel, by decide +kernel, rfl, rfl, rfl⟩

end ContextQuery
