/-!
# Reserved context sets

Two prefixes are bound in every query: `cql` and `srw`.
-/

namespace ContextQuery.ContextSet

/-- The identifier of the context set `srw`. -/
def srw : String :=
  "http://www.loc.gov/zing/cql/srw-indexes/v1.0/"

/-- The identifier of the context set `cql`. -/
def cql : String :=
  "http://www.loc.gov/zing/cql/contextSets/cql/v1.1/"

/-- The context set that a reserved prefix stands for. -/
def reserved? (name : String) : Option String :=
  if name = "srw" then some srw
  else if name = "cql" then some cql
  else none

/-- The prefix is reserved. -/
def isReserved (name : String) : Bool :=
  (reserved? name).isSome

end ContextQuery.ContextSet
