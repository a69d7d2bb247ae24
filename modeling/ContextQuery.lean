import ContextQuery.Main
import ContextQuery.Proofs.Config.Isolation
import ContextQuery.Proofs.Config.Precedence
import ContextQuery.Proofs.Config.Rereading
import ContextQuery.Proofs.Highlight
import ContextQuery.Proofs.Query.Arena
import ContextQuery.Proofs.Query.Binding
import ContextQuery.Proofs.Query.ContextSets
import ContextQuery.Proofs.Query.Decoding
import ContextQuery.Proofs.Query.Grouping
import ContextQuery.Proofs.Query.Nesting
import ContextQuery.Proofs.Query.Opening
import ContextQuery.Proofs.Query.Prefixed
import ContextQuery.Proofs.Query.Recasing
import ContextQuery.Proofs.Query.Renderings
import ContextQuery.Proofs.Query.ResultSet
import ContextQuery.Proofs.Query.Strictness
import ContextQuery.Proofs.Query.WellFormed
import ContextQuery.Proofs.Xcql.Declaring
import ContextQuery.Proofs.Xcql.Depth
import ContextQuery.Proofs.Xcql.Naming
import ContextQuery.Proofs.Xcql.Pruning
import ContextQuery.Proofs.Xcql.Rearranging
import ContextQuery.Proofs.Xcql.Reprinting
import ContextQuery.Proofs.Xcql.RoundTrip
