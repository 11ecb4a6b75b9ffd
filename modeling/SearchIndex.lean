import SearchIndex.Schema.Inspect
import SearchIndex.Service.Offline
import SearchIndex.Index.Convergence
import SearchIndex.Main
import SearchIndex.Proofs.Text.Decimal
import SearchIndex.Proofs.Query.Grammar
import SearchIndex.Proofs.Query.Meaning
import SearchIndex.Proofs.Search.Compile
import SearchIndex.Proofs.Index.Walk
import SearchIndex.Proofs.Service.Command
import SearchIndex.Proofs.Index.Coherence
import SearchIndex.Proofs.Search.Execution
import SearchIndex.Proofs.Search.Frozen
import SearchIndex.Proofs.Index.Schedule
import SearchIndex.Proofs.Index.Protocol
import SearchIndex.Proofs.Search.Rejection
import SearchIndex.Proofs.Search.RangeText
import SearchIndex.Proofs.Search.QuotedText
import SearchIndex.Proofs.Search.Materializing
import SearchIndex.Proofs.Search.Verdict
import SearchIndex.Proofs.Registry.Identity
import SearchIndex.Proofs.Registry.Domain
import SearchIndex.Proofs.Index.Timeout
import SearchIndex.Proofs.CommandLine.TypedText
import SearchIndex.Proofs.Query.Acceptance
import SearchIndex.Proofs.Schema.Addition
import SearchIndex.Proofs.Schema.Wire
import SearchIndex.Proofs.Registry.FanOut
import SearchIndex.Proofs.Index.Creation
import SearchIndex.Proofs.Search.Building
import SearchIndex.Proofs.Query.Parameters
import SearchIndex.Proofs.CommandLine.Wording
import SearchIndex.Proofs.Registry.Naming
import SearchIndex.Proofs.Schema.Definition
import SearchIndex.Proofs.Schema.Lookup
import SearchIndex.Proofs.Registry.SchemaFile
