import SearchQuery.Builder.Describe
import SearchQuery.Builder.Run
import SearchQuery.Clause.Meaning
import SearchQuery.Execution.Basic
import SearchQuery.Execution.Session
import SearchQuery.Main
import SearchQuery.Node.Place
import SearchQuery.Stored
import SearchQuery.Proofs.Compile.Meaning
import SearchQuery.Proofs.Compile.Rendering
import SearchQuery.Proofs.Compile.Frontier
import SearchQuery.Proofs.Compile.Leaves
import SearchQuery.Proofs.Storage.RoundTrip
import SearchQuery.Proofs.CommandLine.CountBody
import SearchQuery.Proofs.Storage.Grammar
import SearchQuery.Proofs.Storage.FirstOffence
import SearchQuery.Proofs.CommandLine.SearchBody
import SearchQuery.Proofs.Execution.HitOrder
import SearchQuery.Proofs.Builder.Calls
import SearchQuery.Proofs.Builder.Depth
import SearchQuery.Proofs.Builder.Reachable
import SearchQuery.Proofs.Builder.Lockstep
import SearchQuery.Proofs.Builder.Outcome
import SearchQuery.Proofs.Builder.Independence
import SearchQuery.Proofs.Execution.Rank
import SearchQuery.Proofs.Execution.Requests
import SearchQuery.Proofs.Execution.PageWindow
import SearchQuery.Proofs.Execution.SameSearch
import SearchQuery.Proofs.Execution.Effects
import SearchQuery.Proofs.Compile.Regrouping
import SearchQuery.Proofs.Compile.BucketOrder
import SearchQuery.Proofs.Compile.Shape
import SearchQuery.Proofs.Wire.Lossless
import SearchQuery.Proofs.Execution.StableOrder
import SearchQuery.Proofs.Builder.FirstFailure
import SearchQuery.Proofs.Execution.SharedFilter
import SearchQuery.Proofs.Execution.FirstHit
import SearchQuery.Proofs.Execution.PageTiling
import SearchQuery.Proofs.Builder.Window
import SearchQuery.Proofs.Json.Reading
import SearchQuery.Proofs.Json.Records
import SearchQuery.Proofs.Execution.Response
import SearchQuery.Proofs.Storage.StoredSettings
import SearchQuery.Proofs.Storage.StoredValues
