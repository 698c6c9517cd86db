import Reroute.Main
import Reroute.Proofs.Rule.Loops
import Reroute.Proofs.Storage.FailedPoll
import Reroute.Proofs.Store.Reopening
import Reroute.Proofs.Store.Convergence
import Reroute.Proofs.Store.RuleList
import Reroute.Proofs.Store.Group
import Reroute.Proofs.Store.Parallel
import Reroute.Proofs.Store.Issues
import Reroute.Storage.Memory
import Reroute.Proofs.Storage.Shared
import Reroute.Proofs.Storage.Delivery
import Reroute.Proofs.Storage.Interleaving
import Reroute.Proofs.Store.Commons
import Reroute.Proofs.Json.Numerals
import Reroute.Proofs.Json.Plain
import Reroute.Proofs.Storage.Fit
import Reroute.Proofs.Storage.Mirror
import Reroute.Proofs.Store.Twins
import Reroute.Proofs.Store.Substrates
import Reroute.Proofs.Store.Footprint
import Reroute.Proofs.Command.Watch
import Reroute.Proofs.Command.Program
import Reroute.Proofs.Storage.Unknown
import Reroute.Proofs.Savings
import Reroute.Proofs.Store.SavedRate
import Reroute.Proofs.Hostname.Grammar
import Reroute.Proofs.Command.Naming
import Reroute.Proofs.Store.Loading
import Reroute.Proofs.Command.Listing
import Reroute.Proofs.Json.Spelling
import Reroute.Proofs.Store.Addressing
import Reroute.Proofs.Store.Unordered
import Reroute.Proofs.Decoding
import Reroute.Proofs.Encoding
import Reroute.Proofs.Double.Value
import Reroute.Proofs.Metrics
import Reroute.Proofs.Command.Stats
import Reroute.Proofs.Double.Nearest
import Reroute.Proofs.Double.Hundredths
import Reroute.Proofs.Double.HalfUp
import Reroute.Proofs.Double.Reading
import Reroute.Proofs.Rate.Accepted
import Reroute.Proofs.Double.Order
import Reroute.Proofs.Double.Whole
import Reroute.Proofs.Savings.Duration
import Reroute.Proofs.Savings.Units
