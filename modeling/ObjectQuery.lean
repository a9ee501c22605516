import ObjectQuery.Table.Lemmas
import ObjectQuery.Invocation
import ObjectQuery.Script.Run
import ObjectQuery.Codec.Property
import ObjectQuery.Codec.LogConfig
import ObjectQuery.Codec.Report
import ObjectQuery.Logging.Filter
import ObjectQuery.Logging.Install
import ObjectQuery.Proofs.EngineCalls
import ObjectQuery.Proofs.Ledger
import ObjectQuery.Proofs.Turns
import ObjectQuery.Proofs.Ownership
import ObjectQuery.Proofs.Accepted
import ObjectQuery.Proofs.CallOrder
import ObjectQuery.Proofs.Faults
import ObjectQuery.Proofs.Balance
import ObjectQuery.Proofs.Moves
import ObjectQuery.Proofs.Atomicity
import ObjectQuery.Proofs.Handles
import ObjectQuery.Proofs.Closed
import ObjectQuery.Proofs.Relay
import ObjectQuery.Proofs.Deeds
import ObjectQuery.Proofs.Families
import ObjectQuery.Proofs.WellTyped
import ObjectQuery.Proofs.Routing
import ObjectQuery.Proofs.Resolving
import ObjectQuery.Proofs.Unobserved
import ObjectQuery.Proofs.Chronicle
import ObjectQuery.Proofs.Snapshots
import ObjectQuery.Proofs.Releases
import ObjectQuery.Proofs.Window
import ObjectQuery.Proofs.Lifespan
import ObjectQuery.Proofs.FaultQueues
import ObjectQuery.Proofs.Verdicts
import ObjectQuery.Proofs.Duplicates
import ObjectQuery.Proofs.Agreement
import ObjectQuery.Proofs.Registers
import ObjectQuery.Proofs.Timeline
import ObjectQuery.Proofs.FaithfulLog
import ObjectQuery.Proofs.Tallies
import ObjectQuery.Proofs.Forwarding
import ObjectQuery.Proofs.Interleaving
import ObjectQuery.Proofs.HeldContexts
import ObjectQuery.Proofs.Independence
import ObjectQuery.Proofs.Spelling
import ObjectQuery.Proofs.Tokens
import ObjectQuery.Proofs.StoreFormat
import ObjectQuery.Proofs.RoundTrips
