import RackFabric.Library.Enumeration
import RackFabric.Library.Execution
import RackFabric.Library.Reachability
import RackFabric.Library.TreeWalk
import RackFabric.Library.ByteReader
import RackFabric.Library.Rewriting
import RackFabric.Library.SecondaryIndex
import RackFabric.Library.Tables
import RackFabric.Library.Stamps
import RackFabric.Library.PrefixCode
import RackFabric.Library.CopyReplace
import RackFabric.Model.Generation
import RackFabric.Model.Identity
import RackFabric.Model.Text
import RackFabric.Model.Limits
import RackFabric.Model.Member
import RackFabric.Model.Mutation
import RackFabric.Model.Crypto
import RackFabric.Model.Graph
import RackFabric.Model.State
import RackFabric.Model.Authorize
import RackFabric.Model.Publication
import RackFabric.Model.Publish
import RackFabric.Model.Observe
import RackFabric.Model.Administer
import RackFabric.Model.Snapshot
import RackFabric.Model.Runtime
import RackFabric.Model.Invariants
import RackFabric.Model.Decode
import RackFabric.Model.Payload
import RackFabric.Model.Persistence
import RackFabric.Model.Deployment
import RackFabric.Model.Inspection
import RackFabric.Model.Protocol
import RackFabric.Model.Coordinator
import RackFabric.Model.Agent
import RackFabric.Model.Server
import RackFabric.Model.Sessions
import RackFabric.Model.Expiry
import RackFabric.Model.Framing
import RackFabric.Model.Transport
import RackFabric.Model.MessageCodec
import RackFabric.Properties.Stores
import RackFabric.Properties.Cycles
import RackFabric.Properties.WellFormed
import RackFabric.Properties.Upkeep
import RackFabric.Properties.Retirement
import RackFabric.Properties.Admission
import RackFabric.Properties.Effects
import RackFabric.Properties.Integrity
import RackFabric.Properties.Retired
import RackFabric.Properties.Containment
import RackFabric.Properties.Indexes
import RackFabric.Properties.Fencing
import RackFabric.Properties.Ownership
import RackFabric.Properties.Gate
import RackFabric.Properties.Codec
import RackFabric.Properties.Records
import RackFabric.Properties.Transitions
import RackFabric.Properties.Ledger
import RackFabric.Properties.RoundTrip
import RackFabric.Properties.StateFile
import RackFabric.Properties.Authority
import RackFabric.Properties.Atomicity
import RackFabric.Properties.Versions
import RackFabric.Properties.CompareAndSet
import RackFabric.Properties.Replay
import RackFabric.Properties.Leases
import RackFabric.Properties.Currency
import RackFabric.Properties.Extents
import RackFabric.Properties.Digest
import RackFabric.Properties.Recovery
import RackFabric.Properties.Serving
import RackFabric.Properties.Agreement
import RackFabric.Properties.Answers
import RackFabric.Properties.Durability
import RackFabric.Properties.Restored
import RackFabric.Properties.FenceScope
import RackFabric.Properties.Sessions
import RackFabric.Properties.Presented
import RackFabric.Properties.Expiry
import RackFabric.Properties.Framing
import RackFabric.Properties.Transport
import RackFabric.Properties.Readiness
import RackFabric.Properties.Delivery
import RackFabric.Properties.Demotion
import RackFabric.Properties.Tenure
import RackFabric.Properties.DetailCodec
import RackFabric.Properties.PayloadCodec
import RackFabric.Properties.MessageCodec
import RackFabric.Properties.Idempotence
import RackFabric.Properties.Capacity
import RackFabric.Properties.Growth
import RackFabric.Properties.Closure
import RackFabric.Model.Startup
import RackFabric.Model.Conversation
import RackFabric.Properties.Startup
import RackFabric.Properties.Correlation
import RackFabric.Library.Tracing
import RackFabric.Model.Access
import RackFabric.Model.Wire
import RackFabric.Properties.Reading
import RackFabric.Properties.Untrusted
import RackFabric.Library.Restoring
import RackFabric.Properties.Transmission
import RackFabric.Properties.Commutation
import RackFabric.Properties.Corruption
import RackFabric.Properties.Increments
import RackFabric.Properties.Freshness
import RackFabric.Properties.Headroom
import RackFabric.Properties.Envelopes
import RackFabric.Properties.Revisions
import RackFabric.Properties.Presence
import RackFabric.Properties.Ageing
import RackFabric.Model.Domains
import RackFabric.Properties.Domains
import RackFabric.Properties.Republication
import RackFabric.Properties.Writable
import RackFabric.Properties.Saving
import RackFabric.Properties.Saveable
import RackFabric.Properties.Unchecked
import RackFabric.Properties.Noise
import RackFabric.Properties.Footprint
import RackFabric.Model.Registry
import RackFabric.Properties.Registry
import RackFabric.Properties.Sanitized
import RackFabric.Model.Writer
import RackFabric.Properties.Writer
import RackFabric.Library.BlockHash
import RackFabric.Library.Sha2
import RackFabric.Model.Hardware
import RackFabric.Model.Hashing
import RackFabric.Properties.Hardware
import RackFabric.Properties.Hashing
import RackFabric.Properties.CycleChecks
import RackFabric.Library.Retention
import RackFabric.Properties.Retained
import RackFabric.Properties.RecordCodecs
import RackFabric.Library.Draining
import RackFabric.Model.Synthetic
import RackFabric.Library.Filing
import RackFabric.Properties.Names
import RackFabric.Properties.Contents
import RackFabric.Properties.Publishable
import RackFabric.Properties.Synthetic
import RackFabric.Properties.SyntheticLinks
import RackFabric.Properties.Generated
import RackFabric.Properties.Consistency
import RackFabric.Properties.Lineage
import RackFabric.Properties.Verdict
import RackFabric.Library.Inodes
import RackFabric.Model.Files
import RackFabric.Properties.Files
import RackFabric.Properties.FileRaces
import RackFabric.Model.Sending
import RackFabric.Properties.Sending
import RackFabric.Properties.Accounting
import RackFabric.Properties.Restarts
import RackFabric.Model.Queries
import RackFabric.Properties.Queries
import RackFabric.Library.Totals
import RackFabric.Properties.Bookkeeping
import RackFabric.Model.Counters
import RackFabric.Properties.Counters
import RackFabric.Properties.Publication
