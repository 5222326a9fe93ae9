import RackFabric.Model.Envelope
import RackFabric.Model.Topology

/-! Who may change the rack: tokens, publishers and fenced boots; and the
snapshots that consumers hold. -/
namespace RackFabric

structure AuthorityToken where
  coordinatorEpoch : CoordinatorEpoch := {}
  /-- Absent for mutations issued in-process by the operator. -/
  boot : Option AgentBootId := none
  publicationGeneration : Option PublicationGeneration := none
  rack : Option RackId := none
deriving DecidableEq

structure PublisherRecord where
  worker : WorkerId := default
  boot : AgentBootId := default
  coordinatorEpoch : CoordinatorEpoch := {}
  publicationGeneration : PublicationGeneration := {}
  state : PublisherState := .unknown
  registeredAt : Timestamp := .unknown
  lastSeenAt : Timestamp := .unknown
  leaseMillis : Int64 := 0
  label : Option Str := none
  acceptedMutations : UInt64 := 0
  rejectedMutations : UInt64 := 0
deriving DecidableEq

structure FencedBootRecord where
  boot : AgentBootId := default
  worker : Option WorkerId := none
  fencedUnderEpoch : CoordinatorEpoch := {}
  fencedAt : Timestamp := .unknown
  reason : RevalidationReason := .none
deriving DecidableEq

structure RackRecord where
  id : RackId
  epoch : RackEpochId
  generation : RackGeneration := {}
  retired : Bool := false
  label : Option Str := none
  declaredAt : Timestamp := .unknown
deriving DecidableEq

/-- An immutable view of the rack at a bound generation set. -/
structure RackSnapshot where
  id : SnapshotId
  generation : SnapshotGeneration := {}
  publicationGeneration : PublicationGeneration := {}
  createdAt : Timestamp := .unknown
  rack : RackId
  rackEpoch : RackEpochId
  generations : GenerationSet := {}
  lifecycle : RackLifecycle := .undeclared
  members : List MemberRecord := []
  relationships : List RelationshipRecord := []
  failureDomains : List FailureDomainRecord := []
  powerEnvelope : Option PowerEnvelopeRecord := none
  coolingEnvelope : Option CoolingEnvelopeRecord := none
  digest : Str := []
deriving DecidableEq

end RackFabric
