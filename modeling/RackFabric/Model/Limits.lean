import RackFabric.Model.Evidence

/-! Resource bounds. A `std::size_t` bound is a natural number. -/
namespace RackFabric

structure ResourceLimits where
  maxFrameBytes : Nat := 2 ^ 20
  maxPayloadBytes : Nat := 2 ^ 20 - 64
  maxStringBytes : Nat := 256
  maxCollectionItems : Nat := 4096
  maxMembers : Nat := 1000000
  maxRelationships : Nat := 4000000
  maxFailureDomains : Nat := 100000
  maxCapabilitiesPerMember : Nat := 256
  maxFailureDomainsPerMember : Nat := 64
  maxConnections : Nat := 64
  maxPersistedBytes : UInt64 := 512 * 1024 * 1024
  maxRetainedSnapshots : Nat := 256
  maxFencedBoots : Nat := 65536
  publisherLeaseMillis : Int64 := 5000
deriving DecidableEq

/-- When the rack counts as ready. -/
structure ReadinessContract where
  minNodes : Nat := 1
  minAccelerators : Nat := 0
  minDistinctFailureDomains : Nat := 0
  requireTopology : Bool := false
  requireFailureDomains : Bool := false
  requirePowerEnvelope : Bool := false
  requireCoolingEnvelope : Bool := false
  requireAllMembersCurrent : Bool := true
  requireMemberHealth : Bool := false
  requireActivePublisher : Bool := false
  requirePhysicalProvenance : Bool := true
deriving DecidableEq

structure RackFabricOptions where
  limits : ResourceLimits := {}
  readiness : ReadinessContract := {}
deriving DecidableEq

end RackFabric
