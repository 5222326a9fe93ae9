import RackFabric.Model.Crypto
import RackFabric.Model.Graph

/-! The authoritative state of one rack, and what is derived from it. -/
namespace RackFabric
open Std

structure RackState extends RackGraph where
  rack : Option RackRecord := none
  power : Option PowerEnvelopeRecord := none
  cooling : Option CoolingEnvelopeRecord := none
  publishers : ExtTreeMap AgentBootId PublisherRecord := ∅
  fencedBoots : ExtTreeMap AgentBootId FencedBootRecord := ∅
  snapshots : ExtTreeMap SnapshotGeneration RackSnapshot := ∅
  generations : GenerationSet := {}
  snapshotGeneration : SnapshotGeneration := {}
  operatorPublicationGeneration : PublicationGeneration := {}
  limits : ResourceLimits := {}
  contract : ReadinessContract := {}

/-- The state of a new instance, under its first coordinator epoch. -/
def RackState.fresh (options : RackFabricOptions) : RackState where
  generations := { coordinatorEpoch := .first }
  limits := options.limits
  contract := options.readiness

structure ReadinessDeficit where
  code : Str
  detail : Str
  required : Nat
  observed : Nat
deriving DecidableEq

structure ReadinessEvaluation where
  satisfied : Bool := false
  deficits : List ReadinessDeficit := []
  qualifyingNodes : Nat := 0
  qualifyingAccelerators : Nat := 0
  qualifyingFailureDomains : Nat := 0
deriving DecidableEq

namespace RackState

def hasCurrentEvidence (record : MemberRecord) (now : Timestamp) (contract : ReadinessContract) :
    Bool :=
  record.lifecycle = .present && record.freshnessAt now = .fresh &&
    (!contract.requirePhysicalProvenance || isPhysicalProvenance record.provenance)

/-- One deficit, when the requirement is not met. -/
def deficit (unmet : Bool) (code detail : String) (required observed : Nat) :
    List ReadinessDeficit :=
  if unmet then [⟨str code, str detail, required, observed⟩] else []

def memberRecords (state : RackState) : List MemberRecord :=
  state.members.toList.map Prod.snd

def relationshipRecords (state : RackState) : List RelationshipRecord :=
  state.relationships.toList.map Prod.snd

def failureDomainRecords (state : RackState) : List FailureDomainRecord :=
  state.failureDomains.toList.map Prod.snd

/-- The deficits of an envelope the contract requires. -/
def envelopeDeficits (required : Bool) (freshness : Option Freshness)
    (missing missingDetail stale staleDetail : String) : List ReadinessDeficit :=
  match freshness with
  | none => deficit required missing missingDetail 1 0
  | some freshness => deficit (required && freshness ≠ .fresh) stale staleDetail 1 0

def evaluateReadiness (state : RackState) (now : Timestamp) : ReadinessEvaluation :=
  match state.rack with
  | none =>
      { deficits := deficit true "RACK_NOT_DECLARED" "no rack identity has been declared" 1 0 }
  | some rack =>
      if rack.retired then
        { deficits := deficit true "RACK_RETIRED" "the rack has been retired" 0 0 }
      else
        let contract := state.contract
        let qualifying := state.members.toList.filter fun entry =>
          hasCurrentEvidence entry.2 now contract
        let nodes := qualifying.filter fun entry => entry.1.kind = .node
        let accelerators := qualifying.filter fun entry => entry.1.kind = .accelerator
        let covered := nodes.foldl (fun covered entry =>
          (state.failureDomainsOf entry.1).foldl ExtTreeSet.insert covered)
          (∅ : ExtTreeSet FailureDomainId)
        let current := state.memberRecords.filter fun record => isCurrentMember record.lifecycle
        let notCurrent := current.countP fun record => record.freshnessAt now ≠ .fresh
        let missing := current.countP fun record =>
          !record.health.hasEvidence || record.health.freshnessAt now ≠ .fresh
        let anyActive := state.publishers.toList.any fun entry => entry.2.state = .active
        let deficits :=
          deficit (nodes.length < contract.minNodes) "INSUFFICIENT_NODES"
            "fewer nodes are PRESENT with current evidence than the contract requires"
            contract.minNodes nodes.length ++
          deficit (accelerators.length < contract.minAccelerators) "INSUFFICIENT_ACCELERATORS"
            "fewer accelerators are PRESENT with current evidence than the contract requires"
            contract.minAccelerators accelerators.length ++
          deficit (covered.size < contract.minDistinctFailureDomains)
            "INSUFFICIENT_FAILURE_DOMAINS"
            "fewer distinct failure domains are covered than the contract requires"
            contract.minDistinctFailureDomains covered.size ++
          deficit (contract.requireAllMembersCurrent && 0 < notCurrent) "MEMBERS_NOT_CURRENT"
            "members of the current composition do not carry current evidence" 0 notCurrent ++
          deficit (contract.requireMemberHealth && 0 < missing) "MEMBER_HEALTH_UNKNOWN"
            "members of the current composition lack current health evidence" 0 missing ++
          deficit (contract.requireTopology && state.relationships.isEmpty) "TOPOLOGY_REQUIRED"
            "no topology relationship has been published" 1 0 ++
          deficit (contract.requireFailureDomains && state.failureDomains.isEmpty)
            "FAILURE_DOMAINS_REQUIRED" "no failure domain has been published" 1 0 ++
          envelopeDeficits contract.requirePowerEnvelope
            (state.power.map fun power => power.freshnessAt now)
            "POWER_ENVELOPE_REQUIRED" "no power envelope has been published"
            "POWER_ENVELOPE_NOT_CURRENT" "the power envelope is not current" ++
          envelopeDeficits contract.requireCoolingEnvelope
            (state.cooling.map fun cooling => cooling.freshnessAt now)
            "COOLING_ENVELOPE_REQUIRED" "no cooling envelope has been published"
            "COOLING_ENVELOPE_NOT_CURRENT" "the cooling envelope is not current" ++
          deficit (contract.requireActivePublisher && !anyActive) "NO_ACTIVE_PUBLISHER"
            "no publisher is currently active" 1 0
        { satisfied := deficits.isEmpty
          deficits := deficits
          qualifyingNodes := nodes.length
          qualifyingAccelerators := accelerators.length
          qualifyingFailureDomains := covered.size }

/-- A current member that is unavailable, unhealthy or not ready. -/
def isDegraded (record : MemberRecord) (now : Timestamp) : Bool :=
  isCurrentMember record.lifecycle &&
    (record.lifecycle = .unavailable ||
      (record.health.hasEvidence && record.health.isCurrentAt now &&
        !isPositiveHealth record.health.value) ||
      (record.readiness.hasEvidence && record.readiness.isCurrentAt now &&
        record.readiness.value = .notReady))

def deriveLifecycle (state : RackState) (now : Timestamp) : RackLifecycle :=
  match state.rack with
  | none => .undeclared
  | some rack =>
      if rack.retired then .retired
      else if state.memberRecords.any (·.revalidationRequired) ||
          state.relationshipRecords.any (·.revalidationRequired) ||
          state.failureDomainRecords.any (·.revalidationRequired) then .revalidationRequired
      else if (state.evaluateReadiness now).satisfied then
        if state.memberRecords.any fun record => isDegraded record now then .degraded else .ready
      else if state.members.isEmpty then .declared
      else if state.memberRecords.any fun record => isCurrentMember record.lifecycle then
        .partiallyKnown
      else .discovering

def buildSnapshot (state : RackState) (rack : RackRecord) (id : SnapshotId)
    (generation : SnapshotGeneration) (publication : PublicationGeneration) (now : Timestamp) :
    RackSnapshot :=
  let snapshot : RackSnapshot :=
    { id := id
      generation := generation
      publicationGeneration := publication
      createdAt := now
      rack := rack.id
      rackEpoch := rack.epoch
      generations := state.generations
      lifecycle := state.deriveLifecycle now
      members := state.memberRecords
      relationships := state.relationshipRecords
      failureDomains := state.failureDomainRecords
      powerEnvelope := state.power
      coolingEnvelope := state.cooling }
  { snapshot with digest := computeSnapshotDigest snapshot state.limits }

end RackState

end RackFabric
