import RackFabric.Library.TreeWalk
import RackFabric.Model.State

/-! The invariant gate of a restored state. -/
namespace RackFabric
open Std SecondaryIndex Reachability

structure InvariantViolation where
  code : Str
  detail : Str
deriving DecidableEq

structure InvariantReport where
  checksRun : Nat := 0
  violations : List InvariantViolation := []
deriving DecidableEq

def InvariantReport.ok (report : InvariantReport) : Bool :=
  report.violations.isEmpty

/-- A violation with its detail, when the check fails. -/
def violationIf (failed : Bool) (code : String) (detail : Str) : List InvariantViolation :=
  if failed then [⟨str code, detail⟩] else []

/-- The first violation of a loop that stops there. -/
def firstViolation {α : Type} (values : List α) (failed : α → Bool) (code : String)
    (detail : α → Str) : List InvariantViolation :=
  match values.find? failed with
  | none => []
  | some value => [⟨str code, detail value⟩]

namespace RackState

def rackViolations (state : RackState) : List InvariantViolation :=
  violationIf (state.rack.any (·.generation.isUnset)) "RACK_GENERATION_UNSET"
    (str "the rack record carries no rack generation")

def identityViolations (key : MemberKey) (record : MemberRecord) (now : Timestamp) :
    List InvariantViolation :=
  let member := str "member " ++ key.toStr
  violationIf (key ≠ record.key) "MEMBER_KEY_MISMATCH"
      (str "member map key does not match the record key") ++
    violationIf record.generation.isUnset "MEMBER_GENERATION_UNSET"
      (member ++ str " has no generation") ++
    violationIf (record.lifecycle = .retired ∧ record.revalidationRequired = false ∧
        record.isCurrentAt now) "RETIRED_MEMBER_CURRENT"
      (str "retired " ++ member ++ str " is still current")

def referenceViolations (state : RackState) (key : MemberKey) (record : MemberRecord) :
    List InvariantViolation :=
  let member := str "member " ++ key.toStr
  violationIf (record.parent = some key) "MEMBER_SELF_PARENT" (member ++ str " is its own parent") ++
    violationIf (record.parent.any fun parent => !state.members.contains parent)
      "MEMBER_PARENT_MISSING" (member ++ str " references a parent that does not exist") ++
    violationIf (record.failureDomains.length > state.limits.maxFailureDomainsPerMember)
      "MEMBER_FAILURE_DOMAIN_LIMIT" (member ++ str " exceeds the failure-domain limit") ++
    violationIf (record.capabilities.length > state.limits.maxCapabilitiesPerMember)
      "MEMBER_CAPABILITY_LIMIT" (member ++ str " exceeds the capability limit") ++
    record.failureDomains.flatMap fun domain =>
      violationIf (!state.failureDomains.contains domain) "MEMBER_FAILURE_DOMAIN_MISSING"
        (member ++ str " references failure domain " ++ domain.value ++ str " which does not exist")

/-- Too many members stop the loop at its first one. -/
def memberViolations (state : RackState) (now : Timestamp) :
    List (MemberKey × MemberRecord) → List InvariantViolation
  | [] => []
  | (key, record) :: entries =>
      let identity := identityViolations key record now
      if state.members.size > state.limits.maxMembers then
        identity ++ [⟨str "MEMBER_LIMIT_EXCEEDED",
          str "member count exceeds the configured limit"⟩]
      else identity ++ state.referenceViolations key record ++ memberViolations state now entries

/-- The walk up the parent chain of each member meets no member twice. -/
def containmentViolations (state : RackState) : List InvariantViolation :=
  state.members.keys.flatMap fun key =>
    violationIf (repeatsFrom (fun member => (state.parentOf member).toList) state.members.keys key)
      "CONTAINMENT_CYCLE" (str "containment cycle detected at " ++ key.toStr)

def relationshipViolations (state : RackState) (key : RelationshipKey)
    (record : RelationshipRecord) : List InvariantViolation :=
  let relationship := str "relationship " ++ key.toStr
  violationIf (key.source = key.target) "RELATIONSHIP_SELF_LINK"
      (relationship ++ str " is a self link") ++
    violationIf (!state.members.contains key.source) "RELATIONSHIP_ENDPOINT_MISSING"
      (relationship ++ str " references a missing source member") ++
    violationIf (!state.members.contains key.target) "RELATIONSHIP_ENDPOINT_MISSING"
      (relationship ++ str " references a missing destination member") ++
    violationIf record.generation.isUnset "RELATIONSHIP_GENERATION_UNSET"
      (relationship ++ str " has no topology generation") ++
    violationIf (state.generations.topology < record.generation) "RELATIONSHIP_GENERATION_AHEAD"
      (relationship ++ str " carries a generation ahead of the topology generation")

def domainViolations (state : RackState) (id : FailureDomainId) (record : FailureDomainRecord) :
    List InvariantViolation :=
  let domain := str "failure domain " ++ id.value
  violationIf (id ≠ record.id) "FAILURE_DOMAIN_KEY_MISMATCH"
      (str "failure domain map key does not match the record") ++
    (record.parents.flatMap fun parent =>
      violationIf (!state.failureDomains.contains parent) "FAILURE_DOMAIN_PARENT_MISSING"
          (domain ++ str " references a missing parent") ++
        violationIf (parent = id) "FAILURE_DOMAIN_SELF_PARENT"
          (domain ++ str " is its own parent")) ++
    violationIf (state.generations.failureDomains < record.generation)
      "FAILURE_DOMAIN_GENERATION_AHEAD"
      (domain ++ str " carries a generation ahead of the model generation")

/-- The walk over the parents of each domain takes a domain met twice for a cycle. -/
def domainCycleViolations (state : RackState) : List InvariantViolation :=
  state.failureDomains.keys.flatMap fun id =>
    violationIf (repeatsFrom state.parentsOf state.failureDomains.keys id) "FAILURE_DOMAIN_CYCLE"
      (str "failure domain cycle detected at " ++ id.value)

def publisherViolations (state : RackState) (boot : AgentBootId) (publisher : PublisherRecord) :
    List InvariantViolation :=
  violationIf (state.fencedBoots.contains boot ∧
      (publisher.state = .active ∨ publisher.state = .registered)) "FENCED_PUBLISHER_ACTIVE"
      (str "publisher " ++ boot.value ++ str " is fenced but still holds authority") ++
    violationIf (publisher.state = .active ∧
      publisher.coordinatorEpoch ≠ state.generations.coordinatorEpoch) "PUBLISHER_STALE_EPOCH"
      (str "active publisher " ++ boot.value ++ str " carries a stale coordinator epoch")

def rackRetirementViolations (state : RackState) : List InvariantViolation :=
  if state.rack.any (·.retired) then
    firstViolation state.members.toList (fun entry => entry.2.lifecycle = .present)
      "RETIRED_RACK_HAS_PRESENT_MEMBER"
      fun entry => str "retired rack still contains present member " ++ entry.1.toStr
  else []

def powerViolations (state : RackState) (power : PowerEnvelopeRecord) : List InvariantViolation :=
  violationIf (power.rackHeadroom.isSome ∧
      ¬(power.rackLimit.isSome ∧ power.rackObservedDraw.isSome)) "POWER_HEADROOM_UNSUPPORTED"
      (str "power headroom is present without a limit and a draw") ++
    violationIf power.generation.isUnset "POWER_GENERATION_UNSET"
      (str "the power envelope has no generation") ++
    violationIf (state.generations.power < power.generation) "POWER_GENERATION_AHEAD"
      (str "the power envelope generation is ahead of the rack generation")

def coolingViolations (state : RackState) (cooling : CoolingEnvelopeRecord) :
    List InvariantViolation :=
  violationIf cooling.generation.isUnset "COOLING_GENERATION_UNSET"
      (str "the cooling envelope has no generation") ++
    violationIf (state.generations.cooling < cooling.generation) "COOLING_GENERATION_AHEAD"
      (str "the cooling envelope generation is ahead of the rack generation") ++
    cooling.zones.flatMap fun zone =>
      violationIf (zone.thermalHeadroom.isSome ∧
        ¬(zone.coolingCapacity.isSome ∧ zone.designThermalLimit.isSome))
        "COOLING_HEADROOM_UNSUPPORTED"
        (str "thermal headroom is present for zone " ++ zone.zone.value ++ str " without inputs")

def snapshotViolations (state : RackState) (generation : SnapshotGeneration)
    (snapshot : RackSnapshot) : List InvariantViolation :=
  violationIf (generation ≠ snapshot.generation) "SNAPSHOT_GENERATION_MISMATCH"
      (str "snapshot map key does not match the snapshot generation") ++
    violationIf (state.generations.rack < snapshot.generations.rack)
      "SNAPSHOT_RACK_GENERATION_AHEAD"
      (str "snapshot binds a rack generation ahead of the current one") ++
    violationIf (state.generations.membership < snapshot.generations.membership)
      "SNAPSHOT_MEMBERSHIP_AHEAD"
      (str "snapshot binds a membership generation ahead of the current one")

def indexMismatch (differs : Bool) (name : String) : List InvariantViolation :=
  violationIf differs "INDEX_MISMATCH"
    (str "derived index does not match canonical records: " ++ str name)

def indexViolations (state : RackState) : List InvariantViolation :=
  let copy := state.rebuildIndexes
  indexMismatch (state.relationshipsByMember ≠ copy.relationshipsByMember)
      "relationships_by_member" ++
    indexMismatch (state.membersByKind ≠ copy.membersByKind) "members_by_kind" ++
    indexMismatch (state.membersByFailureDomain ≠ copy.membersByFailureDomain)
      "members_by_failure_domain" ++
    indexMismatch (state.membersByPowerDomain ≠ copy.membersByPowerDomain)
      "members_by_power_domain" ++
    indexMismatch (state.membersByCoolingDomain ≠ copy.membersByCoolingDomain)
      "members_by_cooling_domain" ++
    indexMismatch (state.membersByOwnerBoot ≠ copy.membersByOwnerBoot) "members_by_owner_boot" ++
    indexMismatch (state.childrenByParent ≠ copy.childrenByParent) "children_by_parent" ++
    indexMismatch (state.childrenByDomain ≠ copy.childrenByDomain) "children_by_domain"

def checkInvariants (state : RackState) (now : Timestamp) : InvariantReport where
  checksRun := 10
  violations :=
    state.rackViolations ++
      state.memberViolations now state.members.toList ++
      state.containmentViolations ++
      (state.relationships.toList.flatMap fun entry =>
        state.relationshipViolations entry.1 entry.2) ++
      (state.failureDomains.toList.flatMap fun entry => state.domainViolations entry.1 entry.2) ++
      state.domainCycleViolations ++
      (state.publishers.toList.flatMap fun entry => state.publisherViolations entry.1 entry.2) ++
      state.rackRetirementViolations ++
      (state.power.toList.flatMap fun power => state.powerViolations power) ++
      (state.cooling.toList.flatMap fun cooling => state.coolingViolations cooling) ++
      (state.snapshots.toList.flatMap fun entry => state.snapshotViolations entry.1 entry.2) ++
      state.indexViolations

end RackState

end RackFabric
