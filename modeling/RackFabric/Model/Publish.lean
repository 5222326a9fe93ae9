import Mathlib.Data.List.Sort
import RackFabric.Model.Authorize

/-! The publications of members, relationships, failure domains and envelopes. -/
namespace RackFabric
open Std

namespace RackState

/-! publish_member -/

def admitExpectedMember (existing : MemberRecord) (expected : MemberGeneration) (subject : Str) :
    Except Refusal Unit := do
  refuseIf (expected < existing.generation)
    (.generation .rejectStaleGeneration "STALE_MEMBER_GENERATION" subject
      "the expected member generation is older than the current one" "member_generation"
      expected existing.generation)
  refuseIf (existing.generation < expected)
    (.generation .rejectConflict "MEMBER_GENERATION_AHEAD" subject
      "the expected member generation is ahead of the current one" "member_generation"
      expected existing.generation)

/-- The publication is past the successor of the existing generation. -/
def jumpsAhead (existing record : MemberRecord) : Bool :=
  match existing.generation.next with
  | none => true
  | some maximum => maximum < record.generation

/-- A record that carries its own generation. -/
def admitGenerationOf (existing record : MemberRecord) (supersede : Bool) (subject : Str) :
    Except Refusal Unit := do
  refuseIf (record.generation < existing.generation)
    (.generation .rejectStaleGeneration "STALE_MEMBER_GENERATION" subject
      "the published member generation is older than the current one" "member_generation"
      record.generation existing.generation)
  refuseIf (record.generation = existing.generation ∧ sameMemberContent existing record)
    (.unchanged "MEMBER_UNCHANGED" subject)
  refuseIf (record.generation = existing.generation)
    (.generation .rejectConflict "CONFLICTING_MEMBER_PUBLICATION" subject
      "a publication for the current generation carries different content" "member_generation"
      record.generation existing.generation)
  refuseIf (jumpsAhead existing record ∧ !supersede)
    (.generation .rejectConflict "MEMBER_GENERATION_JUMP" subject
      "the published generation jumps ahead of the current one and explicit supersession was not requested"
      "member_generation" record.generation existing.generation)

def admitOverMember (existing : MemberRecord) (request : PublishMemberRequest) :
    Except Refusal Unit := do
  let record := request.record
  let subject := record.key.toStr
  refuseIf (existing.lifecycle = .retired ∧ record.lifecycle ≠ .retired)
    (.because .rejectRetired "MEMBER_RETIRED" subject "a retired identity cannot be resurrected")
  refuseIf (ownerConflict existing.ownerBoot request.authority)
    (.because .rejectNotAuthorized "MEMBER_OWNED_BY_OTHER_PROCESS" subject
      "the member is owned by a different process incarnation")
  match request.expectedGeneration with
  | some expected => admitExpectedMember existing expected subject
  | none =>
      if record.generation.isSet then
        admitGenerationOf existing record request.supersede subject
      else refuseIf (sameMemberContent existing record) (.unchanged "MEMBER_UNCHANGED" subject)

/-- A publication that declares retirement carries no live observation. -/
def clearRetired (record : MemberRecord) : MemberRecord :=
  if record.lifecycle = .retired then
    { record with observedAt := .unknown, ttl := 0, health := {}, readiness := {}, reachability := {} }
  else record

def checkParent (graph : RackGraph) (record : MemberRecord) : Except Refusal Unit :=
  match record.parent with
  | none => .ok ()
  | some parent => do
      let subject := record.key.toStr
      refuseIf (parent = record.key)
        (.because .rejectInvalidRelationship "MEMBER_SELF_PARENT" subject
          "a member cannot contain itself")
      refuseIf (!graph.members.contains parent)
        (.because .rejectUnknownParent "UNKNOWN_PARENT_MEMBER" subject
          "the parent member does not exist in the current rack")
      refuseIf (graph.containsCycle parent record.key)
        (.because .rejectInvalidRelationship "CONTAINMENT_CYCLE" subject
          "the containment edge would create a cycle")

def unknownFailureDomain (subject : Str) (domain : FailureDomainId) : Refusal where
  outcome := .rejectUnknownParent
  code := str "UNKNOWN_FAILURE_DOMAIN"
  subject := subject
  factors :=
    [{ code := str "UNKNOWN_FAILURE_DOMAIN"
       detail := str "the referenced failure domain " ++ domain.value ++ str " does not exist" }]

/-- A power, cooling or switch domain is named by a member of its kind. -/
def checkDomainMember {tag : IdentityTag} (graph : RackGraph) (kind : MemberKind)
    (domain : Option (StrongId tag)) (code detail : String) (subject : Str) :
    Except Refusal Unit :=
  refuseIf (domain.any fun id => !graph.members.contains (.ofId kind id))
    (.because .rejectUnknownParent code subject detail)

def checkReferences (graph : RackGraph) (record : MemberRecord) : Except Refusal Unit := do
  let subject := record.key.toStr
  checkParent graph record
  record.failureDomains.forM fun domain =>
    refuseIf (!graph.failureDomains.contains domain) (unknownFailureDomain subject domain)
  checkDomainMember graph .powerDomain record.powerDomain "UNKNOWN_POWER_DOMAIN"
    "the referenced power domain member does not exist" subject
  checkDomainMember graph .coolingDomain record.coolingDomain "UNKNOWN_COOLING_DOMAIN"
    "the referenced cooling domain member does not exist" subject
  checkDomainMember graph .switch record.switchDomain "UNKNOWN_SWITCH_DOMAIN"
    "the referenced switch member does not exist" subject

def targetGeneration (previous : MemberGeneration) (record : MemberRecord) :
    Option MemberGeneration :=
  if record.generation.isSet ∧ previous < record.generation then some record.generation
  else previous.next

def exhausted (subject : Str) (detail : String) : Refusal :=
  .because .rejectLimitExceeded "GENERATION_EXHAUSTED" subject detail

/-- The member record that an admitted publication stores. -/
def admitMember (options : RackFabricOptions) (state : RackState) (publisher : Option PublisherRef)
    (request : PublishMemberRequest) : Except Refusal MemberRecord := do
  let subject := request.record.key.toStr
  refuseSome (validateMemberRecord request.record options.limits) fun code =>
    .because .rejectInvalidInput code subject "the member record is not structurally valid"
  refuseIf (ownerConflict request.record.ownerBoot request.authority)
    (.because .rejectNotAuthorized "OWNERSHIP_CHANGE_REFUSED" subject
      "a publisher cannot assign ownership of a member to another process")
  let existing := state.members[request.record.key]?
  refuseIf (existing.isNone ∧ state.members.size ≥ options.limits.maxMembers)
    (.because .rejectLimitExceeded "MEMBER_LIMIT_EXCEEDED" subject
      "the member limit has been reached")
  (match existing with
    | none => .ok ()
    | some existing => admitOverMember existing request)
  let record := clearRetired request.record
  checkReferences state.toRackGraph record
  let previous := (existing.map (·.generation)).getD {}
  let target ← require (targetGeneration previous record)
    (exhausted subject "member generation exhausted")
  let owner := ownerAfter request.authority publisher record.ownerWorker record.ownerBoot
  return { record with
    generation := target
    ownerWorker := owner.1
    ownerBoot := owner.2
    publicationGeneration := (publisher.map (·.record.publicationGeneration)).getD
      record.publicationGeneration }

/-- The first publication also starts the health and capability generations. -/
def commitMember (state : RackState) (record : MemberRecord) : RackState :=
  { state with
    toRackGraph := state.storeMember record.key state.members[record.key]? record
    generations :=
      { state.generations with
        membership := state.generations.membership.bump
        health := if state.generations.health.isSet then state.generations.health else .first
        capabilities :=
          if state.generations.capabilities.isSet then state.generations.capabilities
          else .first } }

def publishMember (options : RackFabricOptions) (state : RackState)
    (request : PublishMemberRequest) : RackState × MutationResult :=
  state.underAuthority request.authority fun publisher => do
    let record ← admitMember options state publisher request
    return (state.commitMember record,
      if state.members.contains record.key then "MEMBER_UPDATED" else "MEMBER_ADDED",
      request.record.key.toStr)

/-! publish_relationship -/

def checkEndpoints (graph : RackGraph) (key : RelationshipKey) : Except Refusal Unit := do
  let subject := key.toStr
  refuseIf (!graph.members.contains key.source ∨ !graph.members.contains key.target)
    (.because .rejectUnknownParent "UNKNOWN_RELATIONSHIP_ENDPOINT" subject
      "a relationship endpoint does not exist in the current rack")
  refuseIf (key.cls = .contains ∧ (graph.containsCycle key.source key.target ∨
      graph.relationshipContainsCycle key.source key.target))
    (.because .rejectInvalidRelationship "CONTAINMENT_CYCLE" subject
      "the containment edge would create a cycle")

def admitOverRelationship (state : RackState) (existing record : RelationshipRecord)
    (request : PublishRelationshipRequest) : Except Refusal Unit := do
  let subject := record.key.toStr
  refuseIf (ownerConflict existing.ownerBoot request.authority)
    (.because .rejectNotAuthorized "RELATIONSHIP_OWNED_BY_OTHER_PROCESS" subject
      "the relationship is owned by a different process incarnation")
  (match request.expectedGeneration with
    | none => .ok ()
    | some expected => refuseIf (expected < state.generations.topology)
        (.generation .rejectStaleGeneration "STALE_TOPOLOGY_GENERATION" subject
          "the expected topology generation is older than the current one"
          "topology_generation" expected state.generations.topology))
  refuseIf (record.generation.isSet ∧ record.generation < existing.generation)
    (.generation .rejectStaleGeneration "STALE_RELATIONSHIP_GENERATION" subject
      "the published relationship generation is older than the current one"
      "topology_generation" record.generation existing.generation)
  refuseIf (sameRelationshipContent existing record) (.unchanged "RELATIONSHIP_UNCHANGED" subject)

def admitRelationship (options : RackFabricOptions) (state : RackState)
    (publisher : Option PublisherRef) (request : PublishRelationshipRequest) :
    Except Refusal RelationshipRecord := do
  let record := { request.record with key := request.record.key.canonical }
  let subject := record.key.toStr
  refuseIf (record.key.source = record.key.target)
    (.because .rejectInvalidRelationship "RELATIONSHIP_SELF_LINK" subject
      "a relationship cannot link a member to itself")
  refuseSome (validateEvidence record.toObservation) fun code =>
    .because .rejectInvalidInput code subject "the relationship evidence is not structurally valid"
  refuseSome (record.capacity.bind fun capacity => validateQuantity capacity capacity.unit)
    fun code =>
      .because .rejectInvalidInput code subject
        "the relationship capacity is not structurally valid"
  checkEndpoints state.toRackGraph record.key
  let existing := state.relationships[record.key]?
  refuseIf (state.relationships.size ≥ options.limits.maxRelationships ∧ existing.isNone)
    (.because .rejectLimitExceeded "RELATIONSHIP_LIMIT_EXCEEDED" subject
      "the relationship limit has been reached")
  (match existing with
    | none => .ok ()
    | some existing => admitOverRelationship state existing record request)
  let next ← require state.generations.topology.advance
    (exhausted subject "topology generation exhausted")
  let owner := ownerAfter request.authority publisher record.ownerWorker record.ownerBoot
  return { record with generation := next, ownerWorker := owner.1, ownerBoot := owner.2 }

def commitRelationship (state : RackState) (record : RelationshipRecord) : RackState :=
  { state with
    toRackGraph := state.storeRelationship state.relationships[record.key]? record
    generations := { state.generations with topology := record.generation } }

def publishRelationship (options : RackFabricOptions) (state : RackState)
    (request : PublishRelationshipRequest) : RackState × MutationResult :=
  state.underAuthority request.authority fun publisher => do
    let record ← admitRelationship options state publisher request
    return (state.commitRelationship record, "RELATIONSHIP_PUBLISHED", request.record.key.toStr)

/-! publish_failure_domain -/

def checkDomainParent (graph : RackGraph) (id parent : FailureDomainId) :
    Except Refusal Unit := do
  refuseIf (parent = id)
    (.because .rejectInvalidRelationship "FAILURE_DOMAIN_SELF_PARENT" id.value
      "a failure domain cannot parent itself")
  refuseIf (!graph.failureDomains.contains parent)
    (.because .rejectUnknownParent "UNKNOWN_FAILURE_DOMAIN_PARENT" id.value
      "the parent failure domain does not exist")
  refuseIf (graph.domainContainsCycle parent id)
    (.because .rejectInvalidRelationship "FAILURE_DOMAIN_CYCLE" id.value
      "the parent edge would create a cycle")

def admitOverFailureDomain (state : RackState) (existing record : FailureDomainRecord)
    (request : PublishFailureDomainRequest) : Except Refusal Unit := do
  let subject := record.id.value
  refuseIf (existing.lifecycle = .retired ∧ record.lifecycle ≠ .retired)
    (.because .rejectRetired "FAILURE_DOMAIN_RETIRED" subject
      "a retired failure domain cannot be resurrected")
  refuseIf (ownerConflict existing.ownerBoot request.authority)
    (.because .rejectNotAuthorized "FAILURE_DOMAIN_OWNED_BY_OTHER_PROCESS" subject
      "the failure domain is owned by a different process incarnation")
  (match request.expectedGeneration with
    | none => .ok ()
    | some expected => refuseIf (expected < state.generations.failureDomains)
        (.generation .rejectStaleGeneration "STALE_FAILURE_DOMAIN_GENERATION" subject
          "the expected failure-domain generation is older than the current one"
          "failure_domain_generation" expected state.generations.failureDomains))
  refuseIf (record.generation.isSet ∧ record.generation < existing.generation)
    (.generation .rejectStaleGeneration "STALE_FAILURE_DOMAIN_GENERATION" subject
      "the published failure-domain generation is older than the current one"
      "failure_domain_generation" record.generation existing.generation)
  refuseIf (sameFailureDomainContent existing record)
    (.unchanged "FAILURE_DOMAIN_UNCHANGED" subject)

/-- The parents are stored sorted and without repetition. -/
def admitFailureDomain (options : RackFabricOptions) (state : RackState)
    (publisher : Option PublisherRef) (request : PublishFailureDomainRequest) :
    Except Refusal FailureDomainRecord := do
  let subject := request.record.id.value
  refuseIf (!(validateIdentity subject).ok)
    (.because .rejectInvalidInput "INVALID_FAILURE_DOMAIN_IDENTITY" subject
      "the failure domain identity is invalid")
  refuseIf (request.record.label.any fun label => !(validateLabel label).ok)
    (.because .rejectInvalidInput "INVALID_LABEL" subject "the failure domain label is invalid")
  refuseSome (validateEvidence request.record.toObservation) fun code =>
    .because .rejectInvalidInput code subject
      "the failure domain evidence is not structurally valid"
  let record :=
    { request.record with parents := (ExtTreeSet.ofList request.record.parents).toList }
  record.parents.forM (checkDomainParent state.toRackGraph record.id)
  let existing := state.failureDomains[record.id]?
  refuseIf (existing.isNone ∧ state.failureDomains.size ≥ options.limits.maxFailureDomains)
    (.because .rejectLimitExceeded "FAILURE_DOMAIN_LIMIT_EXCEEDED" subject
      "the failure domain limit has been reached")
  (match existing with
    | none => .ok ()
    | some existing => admitOverFailureDomain state existing record request)
  let next ← require state.generations.failureDomains.advance
    (exhausted subject "failure domain generation exhausted")
  let owner := ownerAfter request.authority publisher record.ownerWorker record.ownerBoot
  return { record with generation := next, ownerWorker := owner.1, ownerBoot := owner.2 }

def commitFailureDomain (state : RackState) (record : FailureDomainRecord) : RackState :=
  { state with
    toRackGraph := state.storeFailureDomain state.failureDomains[record.id]? record
    generations := { state.generations with failureDomains := record.generation } }

def publishFailureDomain (options : RackFabricOptions) (state : RackState)
    (request : PublishFailureDomainRequest) : RackState × MutationResult :=
  state.underAuthority request.authority fun publisher => do
    let record ← admitFailureDomain options state publisher request
    return (state.commitFailureDomain record,
      if state.failureDomains.contains record.id then "FAILURE_DOMAIN_UPDATED"
      else "FAILURE_DOMAIN_ADDED",
      request.record.id.value)

/-! publish_power_envelope and publish_cooling_envelope -/

/-- An envelope is replaced only by a request that is not older than it. -/
def checkEnvelopeGeneration {tag : GenerationTag} (existing : Option (Generation tag))
    (expected : Option (Generation tag)) (published current : Generation tag)
    (code subject expectedDetail publishedDetail name : String) : Except Refusal Unit :=
  match existing with
  | none => .ok ()
  | some existing => do
      (match expected with
        | none => .ok ()
        | some expected => refuseIf (expected < current)
            (.generation .rejectStaleGeneration code (str subject) expectedDetail name
              expected current))
      refuseIf (published.isSet ∧ published < existing)
        (.generation .rejectStaleGeneration code (str subject) publishedDetail name
          published existing)

def admitPowerEnvelope (state : RackState) (publisher : Option PublisherRef)
    (request : PublishPowerEnvelopeRequest) : Except Refusal PowerEnvelopeRecord := do
  let record := request.record
  let subject := str "power_envelope"
  refuseSome (validateEvidence record.toObservation) fun code =>
    .because .rejectInvalidInput code subject
      "the power envelope evidence is not structurally valid"
  refuseSome (record.rackLimit.bind fun limit => validateQuantity limit .watts) fun code =>
    .because .rejectInvalidInput code subject
      "the declared rack power limit is not structurally valid"
  refuseSome (record.rackObservedDraw.bind fun draw => validateQuantity draw draw.unit) fun code =>
    .because .rejectInvalidInput code subject "the observed rack draw is not structurally valid"
  checkEnvelopeGeneration (state.power.map (·.generation)) request.expectedGeneration
    record.generation state.generations.power "STALE_POWER_ENVELOPE_GENERATION" "power_envelope"
    "the expected power envelope generation is older than the current one"
    "the published power envelope generation is older than the current one"
    "power_envelope_generation"
  let next ← require state.generations.power.advance
    (exhausted subject "power envelope generation exhausted")
  let owner := ownerAfter request.authority publisher record.ownerWorker record.ownerBoot
  return { record with
    generation := next, revalidationRequired := false, ownerWorker := owner.1, ownerBoot := owner.2 }

def commitPowerEnvelope (state : RackState) (record : PowerEnvelopeRecord) (now : Timestamp) :
    RackState :=
  { state with
    power := some (record.recomputeDerived now)
    generations :=
      { state.generations with
        power := record.generation, constraints := state.generations.constraints.bump } }

def publishPowerEnvelope (state : RackState) (now : Timestamp)
    (request : PublishPowerEnvelopeRequest) : RackState × MutationResult :=
  state.underAuthority request.authority fun publisher => do
    let record ← admitPowerEnvelope state publisher request
    return (state.commitPowerEnvelope record now, "POWER_ENVELOPE_PUBLISHED", str "power_envelope")

def checkZoneQuantity (zone : CoolingZoneRecord) (quantity : Option Quantity)
    (unit : QuantityUnit) : Except Refusal Unit :=
  refuseSome (quantity.bind fun quantity => validateQuantity quantity unit) fun code =>
    .because .rejectInvalidInput code zone.zone.value
      "a cooling envelope quantity is not structurally valid"

def checkZone (graph : RackGraph) (zone : CoolingZoneRecord) : Except Refusal Unit := do
  refuseIf (!graph.members.contains (.ofId .coolingDomain zone.zone))
    (.because .rejectUnknownParent "UNKNOWN_COOLING_DOMAIN" zone.zone.value
      "the cooling zone does not correspond to a cooling domain member")
  checkZoneQuantity zone zone.designThermalLimit .watts
  checkZoneQuantity zone zone.coolingCapacity .watts
  checkZoneQuantity zone zone.observedTemperature .celsius
  refuseSome (zone.throttling.bind fun throttling => validateEvidence throttling.toObservation)
    fun code =>
      .because .rejectInvalidInput code zone.zone.value
        "the throttling evidence is not structurally valid"

def admitCoolingEnvelope (state : RackState) (publisher : Option PublisherRef)
    (request : PublishCoolingEnvelopeRequest) : Except Refusal CoolingEnvelopeRecord := do
  let subject := str "cooling_envelope"
  refuseSome (validateEvidence request.record.toObservation) fun code =>
    .because .rejectInvalidInput code subject
      "the cooling envelope evidence is not structurally valid"
  request.record.zones.forM (checkZone state.toRackGraph)
  let record :=
    { request.record with
      zones := request.record.zones.insertionSort fun left right =>
        (compare left.zone right.zone).isLE }
  checkEnvelopeGeneration (state.cooling.map (·.generation)) request.expectedGeneration
    record.generation state.generations.cooling "STALE_COOLING_ENVELOPE_GENERATION"
    "cooling_envelope"
    "the expected cooling envelope generation is older than the current one"
    "the published cooling envelope generation is older than the current one"
    "cooling_envelope_generation"
  let next ← require state.generations.cooling.advance
    (exhausted subject "cooling envelope generation exhausted")
  let owner := ownerAfter request.authority publisher record.ownerWorker record.ownerBoot
  return { record with
    generation := next, revalidationRequired := false, ownerWorker := owner.1, ownerBoot := owner.2 }

def commitCoolingEnvelope (state : RackState) (record : CoolingEnvelopeRecord)
    (now : Timestamp) : RackState :=
  { state with
    cooling := some (record.recomputeDerived now)
    generations :=
      { state.generations with
        cooling := record.generation, constraints := state.generations.constraints.bump } }

def publishCoolingEnvelope (state : RackState) (now : Timestamp)
    (request : PublishCoolingEnvelopeRequest) : RackState × MutationResult :=
  state.underAuthority request.authority fun publisher => do
    let record ← admitCoolingEnvelope state publisher request
    return (state.commitCoolingEnvelope record now, "COOLING_ENVELOPE_PUBLISHED",
      str "cooling_envelope")

end RackState

end RackFabric
