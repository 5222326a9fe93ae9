import RackFabric.Model.MessageCodec

/-! The identities that a message names, and the fields of it that travel. -/
namespace RackFabric

/-! Identities. -/

def StrongId.identities {tag : IdentityTag} (id : StrongId tag) : List Str := [id.value]

def MemberKey.identities (key : MemberKey) : List Str := [key.id]

def optionalIdentities {α : Type} (identities : α → List Str) : Option α → List Str
  | none => []
  | some value => identities value

def AuthorityToken.identities (token : AuthorityToken) : List Str :=
  optionalIdentities StrongId.identities token.boot ++
    optionalIdentities StrongId.identities token.rack

def NodeDetails.identities (details : NodeDetails) : List Str :=
  optionalIdentities StrongId.identities details.worker ++
    optionalIdentities StrongId.identities details.boot

def MemberDetails.identities : MemberDetails → List Str
  | .node details => details.identities
  | _ => []

/-- The owner of a record, as the rack keeps it. -/
def ownerIdentities (worker : Option WorkerId) (boot : Option AgentBootId) : List Str :=
  optionalIdentities StrongId.identities worker ++ optionalIdentities StrongId.identities boot

def CapabilityRef.identities (capability : CapabilityRef) : List Str :=
  capability.id.identities

def MemberRecord.identities (record : MemberRecord) : List Str :=
  record.key.identities ++ optionalIdentities MemberKey.identities record.parent ++
    record.failureDomains.flatMap StrongId.identities ++
    optionalIdentities StrongId.identities record.powerDomain ++
    optionalIdentities StrongId.identities record.coolingDomain ++
    optionalIdentities StrongId.identities record.switchDomain ++ record.details.identities ++
    record.capabilities.flatMap CapabilityRef.identities ++
    ownerIdentities record.ownerWorker record.ownerBoot

def RelationshipRecord.identities (record : RelationshipRecord) : List Str :=
  record.key.source.identities ++ record.key.target.identities ++
    optionalIdentities StrongId.identities record.link ++
    ownerIdentities record.ownerWorker record.ownerBoot

def FailureDomainRecord.identities (record : FailureDomainRecord) : List Str :=
  record.id.identities ++ record.parents.flatMap StrongId.identities ++
    ownerIdentities record.ownerWorker record.ownerBoot

def PowerDomainBudget.identities (budget : PowerDomainBudget) : List Str :=
  budget.domain.identities

def PowerEnvelopeRecord.identities (record : PowerEnvelopeRecord) : List Str :=
  record.domainBudgets.flatMap PowerDomainBudget.identities ++
    ownerIdentities record.ownerWorker record.ownerBoot

def CoolingZoneRecord.identities (zone : CoolingZoneRecord) : List Str :=
  zone.zone.identities

def CoolingEnvelopeRecord.identities (record : CoolingEnvelopeRecord) : List Str :=
  record.zones.flatMap CoolingZoneRecord.identities ++
    ownerIdentities record.ownerWorker record.ownerBoot

/-- Every identity in a message. -/
def PayloadKind.identities : (kind : PayloadKind) → kind.Message → List Str
  | .hello, _ => []
  | .helloAck, message => optionalIdentities StrongId.identities message.rack
  | .register, message =>
      optionalIdentities StrongId.identities message.rack ++
        optionalIdentities StrongId.identities message.worker ++
        optionalIdentities StrongId.identities message.boot
  | .registerAck, _ => []
  | .declareRack, message => message.authority.identities ++ message.epoch.identities
  | .publishMember, message => message.authority.identities ++ message.record.identities
  | .publishLink, message => message.authority.identities ++ message.record.identities
  | .publishFailureDomain, message => message.authority.identities ++ message.record.identities
  | .publishPower, message => message.authority.identities ++ message.record.identities
  | .publishCooling, message => message.authority.identities ++ message.record.identities
  | .publishHealth, message => message.authority.identities ++ message.member.identities
  | .publishCapability, message =>
      message.authority.identities ++ message.member.identities ++ message.capability.identities
  | .withdraw, message => message.authority.identities ++ message.member.identities
  | .retireMember, message => message.authority.identities ++ message.member.identities
  | .revalidate, message =>
      message.authority.identities ++ message.members.flatMap MemberKey.identities
  | .heartbeat, message => message.authority.identities
  | .query, message =>
      optionalIdentities MemberKey.identities message.member ++
        optionalIdentities StrongId.identities message.failureDomain
  | .snapshotRequest, message => message.authority.identities
  | .result, _ => []
  | .error, _ => []

/-! Fields that travel. What the rack keeps of a record for itself is not among them. -/

def Observation.carried (evidence : Observation) : Observation :=
  { evidence with revalidationRequired := false }

def Quantity.carried (quantity : Quantity) : Quantity :=
  { quantity with revalidationRequired := false }

def EvidenceValue.carried {α : Type} [Inhabited α] (evidence : EvidenceValue α) :
    EvidenceValue α :=
  { evidence with revalidationRequired := false }

def CapabilityRef.carried (capability : CapabilityRef) : CapabilityRef :=
  { capability with revalidationRequired := false }

def PowerDomainBudget.carried (budget : PowerDomainBudget) : PowerDomainBudget :=
  { domain := budget.domain, limit := budget.limit.map Quantity.carried,
    observedDraw := budget.observedDraw.map Quantity.carried }

def CoolingZoneRecord.carried (zone : CoolingZoneRecord) : CoolingZoneRecord :=
  { zone := zone.zone
    designThermalLimit := zone.designThermalLimit.map Quantity.carried
    observedTemperature := zone.observedTemperature.map Quantity.carried
    coolingCapacity := zone.coolingCapacity.map Quantity.carried
    throttling := zone.throttling.map EvidenceValue.carried }

def MemberRecord.carried (record : MemberRecord) : MemberRecord :=
  { toObservation := record.toObservation.carried
    key := record.key
    lifecycle := record.lifecycle
    generation := record.generation
    parent := record.parent
    failureDomains := record.failureDomains
    powerDomain := record.powerDomain
    coolingDomain := record.coolingDomain
    switchDomain := record.switchDomain
    health := record.health.carried
    readiness := record.readiness.carried
    reachability := record.reachability.carried
    capabilities := record.capabilities.map CapabilityRef.carried
    details := record.details
    source := record.source }

def RelationshipRecord.carried (record : RelationshipRecord) : RelationshipRecord :=
  { toObservation := record.toObservation.carried
    key := record.key
    link := record.link
    capacity := record.capacity.map Quantity.carried
    source := record.source }

def FailureDomainRecord.carried (record : FailureDomainRecord) : FailureDomainRecord :=
  { toObservation := record.toObservation.carried
    id := record.id
    kind := record.kind
    lifecycle := record.lifecycle
    parents := record.parents
    label := record.label
    source := record.source }

def PowerEnvelopeRecord.carried (record : PowerEnvelopeRecord) : PowerEnvelopeRecord :=
  { toObservation := record.toObservation.carried
    rackLimit := record.rackLimit.map Quantity.carried
    rackObservedDraw := record.rackObservedDraw.map Quantity.carried
    domainBudgets := record.domainBudgets.map PowerDomainBudget.carried
    source := record.source }

def CoolingEnvelopeRecord.carried (record : CoolingEnvelopeRecord) : CoolingEnvelopeRecord :=
  { toObservation := record.toObservation.carried
    zones := record.zones.map CoolingZoneRecord.carried
    source := record.source }

/-- A message with the fields that its encoder leaves out at their defaults. -/
def PayloadKind.carried : (kind : PayloadKind) → kind.Message → kind.Message
  | .publishMember, message => { message with record := message.record.carried }
  | .publishLink, message => { message with record := message.record.carried }
  | .publishFailureDomain, message => { message with record := message.record.carried }
  | .publishPower, message => { message with record := message.record.carried }
  | .publishCooling, message => { message with record := message.record.carried }
  | .publishHealth, message =>
      { message with health := message.health.carried, readiness := message.readiness.carried }
  | .publishCapability, message => { message with capability := message.capability.carried }
  | _, message => message

/-! Lengths. -/

/-- The length that the call writes is the one that it means: it fits in four bytes. -/
def PayloadOp.Narrow : PayloadOp → Prop
  | raw _ => True
  | string value => value.length < 2 ^ 32
  | sized bytes => bytes.length < 2 ^ 32
  | collectionSize count => count < 2 ^ 32

end RackFabric
