import RackFabric.Model.Decode
import RackFabric.Model.Framing

/-! The payload codec of every message. An encoder is the sequence of its calls to the
payload writer. The payload reader keeps its first error and reads nothing after it, so a
decoder is modelled as stopping there, with the status that it then returns. -/
namespace RackFabric
open Enumeration ByteReader PayloadOp

instance : Enum8 WithdrawScope where
  values := [.all, .health, .readiness, .reachability, .capabilities, .details]

/-! Writing. -/

namespace PayloadOp

def i64 (value : Int64) : PayloadOp := u64 value.toUInt64

def f64 (value : Double) : PayloadOp := u64 value.bits

def enum8 {α : Type} [DecidableEq α] [Enum8 α] (value : α) : PayloadOp := u8 (toUInt8 value)

/-- A presence byte, and the value when there is one. -/
def optional {α : Type} (write : α → List PayloadOp) : Option α → List PayloadOp
  | none => [u8 0]
  | some value => u8 1 :: write value

def optionalId {tag : IdentityTag} (id : Option (StrongId tag)) : List PayloadOp :=
  optionalString (id.map (·.value))

def many {α : Type} (write : α → List PayloadOp) (values : List α) : List PayloadOp :=
  collectionSize values.length :: values.flatMap write

def optionalGeneration {tag : GenerationTag} : Option (Generation tag) → List PayloadOp :=
  optional fun value => [generation value]

end PayloadOp

def writeMemberKey (key : MemberKey) : List PayloadOp :=
  [enum8 key.kind, string key.id]

def writeAuthority (token : AuthorityToken) : List PayloadOp :=
  generation token.coordinatorEpoch :: (optionalId token.boot ++
    optionalGeneration token.publicationGeneration ++ optionalId token.rack)

/-- The revalidation flag does not travel. -/
def writeEvidenceHeader (evidence : Observation) : List PayloadOp :=
  [enum8 evidence.provenance, i64 evidence.observedAt.unixMillis, i64 evidence.ttl,
    enum8 evidence.durability]

def writeQuantity (quantity : Quantity) : List PayloadOp :=
  [f64 quantity.value, enum8 quantity.unit] ++
    optional (fun value => [f64 value]) quantity.uncertainty ++
    writeEvidenceHeader quantity.toObservation

def writeEvidence {α : Type} [Inhabited α] [DecidableEq α] [Enum8 α]
    (evidence : EvidenceValue α) : List PayloadOp :=
  writeEvidenceHeader evidence.toObservation ++ [enum8 evidence.value]

/-- The persisted form of the details. Nobody asks whether the writer is still ok. -/
def detailBytes (limits : ResourceLimits) (details : MemberDetails) : Bytes :=
  let writer : ByteWriter := { limits := limits, maxBytes := limits.maxPayloadBytes }
  (writer.writeAll (encodeDetails details)).buffer

def writeCapability (capability : CapabilityRef) : List PayloadOp :=
  string capability.id.value :: (writeEvidenceHeader capability.toObservation ++
    optionalString capability.value)

def writeBudget (budget : PowerDomainBudget) : List PayloadOp :=
  string budget.domain.value :: (optional writeQuantity budget.limit ++
    optional writeQuantity budget.observedDraw)

def writeZone (zone : CoolingZoneRecord) : List PayloadOp :=
  string zone.zone.value :: (optional writeQuantity zone.designThermalLimit ++
    optional writeQuantity zone.observedTemperature ++
    optional writeQuantity zone.coolingCapacity ++ optional writeEvidence zone.throttling)

def HelloMessage.encode (message : HelloMessage) : List PayloadOp :=
  [u16 message.protocolVersion, generation message.coordinatorEpoch, string message.agentVersion]

def RegisterMessage.encode (message : RegisterMessage) : List PayloadOp :=
  optionalId message.rack ++ optionalId message.worker ++ optionalId message.boot ++
    [generation message.coordinatorEpoch] ++ optionalString message.label

def DeclareRackMessage.encode (message : DeclareRackMessage) : List PayloadOp :=
  writeAuthority message.authority ++ [string message.epoch.value] ++
    optionalString message.label ++ [boolean message.redeclare]

def PublishMemberMessage.encode (limits : ResourceLimits) (message : PublishMemberMessage) :
    List PayloadOp :=
  let record := message.record
  writeAuthority message.authority ++ writeMemberKey record.key ++
    [enum8 record.lifecycle, generation record.generation] ++
    writeEvidenceHeader record.toObservation ++ optional writeMemberKey record.parent ++
    many (fun domain => [string domain.value]) record.failureDomains ++
    optionalId record.powerDomain ++ optionalId record.coolingDomain ++
    optionalId record.switchDomain ++ [sized (detailBytes limits record.details)] ++
    many writeCapability record.capabilities ++ writeEvidence record.health ++
    writeEvidence record.readiness ++ writeEvidence record.reachability ++
    optionalString record.source ++ optionalGeneration message.expectedGeneration ++
    [boolean message.supersede]

def PublishLinkMessage.encode (message : PublishLinkMessage) : List PayloadOp :=
  let record := message.record
  writeAuthority message.authority ++ [enum8 record.key.cls] ++
    writeMemberKey record.key.source ++ writeMemberKey record.key.target ++
    writeEvidenceHeader record.toObservation ++ optionalId record.link ++
    optional writeQuantity record.capacity ++ optionalString record.source ++
    optionalGeneration message.expectedGeneration ++ [boolean message.supersede]

def PublishFailureDomainMessage.encode (message : PublishFailureDomainMessage) : List PayloadOp :=
  let record := message.record
  writeAuthority message.authority ++
    [string record.id.value, enum8 record.kind, enum8 record.lifecycle] ++
    many (fun parent => [string parent.value]) record.parents ++
    writeEvidenceHeader record.toObservation ++ optionalString record.label ++
    optionalString record.source ++ optionalGeneration message.expectedGeneration ++
    [boolean message.supersede]

def PublishPowerMessage.encode (message : PublishPowerMessage) : List PayloadOp :=
  let record := message.record
  writeAuthority message.authority ++ optional writeQuantity record.rackLimit ++
    optional writeQuantity record.rackObservedDraw ++ many writeBudget record.domainBudgets ++
    writeEvidenceHeader record.toObservation ++ optionalString record.source ++
    optionalGeneration message.expectedGeneration ++ [boolean message.supersede]

def PublishCoolingMessage.encode (message : PublishCoolingMessage) : List PayloadOp :=
  let record := message.record
  writeAuthority message.authority ++ many writeZone record.zones ++
    writeEvidenceHeader record.toObservation ++ optionalString record.source ++
    optionalGeneration message.expectedGeneration ++ [boolean message.supersede]

def PublishHealthMessage.encode (message : PublishHealthMessage) : List PayloadOp :=
  writeAuthority message.authority ++ writeMemberKey message.member ++
    writeEvidence message.health ++ [boolean message.publishReadiness] ++
    writeEvidence message.readiness ++ optionalGeneration message.expectedGeneration

def PublishCapabilityMessage.encode (message : PublishCapabilityMessage) : List PayloadOp :=
  writeAuthority message.authority ++ writeMemberKey message.member ++
    writeCapability message.capability ++ optionalGeneration message.expectedGeneration

def WithdrawMessage.encode (message : WithdrawMessage) : List PayloadOp :=
  writeAuthority message.authority ++ writeMemberKey message.member ++ [enum8 message.scope] ++
    optionalGeneration message.expectedGeneration

def RetireMemberMessage.encode (message : RetireMemberMessage) : List PayloadOp :=
  writeAuthority message.authority ++ writeMemberKey message.member ++
    optionalGeneration message.expectedGeneration

def RevalidateMessage.encode (message : RevalidateMessage) : List PayloadOp :=
  writeAuthority message.authority ++ [boolean message.all] ++ many writeMemberKey message.members

def HeartbeatMessage.encode (message : HeartbeatMessage) : List PayloadOp :=
  writeAuthority message.authority ++ [generation message.publicationGeneration]

def QueryMessage.encode (message : QueryMessage) : List PayloadOp :=
  [u16 message.queryKind] ++ optional writeMemberKey message.member ++
    optionalId message.failureDomain

def SnapshotRequestMessage.encode (message : SnapshotRequestMessage) : List PayloadOp :=
  writeAuthority message.authority ++ [boolean message.create]

/-! Reading. -/

/-- The bounds of a payload reader. With `binaryFlags` it refuses a presence byte that is
neither zero nor one; the decoders of the protocol do not ask for that. -/
structure PayloadReading where
  limits : ResourceLimits
  binaryFlags : Bool := false

abbrev PayloadReader (α : Type) := Reader PayloadReading DecodeStatus α

namespace PayloadReader

def malformed {α : Type} : PayloadReader α := Reader.fail .malformedPayload

def limits : PayloadReader ResourceLimits := fun reading input => .ok (reading.limits, input)

def take (size : Nat) : PayloadReader Bytes := Reader.take size .malformedPayload

def u8 : PayloadReader UInt8 := do
  return UInt8.ofNat (LittleEndian.decode (← take 1))

def u16 : PayloadReader UInt16 := do
  return UInt16.ofNat (LittleEndian.decode (← take 2))

def u32 : PayloadReader UInt32 := do
  return UInt32.ofNat (LittleEndian.decode (← take 4))

def u64 : PayloadReader UInt64 := do
  return UInt64.ofNat (LittleEndian.decode (← take 8))

def i64 : PayloadReader Int64 := do
  return (← u64).toInt64

def f64 : PayloadReader Double := do
  return ⟨← u64⟩

def boolean : PayloadReader Bool := do
  let value ← u8
  if value > 1 then malformed else return value = 1

/-- A string that is too long is reported as trailing garbage. -/
def string : PayloadReader Str := do
  let length ← u32
  let limits ← limits
  if length.toNat > limits.maxStringBytes then Reader.fail .trailingGarbage
  else take length.toNat

/-- The presence byte of a string is read strictly, whatever the configuration. -/
def optionalString : PayloadReader (Option Str) := do
  if ← boolean then return some (← string) else return none

/-- `reader.u8() == 1U`: any byte but one stands for an absent value. -/
def flag : PayloadReader Bool := fun reading input =>
  match u8 reading input with
  | .error status => .error status
  | .ok (value, rest) =>
      if reading.binaryFlags ∧ value > 1 then .error .malformedPayload
      else .ok (value = 1, rest)

def optional {α : Type} (read : PayloadReader α) : PayloadReader (Option α) := do
  if ← flag then return some (← read) else return none

def enum8 {α : Type} [DecidableEq α] [Enum8 α] : PayloadReader α := do
  Reader.orFail (ofNat? (← u8).toNat) .malformedPayload

/-- An enumeration of two bytes, as the replies carry them. -/
def enum16 {α : Type} [DecidableEq α] [Enum8 α] : PayloadReader α := do
  Reader.orFail (ofNat? (← u16).toNat) .malformedPayload

def bytes : PayloadReader Bytes := do
  let length ← u32
  let limits ← limits
  if length.toNat > limits.maxPayloadBytes then malformed else take length.toNat

/-- Every element occupies at least one of the remaining bytes. -/
def collectionSize : PayloadReader Nat := do
  let count ← u32
  let limits ← limits
  let remaining ← Reader.remaining
  if count.toNat > limits.maxCollectionItems ∨ count.toNat > remaining then malformed
  else return count.toNat

def many {α : Type} (read : PayloadReader α) : PayloadReader (List α) := do
  read.repeated (← collectionSize)

def generation {tag : GenerationTag} : PayloadReader (Generation tag) := do
  return ⟨← u64⟩

/-- `StrongId::parse` on a decoded text. -/
def parsed {tag : IdentityTag} (text : Str) : PayloadReader (StrongId tag) :=
  Reader.orFail (StrongId.parse text) .malformedPayload

def optionalId {tag : IdentityTag} : PayloadReader (Option (StrongId tag)) := do
  match ← optionalString with
  | none => return none
  | some text => return some (← parsed text)

/-- A part after which the decoder returns at once when the reader has failed. -/
def early {α : Type} (read : PayloadReader α) : PayloadReader α := fun reading input =>
  match read reading input with
  | .error _ => .error .malformedPayload
  | .ok result => .ok result

/-- What a decoder returns for a payload, which it must consume exactly. -/
def decode {α : Type} (read : PayloadReader α) (reading : PayloadReading) (payload : Bytes) :
    Except DecodeStatus α :=
  match read reading payload with
  | .error status => .error status
  | .ok (value, []) => .ok value
  | .ok (_, _ :: _) => .error .trailingGarbage

end PayloadReader

open PayloadReader

def readTypedId {tag : IdentityTag} : PayloadReader (StrongId tag) :=
  early do parsed (← string)

def readMemberKey : PayloadReader MemberKey := early do
  let kind ← enum8
  let id ← string
  if (validateIdentity id).ok then return { kind, id } else malformed

def readGenerationSet : PayloadReader GenerationSet := do
  let rack ← generation
  let membership ← generation
  let topology ← generation
  let failureDomains ← generation
  let constraints ← generation
  let power ← generation
  let cooling ← generation
  let health ← generation
  let capabilities ← generation
  let coordinatorEpoch ← generation
  return { rack, membership, topology, failureDomains, constraints, power, cooling, health,
           capabilities, coordinatorEpoch }

def readAuthority : PayloadReader AuthorityToken := early do
  let coordinatorEpoch ← generation
  let boot ← optionalId
  let publicationGeneration ← optional generation
  let rack ← optionalId
  return { coordinatorEpoch, boot, publicationGeneration, rack }

def readEvidenceHeader : PayloadReader Observation := do
  let provenance ← enum8
  let observedAt ← i64
  let ttl ← i64
  let durability ← enum8
  return { provenance, observedAt := ⟨observedAt⟩, ttl, durability }

def readQuantity : PayloadReader Quantity := do
  let value ← f64
  let unit ← enum8
  let uncertainty ← optional f64
  let header ← readEvidenceHeader
  return { toObservation := header, value, unit, uncertainty }

def readEvidence {α : Type} [Inhabited α] [DecidableEq α] [Enum8 α] :
    PayloadReader (EvidenceValue α) := do
  let header ← readEvidenceHeader
  let value ← enum8
  return { toObservation := header, value }

/-- The details fill a payload of their own. -/
def readDetails : PayloadReader MemberDetails := do
  let details ← bytes
  let limits ← limits
  match decodeDetails limits details with
  | .ok (value, []) => return value
  | _ => malformed

def readCapability : PayloadReader CapabilityRef := do
  let id ← readTypedId
  let header ← readEvidenceHeader
  let value ← optionalString
  return { toObservation := header, id, value }

def readBudget : PayloadReader PowerDomainBudget := do
  let domain ← readTypedId
  let limit ← optional readQuantity
  let observedDraw ← optional readQuantity
  return { domain, limit, observedDraw }

def readZone : PayloadReader CoolingZoneRecord := do
  let zone ← readTypedId
  let designThermalLimit ← optional readQuantity
  let observedTemperature ← optional readQuantity
  let coolingCapacity ← optional readQuantity
  let throttling ← optional readEvidence
  return { zone, designThermalLimit, observedTemperature, coolingCapacity, throttling }

def HelloMessage.decode : PayloadReader HelloMessage := do
  let protocolVersion ← u16
  let coordinatorEpoch ← generation
  let agentVersion ← string
  return { protocolVersion, coordinatorEpoch, agentVersion }

def HelloAckMessage.decode : PayloadReader HelloAckMessage := do
  let protocolVersion ← u16
  let coordinatorEpoch ← generation
  let coordinatorVersion ← string
  let rack ← optionalId
  let acceptsMutations ← boolean
  return { protocolVersion, coordinatorEpoch, coordinatorVersion, rack, acceptsMutations }

def RegisterMessage.decode : PayloadReader RegisterMessage := do
  let rack ← optionalId
  let worker ← optionalId
  let boot ← optionalId
  let coordinatorEpoch ← generation
  let label ← optionalString
  return { rack, worker, boot, coordinatorEpoch, label }

def RegisterAckMessage.decode : PayloadReader RegisterAckMessage := do
  let accepted ← boolean
  let coordinatorEpoch ← generation
  let generations ← readGenerationSet
  let publicationGeneration ← generation
  return { accepted, coordinatorEpoch, generations, publicationGeneration }

def DeclareRackMessage.decode : PayloadReader DeclareRackMessage := do
  let authority ← readAuthority
  let epoch ← readTypedId
  let label ← optionalString
  let redeclare ← boolean
  return { authority, epoch, label, redeclare }

def PublishMemberMessage.decode : PayloadReader PublishMemberMessage := do
  let authority ← readAuthority
  let key ← readMemberKey
  let lifecycle ← enum8
  let generation ← generation
  let header ← readEvidenceHeader
  let parent ← optional readMemberKey
  let failureDomains ← many readTypedId
  let powerDomain ← early optionalId
  let coolingDomain ← early optionalId
  let switchDomain ← early optionalId
  let details ← readDetails
  let capabilities ← many (early readCapability)
  let health ← readEvidence
  let readiness ← readEvidence
  let reachability ← readEvidence
  let source ← optionalString
  let expectedGeneration ← optional PayloadReader.generation
  let supersede ← boolean
  let record : MemberRecord :=
    { toObservation := header, key, lifecycle, generation, parent, failureDomains, powerDomain,
      coolingDomain, switchDomain, details, capabilities, health, readiness, reachability, source }
  return { authority, record, expectedGeneration, supersede }

def PublishLinkMessage.decode : PayloadReader PublishLinkMessage := do
  let authority ← readAuthority
  let cls ← enum8
  let source ← readMemberKey
  let target ← readMemberKey
  let header ← readEvidenceHeader
  let link ← optionalId
  let capacity ← optional readQuantity
  let origin ← optionalString
  let expectedGeneration ← optional generation
  let supersede ← boolean
  let record : RelationshipRecord :=
    { toObservation := header, key := { cls, source, target }, link, capacity, source := origin }
  return { authority, record, expectedGeneration, supersede }

def PublishFailureDomainMessage.decode : PayloadReader PublishFailureDomainMessage := do
  let authority ← readAuthority
  let id ← readTypedId
  let kind ← enum8
  let lifecycle ← enum8
  let parents ← many readTypedId
  let header ← readEvidenceHeader
  let label ← optionalString
  let source ← optionalString
  let expectedGeneration ← optional generation
  let supersede ← boolean
  let record : FailureDomainRecord :=
    { toObservation := header, id, kind, lifecycle, parents, label, source }
  return { authority, record, expectedGeneration, supersede }

def PublishPowerMessage.decode : PayloadReader PublishPowerMessage := do
  let authority ← readAuthority
  let rackLimit ← optional readQuantity
  let rackObservedDraw ← optional readQuantity
  let domainBudgets ← many readBudget
  let header ← readEvidenceHeader
  let source ← optionalString
  let expectedGeneration ← optional generation
  let supersede ← boolean
  let record : PowerEnvelopeRecord :=
    { toObservation := header, rackLimit, rackObservedDraw, domainBudgets, source }
  return { authority, record, expectedGeneration, supersede }

def PublishCoolingMessage.decode : PayloadReader PublishCoolingMessage := do
  let authority ← readAuthority
  let zones ← many readZone
  let header ← readEvidenceHeader
  let source ← optionalString
  let expectedGeneration ← optional generation
  let supersede ← boolean
  let record : CoolingEnvelopeRecord := { toObservation := header, zones, source }
  return { authority, record, expectedGeneration, supersede }

def PublishHealthMessage.decode : PayloadReader PublishHealthMessage := do
  let authority ← readAuthority
  let member ← readMemberKey
  let health ← readEvidence
  let publishReadiness ← boolean
  let readiness ← readEvidence
  let expectedGeneration ← optional generation
  return { authority, member, health, readiness, publishReadiness, expectedGeneration }

def PublishCapabilityMessage.decode : PayloadReader PublishCapabilityMessage := do
  let authority ← readAuthority
  let member ← readMemberKey
  let capability ← readCapability
  let expectedGeneration ← optional generation
  return { authority, member, capability, expectedGeneration }

def WithdrawMessage.decode : PayloadReader WithdrawMessage := do
  let authority ← readAuthority
  let member ← readMemberKey
  let scope ← enum8
  let expectedGeneration ← optional generation
  return { authority, member, scope, expectedGeneration }

def RetireMemberMessage.decode : PayloadReader RetireMemberMessage := do
  let authority ← readAuthority
  let member ← readMemberKey
  let expectedGeneration ← optional generation
  return { authority, member, expectedGeneration }

def RevalidateMessage.decode : PayloadReader RevalidateMessage := do
  let authority ← readAuthority
  let all ← boolean
  let members ← many readMemberKey
  return { authority, members, all }

def HeartbeatMessage.decode : PayloadReader HeartbeatMessage := do
  let authority ← readAuthority
  let publicationGeneration ← generation
  return { authority, publicationGeneration }

def QueryMessage.decode : PayloadReader QueryMessage := do
  let queryKind ← u16
  let member ← optional readMemberKey
  let failureDomain ← optionalId
  return { queryKind, member, failureDomain }

def SnapshotRequestMessage.decode : PayloadReader SnapshotRequestMessage := do
  let authority ← readAuthority
  let create ← boolean
  return { authority, create }

def ResultMessage.decode : PayloadReader ResultMessage := do
  let accepted ← boolean
  let outcome ← enum16
  let generations ← readGenerationSet
  let code ← string
  let detail ← string
  return { accepted, outcome, generations, code, detail }

def ErrorMessage.decode : PayloadReader ErrorMessage := do
  let error ← enum16
  let detail ← string
  return { error, detail }

/-! The codec of each kind of payload. -/

inductive PayloadKind where
  | hello | helloAck | register | registerAck | declareRack | publishMember | publishLink
  | publishFailureDomain | publishPower | publishCooling | publishHealth | publishCapability
  | withdraw | retireMember | revalidate | heartbeat | query | snapshotRequest | result | error
deriving DecidableEq

namespace PayloadKind

abbrev Message : PayloadKind → Type
  | hello => HelloMessage
  | helloAck => HelloAckMessage
  | register => RegisterMessage
  | registerAck => RegisterAckMessage
  | declareRack => DeclareRackMessage
  | publishMember => PublishMemberMessage
  | publishLink => PublishLinkMessage
  | publishFailureDomain => PublishFailureDomainMessage
  | publishPower => PublishPowerMessage
  | publishCooling => PublishCoolingMessage
  | publishHealth => PublishHealthMessage
  | publishCapability => PublishCapabilityMessage
  | withdraw => WithdrawMessage
  | retireMember => RetireMemberMessage
  | revalidate => RevalidateMessage
  | heartbeat => HeartbeatMessage
  | query => QueryMessage
  | snapshotRequest => SnapshotRequestMessage
  | result => ResultMessage
  | error => ErrorMessage

/-- The calls of the encoder. Only the details of a member look at the limits. -/
def calls (limits : ResourceLimits) : (kind : PayloadKind) → kind.Message → List PayloadOp
  | hello => HelloMessage.encode
  | helloAck => HelloAckMessage.encode
  | register => RegisterMessage.encode
  | registerAck => RegisterAckMessage.encode
  | declareRack => DeclareRackMessage.encode
  | publishMember => PublishMemberMessage.encode limits
  | publishLink => PublishLinkMessage.encode
  | publishFailureDomain => PublishFailureDomainMessage.encode
  | publishPower => PublishPowerMessage.encode
  | publishCooling => PublishCoolingMessage.encode
  | publishHealth => PublishHealthMessage.encode
  | publishCapability => PublishCapabilityMessage.encode
  | withdraw => WithdrawMessage.encode
  | retireMember => RetireMemberMessage.encode
  | revalidate => RevalidateMessage.encode
  | heartbeat => HeartbeatMessage.encode
  | query => QueryMessage.encode
  | snapshotRequest => SnapshotRequestMessage.encode
  | result => ResultMessage.encode
  | error => ErrorMessage.encode

def reader : (kind : PayloadKind) → PayloadReader kind.Message
  | hello => HelloMessage.decode
  | helloAck => HelloAckMessage.decode
  | register => RegisterMessage.decode
  | registerAck => RegisterAckMessage.decode
  | declareRack => DeclareRackMessage.decode
  | publishMember => PublishMemberMessage.decode
  | publishLink => PublishLinkMessage.decode
  | publishFailureDomain => PublishFailureDomainMessage.decode
  | publishPower => PublishPowerMessage.decode
  | publishCooling => PublishCoolingMessage.decode
  | publishHealth => PublishHealthMessage.decode
  | publishCapability => PublishCapabilityMessage.decode
  | withdraw => WithdrawMessage.decode
  | retireMember => RetireMemberMessage.decode
  | revalidate => RevalidateMessage.decode
  | heartbeat => HeartbeatMessage.decode
  | query => QueryMessage.decode
  | snapshotRequest => SnapshotRequestMessage.decode
  | result => ResultMessage.decode
  | error => ErrorMessage.decode

/-- `MessageCodec::encode`. -/
def encode (limits : ResourceLimits) (kind : PayloadKind) (message : kind.Message) :
    Option Bytes :=
  PayloadWriter.encode limits (kind.calls limits message)

/-- `MessageCodec::decode` into a fresh message. -/
def decode (limits : ResourceLimits) (kind : PayloadKind) (payload : Bytes) :
    Except DecodeStatus kind.Message :=
  kind.reader.decode { limits := limits } payload

end PayloadKind

end RackFabric
