import RackFabric.Properties.Extents
import RackFabric.Properties.Framing
import RackFabric.Properties.MessageCodec

/-! How many bytes a message takes. The payload writer bounds every text and every count,
and nothing bounds their sum. -/
namespace RackFabric
open Enumeration PayloadOp

/-! The bytes of the fields. -/

def textSize (text : Str) : Nat := 4 + text.length

def idSize {tag : IdentityTag} (id : StrongId tag) : Nat := textSize id.value

def optionalSize {α : Type} (size : α → Nat) : Option α → Nat
  | none => 1
  | some value => 1 + size value

def listSize {α : Type} (size : α → Nat) (values : List α) : Nat := 4 + (values.map size).sum

def generationSize {tag : GenerationTag} (_ : Generation tag) : Nat := 8

def generationSetSize : Nat := 80

def headerSize : Nat := 18

def evidenceSize {α : Type} [Inhabited α] (_ : EvidenceValue α) : Nat := headerSize + 1

def MemberKey.size (key : MemberKey) : Nat := 1 + textSize key.id

def AuthorityToken.size (token : AuthorityToken) : Nat :=
  8 + optionalSize idSize token.boot + optionalSize generationSize token.publicationGeneration +
    optionalSize idSize token.rack

def Quantity.size (quantity : Quantity) : Nat :=
  9 + optionalSize (fun _ => 8) quantity.uncertainty + headerSize

def CapabilityRef.size (capability : CapabilityRef) : Nat :=
  idSize capability.id + headerSize + optionalSize textSize capability.value

def PowerDomainBudget.size (budget : PowerDomainBudget) : Nat :=
  idSize budget.domain + optionalSize Quantity.size budget.limit +
    optionalSize Quantity.size budget.observedDraw

def CoolingZoneRecord.size (zone : CoolingZoneRecord) : Nat :=
  idSize zone.zone + optionalSize Quantity.size zone.designThermalLimit +
    optionalSize Quantity.size zone.observedTemperature +
    optionalSize Quantity.size zone.coolingCapacity + optionalSize evidenceSize zone.throttling

/-- What has no room left is not taken, and what comes after it may be. -/
def taken (limits : ResourceLimits) (size width : Nat) : Nat :=
  if size + width ≤ limits.maxPayloadBytes then size + width else size

/-- A block of this size with one more field of the details. A text that is too long leaves its
flag only. -/
def DetailField.grow (limits : ResourceLimits) (size : Nat) : DetailField → Nat
  | .text none | .number _ false | .quantity none => size + 1
  | .text (some value) =>
      if value.length ≤ limits.maxStringBytes then
        taken limits (taken limits (size + 1) 4) value.length
      else size + 1
  | .number width true => taken limits (size + 1) width
  | .quantity (some value) =>
      let measured := taken limits (size + 1) 8 + 3
      let bounded := if value.uncertainty.isSome then taken limits measured 8 else measured
      taken limits (taken limits bounded 8) 8 + 2

def MemberDetails.blockSize (limits : ResourceLimits) (details : MemberDetails) : Nat :=
  details.fields.foldl (DetailField.grow limits) 1

/-- The details are a block whose length stands before it. -/
def MemberRecord.size (limits : ResourceLimits) (record : MemberRecord) : Nat :=
  record.key.size + 1 + generationSize record.generation + headerSize +
    optionalSize MemberKey.size record.parent + listSize idSize record.failureDomains +
    optionalSize idSize record.powerDomain + optionalSize idSize record.coolingDomain +
    optionalSize idSize record.switchDomain + (4 + record.details.blockSize limits) +
    listSize CapabilityRef.size record.capabilities + evidenceSize record.health +
    evidenceSize record.readiness + evidenceSize record.reachability +
    optionalSize textSize record.source

def RelationshipRecord.size (record : RelationshipRecord) : Nat :=
  1 + record.key.source.size + record.key.target.size + headerSize +
    optionalSize idSize record.link + optionalSize Quantity.size record.capacity +
    optionalSize textSize record.source

def FailureDomainRecord.size (record : FailureDomainRecord) : Nat :=
  idSize record.id + 2 + listSize idSize record.parents + headerSize +
    optionalSize textSize record.label + optionalSize textSize record.source

def PowerEnvelopeRecord.size (record : PowerEnvelopeRecord) : Nat :=
  optionalSize Quantity.size record.rackLimit + optionalSize Quantity.size record.rackObservedDraw +
    listSize PowerDomainBudget.size record.domainBudgets + headerSize +
    optionalSize textSize record.source

def CoolingEnvelopeRecord.size (record : CoolingEnvelopeRecord) : Nat :=
  listSize CoolingZoneRecord.size record.zones + headerSize + optionalSize textSize record.source

def PayloadKind.size (limits : ResourceLimits) : (kind : PayloadKind) → kind.Message → Nat
  | .hello, message => 2 + 8 + textSize message.agentVersion
  | .helloAck, message =>
      2 + 8 + textSize message.coordinatorVersion + optionalSize idSize message.rack + 1
  | .register, message =>
      optionalSize idSize message.rack + optionalSize idSize message.worker +
        optionalSize idSize message.boot + 8 + optionalSize textSize message.label
  | .registerAck, _ => 1 + 8 + generationSetSize + 8
  | .declareRack, message =>
      message.authority.size + idSize message.epoch + optionalSize textSize message.label + 1
  | .publishMember, message =>
      message.authority.size + message.record.size limits +
        optionalSize generationSize message.expectedGeneration + 1
  | .publishLink, message =>
      message.authority.size + message.record.size +
        optionalSize generationSize message.expectedGeneration + 1
  | .publishFailureDomain, message =>
      message.authority.size + message.record.size +
        optionalSize generationSize message.expectedGeneration + 1
  | .publishPower, message =>
      message.authority.size + message.record.size +
        optionalSize generationSize message.expectedGeneration + 1
  | .publishCooling, message =>
      message.authority.size + message.record.size +
        optionalSize generationSize message.expectedGeneration + 1
  | .publishHealth, message =>
      message.authority.size + message.member.size + evidenceSize message.health + 1 +
        evidenceSize message.readiness + optionalSize generationSize message.expectedGeneration
  | .publishCapability, message =>
      message.authority.size + message.member.size + message.capability.size +
        optionalSize generationSize message.expectedGeneration
  | .withdraw, message =>
      message.authority.size + message.member.size + 1 +
        optionalSize generationSize message.expectedGeneration
  | .retireMember, message =>
      message.authority.size + message.member.size +
        optionalSize generationSize message.expectedGeneration
  | .revalidate, message =>
      message.authority.size + 1 + listSize MemberKey.size message.members
  | .heartbeat, message => message.authority.size + 8
  | .query, message =>
      2 + optionalSize MemberKey.size message.member + optionalSize idSize message.failureDomain
  | .snapshotRequest, message => message.authority.size + 1
  | .result, message =>
      1 + 2 + generationSetSize + textSize message.code + textSize message.detail
  | .error, message => 2 + textSize message.detail

/-! The bytes of the calls. -/

instance (limits : ResourceLimits) : (call : PayloadOp) → Decidable (call.Fits limits)
  | raw _ => isTrue trivial
  | string value => inferInstanceAs (Decidable (value.length ≤ limits.maxStringBytes))
  | sized bytes => inferInstanceAs (Decidable (bytes.length ≤ limits.maxPayloadBytes))
  | collectionSize count => inferInstanceAs (Decidable (count ≤ limits.maxCollectionItems))

def callsSize (calls : List PayloadOp) : Nat := (calls.flatMap PayloadOp.bytes).length

@[simp] theorem callsSize_nil : callsSize [] = 0 := rfl

@[simp] theorem callsSize_cons (call : PayloadOp) (calls : List PayloadOp) :
    callsSize (call :: calls) = call.bytes.length + callsSize calls := by
  simp [callsSize]

@[simp] theorem callsSize_append (first second : List PayloadOp) :
    callsSize (first ++ second) = callsSize first + callsSize second := by
  simp [callsSize]

@[simp] theorem length_bytes_sized (bytes : Bytes) :
    (sized bytes).bytes.length = 4 + bytes.length := by
  simp [PayloadOp.bytes]

@[simp] theorem length_bytes_collectionSize (count : Nat) :
    (collectionSize count).bytes.length = 4 := by
  simp [PayloadOp.bytes]

@[simp] theorem length_bytes_i64 (value : Int64) : (i64 value).bytes.length = 8 := by
  simp [i64]

@[simp] theorem length_bytes_f64 (value : Double) : (f64 value).bytes.length = 8 := by
  simp [f64]

@[simp] theorem length_bytes_enum8 {α : Type} [DecidableEq α] [Enum8 α] (value : α) :
    (enum8 value).bytes.length = 1 := by
  simp [enum8]

section
variable {α : Type} {write : α → List PayloadOp} {size : α → Nat}

theorem callsSize_optional (h : ∀ value, callsSize (write value) = size value)
    (value : Option α) : callsSize (PayloadOp.optional write value) = optionalSize size value := by
  cases value with
  | none => simp [PayloadOp.optional, optionalSize]
  | some value => simp [PayloadOp.optional, optionalSize, h]

theorem callsSize_flatMap (h : ∀ value, callsSize (write value) = size value)
    (values : List α) : callsSize (values.flatMap write) = (values.map size).sum := by
  induction values with
  | nil => rfl
  | cons value values ih => simp [h, ih]

theorem callsSize_many (h : ∀ value, callsSize (write value) = size value) (values : List α) :
    callsSize (PayloadOp.many write values) = listSize size values := by
  rw [PayloadOp.many, callsSize_cons, callsSize_flatMap h, listSize, length_bytes_collectionSize]

end

@[simp] theorem callsSize_optionalString (text : Option Str) :
    callsSize (optionalString text) = optionalSize textSize text := by
  cases text <;> simp [optionalString, optionalSize, textSize]

@[simp] theorem callsSize_optionalId {tag : IdentityTag} (id : Option (StrongId tag)) :
    callsSize (PayloadOp.optionalId id) = optionalSize idSize id := by
  cases id <;> simp [PayloadOp.optionalId, optionalSize, textSize, idSize]

@[simp] theorem optionalSize_value {tag : IdentityTag} (id : Option (StrongId tag)) :
    optionalSize textSize (id.map (·.value)) = optionalSize idSize id := by
  cases id <;> rfl

@[simp] theorem callsSize_optionalGeneration {tag : GenerationTag}
    (value : Option (Generation tag)) :
    callsSize (optionalGeneration value) = optionalSize generationSize value :=
  callsSize_optional (by simp [generationSize]) value

@[simp] theorem callsSize_ids {tag : IdentityTag} (ids : List (StrongId tag)) :
    callsSize (PayloadOp.many (fun id => [string id.value]) ids) = listSize idSize ids :=
  callsSize_many (by simp [idSize, textSize]) ids

@[simp] theorem callsSize_memberKey (key : MemberKey) :
    callsSize (writeMemberKey key) = key.size := by
  simp [writeMemberKey, MemberKey.size, textSize]

@[simp] theorem callsSize_authority (token : AuthorityToken) :
    callsSize (writeAuthority token) = token.size := by
  simp [writeAuthority, AuthorityToken.size, Nat.add_assoc]

@[simp] theorem callsSize_generationSet (generations : GenerationSet) :
    callsSize (writeGenerationSet generations) = generationSetSize := by
  simp [writeGenerationSet, generationSetSize]

@[simp] theorem callsSize_evidenceHeader (evidence : Observation) :
    callsSize (writeEvidenceHeader evidence) = headerSize := by
  simp [writeEvidenceHeader, headerSize]

@[simp] theorem callsSize_evidence {α : Type} [Inhabited α] [DecidableEq α] [Enum8 α]
    (evidence : EvidenceValue α) : callsSize (writeEvidence evidence) = evidenceSize evidence := by
  simp [writeEvidence, evidenceSize]

@[simp] theorem callsSize_quantity (quantity : Quantity) :
    callsSize (writeQuantity quantity) = quantity.size := by
  have huncertainty := @callsSize_optional _ (fun value => [f64 value]) (fun _ => 8)
    (by simp) quantity.uncertainty
  simp only [writeQuantity, Quantity.size, callsSize_append, callsSize_cons, callsSize_nil,
    length_bytes_f64, length_bytes_enum8, huncertainty, callsSize_evidenceHeader]

@[simp] theorem callsSize_capability (capability : CapabilityRef) :
    callsSize (writeCapability capability) = capability.size := by
  simp [writeCapability, CapabilityRef.size, idSize, textSize, Nat.add_assoc]

@[simp] theorem callsSize_optionalQuantity (value : Option Quantity) :
    callsSize (PayloadOp.optional writeQuantity value) = optionalSize Quantity.size value :=
  callsSize_optional callsSize_quantity value

@[simp] theorem callsSize_budget (budget : PowerDomainBudget) :
    callsSize (writeBudget budget) = budget.size := by
  simp [writeBudget, PowerDomainBudget.size, idSize, textSize, Nat.add_assoc]

@[simp] theorem callsSize_zone (zone : CoolingZoneRecord) :
    callsSize (writeZone zone) = zone.size := by
  have hthrottling := @callsSize_optional _ writeEvidence evidenceSize callsSize_evidence
    zone.throttling
  simp [writeZone, CoolingZoneRecord.size, idSize, textSize, hthrottling, Nat.add_assoc]

@[simp] theorem callsSize_optionalKey (key : Option MemberKey) :
    callsSize (PayloadOp.optional writeMemberKey key) = optionalSize MemberKey.size key :=
  callsSize_optional callsSize_memberKey key

/-! The block of the details, call by call. -/

def WriteOp.grow (limits : ResourceLimits) (size : Nat) : WriteOp → Nat
  | .u8 _ => size + 1
  | .raw bytes => taken limits size bytes.length
  | .string value =>
      if value.length ≤ limits.maxStringBytes then taken limits (taken limits size 4) value.length
      else size
  | .count value maximum =>
      if value ≤ maximum limits ∧ value < 2 ^ 32 then taken limits size 4 else size

structure ByteWriter.Under (limits : ResourceLimits) (writer : ByteWriter) : Prop where
  configured : writer.limits = limits
  bounded : writer.maxBytes = limits.maxPayloadBytes

namespace ByteWriter
variable {limits : ResourceLimits} {writer : ByteWriter}

theorem Under.fail (h : writer.Under limits) (error : CodecError) :
    (writer.fail error).Under limits ∧ (writer.fail error).buffer = writer.buffer := by
  unfold ByteWriter.fail
  cases writer.failure with
  | none => exact ⟨⟨h.configured, h.bounded⟩, rfl⟩
  | some _ => exact ⟨h, rfl⟩

theorem Under.raw (h : writer.Under limits) (bytes : Bytes) :
    (writer.raw bytes).Under limits ∧
      (writer.raw bytes).buffer.length = taken limits writer.buffer.length bytes.length := by
  have hbounded := h.bounded
  unfold ByteWriter.raw taken
  split
  · rw [(h.fail _).2, if_neg (by omega)]
    exact ⟨(h.fail _).1, rfl⟩
  · rw [if_pos (by omega)]
    exact ⟨⟨h.configured, h.bounded⟩, List.length_append⟩

theorem Under.write (h : writer.Under limits) (op : WriteOp) :
    (writer.write op).Under limits ∧
      (writer.write op).buffer.length = op.grow limits writer.buffer.length := by
  cases op with
  | u8 value => exact ⟨⟨h.configured, h.bounded⟩, by simp [ByteWriter.write, WriteOp.grow]⟩
  | raw bytes => exact h.raw bytes
  | string value =>
    simp only [ByteWriter.write, WriteOp.grow, h.configured]
    split
    · rw [(h.fail _).2, if_neg (by omega)]
      exact ⟨(h.fail _).1, rfl⟩
    · obtain ⟨hprefixed, hlength⟩ :=
        h.raw (LittleEndian.encode 4 (value.length % 2 ^ 32))
      obtain ⟨hwritten, hwhole⟩ := hprefixed.raw value
      rw [hwhole, hlength, LittleEndian.length_encode, if_pos (by omega)]
      exact ⟨hwritten, rfl⟩
  | count value maximum =>
    simp only [ByteWriter.write, WriteOp.grow, h.configured]
    split
    · rw [(h.fail _).2, if_neg (by omega)]
      exact ⟨(h.fail _).1, rfl⟩
    · obtain ⟨hwritten, hlength⟩ := h.raw (LittleEndian.encode 4 value)
      rw [hlength, LittleEndian.length_encode, if_pos (by omega)]
      exact ⟨hwritten, rfl⟩

theorem Under.length_writeAll (h : writer.Under limits) (ops : List WriteOp) :
    (writer.writeAll ops).buffer.length = ops.foldl (WriteOp.grow limits) writer.buffer.length := by
  induction ops generalizing writer with
  | nil => rfl
  | cons op ops ih =>
    obtain ⟨hwritten, hlength⟩ := h.write op
    rw [List.foldl_cons, ← hlength]
    exact ih hwritten

end ByteWriter

section Grown
variable {limits : ResourceLimits} {size : Nat}

theorem grown_text (value : Option Str) :
    (WriteOp.optionalString value).foldl (WriteOp.grow limits) size =
      (DetailField.text value).grow limits size := by
  cases value <;> rfl

theorem grown_id {tag : IdentityTag} (value : Option (StrongId tag)) :
    (WriteOp.optionalId value).foldl (WriteOp.grow limits) size =
      (DetailField.ofId value).grow limits size := by
  cases value <;> rfl

theorem grown_number {α : Type} {width : Nat} {written : α → Bytes}
    (h : ∀ value, (written value).length = width) (value : Option α) :
    (WriteOp.optional (fun value => [.raw (written value)]) value).foldl (WriteOp.grow limits)
      size = (DetailField.number width value.isSome).grow limits size := by
  cases value <;> simp [WriteOp.optional, WriteOp.grow, DetailField.grow, h]

theorem grown_u32 (value : Option UInt32) :
    (WriteOp.optionalU32 value).foldl (WriteOp.grow limits) size =
      (DetailField.number 4 value.isSome).grow limits size :=
  grown_number (fun _ => LittleEndian.length_encode ..) value

theorem grown_u64 (value : Option UInt64) :
    (WriteOp.optionalU64 value).foldl (WriteOp.grow limits) size =
      (DetailField.number 8 value.isSome).grow limits size :=
  grown_number (fun _ => LittleEndian.length_encode ..) value

theorem grown_enum {α : Type} [DecidableEq α] [Enum8 α] (value : Option α) :
    (WriteOp.optionalEnum value).foldl (WriteOp.grow limits) size =
      (DetailField.number 4 value.isSome).grow limits size :=
  grown_number (fun _ => LittleEndian.length_encode ..) value

theorem grown_quantity (value : Option Quantity) :
    (WriteOp.optional encodeQuantity value).foldl (WriteOp.grow limits) size =
      (DetailField.quantity value).grow limits size := by
  cases value with
  | none => rfl
  | some quantity =>
    cases hbound : quantity.uncertainty <;>
      simp [WriteOp.optional, encodeQuantity, WriteOp.optionalDouble, hbound, WriteOp.f64,
        WriteOp.u64, WriteOp.i64, WriteOp.timestamp, WriteOp.enum, WriteOp.boolean, WriteOp.grow,
        DetailField.grow]

/-- The writer of the details takes field by field what it has room for. -/
theorem length_detailBytes (limits : ResourceLimits) (details : MemberDetails) :
    (detailBytes limits details).length = details.blockSize limits := by
  have hunder : ({ limits := limits, maxBytes := limits.maxPayloadBytes } : ByteWriter).Under
      limits := ⟨rfl, rfl⟩
  rw [detailBytes, hunder.length_writeAll]
  cases details <;>
    simp [encodeDetails, encodeNodeDetails, encodeAcceleratorDetails, encodeCpuPackageDetails,
      encodeMemoryDomainDetails, encodeNicDetails, encodeDpuDetails, encodeSwitchDetails,
      encodeStorageEndpointDetails, encodePowerDomainDetails, encodeCoolingDomainDetails,
      MemberDetails.blockSize, MemberDetails.fields, grown_text, grown_id, grown_u32, grown_u64,
      grown_enum, grown_quantity, WriteOp.grow]

end Grown

theorem callsSize_publishMember (limits : ResourceLimits) (message : PublishMemberMessage) :
    callsSize (message.encode limits) = PayloadKind.publishMember.size limits message := by
  have hcapabilities := callsSize_many callsSize_capability message.record.capabilities
  simp only [PublishMemberMessage.encode, PayloadKind.size, MemberRecord.size, callsSize_append,
    callsSize_cons, callsSize_nil, callsSize_authority, callsSize_memberKey, callsSize_ids,
    callsSize_evidenceHeader, callsSize_optionalKey, callsSize_optionalId, callsSize_evidence,
    callsSize_optionalString, callsSize_optionalGeneration, length_bytes_enum8, generation_eq,
    length_bytes_raw, LittleEndian.length_encode, length_bytes_sized, length_detailBytes,
    boolean_eq, hcapabilities, generationSize, List.length_singleton]
  omega

theorem callsSize_publishLink (message : PublishLinkMessage) (limits : ResourceLimits) :
    callsSize message.encode = PayloadKind.publishLink.size limits message := by
  simp only [PublishLinkMessage.encode, PayloadKind.size, RelationshipRecord.size,
    callsSize_append, callsSize_cons, callsSize_nil, callsSize_authority, callsSize_memberKey,
    callsSize_evidenceHeader, callsSize_optionalId, callsSize_optionalQuantity,
    callsSize_optionalString, callsSize_optionalGeneration, length_bytes_enum8, boolean_eq,
    length_bytes_raw, List.length_singleton]
  omega

theorem callsSize_publishFailureDomain (message : PublishFailureDomainMessage)
    (limits : ResourceLimits) :
    callsSize message.encode = PayloadKind.publishFailureDomain.size limits message := by
  simp only [PublishFailureDomainMessage.encode, PayloadKind.size, FailureDomainRecord.size,
    callsSize_append, callsSize_cons, callsSize_nil, callsSize_authority, callsSize_ids,
    callsSize_evidenceHeader, callsSize_optionalString, callsSize_optionalGeneration,
    length_bytes_string, length_bytes_enum8, boolean_eq, length_bytes_raw, List.length_singleton,
    idSize, textSize]
  omega

theorem callsSize_publishPower (message : PublishPowerMessage) (limits : ResourceLimits) :
    callsSize message.encode = PayloadKind.publishPower.size limits message := by
  have hbudgets := callsSize_many callsSize_budget message.record.domainBudgets
  simp only [PublishPowerMessage.encode, PayloadKind.size, PowerEnvelopeRecord.size,
    callsSize_append, callsSize_cons, callsSize_nil, callsSize_authority,
    callsSize_optionalQuantity, callsSize_evidenceHeader, callsSize_optionalString,
    callsSize_optionalGeneration, boolean_eq, length_bytes_raw, List.length_singleton, hbudgets]
  omega

theorem callsSize_publishCooling (message : PublishCoolingMessage) (limits : ResourceLimits) :
    callsSize message.encode = PayloadKind.publishCooling.size limits message := by
  have hzones := callsSize_many callsSize_zone message.record.zones
  simp only [PublishCoolingMessage.encode, PayloadKind.size, CoolingEnvelopeRecord.size,
    callsSize_append, callsSize_cons, callsSize_nil, callsSize_authority,
    callsSize_evidenceHeader, callsSize_optionalString, callsSize_optionalGeneration,
    boolean_eq, length_bytes_raw, List.length_singleton, hzones]
  omega

/-- The encoder of every kind of message writes what its fields add up to. -/
theorem callsSize_calls (limits : ResourceLimits) (kind : PayloadKind) (message : kind.Message) :
    callsSize (kind.calls limits message) = kind.size limits message := by
  have hkeys := callsSize_many callsSize_memberKey
  cases kind with
  | publishMember => exact callsSize_publishMember limits message
  | publishLink => exact callsSize_publishLink message limits
  | publishFailureDomain => exact callsSize_publishFailureDomain message limits
  | publishPower => exact callsSize_publishPower message limits
  | publishCooling => exact callsSize_publishCooling message limits
  | hello =>
    simp [PayloadKind.calls, HelloMessage.encode, PayloadKind.size, textSize]
    omega
  | helloAck =>
    simp [PayloadKind.calls, HelloAckMessage.encode, PayloadKind.size, textSize]
    omega
  | register =>
    simp [PayloadKind.calls, RegisterMessage.encode, PayloadKind.size]
    omega
  | registerAck =>
    simp [PayloadKind.calls, RegisterAckMessage.encode, PayloadKind.size]
    omega
  | declareRack =>
    simp [PayloadKind.calls, DeclareRackMessage.encode, PayloadKind.size, idSize, textSize]
    omega
  | publishHealth =>
    simp [PayloadKind.calls, PublishHealthMessage.encode, PayloadKind.size]
    omega
  | publishCapability =>
    simp [PayloadKind.calls, PublishCapabilityMessage.encode, PayloadKind.size]
    omega
  | withdraw =>
    simp [PayloadKind.calls, WithdrawMessage.encode, PayloadKind.size]
    omega
  | retireMember =>
    simp [PayloadKind.calls, RetireMemberMessage.encode, PayloadKind.size]
    omega
  | revalidate =>
    simp [PayloadKind.calls, RevalidateMessage.encode, PayloadKind.size, hkeys]
    omega
  | heartbeat =>
    simp [PayloadKind.calls, HeartbeatMessage.encode, PayloadKind.size]
  | query =>
    simp [PayloadKind.calls, QueryMessage.encode, PayloadKind.size]
    omega
  | snapshotRequest =>
    simp [PayloadKind.calls, SnapshotRequestMessage.encode, PayloadKind.size]
  | result =>
    simp [PayloadKind.calls, ResultMessage.encode, PayloadKind.size, textSize]
    omega
  | error =>
    simp [PayloadKind.calls, ErrorMessage.encode, PayloadKind.size, textSize]

/-! What is promised of a payload. -/

namespace PayloadKind
variable {limits : ResourceLimits} {kind : PayloadKind} {message : kind.Message}

/-- A payload that the codec produces is within the bound, and is framed when the frame
has room for it. -/
def Bounded (limits : ResourceLimits) (kind : PayloadKind) (message : kind.Message) : Prop :=
  ∀ payload, kind.encode limits message = some payload →
    payload.length ≤ limits.maxPayloadBytes ∧
      ∀ frame : Frame, frame.payload = payload →
        kFrameOverheadBytes + payload.length ≤ limits.maxFrameBytes →
          ∃ bytes, encodeFrame frame limits = some bytes

theorem length_of_encode {payload : Bytes} (h : kind.encode limits message = some payload) :
    (∀ call ∈ kind.calls limits message, call.Fits limits) ∧
      payload.length = kind.size limits message := by
  have hfits : ∀ call ∈ kind.calls limits message, call.Fits limits := by
    by_contra hfits
    have hnone : kind.encode limits message = none := PayloadWriter.encode_of_not_fits hfits
    simp [hnone] at h
  have hpayload : kind.encode limits message = some _ := PayloadWriter.encode_of_fits hfits
  rw [h] at hpayload
  refine ⟨hfits, ?_⟩
  rw [Option.some.inj hpayload, ← callsSize_calls]
  rfl

theorem bounded_of_size (h : kind.size limits message ≤ limits.maxPayloadBytes) :
    kind.Bounded limits message := by
  intro payload hencoded
  obtain ⟨-, hlength⟩ := length_of_encode hencoded
  have hbound : payload.length ≤ limits.maxPayloadBytes := by
    rw [hlength]
    exact h
  refine ⟨hbound, fun frame hframe hroom => ⟨frameBytes frame, ?_⟩⟩
  exact encodeFrame_eq_some_iff.mpr ⟨by rw [hframe]; exact hbound, by rw [hframe]; exact hroom, rfl⟩

theorem size_of_bounded (hfits : ∀ call ∈ kind.calls limits message, call.Fits limits)
    (h : kind.Bounded limits message) : kind.size limits message ≤ limits.maxPayloadBytes := by
  have hencoded : kind.encode limits message = some _ := PayloadWriter.encode_of_fits hfits
  rw [← (length_of_encode hencoded).2]
  exact (h _ hencoded).1

/-- The payload of a message is bounded exactly when its fields add up to no more than
the bound, or one of its texts or counts has no place in a payload. -/
theorem payload_bounded_iff (limits : ResourceLimits) (kind : PayloadKind) (message : kind.Message) :
    kind.Bounded limits message ↔ kind.size limits message ≤ limits.maxPayloadBytes ∨
      ∃ call ∈ kind.calls limits message, ¬ call.Fits limits := by
  constructor
  · intro h
    by_cases hfits : ∀ call ∈ kind.calls limits message, call.Fits limits
    · exact Or.inl (size_of_bounded hfits h)
    · right
      push Not at hfits
      exact hfits
  · rintro (hsize | ⟨call, hmem, hunfit⟩)
    · exact bounded_of_size hsize
    · intro payload hencoded
      exact absurd ((length_of_encode hencoded).1 call hmem) hunfit

end PayloadKind

/-! The most that calls can take when every text and every count fits. -/

def AtMost (limits : ResourceLimits) (bound : Nat) (calls : List PayloadOp) : Prop :=
  (∀ call ∈ calls, call.Fits limits) → callsSize calls ≤ bound

namespace AtMost
variable {limits : ResourceLimits} {bound other : Nat} {first second : List PayloadOp}

theorem append (hfirst : AtMost limits bound first) (hsecond : AtMost limits other second) :
    AtMost limits (bound + other) (first ++ second) := by
  intro hfits
  obtain ⟨hbefore, hafter⟩ := List.forall_mem_append.mp hfits
  rw [callsSize_append]
  exact Nat.add_le_add (hfirst hbefore) (hsecond hafter)

/-- Calls whose size is known need no limit. -/
theorem exact (h : callsSize first ≤ bound) : AtMost limits bound first := fun _ => h

theorem text (value : Str) : AtMost limits (4 + limits.maxStringBytes) [string value] := by
  intro hfits
  have hvalue : value.length ≤ limits.maxStringBytes := hfits _ List.mem_cons_self
  simp only [callsSize_cons, callsSize_nil, length_bytes_string]
  omega

theorem id {tag : IdentityTag} (id : StrongId tag) : AtMost limits 132 [string id.value] := by
  have hvalue : id.value.length ≤ 128 := id.length_value_le
  apply AtMost.exact
  simp only [callsSize_cons, callsSize_nil, length_bytes_string]
  omega

theorem optional {α : Type} {write : α → List PayloadOp}
    (h : ∀ value, AtMost limits bound (write value)) (value : Option α) :
    AtMost limits (1 + bound) (PayloadOp.optional write value) := by
  cases value with
  | none => exact AtMost.exact (by simp [PayloadOp.optional])
  | some value =>
    have hpresent : AtMost limits 1 [u8 1] := AtMost.exact (by simp)
    exact hpresent.append (h value)

theorem optionalText (value : Option Str) :
    AtMost limits (1 + (4 + limits.maxStringBytes)) (optionalString value) := by
  cases value with
  | none => exact AtMost.exact (by simp [optionalString])
  | some value =>
    have hpresent : AtMost limits 1 [u8 1] := AtMost.exact (by simp)
    exact hpresent.append (text value)

theorem optionalId {tag : IdentityTag} (value : Option (StrongId tag)) :
    AtMost limits 133 (PayloadOp.optionalId value) := by
  cases value with
  | none => exact AtMost.exact (by simp [optionalSize])
  | some value =>
    have hpresent : AtMost limits 1 [u8 1] := AtMost.exact (by simp)
    exact hpresent.append (id value)

theorem optionalGeneration {tag : GenerationTag} (value : Option (Generation tag)) :
    AtMost limits 9 (PayloadOp.optionalGeneration value) := by
  apply AtMost.exact
  cases value <;> simp [optionalSize, generationSize]

theorem many {α : Type} {write : α → List PayloadOp}
    (h : ∀ value, AtMost limits bound (write value)) (values : List α) :
    AtMost limits (4 + limits.maxCollectionItems * bound) (PayloadOp.many write values) := by
  intro hfits
  obtain ⟨hcount, helements⟩ := List.forall_mem_cons.mp hfits
  have hsum : callsSize (values.flatMap write) ≤ values.length * bound := by
    clear hfits hcount
    induction values with
    | nil => simp
    | cons value values ih =>
      rw [List.flatMap_cons] at helements ⊢
      obtain ⟨hvalue, hvalues⟩ := List.forall_mem_append.mp helements
      rw [callsSize_append, List.length_cons, Nat.succ_mul]
      have hfirst := h value hvalue
      have hrest := ih hvalues
      omega
  have hitems : values.length * bound ≤ limits.maxCollectionItems * bound :=
    Nat.mul_le_mul_right bound hcount
  rw [PayloadOp.many, callsSize_cons, length_bytes_collectionSize]
  omega

theorem memberKey (key : MemberKey) :
    AtMost limits (1 + (4 + limits.maxStringBytes)) (writeMemberKey key) := by
  have hkind : AtMost limits 1 [enum8 key.kind] := AtMost.exact (by simp)
  exact hkind.append (text key.id)

theorem authority (token : AuthorityToken) : AtMost limits 283 (writeAuthority token) := by
  have hepoch : AtMost limits 8 [generation token.coordinatorEpoch] := AtMost.exact (by simp)
  exact hepoch.append
    (((optionalId token.boot).append (optionalGeneration token.publicationGeneration)).append
      (optionalId token.rack))

theorem quantity (quantity : Quantity) : AtMost limits 36 (writeQuantity quantity) := by
  apply AtMost.exact
  rw [callsSize_quantity, Quantity.size, headerSize]
  cases quantity.uncertainty <;> simp [optionalSize]

theorem capability (capability : CapabilityRef) :
    AtMost limits (132 + (18 + (1 + (4 + limits.maxStringBytes))))
      (writeCapability capability) := by
  have hheader : AtMost limits 18 (writeEvidenceHeader capability.toObservation) :=
    AtMost.exact (by simp [headerSize])
  exact (id capability.id).append (hheader.append (optionalText capability.value))

theorem budget (budget : PowerDomainBudget) : AtMost limits 206 (writeBudget budget) :=
  (id budget.domain).append ((optional quantity budget.limit).append
    (optional quantity budget.observedDraw))

end AtMost

/-! Under the default limits three kinds of message can grow too large, and no other. -/

/-- The kinds whose lists outgrow the bound before they reach their own limits. -/
def PayloadKind.Unbounded (kind : PayloadKind) : Prop :=
  kind = .publishMember ∨ kind = .publishCooling ∨ kind = .revalidate

theorem atMost_default {kind : PayloadKind} (hkind : ¬ kind.Unbounded) (message : kind.Message) :
    ∃ bound ≤ ({} : ResourceLimits).maxPayloadBytes,
      AtMost {} bound (kind.calls {} message) := by
  have known {calls : List PayloadOp} {size : Nat} (h : callsSize calls ≤ size) :
      AtMost {} size calls := AtMost.exact h
  cases kind with
  | publishMember => exact absurd (Or.inl rfl) hkind
  | publishCooling => exact absurd (Or.inr (Or.inl rfl)) hkind
  | revalidate => exact absurd (Or.inr (Or.inr rfl)) hkind
  | hello =>
    have hnumbers : AtMost {} 10
        [u16 message.protocolVersion, generation message.coordinatorEpoch] := known (by simp)
    exact ⟨_, by decide, hnumbers.append (.text message.agentVersion)⟩
  | helloAck =>
    have hnumbers : AtMost {} 10
        [u16 message.protocolVersion, generation message.coordinatorEpoch] := known (by simp)
    have hflag : AtMost {} 1 [boolean message.acceptsMutations] := known (by simp)
    exact ⟨_, by decide, ((hnumbers.append (.text message.coordinatorVersion)).append
      (.optionalId message.rack)).append hflag⟩
  | register =>
    have hepoch : AtMost {} 8 [generation message.coordinatorEpoch] := known (by simp)
    exact ⟨_, by decide, ((((AtMost.optionalId message.rack).append
      (.optionalId message.worker)).append (.optionalId message.boot)).append hepoch).append
      (.optionalText message.label)⟩
  | registerAck =>
    refine ⟨97, by decide, known ?_⟩
    simp [PayloadKind.calls, RegisterAckMessage.encode, generationSetSize]
  | declareRack =>
    have hflag : AtMost {} 1 [boolean message.redeclare] := known (by simp)
    exact ⟨_, by decide, (((AtMost.authority message.authority).append (.id message.epoch)).append
      (.optionalText message.label)).append hflag⟩
  | publishLink =>
    have hclass : AtMost {} 1 [enum8 message.record.key.cls] := known (by simp)
    have hheader : AtMost {} 18 (writeEvidenceHeader message.record.toObservation) :=
      known (by simp [headerSize])
    have hflag : AtMost {} 1 [boolean message.supersede] := known (by simp)
    exact ⟨_, by decide, (((((((((AtMost.authority message.authority).append hclass).append
      (.memberKey message.record.key.source)).append (.memberKey message.record.key.target)).append
      hheader).append (.optionalId message.record.link)).append
      (.optional .quantity message.record.capacity)).append
      (.optionalText message.record.source)).append
      (.optionalGeneration message.expectedGeneration)).append hflag⟩
  | publishFailureDomain =>
    have hkinds : AtMost {} 134 [string message.record.id.value, enum8 message.record.kind,
        enum8 message.record.lifecycle] :=
      (AtMost.id message.record.id).append (@known [_, _] 2 (by simp))
    have hheader : AtMost {} 18 (writeEvidenceHeader message.record.toObservation) :=
      known (by simp [headerSize])
    have hflag : AtMost {} 1 [boolean message.supersede] := known (by simp)
    exact ⟨_, by decide, (((((((AtMost.authority message.authority).append hkinds).append
      (.many .id message.record.parents)).append hheader).append
      (.optionalText message.record.label)).append (.optionalText message.record.source)).append
      (.optionalGeneration message.expectedGeneration)).append hflag⟩
  | publishPower =>
    have hheader : AtMost {} 18 (writeEvidenceHeader message.record.toObservation) :=
      known (by simp [headerSize])
    have hflag : AtMost {} 1 [boolean message.supersede] := known (by simp)
    exact ⟨_, by decide, (((((((AtMost.authority message.authority).append
      (.optional .quantity message.record.rackLimit)).append
      (.optional .quantity message.record.rackObservedDraw)).append
      (.many .budget message.record.domainBudgets)).append hheader).append
      (.optionalText message.record.source)).append
      (.optionalGeneration message.expectedGeneration)).append hflag⟩
  | publishHealth =>
    have hhealth : AtMost {} 19 (writeEvidence message.health) :=
      known (by simp [evidenceSize, headerSize])
    have hreadiness : AtMost {} 19 (writeEvidence message.readiness) :=
      known (by simp [evidenceSize, headerSize])
    have hflag : AtMost {} 1 [boolean message.publishReadiness] := known (by simp)
    exact ⟨_, by decide, (((((AtMost.authority message.authority).append
      (.memberKey message.member)).append hhealth).append hflag).append hreadiness).append
      (.optionalGeneration message.expectedGeneration)⟩
  | publishCapability =>
    exact ⟨_, by decide, (((AtMost.authority message.authority).append
      (.memberKey message.member)).append (.capability message.capability)).append
      (.optionalGeneration message.expectedGeneration)⟩
  | withdraw =>
    have hscope : AtMost {} 1 [enum8 message.scope] := known (by simp)
    exact ⟨_, by decide, (((AtMost.authority message.authority).append
      (.memberKey message.member)).append hscope).append
      (.optionalGeneration message.expectedGeneration)⟩
  | retireMember =>
    exact ⟨_, by decide, ((AtMost.authority message.authority).append
      (.memberKey message.member)).append (.optionalGeneration message.expectedGeneration)⟩
  | heartbeat =>
    have hgeneration : AtMost {} 8 [generation message.publicationGeneration] := known (by simp)
    exact ⟨_, by decide, (AtMost.authority message.authority).append hgeneration⟩
  | query =>
    have hquery : AtMost {} 2 [u16 message.queryKind] := known (by simp)
    exact ⟨_, by decide, (hquery.append (.optional .memberKey message.member)).append
      (.optionalId message.failureDomain)⟩
  | snapshotRequest =>
    have hflag : AtMost {} 1 [boolean message.create] := known (by simp)
    exact ⟨_, by decide, (AtMost.authority message.authority).append hflag⟩
  | result =>
    have hverdict : AtMost {} 3 [boolean message.accepted, enum16 message.outcome] :=
      known (by simp)
    have hgenerations : AtMost {} 80 (writeGenerationSet message.generations) :=
      known (by simp [generationSetSize])
    exact ⟨_, by decide, (hverdict.append hgenerations).append
      ((AtMost.text message.code).append (.text message.detail))⟩
  | error =>
    have herror : AtMost {} 2 [enum16 message.error] := known (by simp)
    exact ⟨_, by decide, herror.append (.text message.detail)⟩

namespace Scenario
open PayloadKind

def wordyCapability : CapabilityRef where
  id := StrongId.ofText (str "c")
  value := some (List.replicate 256 0x78)

def wordyPublication : PublishMemberMessage where
  record := { key := { id := str "n1" }, capabilities := List.replicate 4096 wordyCapability }

/-- The key of a member is a text of its own, and need not be an identity to be sent. -/
def wordyKey : MemberKey where
  id := List.replicate 256 0x78

def wordyRevalidation : RevalidateMessage where
  members := List.replicate 4096 wordyKey

def fullZone : CoolingZoneRecord where
  zone := StrongId.ofText (List.replicate 128 0x78)
  designThermalLimit := some { uncertainty := some {} }
  observedTemperature := some { uncertainty := some {} }
  coolingCapacity := some { uncertainty := some {} }
  throttling := some {}

def fullCooling : PublishCoolingMessage where
  record := { zones := List.replicate 4096 fullZone }

theorem listSize_replicate {α : Type} (size : α → Nat) (count : Nat) (value : α) :
    listSize size (List.replicate count value) = 4 + count * size value := by
  rw [listSize, List.map_replicate]
  congr 1
  induction count with
  | zero => simp
  | succ count ih => rw [List.replicate_succ, List.sum_cons, ih, Nat.succ_mul, Nat.add_comm]

theorem many_fits {α : Type} {limits : ResourceLimits} {write : α → List PayloadOp} {count : Nat}
    {value : α} (hcount : count ≤ limits.maxCollectionItems)
    (h : ∀ call ∈ write value, call.Fits limits) :
    ∀ call ∈ PayloadOp.many write (List.replicate count value), call.Fits limits := by
  intro call hcall
  rcases List.mem_cons.mp hcall with rfl | hcall
  · change (List.replicate count value).length ≤ _
    rwa [List.length_replicate]
  · obtain ⟨element, helement, hcall⟩ := List.mem_flatMap.mp hcall
    rw [List.eq_of_mem_replicate helement] at hcall
    exact h call hcall

theorem wordyPublication_fits :
    ∀ call ∈ publishMember.calls {} wordyPublication, call.Fits {} := by
  have hcapabilities : ∀ call ∈ PayloadOp.many writeCapability
      (List.replicate 4096 wordyCapability), call.Fits {} :=
    many_fits (by decide) (by decide +kernel)
  simp only [PayloadKind.calls, PublishMemberMessage.encode, List.forall_mem_append]
  refine ⟨⟨⟨⟨⟨⟨⟨?_, hcapabilities⟩, ?_⟩, ?_⟩, ?_⟩, ?_⟩, ?_⟩, ?_⟩ <;> decide +kernel

theorem wordyPublication_size :
    ({} : ResourceLimits).maxPayloadBytes < publishMember.size {} wordyPublication := by
  have hcapabilities : listSize CapabilityRef.size wordyPublication.record.capabilities =
      4 + 4096 * wordyCapability.size := listSize_replicate _ _ _
  have hcapability : wordyCapability.size = 284 := by decide +kernel
  simp only [PayloadKind.size, MemberRecord.size, hcapabilities, hcapability]
  omega

theorem wordyRevalidation_fits :
    ∀ call ∈ revalidate.calls {} wordyRevalidation, call.Fits {} := by
  have hkeys : ∀ call ∈ PayloadOp.many writeMemberKey wordyRevalidation.members, call.Fits {} :=
    many_fits (by decide) (by decide +kernel)
  simp only [PayloadKind.calls, RevalidateMessage.encode, List.forall_mem_append]
  exact ⟨by decide, hkeys⟩

theorem wordyRevalidation_size :
    ({} : ResourceLimits).maxPayloadBytes < revalidate.size {} wordyRevalidation := by
  have hkeys : listSize MemberKey.size wordyRevalidation.members = 4 + 4096 * wordyKey.size :=
    listSize_replicate _ _ _
  have hkey : wordyKey.size = 261 := by decide +kernel
  simp only [PayloadKind.size, hkeys, hkey]
  omega

theorem fullCooling_fits : ∀ call ∈ publishCooling.calls {} fullCooling, call.Fits {} := by
  have hzones : ∀ call ∈ PayloadOp.many writeZone fullCooling.record.zones, call.Fits {} :=
    many_fits (by decide) (by decide +kernel)
  simp only [PayloadKind.calls, PublishCoolingMessage.encode, List.forall_mem_append]
  refine ⟨⟨⟨⟨⟨?_, hzones⟩, ?_⟩, ?_⟩, ?_⟩, ?_⟩ <;> decide

theorem fullCooling_size :
    ({} : ResourceLimits).maxPayloadBytes < publishCooling.size {} fullCooling := by
  have hzones : listSize CoolingZoneRecord.size fullCooling.record.zones =
      4 + 4096 * fullZone.size := listSize_replicate _ _ _
  have hzone : fullZone.size = 263 := by decide +kernel
  simp only [PayloadKind.size, CoolingEnvelopeRecord.size, hzones, hzone]
  omega

/-- A publication of 4096 capabilities with long values is encoded, and is too large. -/
theorem wordyPublication_unbounded : ¬ ∀ payload,
    publishMember.encode {} wordyPublication = some payload →
      payload.length ≤ ({} : ResourceLimits).maxPayloadBytes := by
  intro h
  have hencoded : publishMember.encode {} wordyPublication = some _ :=
    PayloadWriter.encode_of_fits wordyPublication_fits
  have hbound := h _ hencoded
  rw [(length_of_encode hencoded).2] at hbound
  exact absurd hbound (Nat.not_le.mpr wordyPublication_size)

end Scenario

/-- Under the default limits the bound holds of every message of the other kinds, and of
those kinds it does not. -/
theorem default_bounded_iff (kind : PayloadKind) :
    (∀ message, kind.Bounded {} message) ↔ ¬ kind.Unbounded := by
  constructor
  · rintro h (rfl | rfl | rfl)
    · exact absurd (PayloadKind.size_of_bounded Scenario.wordyPublication_fits (h _))
        (Nat.not_le.mpr Scenario.wordyPublication_size)
    · exact absurd (PayloadKind.size_of_bounded Scenario.fullCooling_fits (h _))
        (Nat.not_le.mpr Scenario.fullCooling_size)
    · exact absurd (PayloadKind.size_of_bounded Scenario.wordyRevalidation_fits (h _))
        (Nat.not_le.mpr Scenario.wordyRevalidation_size)
  · intro hkind message payload hencoded
    obtain ⟨hfits, hlength⟩ := PayloadKind.length_of_encode hencoded
    obtain ⟨bound, hbound, hatMost⟩ := atMost_default hkind message
    have hsize := hatMost hfits
    rw [callsSize_calls] at hsize
    exact PayloadKind.bounded_of_size (Nat.le_trans hsize hbound) payload hencoded

end RackFabric
