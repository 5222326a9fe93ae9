import RackFabric.Properties.Records

/-! The codecs of the records round trip exactly for the records whose texts have lengths
that fit their four-byte prefix. -/
namespace RackFabric
open Enumeration ByteReader WriteOp

def WriteOp.Narrow : WriteOp → Prop
  | .string value => value.length < 2 ^ 32
  | _ => True

def NarrowTexts (ops : List WriteOp) : Prop :=
  ∀ op ∈ ops, op.Narrow

section Texts
variable {α : Type} {write : α → List WriteOp}

@[simp] theorem narrowTexts_nil : NarrowTexts [] := by simp [NarrowTexts]

@[simp] theorem narrowTexts_cons {op : WriteOp} {ops : List WriteOp} :
    NarrowTexts (op :: ops) ↔ op.Narrow ∧ NarrowTexts ops :=
  List.forall_mem_cons

@[simp] theorem narrowTexts_append {ops rest : List WriteOp} :
    NarrowTexts (ops ++ rest) ↔ NarrowTexts ops ∧ NarrowTexts rest :=
  List.forall_mem_append

@[simp] theorem WriteOp.narrow_string {value : Str} :
    (WriteOp.string value).Narrow ↔ value.length < 2 ^ 32 := Iff.rfl

@[simp] theorem WriteOp.narrow_u8 (value : UInt8) : (WriteOp.u8 value).Narrow := trivial

@[simp] theorem WriteOp.narrow_raw (bytes : Bytes) : (WriteOp.raw bytes).Narrow := trivial

@[simp] theorem WriteOp.narrow_count (value : Nat) (maximum : ResourceLimits → Nat) :
    (WriteOp.count value maximum).Narrow := trivial

@[simp] theorem WriteOp.narrow_id {tag : IdentityTag} (id : StrongId tag) :
    (WriteOp.string id.value).Narrow := by
  have hlength := id.length_value_le
  simp only [WriteOp.narrow_string, kMaxIdentityLength] at hlength ⊢
  omega

@[simp] theorem narrowTexts_optional {value : Option α} :
    NarrowTexts (WriteOp.optional write value) ↔ ∀ found ∈ value, NarrowTexts (write found) := by
  cases value <;> simp [WriteOp.optional]

@[simp] theorem narrowTexts_many {maximum : ResourceLimits → Nat} {values : List α} :
    NarrowTexts (WriteOp.many maximum write values) ↔
      ∀ value ∈ values, NarrowTexts (write value) := by
  simp only [WriteOp.many, narrowTexts_cons, WriteOp.narrow_count, true_and]
  induction values with
  | nil => simp
  | cons value values ih => simp [ih]

@[simp] theorem narrowTexts_optionalString {value : Option Str} :
    NarrowTexts (WriteOp.optionalString value) ↔ TextDecodable value := by
  simp [WriteOp.optionalString, TextDecodable]

@[simp] theorem narrowTexts_optionalId {tag : IdentityTag} (value : Option (StrongId tag)) :
    NarrowTexts (WriteOp.optionalId value) := by
  rw [WriteOp.optionalId, narrowTexts_optional]
  exact fun found _ => narrowTexts_cons.mpr ⟨WriteOp.narrow_id found, narrowTexts_nil⟩

@[simp] theorem narrowTexts_optionalU32 (value : Option UInt32) :
    NarrowTexts (WriteOp.optionalU32 value) := by
  simp [WriteOp.optionalU32, WriteOp.u32]

@[simp] theorem narrowTexts_optionalU64 (value : Option UInt64) :
    NarrowTexts (WriteOp.optionalU64 value) := by
  simp [WriteOp.optionalU64, WriteOp.u64]

@[simp] theorem narrowTexts_optionalEnum [DecidableEq α] [Enum8 α] (value : Option α) :
    NarrowTexts (WriteOp.optionalEnum value) := by
  simp [WriteOp.optionalEnum, WriteOp.u32]

@[simp] theorem narrowTexts_observation (evidence : Observation) :
    NarrowTexts (encodeObservation evidence) := by
  simp [encodeObservation, WriteOp.enum, WriteOp.timestamp, WriteOp.i64, WriteOp.u64,
    WriteOp.boolean]

@[simp] theorem narrowTexts_quantity (quantity : Quantity) :
    NarrowTexts (encodeQuantity quantity) := by
  simp [encodeQuantity, WriteOp.optionalDouble, WriteOp.f64, WriteOp.enum, WriteOp.timestamp,
    WriteOp.i64, WriteOp.u64, WriteOp.boolean]

@[simp] theorem narrowTexts_evidence [Inhabited α] [DecidableEq α] [Enum8 α]
    (evidence : EvidenceValue α) : NarrowTexts (encodeEvidence evidence) := by
  simp [encodeEvidence]

/-- A valid identity is short. -/
theorem narrowTexts_memberKey {key : MemberKey} (h : key.Decodable) :
    NarrowTexts (encodeMemberKey key) := by
  have hshort := length_le_of_validateIdentity h
  simp only [kMaxIdentityLength] at hshort
  simp only [encodeMemberKey, WriteOp.enum, narrowTexts_cons, WriteOp.narrow_u8,
    WriteOp.narrow_string, narrowTexts_nil, and_true, true_and]
  omega

end Texts

/-! The records with valid identities and lifetimes, whatever their texts are. -/

def MemberDetails.Legal : MemberDetails → Prop
  | .node details => IdDecodable details.worker ∧ IdDecodable details.boot
  | .memoryDomain details => QuantityDecodable details.bandwidth
  | .nic details => QuantityDecodable details.linkSpeed
  | .switch details => QuantityDecodable details.linkSpeed
  | _ => True

structure CapabilityRef.Legal (capability : CapabilityRef) : Prop where
  id : capability.id.isSet = true
  observation : capability.toObservation.Decodable

structure MemberRecord.Legal (record : MemberRecord) : Prop where
  key : record.key.Decodable
  observation : record.toObservation.Decodable
  ownerWorker : IdDecodable record.ownerWorker
  ownerBoot : IdDecodable record.ownerBoot
  parent : ∀ key ∈ record.parent, key.Decodable
  failureDomains : ∀ domain ∈ record.failureDomains, domain.isSet = true
  powerDomain : IdDecodable record.powerDomain
  coolingDomain : IdDecodable record.coolingDomain
  switchDomain : IdDecodable record.switchDomain
  health : record.health.toObservation.Decodable
  readiness : record.readiness.toObservation.Decodable
  reachability : record.reachability.toObservation.Decodable
  capabilities : ∀ capability ∈ record.capabilities, capability.Legal
  details : record.details.Legal

structure RelationshipRecord.Legal (record : RelationshipRecord) : Prop where
  source : record.key.source.Decodable
  target : record.key.target.Decodable
  observation : record.toObservation.Decodable
  ownerWorker : IdDecodable record.ownerWorker
  ownerBoot : IdDecodable record.ownerBoot
  link : IdDecodable record.link
  capacity : QuantityDecodable record.capacity

structure FailureDomainRecord.Legal (record : FailureDomainRecord) : Prop where
  id : record.id.isSet = true
  parents : ∀ parent ∈ record.parents, parent.isSet = true
  observation : record.toObservation.Decodable
  ownerWorker : IdDecodable record.ownerWorker
  ownerBoot : IdDecodable record.ownerBoot

structure PowerEnvelopeRecord.Legal (record : PowerEnvelopeRecord) : Prop where
  rackLimit : QuantityDecodable record.rackLimit
  rackObservedDraw : QuantityDecodable record.rackObservedDraw
  rackHeadroom : QuantityDecodable record.rackHeadroom
  domainBudgets : ∀ budget ∈ record.domainBudgets, budget.Decodable
  observation : record.toObservation.Decodable
  ownerWorker : IdDecodable record.ownerWorker
  ownerBoot : IdDecodable record.ownerBoot

structure CoolingEnvelopeRecord.Legal (record : CoolingEnvelopeRecord) : Prop where
  zones : ∀ zone ∈ record.zones, zone.Decodable
  observation : record.toObservation.Decodable
  ownerWorker : IdDecodable record.ownerWorker
  ownerBoot : IdDecodable record.ownerBoot

/-! A record is read back when it is legal and its texts are narrow. -/

theorem MemberDetails.decodable_iff (details : MemberDetails) :
    details.Decodable ↔ details.Legal ∧ NarrowTexts (encodeDetails details) := by
  cases details with
  | monostate => simp [MemberDetails.Decodable, MemberDetails.Legal, encodeDetails]
  | node details =>
    have htexts : NarrowTexts (encodeDetails (.node details)) ↔
        TextDecodable details.hostName ∧ TextDecodable details.operatingSystem := by
      simp [encodeDetails, encodeNodeDetails]
    rw [htexts]
    constructor
    · exact fun h => ⟨⟨h.worker, h.boot⟩, h.hostName, h.operatingSystem⟩
    · rintro ⟨⟨worker, boot⟩, hostName, operatingSystem⟩
      exact ⟨hostName, operatingSystem, worker, boot⟩
  | accelerator details =>
    have htexts : NarrowTexts (encodeDetails (.accelerator details)) ↔
        TextDecodable details.vendor ∧ TextDecodable details.model ∧
          TextDecodable details.architecture ∧ TextDecodable details.uuid ∧
          TextDecodable details.driverVersion ∧ TextDecodable details.pciAddress ∧
          TextDecodable details.interconnect := by
      simp [encodeDetails, encodeAcceleratorDetails]
    rw [htexts]
    constructor
    · exact fun h => ⟨trivial, h.vendor, h.model, h.architecture, h.uuid, h.driverVersion,
        h.pciAddress, h.interconnect⟩
    · rintro ⟨-, vendor, model, architecture, uuid, driverVersion, pciAddress, interconnect⟩
      exact ⟨vendor, model, architecture, uuid, driverVersion, pciAddress, interconnect⟩
  | cpuPackage details =>
    have htexts : NarrowTexts (encodeDetails (.cpuPackage details)) ↔
        TextDecodable details.vendor ∧ TextDecodable details.model := by
      simp [encodeDetails, encodeCpuPackageDetails]
    rw [htexts]
    constructor
    · exact fun h => ⟨trivial, h.vendor, h.model⟩
    · rintro ⟨-, vendor, model⟩
      exact ⟨vendor, model⟩
  | memoryDomain details =>
    have htexts : NarrowTexts (encodeDetails (.memoryDomain details)) ↔ True := by
      simp [encodeDetails, encodeMemoryDomainDetails]
    rw [htexts]
    constructor
    · exact fun h => ⟨h.bandwidth, trivial⟩
    · rintro ⟨bandwidth, -⟩
      exact ⟨bandwidth⟩
  | nic details =>
    have htexts : NarrowTexts (encodeDetails (.nic details)) ↔
        TextDecodable details.vendor ∧ TextDecodable details.model ∧
          TextDecodable details.pciAddress ∧ TextDecodable details.macAddress := by
      simp [encodeDetails, encodeNicDetails]
    rw [htexts]
    constructor
    · exact fun h => ⟨h.linkSpeed, h.vendor, h.model, h.pciAddress, h.macAddress⟩
    · rintro ⟨linkSpeed, vendor, model, pciAddress, macAddress⟩
      exact ⟨vendor, model, pciAddress, linkSpeed, macAddress⟩
  | dpu details =>
    have htexts : NarrowTexts (encodeDetails (.dpu details)) ↔
        TextDecodable details.vendor ∧ TextDecodable details.model ∧
          TextDecodable details.firmwareVersion ∧ TextDecodable details.pciAddress := by
      simp [encodeDetails, encodeDpuDetails]
    rw [htexts]
    constructor
    · exact fun h => ⟨trivial, h.vendor, h.model, h.firmwareVersion, h.pciAddress⟩
    · rintro ⟨-, vendor, model, firmwareVersion, pciAddress⟩
      exact ⟨vendor, model, firmwareVersion, pciAddress⟩
  | switch details =>
    have htexts : NarrowTexts (encodeDetails (.switch details)) ↔
        TextDecodable details.vendor ∧ TextDecodable details.model := by
      simp [encodeDetails, encodeSwitchDetails]
    rw [htexts]
    constructor
    · exact fun h => ⟨h.linkSpeed, h.vendor, h.model⟩
    · rintro ⟨linkSpeed, vendor, model⟩
      exact ⟨vendor, model, linkSpeed⟩
  | storageEndpoint details =>
    have htexts : NarrowTexts (encodeDetails (.storageEndpoint details)) ↔
        TextDecodable details.model ∧ TextDecodable details.interfaceName := by
      simp [encodeDetails, encodeStorageEndpointDetails]
    rw [htexts]
    constructor
    · exact fun h => ⟨trivial, h.model, h.interfaceName⟩
    · rintro ⟨-, model, interfaceName⟩
      exact ⟨model, interfaceName⟩
  | powerDomain details =>
    have htexts : NarrowTexts (encodeDetails (.powerDomain details)) ↔
        TextDecodable details.label := by
      simp [encodeDetails, encodePowerDomainDetails]
    rw [htexts]
    constructor
    · exact fun h => ⟨trivial, h.label⟩
    · rintro ⟨-, label⟩
      exact ⟨label⟩
  | coolingDomain details =>
    have htexts : NarrowTexts (encodeDetails (.coolingDomain details)) ↔
        TextDecodable details.label := by
      simp [encodeDetails, encodeCoolingDomainDetails]
    rw [htexts]
    constructor
    · exact fun h => ⟨trivial, h.label⟩
    · rintro ⟨-, label⟩
      exact ⟨label⟩

theorem CapabilityRef.decodable_iff (capability : CapabilityRef) :
    capability.Decodable ↔ capability.Legal ∧ NarrowTexts (encodeCapability capability) := by
  have htexts : NarrowTexts (encodeCapability capability) ↔ TextDecodable capability.value := by
    simp only [encodeCapability, narrowTexts_cons, WriteOp.narrow_id, narrowTexts_append,
      narrowTexts_observation, narrowTexts_optionalString, true_and]
  rw [htexts]
  constructor
  · exact fun h => ⟨⟨h.id, h.observation⟩, h.value⟩
  · rintro ⟨legal, value⟩
    exact ⟨legal.id, legal.observation, value⟩

theorem narrowTexts_member {record : MemberRecord} (h : record.Legal) :
    NarrowTexts (encodeMember record) ↔
      (∀ capability ∈ record.capabilities, NarrowTexts (encodeCapability capability)) ∧
        NarrowTexts (encodeDetails record.details) ∧ TextDecodable record.source := by
  have hkey := narrowTexts_memberKey h.key
  have hparent : ∀ key ∈ record.parent, NarrowTexts (encodeMemberKey key) :=
    fun key hmem => narrowTexts_memberKey (h.parent key hmem)
  simp only [encodeMember, narrowTexts_append, narrowTexts_cons, narrowTexts_nil,
    narrowTexts_optional, narrowTexts_many, WriteOp.narrow_id, narrowTexts_optionalId,
    narrowTexts_observation, narrowTexts_evidence, narrowTexts_optionalString, WriteOp.enum,
    WriteOp.generation, WriteOp.u64, WriteOp.narrow_u8, WriteOp.narrow_raw, hkey, implies_true,
    and_true, true_and, and_assoc]
  exact and_iff_right hparent

theorem MemberRecord.decodable_iff (record : MemberRecord) :
    record.Decodable ↔ record.Legal ∧ NarrowTexts (encodeMember record) := by
  constructor
  · intro h
    have hlegal : record.Legal :=
      { key := h.key, observation := h.observation, ownerWorker := h.ownerWorker
        ownerBoot := h.ownerBoot, parent := h.parent, failureDomains := h.failureDomains
        powerDomain := h.powerDomain, coolingDomain := h.coolingDomain
        switchDomain := h.switchDomain, health := h.health, readiness := h.readiness
        reachability := h.reachability
        capabilities := fun capability hmem =>
          (capability.decodable_iff.mp (h.capabilities capability hmem)).1
        details := (record.details.decodable_iff.mp h.details).1 }
    refine ⟨hlegal, (narrowTexts_member hlegal).mpr ⟨fun capability hmem => ?_, ?_, h.source⟩⟩
    · exact (capability.decodable_iff.mp (h.capabilities capability hmem)).2
    · exact (record.details.decodable_iff.mp h.details).2
  · rintro ⟨h, htexts⟩
    obtain ⟨hcapabilities, hdetails, hsource⟩ := (narrowTexts_member h).mp htexts
    exact
      { key := h.key, observation := h.observation, ownerWorker := h.ownerWorker
        ownerBoot := h.ownerBoot, parent := h.parent, failureDomains := h.failureDomains
        powerDomain := h.powerDomain, coolingDomain := h.coolingDomain
        switchDomain := h.switchDomain, health := h.health, readiness := h.readiness
        reachability := h.reachability
        capabilities := fun capability hmem => capability.decodable_iff.mpr
          ⟨h.capabilities capability hmem, hcapabilities capability hmem⟩
        details := record.details.decodable_iff.mpr ⟨h.details, hdetails⟩
        source := hsource }

theorem RelationshipRecord.decodable_iff (record : RelationshipRecord) :
    record.Decodable ↔ record.Legal ∧ NarrowTexts (encodeRelationship record) := by
  have htexts : record.Legal →
      (NarrowTexts (encodeRelationship record) ↔ TextDecodable record.source) := by
    intro h
    simp only [encodeRelationship, narrowTexts_append, narrowTexts_cons, narrowTexts_nil,
      narrowTexts_optional, narrowTexts_optionalId, narrowTexts_observation, narrowTexts_quantity,
      narrowTexts_optionalString, WriteOp.enum, WriteOp.generation, WriteOp.u64, WriteOp.narrow_u8,
      WriteOp.narrow_raw, narrowTexts_memberKey h.source, narrowTexts_memberKey h.target,
      implies_true, and_true, true_and]
  constructor
  · intro h
    have hlegal : record.Legal :=
      ⟨h.source, h.target, h.observation, h.ownerWorker, h.ownerBoot, h.link, h.capacity⟩
    exact ⟨hlegal, (htexts hlegal).mpr h.origin⟩
  · rintro ⟨h, hnarrow⟩
    exact ⟨h.source, h.target, h.observation, h.ownerWorker, h.ownerBoot, h.link, h.capacity,
      (htexts h).mp hnarrow⟩

theorem FailureDomainRecord.decodable_iff (record : FailureDomainRecord) :
    record.Decodable ↔ record.Legal ∧ NarrowTexts (encodeFailureDomain record) := by
  have htexts : NarrowTexts (encodeFailureDomain record) ↔
      TextDecodable record.label ∧ TextDecodable record.source := by
    simp only [encodeFailureDomain, narrowTexts_append, narrowTexts_cons, narrowTexts_nil,
      narrowTexts_many, WriteOp.narrow_id, narrowTexts_optionalId, narrowTexts_observation,
      narrowTexts_optionalString, WriteOp.enum, WriteOp.generation, WriteOp.u64, WriteOp.narrow_u8,
      WriteOp.narrow_raw, implies_true, and_true, true_and]
  rw [htexts]
  constructor
  · exact fun h => ⟨⟨h.id, h.parents, h.observation, h.ownerWorker, h.ownerBoot⟩, h.label,
      h.source⟩
  · rintro ⟨h, label, source⟩
    exact ⟨h.id, h.parents, h.observation, h.ownerWorker, h.ownerBoot, label, source⟩

theorem PowerEnvelopeRecord.decodable_iff (record : PowerEnvelopeRecord) :
    record.Decodable ↔ record.Legal ∧ NarrowTexts (encodePowerEnvelope record) := by
  have htexts : NarrowTexts (encodePowerEnvelope record) ↔ TextDecodable record.source := by
    simp only [encodePowerEnvelope, encodeBudget, narrowTexts_append, narrowTexts_cons,
      narrowTexts_optional, narrowTexts_many, WriteOp.narrow_id, narrowTexts_optionalId,
      narrowTexts_observation, narrowTexts_quantity, narrowTexts_optionalString,
      WriteOp.generation, WriteOp.u64, WriteOp.narrow_raw, implies_true, and_true, true_and]
  rw [htexts]
  constructor
  · exact fun h => ⟨⟨h.rackLimit, h.rackObservedDraw, h.rackHeadroom, h.domainBudgets,
      h.observation, h.ownerWorker, h.ownerBoot⟩, h.source⟩
  · rintro ⟨h, source⟩
    exact ⟨h.rackLimit, h.rackObservedDraw, h.rackHeadroom, h.domainBudgets, h.observation,
      h.ownerWorker, h.ownerBoot, source⟩

theorem CoolingEnvelopeRecord.decodable_iff (record : CoolingEnvelopeRecord) :
    record.Decodable ↔ record.Legal ∧ NarrowTexts (encodeCoolingEnvelope record) := by
  have htexts : NarrowTexts (encodeCoolingEnvelope record) ↔ TextDecodable record.source := by
    simp only [encodeCoolingEnvelope, encodeZone, narrowTexts_append, narrowTexts_cons,
      narrowTexts_optional, narrowTexts_many, WriteOp.narrow_id, narrowTexts_optionalId,
      narrowTexts_observation, narrowTexts_quantity, narrowTexts_evidence,
      narrowTexts_optionalString, WriteOp.generation, WriteOp.u64, WriteOp.narrow_raw, implies_true,
      and_true, true_and]
  rw [htexts]
  constructor
  · exact fun h => ⟨⟨h.zones, h.observation, h.ownerWorker, h.ownerBoot⟩, h.source⟩
  · rintro ⟨h, source⟩
    exact ⟨h.zones, h.observation, h.ownerWorker, h.ownerBoot, source⟩

/-! The round trip. -/

inductive RecordKind where
  | member | relationship | failureDomain | powerEnvelope | coolingEnvelope

namespace RecordKind

def Record : RecordKind → Type
  | member => MemberRecord
  | relationship => RelationshipRecord
  | failureDomain => FailureDomainRecord
  | powerEnvelope => PowerEnvelopeRecord
  | coolingEnvelope => CoolingEnvelopeRecord

instance : (kind : RecordKind) → DecidableEq kind.Record
  | member => inferInstanceAs (DecidableEq MemberRecord)
  | relationship => inferInstanceAs (DecidableEq RelationshipRecord)
  | failureDomain => inferInstanceAs (DecidableEq FailureDomainRecord)
  | powerEnvelope => inferInstanceAs (DecidableEq PowerEnvelopeRecord)
  | coolingEnvelope => inferInstanceAs (DecidableEq CoolingEnvelopeRecord)

def encode : (kind : RecordKind) → kind.Record → List WriteOp
  | member => encodeMember
  | relationship => encodeRelationship
  | failureDomain => encodeFailureDomain
  | powerEnvelope => encodePowerEnvelope
  | coolingEnvelope => encodeCoolingEnvelope

def decode : (kind : RecordKind) → Decoder kind.Record
  | member => decodeMember
  | relationship => decodeRelationship
  | failureDomain => decodeFailureDomain
  | powerEnvelope => decodePowerEnvelope
  | coolingEnvelope => decodeCoolingEnvelope

/-- Every identity of the record is valid and every lifetime within the decoder's bounds. -/
def Legal : (kind : RecordKind) → kind.Record → Prop
  | member => MemberRecord.Legal
  | relationship => RelationshipRecord.Legal
  | failureDomain => FailureDomainRecord.Legal
  | powerEnvelope => PowerEnvelopeRecord.Legal
  | coolingEnvelope => CoolingEnvelopeRecord.Legal

def Decodable : (kind : RecordKind) → kind.Record → Prop
  | member => MemberRecord.Decodable
  | relationship => RelationshipRecord.Decodable
  | failureDomain => FailureDomainRecord.Decodable
  | powerEnvelope => PowerEnvelopeRecord.Decodable
  | coolingEnvelope => CoolingEnvelopeRecord.Decodable

def written (kind : RecordKind) (limits : ResourceLimits) (maxBytes : Nat)
    (record : kind.Record) : ByteWriter :=
  ByteWriter.writeAll { limits := limits, maxBytes := maxBytes } (kind.encode record)

/-- Whatever follows the record, reading yields the record and stops in front of the rest. -/
def RoundTrips (kind : RecordKind) (limits : ResourceLimits) (maxBytes : Nat)
    (record : kind.Record) : Prop :=
  ∀ suffix, kind.decode limits ((kind.written limits maxBytes record).buffer ++ suffix) =
    .ok (record, suffix)

variable {limits : ResourceLimits} {maxBytes : Nat}

theorem faithful (kind : RecordKind) : Faithful limits kind.decode kind.encode kind.Decodable := by
  cases kind with
  | member => exact faithful_member
  | relationship => exact faithful_relationship
  | failureDomain => exact faithful_failureDomain
  | powerEnvelope => exact faithful_powerEnvelope
  | coolingEnvelope => exact faithful_coolingEnvelope

theorem failure_written (kind : RecordKind) {record : kind.Record}
    (hfits : ∀ op ∈ kind.encode record, op.Fits limits)
    (hroom : ((kind.encode record).flatMap WriteOp.bytes).length ≤ maxBytes) :
    (kind.written limits maxBytes record).failure = none := by
  have hwriter := @ByteWriter.writeAll_of_fits { limits := limits, maxBytes := maxBytes }
    (kind.encode record) hfits (by simpa using hroom)
  exact congrArg ByteWriter.failure hwriter

theorem decodable_iff (kind : RecordKind) (record : kind.Record) :
    kind.Decodable record ↔ kind.Legal record ∧ NarrowTexts (kind.encode record) := by
  cases kind with
  | member => exact MemberRecord.decodable_iff record
  | relationship => exact RelationshipRecord.decodable_iff record
  | failureDomain => exact FailureDomainRecord.decodable_iff record
  | powerEnvelope => exact PowerEnvelopeRecord.decodable_iff record
  | coolingEnvelope => exact CoolingEnvelopeRecord.decodable_iff record

theorem legal_of_decoded (kind : RecordKind) {record : kind.Record} {bytes rest : Bytes}
    (h : kind.decode limits bytes = .ok (record, rest)) : kind.Legal record :=
  ((kind.decodable_iff record).mp (kind.faithful.ensures _ _ _ h)).1

/-- A legal record that is written whole is read back exactly when each of its texts has a
length that fits its prefix. -/
theorem records_round_trip_iff (kind : RecordKind) (limits : ResourceLimits) (maxBytes : Nat)
    (record : kind.Record) (hlegal : kind.Legal record)
    (hwritten : (kind.written limits maxBytes record).failure = none) :
    kind.RoundTrips limits maxBytes record ↔ NarrowTexts (kind.encode record) := by
  obtain ⟨hbuffer, hfits⟩ := ByteWriter.writeAll_ok (kind.encode record) hwritten
  have hfaithful : Faithful limits kind.decode kind.encode kind.Decodable := kind.faithful
  constructor
  · intro htrips
    exact ((kind.decodable_iff record).mp (hfaithful.ensures _ _ _ (htrips []))).2
  · intro hnarrow suffix
    have hdecodable := (kind.decodable_iff record).mpr ⟨hlegal, hnarrow⟩
    rw [written, hbuffer]
    exact hfaithful.readsBack hdecodable hfits suffix

end RecordKind

/-! A failure domain with a short label, and one whose label has a length that wraps to zero. -/
namespace Scenario

def labelled (label : Str) : FailureDomainRecord where
  id := .ofText [0x66, 0x64]
  label := some label

theorem legal_labelled (label : Str) : (labelled label).Legal where
  id := show (StrongId.ofText [0x66, 0x64] : FailureDomainId).isSet = true by decide
  parents := by simp [labelled]
  observation := show ttlIsValid 0 = true by decide
  ownerWorker := by simp [labelled, IdDecodable]
  ownerBoot := by simp [labelled, IdDecodable]

def observed : Observation where
  provenance := .reported
  observedAt := ⟨900⟩
  ttl := 60000
  durability := .ephemeral

def watts : Quantity :=
  { observed with value := ⟨0x408F400000000000⟩, unit := .watts, uncertainty := some {} }

def describedNode : MemberRecord where
  key := ⟨.node, str "a"⟩
  lifecycle := .present
  toObservation := observed
  ownerBoot := some (.ofText (str "boot-a"))
  parent := some ⟨.switch, str "tor"⟩
  failureDomains := [.ofText (str "grid"), .ofText (str "feed")]
  health := { observed with value := .healthy }
  capabilities := [{ observed with id := .ofText (str "cuda"), value := some (str "12.4") }]
  details := .node { hostName := some (str "a.local"), memoryBytes := some 1024 }
  source := some (str "agent")

def describedLink : RelationshipRecord where
  key := ⟨.connectedTo, ⟨.node, str "a"⟩, ⟨.switch, str "tor"⟩⟩
  toObservation := observed
  capacity := some { watts with unit := .gigabitsPerSecond }

def describedPower : PowerEnvelopeRecord where
  toObservation := observed
  rackLimit := some watts
  domainBudgets := [{ domain := .ofText (str "feed"), limit := some watts }]

def describedCooling : CoolingEnvelopeRecord where
  toObservation := observed
  zones :=
    [{ zone := .ofText (str "aisle"), coolingCapacity := some watts
       throttling := some { observed with value := .throttled } }]

theorem described_records_round_trip :
    (RecordKind.member.RoundTrips {} 1024 describedNode ↔
      NarrowTexts (encodeMember describedNode)) ∧
    (RecordKind.relationship.RoundTrips {} 1024 describedLink ↔
      NarrowTexts (encodeRelationship describedLink)) ∧
    (RecordKind.failureDomain.RoundTrips {} 1024 (labelled (str "feed")) ↔
      NarrowTexts (encodeFailureDomain (labelled (str "feed")))) ∧
    (RecordKind.powerEnvelope.RoundTrips {} 1024 describedPower ↔
      NarrowTexts (encodePowerEnvelope describedPower)) ∧
    (RecordKind.coolingEnvelope.RoundTrips {} 1024 describedCooling ↔
      NarrowTexts (encodeCoolingEnvelope describedCooling)) := by
  have hread : ∀ {kind : RecordKind} {record : kind.Record},
      kind.decode {} (kind.written {} 1024 record).buffer = .ok (record, []) →
        (kind.written {} 1024 record).failure = none →
          (kind.RoundTrips {} 1024 record ↔ NarrowTexts (kind.encode record)) :=
    fun {kind record} hdecoded hwritten =>
      RecordKind.records_round_trip_iff kind {} 1024 record (kind.legal_of_decoded hdecoded)
        hwritten
  refine ⟨hread ?_ ?_, hread ?_ ?_, hread ?_ ?_, hread ?_ ?_, hread ?_ ?_⟩ <;> decide +kernel

def roomyLimits : ResourceLimits where
  maxStringBytes := 2 ^ 33

theorem failure_labelled {label : Str} {limits : ResourceLimits} {maxBytes : Nat}
    (hlabel : label.length ≤ limits.maxStringBytes) (hid : 2 ≤ limits.maxStringBytes)
    (hroom : label.length + 100 ≤ maxBytes) :
    (RecordKind.failureDomain.written limits maxBytes (labelled label)).failure = none := by
  have hvalue : (labelled label).id.value.length = 2 :=
    show (StrongId.ofText [0x66, 0x64] : FailureDomainId).value.length = 2 by decide
  refine RecordKind.failureDomain.failure_written ?_ ?_
  · change ∀ op ∈ encodeFailureDomain (labelled label), op.Fits limits
    simp only [encodeFailureDomain, encodeObservation, many, optionalId, WriteOp.optional,
      optionalString, enum, generation, timestamp, i64, u64, boolean, List.forall_mem_append,
      List.forall_mem_cons, WriteOp.Fits, hvalue]
    simp [labelled, hlabel, hid]
  · change ((encodeFailureDomain (labelled label)).flatMap WriteOp.bytes).length ≤ maxBytes
    simp [encodeFailureDomain, encodeObservation, many, optionalId, WriteOp.optional,
      optionalString, enum, generation, timestamp, i64, u64, boolean, WriteOp.bytes, hvalue]
    simp [labelled]
    omega

theorem not_roundTrips_labelled {label : Str} {limits : ResourceLimits} {maxBytes : Nat}
    (hlong : 2 ^ 32 ≤ label.length) :
    ¬ RecordKind.failureDomain.RoundTrips limits maxBytes (labelled label) := by
  intro htrips
  have hdecodable : (labelled label).Decodable :=
    faithful_failureDomain.ensures _ _ _ (htrips [])
  exact Nat.not_lt.mpr hlong (hdecodable.label label rfl)

theorem wrapped_label_lost :
    (labelled (List.replicate (2 ^ 32) 0x61)).Legal ∧
      (RecordKind.failureDomain.written roomyLimits (2 ^ 33)
        (labelled (List.replicate (2 ^ 32) 0x61))).failure = none ∧
      ¬ RecordKind.failureDomain.RoundTrips roomyLimits (2 ^ 33)
        (labelled (List.replicate (2 ^ 32) 0x61)) := by
  have hlength : (List.replicate (2 ^ 32) (0x61 : UInt8)).length = 2 ^ 32 := List.length_replicate
  refine ⟨legal_labelled _, failure_labelled ?_ (by decide) ?_, not_roundTrips_labelled ?_⟩
  · rw [hlength]
    decide
  · rw [hlength]
    decide
  · exact Nat.le_of_eq hlength.symm

end Scenario

end RackFabric
