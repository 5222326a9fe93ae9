import Mathlib.Algebra.BigOperators.Group.List.Basic
import RackFabric.Properties.Codec

/-! What the canonical encoding of a record takes: the texts and the lists, which the writer
bounds one by one, and the bytes of all the fields together. -/
namespace RackFabric
open Enumeration WriteOp

@[ext] structure Extent where
  texts : List Str
  /-- The lengths of the lists, each with its limit. -/
  lists : List (Nat × (ResourceLimits → Nat))
  size : Nat

namespace Extent

instance : Zero Extent := ⟨⟨[], [], 0⟩⟩

instance : Add Extent where
  add first second :=
    ⟨first.texts ++ second.texts, first.lists ++ second.lists, first.size + second.size⟩

theorem add_def (first second : Extent) : first + second =
    ⟨first.texts ++ second.texts, first.lists ++ second.lists, first.size + second.size⟩ := rfl

theorem zero_def : (0 : Extent) = ⟨[], [], 0⟩ := rfl

instance : AddMonoid Extent where
  add_assoc first second third := by simp [add_def, Nat.add_assoc]
  zero_add extent := by simp [add_def, zero_def]
  add_zero extent := by simp [add_def, zero_def]
  nsmul := nsmulRec

def bytes (width : Nat) : Extent := ⟨[], [], width⟩

def text (value : Str) : Extent := ⟨[value], [], 4 + value.length⟩

def ofId {tag : IdentityTag} (id : StrongId tag) : Extent := text id.value

def count (length : Nat) (maximum : ResourceLimits → Nat) : Extent := ⟨[], [(length, maximum)], 4⟩

def optional {α : Type} (extent : α → Extent) : Option α → Extent
  | none => bytes 1
  | some value => bytes 1 + extent value

def list {α : Type} (maximum : ResourceLimits → Nat) (extent : α → Extent) (values : List α) :
    Extent :=
  count values.length maximum + (values.map extent).sum

/-- Every text and every list is within its limit and can be told its length in four bytes,
and the whole is within the limit of a payload. -/
structure Within (limits : ResourceLimits) (extent : Extent) : Prop where
  texts : ∀ text ∈ extent.texts, text.length ≤ limits.maxStringBytes ∧ text.length < 2 ^ 32
  lists : ∀ list ∈ extent.lists, list.1 ≤ list.2 limits ∧ list.1 < 2 ^ 32
  size : extent.size ≤ limits.maxPayloadBytes

end Extent

/-! The fields of the records. -/

section Fields
open Extent

def MemberKey.extent (key : MemberKey) : Extent := bytes 1 + text key.id

def Observation.extent (_ : Observation) : Extent := bytes 19

def EvidenceValue.extent {α : Type} [Inhabited α] (_ : EvidenceValue α) : Extent := bytes 20

def Quantity.extent (quantity : Quantity) : Extent :=
  bytes 10 + Extent.optional (fun _ => bytes 8) quantity.uncertainty + bytes 18

def GenerationSet.extent (_ : GenerationSet) : Extent := bytes 80

/-- A field of the details of a member. Every field is optional. -/
inductive DetailField where
  | text (value : Option Str)
  | number (width : Nat) (present : Bool)
  | quantity (value : Option Quantity)

def DetailField.ofId {tag : IdentityTag} (id : Option (StrongId tag)) : DetailField :=
  .text (id.map (·.value))

def DetailField.extent : DetailField → Extent
  | .text value => Extent.optional Extent.text value
  | .number width present => bytes (if present then 1 + width else 1)
  | .quantity value => Extent.optional Quantity.extent value

open DetailField in
def MemberDetails.fields : MemberDetails → List DetailField
  | .monostate => []
  | .node details =>
      [text details.hostName, number 4 details.role.isSome, number 4 details.architecture.isSome,
        text details.operatingSystem, number 8 details.memoryBytes.isSome,
        number 4 details.cpuPackageCount.isSome, number 4 details.logicalCpuCount.isSome,
        number 4 details.acceleratorCount.isSome, number 4 details.nicCount.isSome,
        number 4 details.dpuCount.isSome, ofId details.worker, ofId details.boot]
  | .accelerator details =>
      [text details.vendor, text details.model, text details.architecture, text details.uuid,
        text details.driverVersion, text details.pciAddress, number 8 details.memoryBytes.isSome,
        number 4 details.computeCapabilityMajor.isSome,
        number 4 details.computeCapabilityMinor.isSome, number 4 details.smCount.isSome,
        number 4 details.maxThreadsPerBlock.isSome, text details.interconnect]
  | .cpuPackage details =>
      [text details.vendor, text details.model, number 4 details.physicalCores.isSome,
        number 4 details.logicalThreads.isSome, number 4 details.baseClockMhz.isSome,
        number 4 details.socketIndex.isSome, number 4 details.numaNode.isSome]
  | .memoryDomain details =>
      [number 4 details.kind.isSome, number 8 details.capacityBytes.isSome,
        number 4 details.numaNode.isSome, quantity details.bandwidth]
  | .nic details =>
      [text details.vendor, text details.model, text details.pciAddress,
        number 4 details.portCount.isSome, quantity details.linkSpeed, text details.macAddress]
  | .dpu details =>
      [text details.vendor, text details.model, text details.firmwareVersion,
        text details.pciAddress, number 4 details.portCount.isSome]
  | .switch details =>
      [text details.vendor, text details.model, number 4 details.portCount.isSome,
        number 4 details.layerIndex.isSome, quantity details.linkSpeed]
  | .storageEndpoint details =>
      [number 4 details.kind.isSome, text details.model, text details.interfaceName,
        number 8 details.capacityBytes.isSome]
  | .powerDomain details => [number 4 details.kind.isSome, text details.label]
  | .coolingDomain details => [number 4 details.kind.isSome, text details.label]

def MemberDetails.extent (details : MemberDetails) : Extent :=
  bytes 1 + (details.fields.map DetailField.extent).sum

def CapabilityRef.extent (capability : CapabilityRef) : Extent :=
  ofId capability.id + capability.toObservation.extent + Extent.optional text capability.value

def MemberRecord.extent (record : MemberRecord) : Extent :=
  record.key.extent + bytes 17 + record.toObservation.extent + bytes 1 +
    Extent.optional ofId record.ownerWorker + Extent.optional ofId record.ownerBoot +
    Extent.optional MemberKey.extent record.parent +
    list (·.maxCollectionItems) ofId record.failureDomains +
    Extent.optional ofId record.powerDomain + Extent.optional ofId record.coolingDomain +
    Extent.optional ofId record.switchDomain + record.health.extent + record.readiness.extent +
    record.reachability.extent +
    list (·.maxCollectionItems) CapabilityRef.extent record.capabilities + record.details.extent +
    Extent.optional text record.source

def RelationshipRecord.extent (record : RelationshipRecord) : Extent :=
  bytes 1 + record.key.source.extent + record.key.target.extent + record.toObservation.extent +
    bytes 8 + Extent.optional ofId record.ownerWorker + Extent.optional ofId record.ownerBoot +
    Extent.optional ofId record.link + Extent.optional Quantity.extent record.capacity +
    Extent.optional text record.source

def FailureDomainRecord.extent (record : FailureDomainRecord) : Extent :=
  ofId record.id + bytes 2 + list (·.maxCollectionItems) ofId record.parents + bytes 8 +
    record.toObservation.extent + Extent.optional ofId record.ownerWorker +
    Extent.optional ofId record.ownerBoot + Extent.optional text record.label +
    Extent.optional text record.source

def PowerDomainBudget.extent (budget : PowerDomainBudget) : Extent :=
  ofId budget.domain + Extent.optional Quantity.extent budget.limit +
    Extent.optional Quantity.extent budget.observedDraw +
    Extent.optional Quantity.extent budget.headroom

def PowerEnvelopeRecord.extent (record : PowerEnvelopeRecord) : Extent :=
  bytes 8 + Extent.optional Quantity.extent record.rackLimit +
    Extent.optional Quantity.extent record.rackObservedDraw +
    Extent.optional Quantity.extent record.rackHeadroom +
    list (·.maxCollectionItems) PowerDomainBudget.extent record.domainBudgets +
    record.toObservation.extent + Extent.optional ofId record.ownerWorker +
    Extent.optional ofId record.ownerBoot + Extent.optional text record.source

def CoolingZoneRecord.extent (zone : CoolingZoneRecord) : Extent :=
  ofId zone.zone + Extent.optional Quantity.extent zone.designThermalLimit +
    Extent.optional Quantity.extent zone.observedTemperature +
    Extent.optional Quantity.extent zone.coolingCapacity +
    Extent.optional Quantity.extent zone.thermalHeadroom +
    Extent.optional EvidenceValue.extent zone.throttling

def CoolingEnvelopeRecord.extent (record : CoolingEnvelopeRecord) : Extent :=
  bytes 8 + list (·.maxCollectionItems) CoolingZoneRecord.extent record.zones +
    record.toObservation.extent + Extent.optional ofId record.ownerWorker +
    Extent.optional ofId record.ownerBoot + Extent.optional text record.source

/-- All that the digest covers. -/
def RackSnapshot.extent (snapshot : RackSnapshot) : Extent :=
  ofId snapshot.id + bytes 24 + ofId snapshot.rack + ofId snapshot.rackEpoch +
    snapshot.generations.extent + bytes 1 +
    list (·.maxMembers) MemberRecord.extent snapshot.members +
    list (·.maxRelationships) RelationshipRecord.extent snapshot.relationships +
    list (·.maxFailureDomains) FailureDomainRecord.extent snapshot.failureDomains +
    Extent.optional PowerEnvelopeRecord.extent snapshot.powerEnvelope +
    Extent.optional CoolingEnvelopeRecord.extent snapshot.coolingEnvelope

end Fields

/-! The calls of the encoders. -/

def WriteOp.extent : WriteOp → Extent
  | .u8 _ => .bytes 1
  | .raw written => .bytes written.length
  | .string value => .text value
  | .count length maximum => .count length maximum

def callsExtent (ops : List WriteOp) : Extent := (ops.map WriteOp.extent).sum

@[simp] theorem callsExtent_nil : callsExtent [] = 0 := rfl

@[simp] theorem callsExtent_cons (op : WriteOp) (ops : List WriteOp) :
    callsExtent (op :: ops) = op.extent + callsExtent ops := by
  simp [callsExtent]

@[simp] theorem callsExtent_append (first second : List WriteOp) :
    callsExtent (first ++ second) = callsExtent first + callsExtent second := by
  simp [callsExtent]

@[simp] theorem extent_u8 (value : UInt8) : (u8 value).extent = .bytes 1 := rfl

@[simp] theorem extent_raw (written : Bytes) : (raw written).extent = .bytes written.length := rfl

@[simp] theorem extent_string (value : Str) : (string value).extent = .text value := rfl

@[simp] theorem extent_boolean (value : Bool) : (boolean value).extent = .bytes 1 := rfl

@[simp] theorem extent_enum {α : Type} [DecidableEq α] [Enum8 α] (value : α) :
    (enum value).extent = .bytes 1 := rfl

@[simp] theorem extent_u32 (value : UInt32) : (u32 value).extent = .bytes 4 := by
  simp [u32]

@[simp] theorem extent_u64 (value : UInt64) : (u64 value).extent = .bytes 8 := by
  simp [u64]

@[simp] theorem extent_i64 (value : Int64) : (i64 value).extent = .bytes 8 := by
  simp [i64]

@[simp] theorem extent_f64 (value : Double) : (f64 value).extent = .bytes 8 := by
  simp [f64]

@[simp] theorem extent_timestamp (value : Timestamp) : (timestamp value).extent = .bytes 8 := by
  simp [timestamp]

@[simp] theorem extent_generation {tag : GenerationTag} (value : Generation tag) :
    (generation value).extent = .bytes 8 := by
  simp [generation]

/-! Numbers that follow each other are taken together. -/

@[simp] theorem bytes_add_bytes (first second : Nat) :
    Extent.bytes first + Extent.bytes second = Extent.bytes (first + second) := rfl

@[simp] theorem bytes_add_bytes_add (first second : Nat) (rest : Extent) :
    Extent.bytes first + (Extent.bytes second + rest) = Extent.bytes (first + second) + rest := by
  rw [← add_assoc, bytes_add_bytes]

section Calls
variable {α : Type} {write : α → List WriteOp} {extent : α → Extent}

theorem callsExtent_optional (h : ∀ value, callsExtent (write value) = extent value)
    (value : Option α) : callsExtent (optional write value) = Extent.optional extent value := by
  cases value with
  | none => simp [WriteOp.optional, Extent.optional]
  | some value => simp [WriteOp.optional, Extent.optional, h]

theorem callsExtent_many (maximum : ResourceLimits → Nat)
    (h : ∀ value, callsExtent (write value) = extent value) (values : List α) :
    callsExtent (many maximum write values) = Extent.list maximum extent values := by
  have hvalues : callsExtent (values.flatMap write) = (values.map extent).sum := by
    induction values with
    | nil => rfl
    | cons value values ih => simp [h, ih]
  rw [many, callsExtent_cons, hvalues]
  rfl

end Calls

@[simp] theorem callsExtent_optionalString (value : Option Str) :
    callsExtent (optionalString value) = Extent.optional Extent.text value :=
  callsExtent_optional (by simp) value

@[simp] theorem callsExtent_optionalId {tag : IdentityTag} (value : Option (StrongId tag)) :
    callsExtent (WriteOp.optionalId value) = Extent.optional Extent.ofId value :=
  callsExtent_optional (by simp [Extent.ofId]) value

@[simp] theorem callsExtent_observation (evidence : Observation) :
    callsExtent (encodeObservation evidence) = evidence.extent := by
  simp [encodeObservation, Observation.extent]

@[simp] theorem callsExtent_evidence {α : Type} [Inhabited α] [DecidableEq α] [Enum8 α]
    (evidence : EvidenceValue α) : callsExtent (encodeEvidence evidence) = evidence.extent := by
  simp [encodeEvidence, Observation.extent, EvidenceValue.extent]

theorem callsExtent_quantity (quantity : Quantity) :
    callsExtent (encodeQuantity quantity) = quantity.extent := by
  have huncertainty : callsExtent (optionalDouble quantity.uncertainty) =
      Extent.optional (fun _ => .bytes 8) quantity.uncertainty :=
    callsExtent_optional (by simp) _
  simp [encodeQuantity, huncertainty, Quantity.extent, add_assoc]

@[simp] theorem callsExtent_optionalQuantity (value : Option Quantity) :
    callsExtent (optional encodeQuantity value) = Extent.optional Quantity.extent value :=
  callsExtent_optional callsExtent_quantity value

@[simp] theorem callsExtent_memberKey (key : MemberKey) :
    callsExtent (encodeMemberKey key) = key.extent := by
  simp [encodeMemberKey, MemberKey.extent]

@[simp] theorem callsExtent_generationSet (generations : GenerationSet) :
    callsExtent (encodeGenerationSet generations) = generations.extent := by
  simp [encodeGenerationSet, GenerationSet.extent]

@[simp] theorem callsExtent_ids {tag : IdentityTag} (maximum : ResourceLimits → Nat)
    (ids : List (StrongId tag)) :
    callsExtent (many maximum (fun id => [string id.value]) ids) =
      Extent.list maximum Extent.ofId ids :=
  callsExtent_many maximum (by simp [Extent.ofId]) ids

/-! Each field of the details by its own calls. -/

theorem callsExtent_number {α : Type} {width : Nat} {written : α → Bytes}
    (h : ∀ value, (written value).length = width) (value : Option α) :
    callsExtent (WriteOp.optional (fun value => [.raw (written value)]) value) =
      DetailField.extent (.number width value.isSome) := by
  cases value <;> simp [WriteOp.optional, DetailField.extent, h]

@[simp] theorem callsExtent_optionalU32 (value : Option UInt32) :
    callsExtent (optionalU32 value) = DetailField.extent (.number 4 value.isSome) :=
  callsExtent_number (fun _ => LittleEndian.length_encode ..) value

@[simp] theorem callsExtent_optionalU64 (value : Option UInt64) :
    callsExtent (optionalU64 value) = DetailField.extent (.number 8 value.isSome) :=
  callsExtent_number (fun _ => LittleEndian.length_encode ..) value

@[simp] theorem callsExtent_optionalEnum {α : Type} [DecidableEq α] [Enum8 α]
    (value : Option α) :
    callsExtent (optionalEnum value) = DetailField.extent (.number 4 value.isSome) :=
  callsExtent_number (fun _ => LittleEndian.length_encode ..) value

@[simp] theorem extent_text (value : Option Str) :
    (DetailField.text value).extent = Extent.optional Extent.text value := rfl

@[simp] theorem extent_ofId {tag : IdentityTag} (value : Option (StrongId tag)) :
    (DetailField.ofId value).extent = Extent.optional Extent.ofId value := by
  cases value <;> rfl

@[simp] theorem extent_quantity (value : Option Quantity) :
    (DetailField.quantity value).extent = Extent.optional Quantity.extent value := rfl

@[simp] theorem callsExtent_details (details : MemberDetails) :
    callsExtent (encodeDetails details) = details.extent := by
  cases details <;>
    simp [encodeDetails, encodeNodeDetails, encodeAcceleratorDetails, encodeCpuPackageDetails,
      encodeMemoryDomainDetails, encodeNicDetails, encodeDpuDetails, encodeSwitchDetails,
      encodeStorageEndpointDetails, encodePowerDomainDetails, encodeCoolingDomainDetails,
      MemberDetails.extent, MemberDetails.fields]

@[simp] theorem callsExtent_capability (capability : CapabilityRef) :
    callsExtent (encodeCapability capability) = capability.extent := by
  simp [encodeCapability, CapabilityRef.extent, Extent.ofId, add_assoc]

theorem callsExtent_member (record : MemberRecord) :
    callsExtent (encodeMember record) = record.extent := by
  have hparent := callsExtent_optional callsExtent_memberKey record.parent
  have hcapabilities := callsExtent_many (·.maxCollectionItems) callsExtent_capability
    record.capabilities
  simp [encodeMember, MemberRecord.extent, hparent, hcapabilities, add_assoc]

theorem callsExtent_relationship (record : RelationshipRecord) :
    callsExtent (encodeRelationship record) = record.extent := by
  simp [encodeRelationship, RelationshipRecord.extent, add_assoc]

theorem callsExtent_failureDomain (record : FailureDomainRecord) :
    callsExtent (encodeFailureDomain record) = record.extent := by
  simp [encodeFailureDomain, FailureDomainRecord.extent, Extent.ofId, add_assoc]

theorem callsExtent_budget (budget : PowerDomainBudget) :
    callsExtent (encodeBudget budget) = budget.extent := by
  simp [encodeBudget, PowerDomainBudget.extent, Extent.ofId, add_assoc]

theorem callsExtent_powerEnvelope (record : PowerEnvelopeRecord) :
    callsExtent (encodePowerEnvelope record) = record.extent := by
  have hbudgets := callsExtent_many (·.maxCollectionItems) callsExtent_budget record.domainBudgets
  simp [encodePowerEnvelope, PowerEnvelopeRecord.extent, hbudgets, add_assoc]

theorem callsExtent_zone (zone : CoolingZoneRecord) :
    callsExtent (encodeZone zone) = zone.extent := by
  have hthrottling := callsExtent_optional callsExtent_evidence zone.throttling
  simp [encodeZone, CoolingZoneRecord.extent, Extent.ofId, hthrottling, add_assoc]

theorem callsExtent_coolingEnvelope (record : CoolingEnvelopeRecord) :
    callsExtent (encodeCoolingEnvelope record) = record.extent := by
  have hzones := callsExtent_many (·.maxCollectionItems) callsExtent_zone record.zones
  simp [encodeCoolingEnvelope, CoolingEnvelopeRecord.extent, hzones, add_assoc]

/-- The encoder of a snapshot writes what its fields take. -/
theorem callsExtent_snapshot (snapshot : RackSnapshot) :
    callsExtent (encodeSnapshot snapshot) = snapshot.extent := by
  have hmembers := callsExtent_many (·.maxMembers) callsExtent_member snapshot.members
  have hrelationships :=
    callsExtent_many (·.maxRelationships) callsExtent_relationship snapshot.relationships
  have hdomains :=
    callsExtent_many (·.maxFailureDomains) callsExtent_failureDomain snapshot.failureDomains
  have hpower := callsExtent_optional callsExtent_powerEnvelope snapshot.powerEnvelope
  have hcooling := callsExtent_optional callsExtent_coolingEnvelope snapshot.coolingEnvelope
  simp [encodeSnapshot, RackSnapshot.extent, hmembers, hrelationships, hdomains, hpower, hcooling,
    Extent.ofId, add_assoc]

/-! Calls within the limits are written whole. -/

theorem size_callsExtent (ops : List WriteOp) :
    (callsExtent ops).size = (ops.flatMap WriteOp.bytes).length := by
  induction ops with
  | nil => rfl
  | cons op ops ih =>
    have hop : op.extent.size = op.bytes.length := by
      cases op <;> simp [WriteOp.extent, WriteOp.bytes, Extent.bytes, Extent.text, Extent.count]
    rw [callsExtent_cons, Extent.add_def, List.flatMap_cons, List.length_append, ← ih, ← hop]

theorem parts_of_mem {ops : List WriteOp} {op : WriteOp} (hmem : op ∈ ops) :
    op.extent.texts ⊆ (callsExtent ops).texts ∧ op.extent.lists ⊆ (callsExtent ops).lists := by
  induction ops with
  | nil => cases hmem
  | cons other ops ih =>
    rw [callsExtent_cons, Extent.add_def]
    rcases List.mem_cons.mp hmem with rfl | hmem
    · exact ⟨List.subset_append_left _ _, List.subset_append_left _ _⟩
    · obtain ⟨htexts, hlists⟩ := ih hmem
      exact ⟨List.subset_append_of_subset_right _ htexts,
        List.subset_append_of_subset_right _ hlists⟩

theorem Extent.Within.fits {limits : ResourceLimits} {ops : List WriteOp}
    (h : (callsExtent ops).Within limits) : ∀ op ∈ ops, op.Fits limits := by
  intro op hmem
  obtain ⟨htexts, hlists⟩ := parts_of_mem hmem
  cases op with
  | u8 value => trivial
  | raw written => trivial
  | string value => exact (h.texts value (htexts (List.mem_singleton_self value))).1
  | count length maximum => exact h.lists _ (hlists (List.mem_singleton_self _))

end RackFabric
