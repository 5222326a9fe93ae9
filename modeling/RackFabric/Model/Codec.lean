import RackFabric.Library.LittleEndian
import RackFabric.Model.Authority
import RackFabric.Model.Limits

/-! The canonical binary encoding. An encoder is the sequence of its calls to
the byte writer, so the writer's bounds apply to every call alike. -/
namespace RackFabric
open Enumeration

inductive CodecError where
  | truncated | lengthTooLarge | countTooLarge | invalidEnum | invalidIdentity
  | invalidNumber | trailingData | invalidValue
deriving DecidableEq

def CodecError.toStr : CodecError → Str
  | .truncated => str "TRUNCATED"
  | .lengthTooLarge => str "LENGTH_TOO_LARGE"
  | .countTooLarge => str "COUNT_TOO_LARGE"
  | .invalidEnum => str "INVALID_ENUM"
  | .invalidIdentity => str "INVALID_IDENTITY"
  | .invalidNumber => str "INVALID_NUMBER"
  | .trailingData => str "TRAILING_DATA"
  | .invalidValue => str "INVALID_VALUE"

structure ByteWriter where
  limits : ResourceLimits
  maxBytes : Nat
  buffer : Bytes := []
  /-- The reason the writer stopped, and nothing while it is ok. -/
  failure : Option CodecError := none

/-- One call to the writer; a collection count names the limit that bounds it. -/
inductive WriteOp where
  | u8 (value : UInt8)
  | raw (bytes : Bytes)
  | string (value : Str)
  | count (value : Nat) (maximum : ResourceLimits → Nat)

namespace ByteWriter

/-- Only the first failure is kept. -/
def fail (writer : ByteWriter) (error : CodecError) : ByteWriter :=
  match writer.failure with
  | none => { writer with failure := some error }
  | some _ => writer

def raw (writer : ByteWriter) (bytes : Bytes) : ByteWriter :=
  if bytes.length > writer.maxBytes ∨ writer.buffer.length > writer.maxBytes - bytes.length then
    writer.fail .lengthTooLarge
  else { writer with buffer := writer.buffer ++ bytes }

def write (writer : ByteWriter) : WriteOp → ByteWriter
  | .u8 value => { writer with buffer := writer.buffer ++ [value] }
  | .raw bytes => writer.raw bytes
  | .string value =>
      if value.length > writer.limits.maxStringBytes then writer.fail .lengthTooLarge
      else (writer.raw (LittleEndian.encode 4 (value.length % 2 ^ 32))).raw value
  | .count value maximum =>
      if value > maximum writer.limits ∨ value > 0xFFFFFFFF then writer.fail .countTooLarge
      else writer.raw (LittleEndian.encode 4 value)

def writeAll (writer : ByteWriter) (ops : List WriteOp) : ByteWriter :=
  ops.foldl write writer

end ByteWriter

namespace WriteOp

def u32 (value : UInt32) : WriteOp := raw (LittleEndian.encode 4 value.toNat)

def u64 (value : UInt64) : WriteOp := raw (LittleEndian.encode 8 value.toNat)

def i64 (value : Int64) : WriteOp := u64 value.toUInt64

def f64 (value : Double) : WriteOp := u64 value.bits

def boolean (value : Bool) : WriteOp := u8 (if value then 1 else 0)

def enum {α : Type} [DecidableEq α] [Enum8 α] (value : α) : WriteOp := u8 (toUInt8 value)

def timestamp (value : Timestamp) : WriteOp := i64 value.unixMillis

def generation {tag : GenerationTag} (value : Generation tag) : WriteOp := u64 value.value

/-- A presence flag, and the value when there is one. -/
def optional {α : Type} (write : α → List WriteOp) : Option α → List WriteOp
  | none => [u8 0]
  | some value => u8 1 :: write value

def optionalString : Option Str → List WriteOp := optional fun value => [string value]

def optionalId {tag : IdentityTag} : Option (StrongId tag) → List WriteOp :=
  optional fun id => [string id.value]

def optionalU32 : Option UInt32 → List WriteOp := optional fun value => [u32 value]

def optionalU64 : Option UInt64 → List WriteOp := optional fun value => [u64 value]

def optionalDouble : Option Double → List WriteOp := optional fun value => [f64 value]

/-- An enumeration written through `optional_u32`. -/
def optionalEnum {α : Type} [DecidableEq α] [Enum8 α] : Option α → List WriteOp :=
  optional fun value => [u32 (toUInt8 value).toUInt32]

/-- A count, then the elements in order. -/
def many {α : Type} (maximum : ResourceLimits → Nat) (write : α → List WriteOp)
    (values : List α) : List WriteOp :=
  count values.length maximum :: values.flatMap write

end WriteOp

open WriteOp

/-- The fields that every kind of evidence ends with. -/
def encodeObservation (evidence : Observation) : List WriteOp :=
  [enum evidence.provenance, timestamp evidence.observedAt, i64 evidence.ttl,
    enum evidence.durability, boolean evidence.revalidationRequired]

def encodeQuantity (quantity : Quantity) : List WriteOp :=
  [f64 quantity.value, enum quantity.unit, enum quantity.provenance] ++
    optionalDouble quantity.uncertainty ++
    [timestamp quantity.observedAt, i64 quantity.ttl, enum quantity.durability,
      boolean quantity.revalidationRequired]

/-- The value goes through `write_scalar`, which the writer bounds. -/
def encodeEvidence {α : Type} [Inhabited α] [DecidableEq α] [Enum8 α]
    (evidence : EvidenceValue α) : List WriteOp :=
  raw [toUInt8 evidence.value] :: encodeObservation evidence.toObservation

/-! The alternatives of the detail variant, each after its tag. -/

def encodeNodeDetails (details : NodeDetails) : List WriteOp :=
  optionalString details.hostName ++ optionalEnum details.role ++
    optionalEnum details.architecture ++ optionalString details.operatingSystem ++
    optionalU64 details.memoryBytes ++ optionalU32 details.cpuPackageCount ++
    optionalU32 details.logicalCpuCount ++ optionalU32 details.acceleratorCount ++
    optionalU32 details.nicCount ++ optionalU32 details.dpuCount ++
    optionalId details.worker ++ optionalId details.boot

def encodeAcceleratorDetails (details : AcceleratorDetails) : List WriteOp :=
  optionalString details.vendor ++ optionalString details.model ++
    optionalString details.architecture ++ optionalString details.uuid ++
    optionalString details.driverVersion ++ optionalString details.pciAddress ++
    optionalU64 details.memoryBytes ++ optionalU32 details.computeCapabilityMajor ++
    optionalU32 details.computeCapabilityMinor ++ optionalU32 details.smCount ++
    optionalU32 details.maxThreadsPerBlock ++ optionalString details.interconnect

def encodeCpuPackageDetails (details : CpuPackageDetails) : List WriteOp :=
  optionalString details.vendor ++ optionalString details.model ++
    optionalU32 details.physicalCores ++ optionalU32 details.logicalThreads ++
    optionalU32 details.baseClockMhz ++ optionalU32 details.socketIndex ++
    optionalU32 details.numaNode

def encodeMemoryDomainDetails (details : MemoryDomainDetails) : List WriteOp :=
  optionalEnum details.kind ++ optionalU64 details.capacityBytes ++
    optionalU32 details.numaNode ++ optional encodeQuantity details.bandwidth

def encodeNicDetails (details : NicDetails) : List WriteOp :=
  optionalString details.vendor ++ optionalString details.model ++
    optionalString details.pciAddress ++ optionalU32 details.portCount ++
    optional encodeQuantity details.linkSpeed ++ optionalString details.macAddress

def encodeDpuDetails (details : DpuDetails) : List WriteOp :=
  optionalString details.vendor ++ optionalString details.model ++
    optionalString details.firmwareVersion ++ optionalString details.pciAddress ++
    optionalU32 details.portCount

def encodeSwitchDetails (details : SwitchDetails) : List WriteOp :=
  optionalString details.vendor ++ optionalString details.model ++
    optionalU32 details.portCount ++ optionalU32 details.layerIndex ++
    optional encodeQuantity details.linkSpeed

def encodeStorageEndpointDetails (details : StorageEndpointDetails) : List WriteOp :=
  optionalEnum details.kind ++ optionalString details.model ++
    optionalString details.interfaceName ++ optionalU64 details.capacityBytes

def encodePowerDomainDetails (details : PowerDomainDetails) : List WriteOp :=
  optionalEnum details.kind ++ optionalString details.label

def encodeCoolingDomainDetails (details : CoolingDomainDetails) : List WriteOp :=
  optionalEnum details.kind ++ optionalString details.label

def encodeDetails : MemberDetails → List WriteOp
  | .monostate => [u8 0]
  | .node details => u8 1 :: encodeNodeDetails details
  | .accelerator details => u8 2 :: encodeAcceleratorDetails details
  | .cpuPackage details => u8 3 :: encodeCpuPackageDetails details
  | .memoryDomain details => u8 4 :: encodeMemoryDomainDetails details
  | .nic details => u8 5 :: encodeNicDetails details
  | .dpu details => u8 6 :: encodeDpuDetails details
  | .switch details => u8 7 :: encodeSwitchDetails details
  | .storageEndpoint details => u8 8 :: encodeStorageEndpointDetails details
  | .powerDomain details => u8 9 :: encodePowerDomainDetails details
  | .coolingDomain details => u8 10 :: encodeCoolingDomainDetails details

def encodeMemberKey (key : MemberKey) : List WriteOp :=
  [enum key.kind, string key.id]

def encodeGenerationSet (value : GenerationSet) : List WriteOp :=
  [generation value.rack, generation value.membership, generation value.topology,
    generation value.failureDomains, generation value.constraints, generation value.power,
    generation value.cooling, generation value.health, generation value.capabilities,
    generation value.coordinatorEpoch]

def encodeCapability (capability : CapabilityRef) : List WriteOp :=
  string capability.id.value :: (encodeObservation capability.toObservation ++
    optionalString capability.value)

def encodeMember (record : MemberRecord) : List WriteOp :=
  encodeMemberKey record.key ++
    [enum record.lifecycle, generation record.generation,
      generation record.publicationGeneration] ++
    encodeObservation record.toObservation ++ [enum record.revalidationReason] ++
    optionalId record.ownerWorker ++ optionalId record.ownerBoot ++
    optional encodeMemberKey record.parent ++
    many (·.maxCollectionItems) (fun domain => [string domain.value]) record.failureDomains ++
    optionalId record.powerDomain ++ optionalId record.coolingDomain ++
    optionalId record.switchDomain ++ encodeEvidence record.health ++
    encodeEvidence record.readiness ++ encodeEvidence record.reachability ++
    many (·.maxCollectionItems) encodeCapability record.capabilities ++
    encodeDetails record.details ++ optionalString record.source

def encodeRelationship (record : RelationshipRecord) : List WriteOp :=
  enum record.key.cls :: (encodeMemberKey record.key.source ++ encodeMemberKey record.key.target ++
    encodeObservation record.toObservation ++ [generation record.generation] ++
    optionalId record.ownerWorker ++ optionalId record.ownerBoot ++ optionalId record.link ++
    optional encodeQuantity record.capacity ++ optionalString record.source)

def encodeFailureDomain (record : FailureDomainRecord) : List WriteOp :=
  [string record.id.value, enum record.kind, enum record.lifecycle] ++
    many (·.maxCollectionItems) (fun parent => [string parent.value]) record.parents ++
    [generation record.generation] ++ encodeObservation record.toObservation ++
    optionalId record.ownerWorker ++ optionalId record.ownerBoot ++
    optionalString record.label ++ optionalString record.source

def encodeBudget (budget : PowerDomainBudget) : List WriteOp :=
  string budget.domain.value :: (optional encodeQuantity budget.limit ++
    optional encodeQuantity budget.observedDraw ++ optional encodeQuantity budget.headroom)

def encodePowerEnvelope (record : PowerEnvelopeRecord) : List WriteOp :=
  generation record.generation :: (optional encodeQuantity record.rackLimit ++
    optional encodeQuantity record.rackObservedDraw ++
    optional encodeQuantity record.rackHeadroom ++
    many (·.maxCollectionItems) encodeBudget record.domainBudgets ++
    encodeObservation record.toObservation ++ optionalId record.ownerWorker ++
    optionalId record.ownerBoot ++ optionalString record.source)

def encodeZone (zone : CoolingZoneRecord) : List WriteOp :=
  string zone.zone.value :: (optional encodeQuantity zone.designThermalLimit ++
    optional encodeQuantity zone.observedTemperature ++
    optional encodeQuantity zone.coolingCapacity ++
    optional encodeQuantity zone.thermalHeadroom ++ optional encodeEvidence zone.throttling)

def encodeCoolingEnvelope (record : CoolingEnvelopeRecord) : List WriteOp :=
  generation record.generation :: (many (·.maxCollectionItems) encodeZone record.zones ++
    encodeObservation record.toObservation ++ optionalId record.ownerWorker ++
    optionalId record.ownerBoot ++ optionalString record.source)

/-- The content that the snapshot digest covers; the digest itself is not part. -/
def encodeSnapshot (snapshot : RackSnapshot) : List WriteOp :=
  [string snapshot.id.value, generation snapshot.generation,
    generation snapshot.publicationGeneration, timestamp snapshot.createdAt,
    string snapshot.rack.value, string snapshot.rackEpoch.value] ++
    encodeGenerationSet snapshot.generations ++ [enum snapshot.lifecycle] ++
    many (·.maxMembers) encodeMember snapshot.members ++
    many (·.maxRelationships) encodeRelationship snapshot.relationships ++
    many (·.maxFailureDomains) encodeFailureDomain snapshot.failureDomains ++
    optional encodePowerEnvelope snapshot.powerEnvelope ++
    optional encodeCoolingEnvelope snapshot.coolingEnvelope

end RackFabric
