import RackFabric.Library.ByteReader
import RackFabric.Model.Codec

/-! The canonical binary decoding. The byte reader keeps its first error and
reads nothing after it, so a decoder is modelled as stopping there. -/
namespace RackFabric
open Enumeration ByteReader

/-- The bounds of the reader are the limits it was built with, and an error is
the text that is reported. -/
abbrev Decoder (α : Type) := Reader ResourceLimits Str α

namespace Decoder

def fail {α : Type} (error : CodecError) : Decoder α := Reader.fail error.toStr

def take (size : Nat) : Decoder Bytes := Reader.take size CodecError.truncated.toStr

def u8 : Decoder UInt8 := do
  return UInt8.ofNat (LittleEndian.decode (← take 1))

def u32 : Decoder UInt32 := do
  return UInt32.ofNat (LittleEndian.decode (← take 4))

def u64 : Decoder UInt64 := do
  return UInt64.ofNat (LittleEndian.decode (← take 8))

def i64 : Decoder Int64 := do
  return (← u64).toInt64

def f64 : Decoder Double := do
  return ⟨← u64⟩

/-- A flag byte that is neither zero nor one is no flag. -/
def boolean : Decoder Bool := do
  let value ← u8
  if value > 1 then fail .invalidValue else return value = 1

def string : Decoder Str := do
  let length ← u32
  let limits ← Reader.config
  if length.toNat > limits.maxStringBytes then fail .lengthTooLarge else take length.toNat

/-- A presence flag, and the value when there is one. -/
def optional {α : Type} (read : Decoder α) : Decoder (Option α) := do
  if ← boolean then return some (← read) else return none

def enum8 {α : Type} [DecidableEq α] [Enum8 α] : Decoder α := do
  Reader.orFail (ofNat? (← u8).toNat) CodecError.invalidEnum.toStr

/-- Every element occupies at least one of the remaining bytes. -/
def count (maximum : ResourceLimits → Nat) : Decoder Nat := do
  let value ← u32
  let limits ← Reader.config
  let remaining ← Reader.remaining
  if value.toNat > maximum limits ∨ value.toNat > remaining then fail .countTooLarge
  else return value.toNat

def many {α : Type} (maximum : ResourceLimits → Nat) (read : Decoder α) :
    Decoder (List α) := do
  read.repeated (← count maximum)

def timestamp : Decoder Timestamp := do
  return ⟨← i64⟩

def ttl : Decoder Millis := do
  let value ← i64
  if value < 0 ∨ 86400000 < value then fail .invalidValue else return value

def generation {tag : GenerationTag} : Decoder (Generation tag) := do
  return ⟨← u64⟩

/-- `StrongId::parse` on a decoded text. -/
def parsed {tag : IdentityTag} (text : Str) : Decoder (StrongId tag) :=
  Reader.orFail (StrongId.parse text) CodecError.invalidIdentity.toStr

def identity {tag : IdentityTag} : Decoder (StrongId tag) := do
  parsed (← string)

/-- An enumeration read through `optional_u32`. -/
def optionalEnum {α : Type} [DecidableEq α] [Enum8 α] : Decoder (Option α) :=
  optional do Reader.orFail (ofNat? (← u32).toNat) CodecError.invalidEnum.toStr

end Decoder

open Decoder

def decodeObservation : Decoder Observation := do
  let provenance ← enum8
  let observedAt ← timestamp
  let ttl ← ttl
  let durability ← enum8
  let revalidationRequired ← boolean
  return { provenance, observedAt, ttl, durability, revalidationRequired }

def decodeQuantity : Decoder Quantity := do
  let value ← f64
  let unit ← enum8
  let provenance ← enum8
  let uncertainty ← optional f64
  let observedAt ← timestamp
  let ttl ← ttl
  let durability ← enum8
  let revalidationRequired ← boolean
  return { value, unit, provenance, uncertainty, observedAt, ttl, durability, revalidationRequired }

def decodeEvidence {α : Type} [Inhabited α] [DecidableEq α] [Enum8 α] :
    Decoder (EvidenceValue α) := do
  let value ← enum8
  let observation ← decodeObservation
  return { toObservation := observation, value }

def decodeNodeDetails : Decoder NodeDetails := do
  let hostName ← optional string
  let role ← optionalEnum
  let architecture ← optionalEnum
  let operatingSystem ← optional string
  let memoryBytes ← optional u64
  let cpuPackageCount ← optional u32
  let logicalCpuCount ← optional u32
  let acceleratorCount ← optional u32
  let nicCount ← optional u32
  let dpuCount ← optional u32
  let worker ← optional identity
  let boot ← optional identity
  return { hostName, role, architecture, operatingSystem, memoryBytes, cpuPackageCount,
           logicalCpuCount, acceleratorCount, nicCount, dpuCount, worker, boot }

def decodeAcceleratorDetails : Decoder AcceleratorDetails := do
  let vendor ← optional string
  let model ← optional string
  let architecture ← optional string
  let uuid ← optional string
  let driverVersion ← optional string
  let pciAddress ← optional string
  let memoryBytes ← optional u64
  let computeCapabilityMajor ← optional u32
  let computeCapabilityMinor ← optional u32
  let smCount ← optional u32
  let maxThreadsPerBlock ← optional u32
  let interconnect ← optional string
  return { vendor, model, architecture, uuid, driverVersion, pciAddress, memoryBytes,
           computeCapabilityMajor, computeCapabilityMinor, smCount, maxThreadsPerBlock,
           interconnect }

def decodeCpuPackageDetails : Decoder CpuPackageDetails := do
  let vendor ← optional string
  let model ← optional string
  let physicalCores ← optional u32
  let logicalThreads ← optional u32
  let baseClockMhz ← optional u32
  let socketIndex ← optional u32
  let numaNode ← optional u32
  return { vendor, model, physicalCores, logicalThreads, baseClockMhz, socketIndex, numaNode }

def decodeMemoryDomainDetails : Decoder MemoryDomainDetails := do
  let kind ← optionalEnum
  let capacityBytes ← optional u64
  let numaNode ← optional u32
  let bandwidth ← optional decodeQuantity
  return { kind, capacityBytes, numaNode, bandwidth }

def decodeNicDetails : Decoder NicDetails := do
  let vendor ← optional string
  let model ← optional string
  let pciAddress ← optional string
  let portCount ← optional u32
  let linkSpeed ← optional decodeQuantity
  let macAddress ← optional string
  return { vendor, model, pciAddress, portCount, linkSpeed, macAddress }

def decodeDpuDetails : Decoder DpuDetails := do
  let vendor ← optional string
  let model ← optional string
  let firmwareVersion ← optional string
  let pciAddress ← optional string
  let portCount ← optional u32
  return { vendor, model, firmwareVersion, pciAddress, portCount }

def decodeSwitchDetails : Decoder SwitchDetails := do
  let vendor ← optional string
  let model ← optional string
  let portCount ← optional u32
  let layerIndex ← optional u32
  let linkSpeed ← optional decodeQuantity
  return { vendor, model, portCount, layerIndex, linkSpeed }

def decodeStorageEndpointDetails : Decoder StorageEndpointDetails := do
  let kind ← optionalEnum
  let model ← optional string
  let interfaceName ← optional string
  let capacityBytes ← optional u64
  return { kind, model, interfaceName, capacityBytes }

def decodePowerDomainDetails : Decoder PowerDomainDetails := do
  let kind ← optionalEnum
  let label ← optional string
  return { kind, label }

def decodeCoolingDomainDetails : Decoder CoolingDomainDetails := do
  let kind ← optionalEnum
  let label ← optional string
  return { kind, label }

def decodeDetails : Decoder MemberDetails := do
  match (← u8).toNat with
  | 0 => return .monostate
  | 1 => return .node (← decodeNodeDetails)
  | 2 => return .accelerator (← decodeAcceleratorDetails)
  | 3 => return .cpuPackage (← decodeCpuPackageDetails)
  | 4 => return .memoryDomain (← decodeMemoryDomainDetails)
  | 5 => return .nic (← decodeNicDetails)
  | 6 => return .dpu (← decodeDpuDetails)
  | 7 => return .switch (← decodeSwitchDetails)
  | 8 => return .storageEndpoint (← decodeStorageEndpointDetails)
  | 9 => return .powerDomain (← decodePowerDomainDetails)
  | 10 => return .coolingDomain (← decodeCoolingDomainDetails)
  | _ => fail .invalidEnum

def decodeMemberKey : Decoder MemberKey := do
  let kind ← enum8
  let id ← string
  if (validateIdentity id).ok then return { kind, id } else fail .invalidIdentity

def decodeGenerationSet : Decoder GenerationSet := do
  let rack ← generation
  let membership ← generation
  let topology ← generation
  let failureDomains ← generation
  let constraints ← generation
  let power ← generation
  let cooling ← generation
  let health ← generation
  let capabilities ← generation
  let coordinatorEpoch ← generation
  return { rack, membership, topology, failureDomains, constraints, power, cooling, health,
           capabilities, coordinatorEpoch }

def decodeCapability : Decoder CapabilityRef := do
  let id ← identity
  let observation ← decodeObservation
  let value ← optional string
  return { toObservation := observation, id, value }

def decodeMember : Decoder MemberRecord := do
  let key ← decodeMemberKey
  let lifecycle ← enum8
  let generation ← generation
  let publicationGeneration ← Decoder.generation
  let observation ← decodeObservation
  let revalidationReason ← enum8
  let ownerWorker ← optional identity
  let ownerBoot ← optional identity
  let parent ← optional decodeMemberKey
  let failureDomains ← many (·.maxCollectionItems) identity
  let powerDomain ← optional identity
  let coolingDomain ← optional identity
  let switchDomain ← optional identity
  let health ← decodeEvidence
  let readiness ← decodeEvidence
  let reachability ← decodeEvidence
  let capabilities ← many (·.maxCollectionItems) decodeCapability
  let details ← decodeDetails
  let source ← optional string
  return { toObservation := observation, key, lifecycle, generation, publicationGeneration,
           revalidationReason, ownerWorker, ownerBoot, parent, failureDomains, powerDomain,
           coolingDomain, switchDomain, health, readiness, reachability, capabilities, details,
           source }

def decodeRelationship : Decoder RelationshipRecord := do
  let cls ← enum8
  let source ← decodeMemberKey
  let target ← decodeMemberKey
  let observation ← decodeObservation
  let generation ← generation
  let ownerWorker ← optional identity
  let ownerBoot ← optional identity
  let link ← optional identity
  let capacity ← optional decodeQuantity
  let origin ← optional string
  return { toObservation := observation, key := { cls, source, target }, generation, ownerWorker,
           ownerBoot, link, capacity, source := origin }

def decodeFailureDomain : Decoder FailureDomainRecord := do
  let id ← identity
  let kind ← enum8
  let lifecycle ← enum8
  let parents ← many (·.maxCollectionItems) identity
  let generation ← generation
  let observation ← decodeObservation
  let ownerWorker ← optional identity
  let ownerBoot ← optional identity
  let label ← optional string
  let source ← optional string
  return { toObservation := observation, id, kind, lifecycle, parents, generation, ownerWorker,
           ownerBoot, label, source }

def decodeBudget : Decoder PowerDomainBudget := do
  let domain ← identity
  let limit ← optional decodeQuantity
  let observedDraw ← optional decodeQuantity
  let headroom ← optional decodeQuantity
  return { domain, limit, observedDraw, headroom }

def decodePowerEnvelope : Decoder PowerEnvelopeRecord := do
  let generation ← generation
  let rackLimit ← optional decodeQuantity
  let rackObservedDraw ← optional decodeQuantity
  let rackHeadroom ← optional decodeQuantity
  let domainBudgets ← many (·.maxCollectionItems) decodeBudget
  let observation ← decodeObservation
  let ownerWorker ← optional identity
  let ownerBoot ← optional identity
  let source ← optional string
  return { toObservation := observation, generation, rackLimit, rackObservedDraw, rackHeadroom,
           domainBudgets, ownerWorker, ownerBoot, source }

def decodeZone : Decoder CoolingZoneRecord := do
  let zone ← identity
  let designThermalLimit ← optional decodeQuantity
  let observedTemperature ← optional decodeQuantity
  let coolingCapacity ← optional decodeQuantity
  let thermalHeadroom ← optional decodeQuantity
  let throttling ← optional decodeEvidence
  return { zone, designThermalLimit, observedTemperature, coolingCapacity, thermalHeadroom,
           throttling }

def decodeCoolingEnvelope : Decoder CoolingEnvelopeRecord := do
  let generation ← generation
  let zones ← many (·.maxCollectionItems) decodeZone
  let observation ← decodeObservation
  let ownerWorker ← optional identity
  let ownerBoot ← optional identity
  let source ← optional string
  return { toObservation := observation, generation, zones, ownerWorker, ownerBoot, source }

end RackFabric
