import RackFabric.Model.Evidence
import RackFabric.Model.Generation
import RackFabric.Model.Identity
import RackFabric.Model.Lifecycle

/-! The rack component model. An unknown field is absent, never a default. -/
namespace RackFabric
open Std Enumeration

inductive MemberKind where
  | node | accelerator | cpuPackage | memoryDomain | nic | dpu | switch | storageEndpoint
  | powerDomain | coolingDomain
deriving DecidableEq

instance : Enum8 MemberKind where
  values := [.node, .accelerator, .cpuPackage, .memoryDomain, .nic, .dpu, .switch,
    .storageEndpoint, .powerDomain, .coolingDomain]

instance : Ord MemberKind := ⟨byNumber⟩

instance : TransOrd MemberKind := inferInstanceAs (TransCmp byNumber)

instance : LawfulEqOrd MemberKind := inferInstanceAs (LawfulEqCmp byNumber)

def MemberKind.toStr : MemberKind → Str
  | .node => str "node"
  | .accelerator => str "accelerator"
  | .cpuPackage => str "cpu_package"
  | .memoryDomain => str "memory_domain"
  | .nic => str "nic"
  | .dpu => str "dpu"
  | .switch => str "switch"
  | .storageEndpoint => str "storage_endpoint"
  | .powerDomain => str "power_domain"
  | .coolingDomain => str "cooling_domain"

/-- A kind and an identity text. The text is checked where records enter. -/
structure MemberKey where
  kind : MemberKind := .node
  id : Str := []
deriving DecidableEq, Inhabited

namespace MemberKey

def ofId {tag : IdentityTag} (kind : MemberKind) (id : StrongId tag) : MemberKey :=
  ⟨kind, id.value⟩

def toStr (key : MemberKey) : Str :=
  key.kind.toStr ++ str ":" ++ key.id

instance : Ord MemberKey := ⟨compareLex (compareOn kind) (compareOn id)⟩

instance : TransOrd MemberKey :=
  inferInstanceAs (TransCmp (compareLex (compareOn kind) (compareOn id)))

instance : LawfulEqOrd MemberKey where
  eq_of_compare {left right} h := by
    change compareLex (compareOn kind) (compareOn id) left right = .eq at h
    rw [compareLex_eq_eq] at h
    have hkind : left.kind = right.kind := eq_of_compareOn h.1
    have hid : left.id = right.id := eq_of_compareOn h.2
    cases left
    cases right
    simp_all

end MemberKey

inductive NodeRole where
  | unknown | compute | storage | management | mixed
deriving DecidableEq

instance : Enum8 NodeRole where
  values := [.unknown, .compute, .storage, .management, .mixed]

inductive CpuArchitecture where
  | unknown | x86_64 | aarch64 | riscv64 | other
deriving DecidableEq

instance : Enum8 CpuArchitecture where
  values := [.unknown, .x86_64, .aarch64, .riscv64, .other]

structure NodeDetails where
  hostName : Option Str := none
  role : Option NodeRole := none
  architecture : Option CpuArchitecture := none
  operatingSystem : Option Str := none
  memoryBytes : Option UInt64 := none
  cpuPackageCount : Option UInt32 := none
  logicalCpuCount : Option UInt32 := none
  acceleratorCount : Option UInt32 := none
  nicCount : Option UInt32 := none
  dpuCount : Option UInt32 := none
  worker : Option WorkerId := none
  boot : Option AgentBootId := none
deriving DecidableEq

structure AcceleratorDetails where
  vendor : Option Str := none
  model : Option Str := none
  architecture : Option Str := none
  uuid : Option Str := none
  driverVersion : Option Str := none
  pciAddress : Option Str := none
  memoryBytes : Option UInt64 := none
  computeCapabilityMajor : Option UInt32 := none
  computeCapabilityMinor : Option UInt32 := none
  smCount : Option UInt32 := none
  maxThreadsPerBlock : Option UInt32 := none
  interconnect : Option Str := none
deriving DecidableEq

structure CpuPackageDetails where
  vendor : Option Str := none
  model : Option Str := none
  physicalCores : Option UInt32 := none
  logicalThreads : Option UInt32 := none
  baseClockMhz : Option UInt32 := none
  socketIndex : Option UInt32 := none
  numaNode : Option UInt32 := none
deriving DecidableEq

inductive MemoryKind where
  | unknown | ddr | hbm | lpddr | other
deriving DecidableEq

instance : Enum8 MemoryKind where
  values := [.unknown, .ddr, .hbm, .lpddr, .other]

structure MemoryDomainDetails where
  kind : Option MemoryKind := none
  capacityBytes : Option UInt64 := none
  numaNode : Option UInt32 := none
  bandwidth : Option Quantity := none
deriving DecidableEq

structure NicDetails where
  vendor : Option Str := none
  model : Option Str := none
  pciAddress : Option Str := none
  portCount : Option UInt32 := none
  linkSpeed : Option Quantity := none
  macAddress : Option Str := none
deriving DecidableEq

structure DpuDetails where
  vendor : Option Str := none
  model : Option Str := none
  firmwareVersion : Option Str := none
  pciAddress : Option Str := none
  portCount : Option UInt32 := none
deriving DecidableEq

structure SwitchDetails where
  vendor : Option Str := none
  model : Option Str := none
  portCount : Option UInt32 := none
  layerIndex : Option UInt32 := none
  linkSpeed : Option Quantity := none
deriving DecidableEq

inductive StorageKind where
  | unknown | nvme | sata | sas | network | other
deriving DecidableEq

instance : Enum8 StorageKind where
  values := [.unknown, .nvme, .sata, .sas, .network, .other]

structure StorageEndpointDetails where
  kind : Option StorageKind := none
  model : Option Str := none
  interfaceName : Option Str := none
  capacityBytes : Option UInt64 := none
deriving DecidableEq

inductive PowerDomainKind where
  | unknown | rack | pdu | feed | busway | outlet | other
deriving DecidableEq

instance : Enum8 PowerDomainKind where
  values := [.unknown, .rack, .pdu, .feed, .busway, .outlet, .other]

structure PowerDomainDetails where
  kind : Option PowerDomainKind := none
  label : Option Str := none
deriving DecidableEq

inductive CoolingDomainKind where
  | unknown | rack | zone | row | inlet | crac | other
deriving DecidableEq

instance : Enum8 CoolingDomainKind where
  values := [.unknown, .rack, .zone, .row, .inlet, .crac, .other]

structure CoolingDomainDetails where
  kind : Option CoolingDomainKind := none
  label : Option Str := none
deriving DecidableEq

/-- A `std::variant` whose first alternative is no description at all. -/
inductive MemberDetails where
  | monostate
  | node (details : NodeDetails)
  | accelerator (details : AcceleratorDetails)
  | cpuPackage (details : CpuPackageDetails)
  | memoryDomain (details : MemoryDomainDetails)
  | nic (details : NicDetails)
  | dpu (details : DpuDetails)
  | switch (details : SwitchDetails)
  | storageEndpoint (details : StorageEndpointDetails)
  | powerDomain (details : PowerDomainDetails)
  | coolingDomain (details : CoolingDomainDetails)
deriving DecidableEq

namespace MemberDetails

def memberKind : MemberDetails → Option MemberKind
  | .monostate => none
  | .node _ => some .node
  | .accelerator _ => some .accelerator
  | .cpuPackage _ => some .cpuPackage
  | .memoryDomain _ => some .memoryDomain
  | .nic _ => some .nic
  | .dpu _ => some .dpu
  | .switch _ => some .switch
  | .storageEndpoint _ => some .storageEndpoint
  | .powerDomain _ => some .powerDomain
  | .coolingDomain _ => some .coolingDomain

/-- An empty detail record matches every kind. -/
def matchesKind (details : MemberDetails) (kind : MemberKind) : Bool :=
  match details.memberKind with
  | none => true
  | some matched => matched = kind

/-- The defaulted `operator==`, which compares quantities as doubles. -/
def operatorEq : MemberDetails → MemberDetails → Bool
  | .memoryDomain left, .memoryDomain right =>
      optionEq Quantity.operatorEq left.bandwidth right.bandwidth &&
        { left with bandwidth := none } = { right with bandwidth := none }
  | .nic left, .nic right =>
      optionEq Quantity.operatorEq left.linkSpeed right.linkSpeed &&
        { left with linkSpeed := none } = { right with linkSpeed := none }
  | .switch left, .switch right =>
      optionEq Quantity.operatorEq left.linkSpeed right.linkSpeed &&
        { left with linkSpeed := none } = { right with linkSpeed := none }
  | left, right => left = right

end MemberDetails

/-- A capability reference published as evidence about a member. -/
structure CapabilityRef extends Observation where
  id : CapabilityId := default
  value : Option Str := none
deriving DecidableEq

structure MemberRecord extends Observation where
  key : MemberKey := {}
  lifecycle : MemberLifecycle := .unknown
  generation : MemberGeneration := {}
  publicationGeneration : PublicationGeneration := {}
  revalidationReason : RevalidationReason := .none
  ownerWorker : Option WorkerId := none
  ownerBoot : Option AgentBootId := none
  parent : Option MemberKey := none
  failureDomains : List FailureDomainId := []
  powerDomain : Option PowerDomainId := none
  coolingDomain : Option CoolingDomainId := none
  switchDomain : Option SwitchId := none
  health : EvidenceValue HealthState := {}
  readiness : EvidenceValue ReadinessState := {}
  reachability : EvidenceValue ReachabilityState := {}
  capabilities : List CapabilityRef := []
  details : MemberDetails := .monostate
  source : Option Str := none
deriving DecidableEq

end RackFabric
