import RackFabric.Model.Agent
import RackFabric.Model.Synthetic

/-! Discovery of the local hardware. What the platform answers is a parameter; a fact that
it does not expose is reported as unsupported. -/
namespace RackFabric

inductive ProcessorArchitecture where
  | amd64 | arm64 | intel | other
deriving DecidableEq

inductive ProcessorRelationship where
  | processorPackage | numaNode | other
deriving DecidableEq

/-- An entry of a processor topology. The next one begins after its size. -/
structure ProcessorEntry where
  relationship : ProcessorRelationship
  size : UInt32
  groupCount : UInt16 := 0

/-- What `GetLogicalProcessorInformationEx` answers for one relationship. -/
inductive ProcessorTopology where
  | failed
  | unreadable
  | entries (found : List ProcessorEntry)

inductive InterfaceType where
  | softwareLoopback | tunnel | other
deriving DecidableEq

structure AdapterEntry where
  ifType : InterfaceType := .other
  description : Str := []
  transmitLinkSpeed : UInt64 := 0
  physicalAddress : List UInt8 := []

inductive AdaptersAnswer where
  | found (adapters : List AdapterEntry)
  | bufferOverflow
  | failed

/-- Each place where discovery reads the clock. -/
inductive ClockReading where
  | failureDomain | node | reachability | agentCapability | numaCapability
  | cpuPackage (index : Nat) | memoryDomain (index : Nat) | nic (index : Nat)
  | linkSpeed (index : Nat)

structure Platform where
  /-- Empty when the platform does not tell. -/
  hostName : Str := []
  physicalMemoryBytes : Option UInt64 := none
  processorArchitecture : ProcessorArchitecture := .other
  numberOfProcessors : UInt32 := 1
  processorPackages : ProcessorTopology := .failed
  numaNodes : ProcessorTopology := .failed
  adapters : AdaptersAnswer := .failed
  /-- The answer to a second call, with a larger buffer. -/
  adaptersAgain : AdaptersAnswer := .failed
  productName : Option Str := none
  currentBuildNumber : Option Str := none
  clock : ClockReading → Timestamp

structure HardwareDiscoveryOptions where
  node : Option Str := none
  worker : Option WorkerId := none
  boot : Option AgentBootId := none
  includeCpu : Bool := true
  includeMemory : Bool := true
  includeNics : Bool := true
  includeStorage : Bool := true
  includeAccelerators : Bool := true
  includePciDevices : Bool := true
  ttl : Millis := 30000
  durability : Durability := .ephemeral
  sourceLabel : Str := str "hardware:local"
  nodeFailureDomain : FailureDomainId := default

structure HardwareDiscoveryResult where
  ok : Bool := false
  members : List MemberRecord := []
  failureDomains : List FailureDomainRecord := []
  unsupported : List Str := []
  diagnostics : List Str := []
  hostLabel : Str := []
  explanation : Explanation

/-- The same as the agent makes of a host name. -/
def identityFromLabel (label : Str) : Str := sanitize label

def nativeArchitecture : ProcessorArchitecture → Option CpuArchitecture
  | .amd64 => some .x86_64
  | .arm64 => some .aarch64
  | .intel => some .x86_64
  | .other => none

def osDescription (platform : Platform) : Option Str :=
  if platform.productName.isNone ∧ platform.currentBuildNumber.isNone then none
  else
    some (platform.productName.getD (str "Microsoft Windows") ++
      (match platform.currentBuildNumber with
        | none => []
        | some build => str " build " ++ build))

namespace Discovery

/-- An entry without a size ends the topology. -/
def walk : List ProcessorEntry → List ProcessorEntry
  | [] => []
  | entry :: rest => if entry.size = 0 then [entry] else entry :: walk rest

def entriesOf : ProcessorTopology → List ProcessorEntry
  | .entries found => walk found
  | _ => []

/-- The relationship in the text is the number that the platform gives it. -/
def unreadTopology (relationship : String) : ProcessorTopology → List Str
  | .failed =>
      [str ("logical-processors: GetLogicalProcessorInformationEx failed for " ++
        "relationship " ++ relationship)]
  | .unreadable => [str "logical-processors: the processor topology could not be read"]
  | .entries _ => []

/-- A lower-case hexadecimal digit. -/
def kHex (value : UInt8) : UInt8 :=
  if value < 10 then 0x30 + value else 0x57 + value

def macAddress (address : List UInt8) : Str :=
  (str ":").intercalate (address.map fun byte : UInt8 => [kHex (byte >>> 4), kHex (byte &&& 0x0F)])

/-- The value of a `ULONG64` as a double, over a thousand million. -/
def gigabits (bitsPerSecond : UInt64) : Double :=
  ⟨((Float.Model.ofNat bitsPerSecond.toNat).div (Float.Model.ofNat 1000000000)).toBits⟩

section
variable (platform : Platform) (options : HardwareDiscoveryOptions)

/-! What the platform reports about its parts. -/

def reached : List ProcessorEntry :=
  entriesOf platform.processorPackages ++ entriesOf platform.numaNodes

def packages : List ProcessorEntry :=
  (reached platform).filter (·.relationship = .processorPackage)

def packageCount : UInt32 := .ofNat (packages platform).length

def numaNodeCount : UInt32 :=
  .ofNat ((reached platform).countP (·.relationship = .numaNode))

def adapters : Option (List AdapterEntry) :=
  match platform.adapters with
  | .found adapters => some adapters
  | .failed => none
  | .bufferOverflow =>
      match platform.adaptersAgain with
      | .found adapters => some adapters
      | _ => none

/-- Loopback and tunnel interfaces are no adapters of the node. -/
def physicalAdapters (adapters : List AdapterEntry) : List AdapterEntry :=
  adapters.filter fun adapter => adapter.ifType ≠ .softwareLoopback ∧ adapter.ifType ≠ .tunnel

/-! Records. -/

def measured (reading : ClockReading) : Observation where
  provenance := .measured
  observedAt := platform.clock reading
  ttl := options.ttl
  durability := options.durability

def baseMember (kind : MemberKind) (id : Str) (reading : ClockReading) : MemberRecord where
  toObservation := measured platform options reading
  key := ⟨kind, id⟩
  lifecycle := .present
  source := some options.sourceLabel
  ownerWorker := options.worker
  ownerBoot := options.boot
  failureDomains := [options.nodeFailureDomain]

/-- A member inside the node, in the failure domain of the node. -/
def partOf (nodeIdText : Str) (nodeDomain : FailureDomainId) (kind : MemberKind) (id : Str)
    (reading : ClockReading) (details : MemberDetails) : MemberRecord :=
  { baseMember platform options kind id reading with
    parent := some ⟨.node, nodeIdText⟩
    failureDomains := [nodeDomain]
    details := details }

def failureDomain (nodeDomain : FailureDomainId) : FailureDomainRecord where
  toObservation := measured platform options .failureDomain
  id := nodeDomain
  kind := .node
  lifecycle := .present
  label := some (str "local node failure domain")

/-- The counters of the source are 32 bits wide. -/
def number (index : Nat) : UInt32 := .ofNat (index + 1)

def cpuPackage (nodeIdText : Str) (nodeDomain : FailureDomainId) (index : Nat)
    (entry : ProcessorEntry) : MemberRecord :=
  partOf platform options nodeIdText nodeDomain .cpuPackage
    (nodeIdText ++ str "-cpu-" ++ decimal (number index).toNat) (.cpuPackage index)
    (.cpuPackage
      { socketIndex := some (number index - 1)
        logicalThreads := some entry.groupCount.toUInt32 })

def memoryDomain (nodeIdText : Str) (nodeDomain : FailureDomainId) (index : Nat) :
    MemberRecord :=
  partOf platform options nodeIdText nodeDomain .memoryDomain
    (nodeIdText ++ str "-numa-" ++ decimal index) (.memoryDomain index)
    (.memoryDomain { numaNode := some (.ofNat index) })

def linkSpeed (index : Nat) (adapter : AdapterEntry) : Option Quantity :=
  if 0 < adapter.transmitLinkSpeed then
    some { measured platform options (.linkSpeed index) with
      value := gigabits adapter.transmitLinkSpeed, unit := .gigabitsPerSecond }
  else none

def nic (nodeIdText : Str) (nodeDomain : FailureDomainId) (index : Nat)
    (adapter : AdapterEntry) : MemberRecord :=
  partOf platform options nodeIdText nodeDomain .nic
    (nodeIdText ++ str "-nic-" ++ decimal (number index).toNat) (.nic index)
    (.nic
      { model := some adapter.description
        portCount := some 1
        linkSpeed := linkSpeed platform options index adapter
        macAddress :=
          if adapter.physicalAddress.length = 6 then some (macAddress adapter.physicalAddress)
          else none })

/-! The parts of the node. -/

def cpuPackages (nodeIdText : Str) (nodeDomain : FailureDomainId) : List MemberRecord :=
  (packages platform).zipIdx.map fun (entry, index) =>
    cpuPackage platform options nodeIdText nodeDomain index entry

def memoryDomains (nodeIdText : Str) (nodeDomain : FailureDomainId) : List MemberRecord :=
  if options.includeMemory then
    (List.range (numaNodeCount platform).toNat).map
      (memoryDomain platform options nodeIdText nodeDomain)
  else []

def nics (nodeIdText : Str) (nodeDomain : FailureDomainId) : List MemberRecord :=
  if options.includeNics then
    match adapters platform with
    | none => []
    | some adapters =>
        (physicalAdapters adapters).zipIdx.map fun (adapter, index) =>
          nic platform options nodeIdText nodeDomain index adapter
  else []

/-- A capability that discovery has measured. -/
def capability (id : String) (reading : ClockReading) (value : Str) : CapabilityRef :=
  { measured platform options reading with id := .ofText (str id), value := some value }

def capabilities : List CapabilityRef :=
  capability platform options "rack-fabric-agent" .agentCapability kVersionString ::
    if 0 < numaNodeCount platform then
      [capability platform options "numa-nodes" .numaCapability
        (decimal (numaNodeCount platform).toNat)]
    else []

def nodeDetails : NodeDetails where
  hostName := if platform.hostName = [] then none else some platform.hostName
  role := some .compute
  architecture := nativeArchitecture platform.processorArchitecture
  operatingSystem := osDescription platform
  memoryBytes := platform.physicalMemoryBytes
  cpuPackageCount :=
    if 0 < packageCount platform then some (packageCount platform) else none
  logicalCpuCount := some platform.numberOfProcessors
  nicCount :=
    if options.includeNics then
      (adapters platform).map fun adapters => .ofNat (physicalAdapters adapters).length
    else none

def node (nodeIdText : Str) (nodeDomain : FailureDomainId) : MemberRecord :=
  { baseMember platform options .node nodeIdText .node with
    failureDomains := [nodeDomain]
    reachability := { measured platform options .reachability with value := .reachable }
    capabilities := capabilities platform options
    details := .node (nodeDetails platform options) }

def members (nodeIdText : Str) (nodeDomain : FailureDomainId) : List MemberRecord :=
  Synthetic.sortBy (·.key)
    (node platform options nodeIdText nodeDomain ::
      (cpuPackages platform options nodeIdText nodeDomain ++
        memoryDomains platform options nodeIdText nodeDomain ++
        nics platform options nodeIdText nodeDomain))

/-! Facts that are not exposed. -/

def unlessKnown {α : Type} (fact : Option α) (text : String) : List Str :=
  if fact.isSome then [] else [str text]

def whenAsked (asked : Bool) (text : String) : List Str :=
  if asked then [str text] else []

def unsupported : List Str :=
  unlessKnown platform.physicalMemoryBytes
    "physical-memory: the platform did not report total memory" ++
  unlessKnown (nativeArchitecture platform.processorArchitecture)
    "cpu-architecture: unrecognized processor architecture" ++
  unreadTopology "3" platform.processorPackages ++
  unreadTopology "1" platform.numaNodes ++
  whenAsked (packageCount platform = 0 && options.includeCpu)
    "cpu-packages: no processor package topology was reported" ++
  whenAsked options.includeMemory
    (if 0 < numaNodeCount platform then
      "memory-capacity-per-numa-node: the platform did not report per-node capacity"
    else "memory-domains: no NUMA topology was reported") ++
  (if options.includeNics then
    unlessKnown (adapters platform) "network-adapters: GetAdaptersAddresses failed"
  else [str "network-adapters: discovery disabled by configuration"]) ++
  whenAsked options.includeStorage
    ("storage-endpoints: this platform build does not enumerate storage endpoints; the fact " ++
      "remains unknown rather than being inferred from mounted volumes") ++
  whenAsked options.includePciDevices
    ("pci-devices: this platform build does not enumerate PCI devices; accelerator discovery " ++
      "is reported by the CUDA evidence module when it is available") ++
  whenAsked options.includeAccelerators
    ("accelerators: no accelerator evidence was produced by local hardware discovery; use the " ++
      "CUDA evidence module for a measured accelerator proof") ++
  unlessKnown (osDescription platform) "operating-system: the platform did not report a version"

def nodeIdText : Str :=
  identityFromLabel
    (options.node.getD (if platform.hostName = [] then str "local" else platform.hostName))

end

end Discovery

open Discovery in
/-- Nothing when an empty optional is dereferenced: the name of a failure domain is longer
than that of its node. -/
def discoverLocalHardware (platform : Platform) (options : HardwareDiscoveryOptions) :
    Option HardwareDiscoveryResult :=
  let nodeIdText := nodeIdText platform options
  if !(validateIdentity nodeIdText).ok then
    some {
      hostLabel := platform.hostName
      explanation := .failure (str "DISCOVERY_INVALID_NODE_IDENTITY") nodeIdText
        [factor "DISCOVERY_INVALID_NODE_IDENTITY"
          "the node identity derived from the host name is not valid"] }
  else
    let named : Option (FailureDomainId × List FailureDomainRecord) :=
      if options.nodeFailureDomain.isSet then some (options.nodeFailureDomain, [])
      else (StrongId.parse (str "fd-node-" ++ nodeIdText)).map fun domain =>
        (domain, [failureDomain platform options domain])
    named.map fun (nodeDomain, failureDomains) =>
      let unsupported := unsupported platform options
      { ok := true
        members := members platform options nodeIdText nodeDomain
        failureDomains := failureDomains
        unsupported := unsupported
        hostLabel := platform.hostName
        explanation :=
          { ok := true, code := str "HARDWARE_DISCOVERY_COMPLETE", subject := nodeIdText
            factors :=
              { code := str "DISCOVERY_UNSUPPORTED_COUNT"
                detail := decimal unsupported.length } ::
              unsupported.map fun item =>
                { code := str "DISCOVERY_UNSUPPORTED", detail := item } } }

end RackFabric
