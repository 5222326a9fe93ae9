import RackFabric.Library.Draining
import RackFabric.Model.Administer
import RackFabric.Model.Publish

/-! The synthetic rack laboratory: racks of a configured shape, and their publication. -/
namespace RackFabric
open Std

/-- `std::mt19937_64` and the distributions of the standard library. -/
structure RandomEngine where
  State : Type
  seeded : UInt64 → State
  uniformReal : StateM State Double
  uniformInt : Nat → Nat → StateM State Nat

structure SyntheticRackConfig where
  seed : UInt64 := 1
  rack : Option RackId := none
  rackEpoch : Option RackEpochId := none
  nodeCount : Nat := 8
  minAcceleratorsPerNode : Nat := 0
  maxAcceleratorsPerNode : Nat := 4
  minNicsPerNode : Nat := 1
  maxNicsPerNode : Nat := 2
  dpuCount : Nat := 0
  switchCount : Nat := 2
  storageEndpointCount : Nat := 2
  powerDomainCount : Nat := 2
  coolingDomainCount : Nat := 2
  cpuPackagesPerNode : Nat := 2
  memoryDomainsPerNode : Nat := 2
  -- 0.35, 0.15, 0.05 and 0.1
  heterogeneity : Double := ⟨0x3FD6666666666666⟩
  missingEvidence : Double := ⟨0x3FC3333333333333⟩
  degradedFraction : Double := ⟨0x3FA999999999999A⟩
  missingLinks : Double := ⟨0x3FB999999999999A⟩
  syntheticAcceleratorPeerLinks : Bool := false
  includePowerEnvelope : Bool := true
  includeCoolingEnvelope : Bool := true

structure SyntheticRack where
  rack : RackId
  rackEpoch : RackEpochId
  members : List MemberRecord
  relationships : List RelationshipRecord
  failureDomains : List FailureDomainRecord
  power : Option PowerEnvelopeRecord
  cooling : Option CoolingEnvelopeRecord

namespace Synthetic

def syntheticTime : Timestamp := ⟨1700000000000⟩

/-- What every synthetic record says about itself. -/
def syntheticObservation : Observation where
  provenance := .synthetic
  observedAt := syntheticTime
  ttl := 0
  durability := .durable

def syntheticQuantity (value : Double) (unit : QuantityUnit) : Quantity :=
  { syntheticObservation with value := value, unit := unit }

def syntheticEvidence {α : Type} [Inhabited α] (value : α) : EvidenceValue α :=
  { syntheticObservation with value := value }

def baseMember (kind : MemberKind) (id : Str) (source : String) : MemberRecord :=
  { syntheticObservation with
    key := ⟨kind, id⟩
    lifecycle := .present
    health := syntheticEvidence .healthy
    readiness := syntheticEvidence .ready
    reachability := syntheticEvidence .reachable
    source := some (str source) }

def relationship (cls : RelationshipClass) (source target : MemberKey) (origin : String) :
    RelationshipRecord :=
  { syntheticObservation with
    key := .canonicalize cls source target
    source := some (str origin) }

def domain (id : Str) (kind : FailureDomainKind) (parents : List FailureDomainId)
    (label : String) : FailureDomainRecord :=
  { syntheticObservation with
    id := .ofText id
    kind := kind
    lifecycle := .present
    parents := parents
    label := some (str label) }

def indexName (text : String) (index : Nat) : Str :=
  str text ++ str "-" ++ decimal index

def nestedName (text : String) (outer inner : Nat) : Str :=
  str text ++ str "-" ++ decimal outer ++ str "-" ++ decimal inner

/-! The random choices, in the order in which they are drawn. -/

structure NodeChoices where
  heterogeneous : Bool
  missing : Bool
  degraded : Bool
  /-- For each accelerator, whether its PCI address is known. -/
  addressed : List Bool
  nics : Nat

section Draws
variable (engine : RandomEngine) (config : SyntheticRackConfig)

def pick (low high : Nat) : StateM engine.State Nat :=
  if high ≤ low then pure low else engine.uniformInt low high

def drawNode : StateM engine.State NodeChoices := do
  let heterogeneous ← engine.uniformReal
  let missing ← engine.uniformReal
  let degraded ← engine.uniformReal
  let accelerators ← pick engine config.minAcceleratorsPerNode config.maxAcceleratorsPerNode
  let addresses ← (List.range accelerators).mapM fun _ => engine.uniformReal
  let nics ← pick engine config.minNicsPerNode config.maxNicsPerNode
  return {
    heterogeneous := heterogeneous.lt config.heterogeneity
    missing := missing.lt config.missingEvidence
    degraded := degraded.lt config.degradedFraction
    addressed := addresses.map fun address => address.ge config.missingEvidence
    nics := nics }

/-- Whether each node is linked to its switch. Without switches nothing is drawn. -/
def drawLinks : StateM engine.State (List Bool) :=
  if config.switchCount = 0 then pure []
  else (List.range config.nodeCount).mapM fun _ => do
    let missing ← engine.uniformReal
    return !missing.lt config.missingLinks

def drawRack : StateM engine.State (List NodeChoices × List Bool) := do
  let nodes ← (List.range config.nodeCount).mapM fun _ => drawNode engine config
  let links ← drawLinks engine config
  return (nodes, links)

end Draws

section Rack
variable (config : SyntheticRackConfig)

/-! Failure domains. -/

def rackDomain : FailureDomainId := .ofText (str "fd-rack")

def nodeDomain (n : Nat) : FailureDomainId := .ofText (indexName "fd-node" n)

def chassisDomain (n : Nat) : FailureDomainId := .ofText (indexName "fd-chassis" (n / 2))

/-- The even nodes that another node follows. -/
def chassisNodes : List Nat :=
  (List.range config.nodeCount).filter fun n => n % 2 = 0 ∧ n + 1 < config.nodeCount

def failureDomains : List FailureDomainRecord :=
  [domain (str "fd-rack") .rack [] "synthetic rack failure domain"] ++
  (List.range config.powerDomainCount).map (fun p =>
    domain (indexName "fd-power" p) .pdu [rackDomain] "synthetic power feed domain") ++
  (List.range config.coolingDomainCount).map (fun c =>
    domain (indexName "fd-cooling" c) .coolingZone [rackDomain] "synthetic cooling zone") ++
  (List.range config.switchCount).map (fun s =>
    domain (indexName "fd-switch" s) .switch [rackDomain] "synthetic switch domain") ++
  (List.range config.nodeCount).map (fun n =>
    domain (indexName "fd-node" n) .node [rackDomain] "synthetic node domain") ++
  (chassisNodes config).map (fun n =>
    domain (indexName "fd-chassis" (n / 2)) .chassis [rackDomain] "synthetic chassis domain")

/-! Members. -/

def powerDomain (p : Nat) : PowerDomainId := .ofText (indexName "pdu" p)

def coolingDomain (c : Nat) : CoolingDomainId := .ofText (indexName "cooling" c)

/-- The power domain that the node is fed by. There is at least one. -/
def powerDomainOf (n : Nat) : PowerDomainId := powerDomain (n % config.powerDomainCount)

def coolingDomainOf (n : Nat) : CoolingDomainId := coolingDomain (n % config.coolingDomainCount)

def powerMember (p : Nat) : MemberRecord :=
  { baseMember .powerDomain (indexName "pdu" p) "synthetic:power" with
    details := .powerDomain
      { kind := some .pdu, label := some (str "synthetic PDU " ++ decimal p) }
    failureDomains := [.ofText (indexName "fd-power" p)] }

def coolingMember (c : Nat) : MemberRecord :=
  { baseMember .coolingDomain (indexName "cooling" c) "synthetic:cooling" with
    details := .coolingDomain
      { kind := some .zone, label := some (str "synthetic cooling zone " ++ decimal c) }
    failureDomains := [.ofText (indexName "fd-cooling" c)] }

def nodeKey (n : Nat) : MemberKey := ⟨.node, indexName "node" n⟩

def architecture (n : Nat) : CpuArchitecture :=
  match n % 4 with
  | 0 => .x86_64
  | 1 => .aarch64
  | 2 => .riscv64
  | _ => .other

def nodeDetails (n : Nat) (choices : NodeChoices) : NodeDetails where
  hostName := some (indexName "node" n ++ str ".synthetic.invalid")
  role := some (if choices.heterogeneous then .mixed else .compute)
  architecture := some (architecture n)
  operatingSystem :=
    some (str (if choices.heterogeneous then "synthetic-os-b" else "synthetic-os-a"))
  memoryBytes := some ((512 : UInt64) <<< 30)
  cpuPackageCount := some (.ofNat config.cpuPackagesPerNode)
  logicalCpuCount := some (.ofNat (config.cpuPackagesPerNode * 64))

/-- The node with all its evidence. -/
def evidentNode (n : Nat) (choices : NodeChoices) : MemberRecord :=
  { baseMember .node (indexName "node" n) "synthetic:node" with
    details := .node (nodeDetails config n choices)
    failureDomains := [rackDomain, nodeDomain n] ++
      if n + 1 < config.nodeCount then [chassisDomain n] else []
    powerDomain := some (powerDomainOf config n)
    coolingDomain := some (coolingDomainOf config n) }

/-- Partial evidence: the identity is declared and nothing is observed about it. -/
def withoutEvidence (node : MemberRecord) : MemberRecord :=
  { node with
    lifecycle := .declared, provenance := .unknown, observedAt := .unknown
    health := {}, readiness := {}, reachability := {} }

def degraded (node : MemberRecord) : MemberRecord :=
  { node with health := syntheticEvidence .degraded, readiness := syntheticEvidence .notReady }

def nodeMember (n : Nat) (choices : NodeChoices) : MemberRecord :=
  let node := evidentNode config n choices
  if choices.missing then withoutEvidence node
  else if choices.degraded then degraded node
  else node

/-- A member inside a node. -/
def nodePart (kind : MemberKind) (id : Str) (source : String) (n : Nat) (details : MemberDetails) :
    MemberRecord :=
  { baseMember kind id source with
    details := details, parent := some (nodeKey n), failureDomains := [nodeDomain n] }

/-- A member inside a node that is fed and cooled with it. -/
def suppliedPart (kind : MemberKind) (id : Str) (source : String) (n : Nat)
    (details : MemberDetails) : MemberRecord :=
  { nodePart kind id source n details with
    powerDomain := some (powerDomainOf config n)
    coolingDomain := some (coolingDomainOf config n) }

def vendor (choices : NodeChoices) : Str :=
  str (if choices.heterogeneous then "vendor-b" else "vendor-a")

def cpuMember (n : Nat) (choices : NodeChoices) (k : Nat) : MemberRecord :=
  let physicalCores : UInt32 := 32 + .ofNat k * 8
  suppliedPart config .cpuPackage (nestedName "cpu" n k) "synthetic:cpu" n
    (.cpuPackage
      { vendor := some (vendor choices)
        model := some (str "synthetic-cpu")
        physicalCores := some physicalCores
        logicalThreads := some (physicalCores * 2)
        baseClockMhz := some (2400 + .ofNat k * 100)
        socketIndex := some (.ofNat k)
        numaNode := some (.ofNat k) })

def memoryMember (n : Nat) (choices : NodeChoices) (m : Nat) : MemberRecord :=
  nodePart .memoryDomain (nestedName "mem" n m) "synthetic:memory" n
    (.memoryDomain
      { kind := some (if choices.heterogeneous ∧ m = 1 then .hbm else .ddr)
        capacityBytes := some ((256 : UInt64) <<< 30)
        numaNode := some (.ofNat m)
        -- 204.8
        bandwidth := some (syntheticQuantity ⟨0x406999999999999A⟩ .gigabitsPerSecond) })

def acceleratorKey (n a : Nat) : MemberKey := ⟨.accelerator, nestedName "acc" n a⟩

def acceleratorVendor (index : Nat) : Str :=
  match index % 4 with
  | 0 => str "nvidia"
  | 1 => str "amd"
  | 2 => str "intel"
  | _ => str "other"

def acceleratorMember (n a : Nat) (addressed : Bool) : MemberRecord :=
  { suppliedPart config .accelerator (nestedName "acc" n a) "synthetic:accelerator" n
      (.accelerator
        { vendor := some (acceleratorVendor (n + a))
          model := some (str "synthetic-accelerator-" ++ decimal a)
          architecture := some (str "synthetic-arch")
          memoryBytes := some ((80 : UInt64) <<< 30)
          computeCapabilityMajor := some 9
          computeCapabilityMinor := some 0
          smCount := some 128
          maxThreadsPerBlock := some 1024
          pciAddress :=
            if addressed then some (str "0000:0" ++ decimal a ++ str ":00.0") else none })
    with
    capabilities := [{ syntheticObservation with
      id := .ofText (str "compute-capability-9.0"), value := some (str "9.0") }] }

/-- 100, 200, 300 or 400. -/
def nicSpeed (n : Nat) : Double :=
  match n % 4 with
  | 0 => ⟨0x4059000000000000⟩
  | 1 => ⟨0x4069000000000000⟩
  | 2 => ⟨0x4072C00000000000⟩
  | _ => ⟨0x4079000000000000⟩

def nicMember (n : Nat) (choices : NodeChoices) (i : Nat) : MemberRecord :=
  suppliedPart config .nic (nestedName "nic" n i) "synthetic:nic" n
    (.nic
      { vendor := some (vendor choices)
        model := some (str "synthetic-nic")
        portCount := some 2
        linkSpeed := some (syntheticQuantity (nicSpeed n) .gigabitsPerSecond) })

def dpuMember (n : Nat) : MemberRecord :=
  nodePart .dpu (nestedName "dpu" n 0) "synthetic:dpu" n
    (.dpu
      { vendor := some (str "vendor-d"), model := some (str "synthetic-dpu")
        portCount := some 2 })

def storageMember (n : Nat) (choices : NodeChoices) : MemberRecord :=
  nodePart .storageEndpoint (indexName "storage" n) "synthetic:storage" n
    (.storageEndpoint
      { kind := some (if choices.heterogeneous then .nvme else .sata)
        model := some (str "synthetic-storage")
        capacityBytes := some ((4 : UInt64) <<< 40) })

/-- A node and what it contains. -/
def nodeMembers (n : Nat) (choices : NodeChoices) : List MemberRecord :=
  [nodeMember config n choices] ++
  (List.range config.cpuPackagesPerNode).map (cpuMember config n choices) ++
  (List.range config.memoryDomainsPerNode).map (memoryMember n choices) ++
  choices.addressed.zipIdx.map (fun (addressed, a) => acceleratorMember config n a addressed) ++
  (List.range choices.nics).map (nicMember config n choices) ++
  (if n < config.dpuCount then [dpuMember n] else []) ++
  (if n < config.storageEndpointCount then [storageMember n choices] else [])

def switchKey (s : Nat) : MemberKey := ⟨.switch, indexName "switch" s⟩

def switchMember (s : Nat) : MemberRecord :=
  { baseMember .switch (indexName "switch" s) "synthetic:switch" with
    details := .switch
      { vendor := some (str (if s % 2 = 0 then "vendor-a" else "vendor-c"))
        model := some (str "synthetic-switch")
        portCount := some 64
        layerIndex := some (.ofNat (s % 2))
        -- 400.0
        linkSpeed := some (syntheticQuantity ⟨0x4079000000000000⟩ .gigabitsPerSecond) }
    failureDomains := [.ofText (indexName "fd-switch" s)] }

variable (nodes : List NodeChoices) (links : List Bool)

def members : List MemberRecord :=
  (List.range config.powerDomainCount).map powerMember ++
  (List.range config.coolingDomainCount).map coolingMember ++
  nodes.zipIdx.flatMap (fun (choices, n) => nodeMembers config n choices) ++
  (List.range config.switchCount).map switchMember

/-! Relationships. -/

/-- The links of a node that is linked to its switch. -/
def nodeLinks (n : Nat) (linked : Bool) : List RelationshipRecord :=
  let sw := switchKey (n % config.switchCount)
  if linked then
    [relationship .connectedTo (nodeKey n) sw "synthetic:topology",
     relationship .reachableThrough (nodeKey n) sw "synthetic:topology"]
  else []

def storageLinks (n : Nat) (choices : NodeChoices) : List RelationshipRecord :=
  (List.range choices.addressed.length).map fun a =>
    relationship .storageLocal (nodeKey n) (acceleratorKey n a) "synthetic:topology"

/-- Each accelerator of a node is linked to the next one. -/
def peerLinks (n : Nat) (choices : NodeChoices) : List RelationshipRecord :=
  (List.range (choices.addressed.length - 1)).map fun a =>
    relationship .acceleratorPeer (acceleratorKey n a) (acceleratorKey n (a + 1))
      "synthetic:peer-link"

def relationships : List RelationshipRecord :=
  links.zipIdx.flatMap (fun (linked, n) => nodeLinks config n linked) ++
  nodes.zipIdx.flatMap (fun (choices, n) => storageLinks n choices) ++
  if config.syntheticAcceleratorPeerLinks then
    nodes.zipIdx.flatMap (fun (choices, n) => peerLinks n choices)
  else []

/-! Envelopes. The values are 40000, 22000, 20000, 11000, 27.5 and 24000. -/

def powerEnvelope : PowerEnvelopeRecord :=
  { syntheticObservation with
    rackLimit := some (syntheticQuantity ⟨0x40E3880000000000⟩ .watts)
    rackObservedDraw := some (syntheticQuantity ⟨0x40D57C0000000000⟩ .watts)
    domainBudgets := (List.range config.powerDomainCount).map fun p =>
      { domain := powerDomain p
        limit := some (syntheticQuantity ⟨0x40D3880000000000⟩ .watts)
        observedDraw := some (syntheticQuantity ⟨0x40C57C0000000000⟩ .watts) }
    source := some (str "synthetic:power-envelope") }

def coolingEnvelope : CoolingEnvelopeRecord :=
  { syntheticObservation with
    zones := (List.range config.coolingDomainCount).map fun c =>
      { zone := coolingDomain c
        designThermalLimit := some (syntheticQuantity ⟨0x40D3880000000000⟩ .watts)
        observedTemperature := some (syntheticQuantity ⟨0x403B800000000000⟩ .celsius)
        coolingCapacity := some (syntheticQuantity ⟨0x40D7700000000000⟩ .watts)
        throttling := some (syntheticEvidence .none) }
    source := some (str "synthetic:cooling-envelope") }

/-- `std::sort` by the key of a record. No two records of a rack share their key, so the
sort need not be stable. -/
def sortBy {ρ κ : Type} [Ord κ] (keyOf : ρ → κ) (records : List ρ) : List ρ :=
  records.insertionSort fun left right => (compare (keyOf left) (keyOf right)).isLE

def rackOf : SyntheticRack where
  rack := config.rack.getD (.ofText (str "synth-rack"))
  rackEpoch := config.rackEpoch.getD (.ofText (str "synth-epoch"))
  members := sortBy (·.key) (members config nodes)
  relationships := sortBy (·.key) (relationships config nodes links)
  failureDomains := sortBy (·.id) (failureDomains config)
  power := if config.includePowerEnvelope then some (powerEnvelope config) else none
  cooling := if config.includeCoolingEnvelope then some (coolingEnvelope config) else none

end Rack

end Synthetic

def generateSyntheticRack (engine : RandomEngine) (config : SyntheticRackConfig) :
    SyntheticRack :=
  let choices := (Synthetic.drawRack engine config (engine.seeded config.seed)).1
  Synthetic.rackOf config choices.1 choices.2

/-! Publication. -/

structure SyntheticPublishSummary where
  membersAccepted : Nat := 0
  relationshipsAccepted : Nat := 0
  failureDomainsAccepted : Nat := 0
  rejections : List MutationResult := []

namespace Synthetic

/-- The fabric in between, and what has come of the mutations so far. -/
structure Publishing where
  fabric : RackState
  summary : SyntheticPublishSummary := {}

/-- Submits one mutation: an acceptance is counted, any other result is kept. -/
def Publishing.submit (counted : SyntheticPublishSummary → SyntheticPublishSummary)
    (mutate : RackState → RackState × MutationResult) (publishing : Publishing) : Publishing :=
  let (fabric, result) := mutate publishing.fabric
  { fabric := fabric
    summary :=
      if result.outcome.isAccepted then counted publishing.summary
      else { publishing.summary with rejections := publishing.summary.rejections ++ [result] } }

section Pending
variable {ρ κ : Type} [Ord κ] [TransOrd κ]
  (counted : SyntheticPublishSummary → SyntheticPublishSummary)
  (publish : RackState → ρ → RackState × MutationResult) (keyOf : ρ → κ) (needs : ρ → List κ)

/-- A publication that is accepted enters the published keys. -/
def submitPending (progress : Publishing × ExtTreeSet κ) (record : ρ) :
    Publishing × ExtTreeSet κ :=
  (progress.1.submit counted (publish · record),
    if (publish progress.1.fabric record).2.outcome.isAccepted then progress.2.insert (keyOf record)
    else progress.2)

/-- Publishes what each record needs before the record, as far as that ever arrives. -/
def publishPending (publishing : Publishing) (records : List ρ) : Publishing :=
  (Draining.drain (fun progress record => (needs record).all progress.2.contains)
    (submitPending counted publish keyOf)
    (fun progress record => (progress.1.submit counted (publish · record), progress.2))
    (publishing, ∅) records).1

end Pending

def countMember (summary : SyntheticPublishSummary) : SyntheticPublishSummary :=
  { summary with membersAccepted := summary.membersAccepted + 1 }

def countRelationship (summary : SyntheticPublishSummary) : SyntheticPublishSummary :=
  { summary with relationshipsAccepted := summary.relationshipsAccepted + 1 }

def countFailureDomain (summary : SyntheticPublishSummary) : SyntheticPublishSummary :=
  { summary with failureDomainsAccepted := summary.failureDomainsAccepted + 1 }

/-- The members that other members name by their domain identity. -/
def isDomainMember (record : MemberRecord) : Bool :=
  record.key.kind = .powerDomain ∨ record.key.kind = .coolingDomain

section Publish
variable (options : RackFabricOptions) (token : AuthorityToken) (rack : SyntheticRack)

def publishMemberRecord (state : RackState) (record : MemberRecord) : RackState × MutationResult :=
  state.publishMember options { authority := token, record := record }

def publishFailureDomains (publishing : Publishing) : Publishing :=
  publishPending countFailureDomain
    (fun state record =>
      state.publishFailureDomain options { authority := token, record := record })
    (fun record => record.id) (fun record => record.parents) publishing rack.failureDomains

/-- The power and cooling domains first, then the others, each after its parent. -/
def publishMembers (publishing : Publishing) : Publishing :=
  publishPending countMember (publishMemberRecord options token) (fun record => record.key)
    (fun record => record.parent.toList)
    ((rack.members.filter isDomainMember).foldl
      (fun publishing record =>
        publishing.submit countMember (publishMemberRecord options token · record))
      publishing)
    (rack.members.filter fun record => !isDomainMember record)

def publishRelationships (publishing : Publishing) : Publishing :=
  rack.relationships.foldl
    (fun publishing record => publishing.submit countRelationship fun state =>
      state.publishRelationship options { authority := token, record := record })
    publishing

def publishPower (now : Timestamp) (publishing : Publishing) : Publishing :=
  match rack.power with
  | none => publishing
  | some record => publishing.submit id fun state =>
      state.publishPowerEnvelope now { authority := token, record := record }

def publishCooling (now : Timestamp) (publishing : Publishing) : Publishing :=
  match rack.cooling with
  | none => publishing
  | some record => publishing.submit id fun state =>
      state.publishCoolingEnvelope now { authority := token, record := record }

end Publish

end Synthetic

open Synthetic in
/-- The three times are the clock's at the declaration and at the two envelopes; the other
mutations do not keep theirs. -/
def publishSyntheticRack (options : RackFabricOptions) (declaredAt poweredAt cooledAt : Timestamp)
    (fabric : RackState) (rack : SyntheticRack) (authority : AuthorityToken) :
    RackState × SyntheticPublishSummary :=
  let token := { authority with rack := some rack.rack }
  let (declaredFabric, declared) := fabric.declareRack declaredAt
    { authority := token, epoch := some rack.rackEpoch, label := some (str "synthetic rack")
      redeclare := true }
  if declared.outcome.isAccepted then
    let withDomains := publishFailureDomains options token rack { fabric := declaredFabric }
    let withMembers := publishMembers options token rack withDomains
    let withRelationships := publishRelationships options token rack withMembers
    let withPower := publishPower token rack poweredAt withRelationships
    let withCooling := publishCooling token rack cooledAt withPower
    (withCooling.fabric, withCooling.summary)
  else (declaredFabric, { rejections := [declared] })

end RackFabric
