import RackFabric.Properties.Codec

/-! What a record has to satisfy for its encoding to be read back, and that the
decoders yield no other records. -/
namespace RackFabric
open Enumeration ByteReader

/-- The decoder reads back the values with the property, and yields no others. -/
structure Faithful (limits : ResourceLimits) {α : Type} (read : Decoder α)
    (write : α → List WriteOp) (property : α → Prop) : Prop where
  readsBack : ∀ {value : α}, property value → ReadsBack limits read (write value) value
  ensures : Ensures limits read property

/-- The length of the text fits the prefix that it is written with. -/
def TextDecodable (value : Option Str) : Prop :=
  ∀ text ∈ value, text.length < 2 ^ 32

def IdDecodable {tag : IdentityTag} (value : Option (StrongId tag)) : Prop :=
  ∀ id ∈ value, id.isSet = true

section Leaves
variable {limits : ResourceLimits} {α : Type} {read : Decoder α} {write : α → List WriteOp}
  {property : α → Prop}

theorem Faithful.optional (h : Faithful limits read write property) :
    Faithful limits (Decoder.optional read) (WriteOp.optional write)
      fun value => ∀ found ∈ value, property found where
  readsBack hvalue := readsBack_optional fun found hfound => h.readsBack (hvalue found hfound)
  ensures := ensures_optional h.ensures

theorem Faithful.many {maximum : ResourceLimits → Nat} (h : Faithful limits read write property)
    (hoccupies : ∀ value, Occupies (write value)) :
    Faithful limits (Decoder.many maximum read) (WriteOp.many maximum write)
      fun values => ∀ value ∈ values, property value where
  readsBack hvalues := readsBack_many (fun value hmem => h.readsBack (hvalues value hmem))
    fun value _ => hoccupies value
  ensures := ensures_many h.ensures

theorem faithful_identity {tag : IdentityTag} :
    Faithful limits Decoder.identity (fun id : StrongId tag => [.string id.value])
      fun id => id.isSet = true :=
  ⟨readsBack_identity, ensures_identity⟩

theorem readsBack_optionalU32 (value : Option UInt32) :
    ReadsBack limits (Decoder.optional Decoder.u32) (WriteOp.optionalU32 value) value :=
  readsBack_optional fun found _ => readsBack_u32 found

theorem readsBack_optionalU64 (value : Option UInt64) :
    ReadsBack limits (Decoder.optional Decoder.u64) (WriteOp.optionalU64 value) value :=
  readsBack_optional fun found _ => readsBack_u64 found

theorem readsBack_optionalDouble (value : Option Double) :
    ReadsBack limits (Decoder.optional Decoder.f64) (WriteOp.optionalDouble value) value :=
  readsBack_optional fun found _ => readsBack_f64 found

theorem faithful_optionalString :
    Faithful limits (Decoder.optional Decoder.string) WriteOp.optionalString TextDecodable :=
  Faithful.optional ⟨readsBack_string, ensures_string⟩

theorem faithful_optionalId {tag : IdentityTag} :
    Faithful limits (Decoder.optional Decoder.identity)
      (WriteOp.optionalId : Option (StrongId tag) → List WriteOp) IdDecodable :=
  faithful_identity.optional

end Leaves

/-! Evidence. -/

section Evidence
variable {limits : ResourceLimits}

def Observation.Decodable (evidence : Observation) : Prop :=
  ttlIsValid evidence.ttl = true

theorem faithful_observation :
    Faithful limits decodeObservation encodeObservation Observation.Decodable where
  readsBack h :=
    (readsBack_enum _).cons <| (readsBack_timestamp _).cons <| (readsBack_ttl h).cons <|
      (readsBack_enum _).cons <| (readsBack_boolean _).cons <| .pure _
  ensures := .skip fun _ => .skip fun _ => ensures_ttl.bind fun _ httl => .skip fun _ =>
    .skip fun _ => .pure httl

theorem faithful_quantity :
    Faithful limits decodeQuantity encodeQuantity fun quantity =>
      quantity.toObservation.Decodable where
  readsBack h := by
    simp only [encodeQuantity, List.cons_append, List.nil_append]
    exact (readsBack_f64 _).cons <| (readsBack_enum _).cons <| (readsBack_enum _).cons <|
      (readsBack_optionalDouble _).append <| (readsBack_timestamp _).cons <|
      (readsBack_ttl h).cons <| (readsBack_enum _).cons <| (readsBack_boolean _).cons <| .pure _
  ensures := .skip fun _ => .skip fun _ => .skip fun _ => .skip fun _ => .skip fun _ =>
    ensures_ttl.bind fun _ httl => .skip fun _ => .skip fun _ => .pure httl

theorem faithful_evidence {α : Type} [Inhabited α] [DecidableEq α] [Enum8 α] :
    Faithful limits decodeEvidence encodeEvidence fun evidence : EvidenceValue α =>
      evidence.toObservation.Decodable where
  readsBack h := (readsBack_scalar _).cons <| (faithful_observation.readsBack h).then <| .pure _
  ensures := .skip fun _ => faithful_observation.ensures.bind fun _ h => .pure h

def QuantityDecodable (value : Option Quantity) : Prop :=
  ∀ quantity ∈ value, quantity.toObservation.Decodable

theorem faithful_optionalQuantity :
    Faithful limits (Decoder.optional decodeQuantity) (WriteOp.optional encodeQuantity)
      QuantityDecodable :=
  faithful_quantity.optional

end Evidence

/-! The alternatives of the detail variant. -/

structure NodeDetails.Decodable (details : NodeDetails) : Prop where
  hostName : TextDecodable details.hostName
  operatingSystem : TextDecodable details.operatingSystem
  worker : IdDecodable details.worker
  boot : IdDecodable details.boot

structure AcceleratorDetails.Decodable (details : AcceleratorDetails) : Prop where
  vendor : TextDecodable details.vendor
  model : TextDecodable details.model
  architecture : TextDecodable details.architecture
  uuid : TextDecodable details.uuid
  driverVersion : TextDecodable details.driverVersion
  pciAddress : TextDecodable details.pciAddress
  interconnect : TextDecodable details.interconnect

structure CpuPackageDetails.Decodable (details : CpuPackageDetails) : Prop where
  vendor : TextDecodable details.vendor
  model : TextDecodable details.model

structure MemoryDomainDetails.Decodable (details : MemoryDomainDetails) : Prop where
  bandwidth : QuantityDecodable details.bandwidth

structure NicDetails.Decodable (details : NicDetails) : Prop where
  vendor : TextDecodable details.vendor
  model : TextDecodable details.model
  pciAddress : TextDecodable details.pciAddress
  linkSpeed : QuantityDecodable details.linkSpeed
  macAddress : TextDecodable details.macAddress

structure DpuDetails.Decodable (details : DpuDetails) : Prop where
  vendor : TextDecodable details.vendor
  model : TextDecodable details.model
  firmwareVersion : TextDecodable details.firmwareVersion
  pciAddress : TextDecodable details.pciAddress

structure SwitchDetails.Decodable (details : SwitchDetails) : Prop where
  vendor : TextDecodable details.vendor
  model : TextDecodable details.model
  linkSpeed : QuantityDecodable details.linkSpeed

structure StorageEndpointDetails.Decodable (details : StorageEndpointDetails) : Prop where
  model : TextDecodable details.model
  interfaceName : TextDecodable details.interfaceName

structure PowerDomainDetails.Decodable (details : PowerDomainDetails) : Prop where
  label : TextDecodable details.label

structure CoolingDomainDetails.Decodable (details : CoolingDomainDetails) : Prop where
  label : TextDecodable details.label

def MemberDetails.Decodable : MemberDetails → Prop
  | .monostate => True
  | .node details => details.Decodable
  | .accelerator details => details.Decodable
  | .cpuPackage details => details.Decodable
  | .memoryDomain details => details.Decodable
  | .nic details => details.Decodable
  | .dpu details => details.Decodable
  | .switch details => details.Decodable
  | .storageEndpoint details => details.Decodable
  | .powerDomain details => details.Decodable
  | .coolingDomain details => details.Decodable

section Details
variable {limits : ResourceLimits}

theorem faithful_nodeDetails :
    Faithful limits decodeNodeDetails encodeNodeDetails NodeDetails.Decodable where
  readsBack h := by
    simp only [encodeNodeDetails, List.append_assoc]
    exact (faithful_optionalString.readsBack h.hostName).append <|
      (readsBack_optionalEnum _).append <| (readsBack_optionalEnum _).append <|
      (faithful_optionalString.readsBack h.operatingSystem).append <|
      (readsBack_optionalU64 _).append <| (readsBack_optionalU32 _).append <|
      (readsBack_optionalU32 _).append <| (readsBack_optionalU32 _).append <|
      (readsBack_optionalU32 _).append <| (readsBack_optionalU32 _).append <|
      (faithful_optionalId.readsBack h.worker).append <|
      (faithful_optionalId.readsBack h.boot).then <| .pure _
  ensures := faithful_optionalString.ensures.bind fun _ hostName => .skip fun _ => .skip fun _ =>
    faithful_optionalString.ensures.bind fun _ operatingSystem => .skip fun _ => .skip fun _ =>
    .skip fun _ => .skip fun _ => .skip fun _ => .skip fun _ =>
    faithful_optionalId.ensures.bind fun _ worker => faithful_optionalId.ensures.bind fun _ boot =>
    .pure ⟨hostName, operatingSystem, worker, boot⟩

theorem faithful_acceleratorDetails :
    Faithful limits decodeAcceleratorDetails encodeAcceleratorDetails
      AcceleratorDetails.Decodable where
  readsBack h := by
    simp only [encodeAcceleratorDetails, List.append_assoc]
    exact (faithful_optionalString.readsBack h.vendor).append <|
      (faithful_optionalString.readsBack h.model).append <|
      (faithful_optionalString.readsBack h.architecture).append <|
      (faithful_optionalString.readsBack h.uuid).append <|
      (faithful_optionalString.readsBack h.driverVersion).append <|
      (faithful_optionalString.readsBack h.pciAddress).append <|
      (readsBack_optionalU64 _).append <| (readsBack_optionalU32 _).append <|
      (readsBack_optionalU32 _).append <| (readsBack_optionalU32 _).append <|
      (readsBack_optionalU32 _).append <|
      (faithful_optionalString.readsBack h.interconnect).then <| .pure _
  ensures := faithful_optionalString.ensures.bind fun _ vendor =>
    faithful_optionalString.ensures.bind fun _ model =>
    faithful_optionalString.ensures.bind fun _ architecture =>
    faithful_optionalString.ensures.bind fun _ uuid =>
    faithful_optionalString.ensures.bind fun _ driverVersion =>
    faithful_optionalString.ensures.bind fun _ pciAddress => .skip fun _ => .skip fun _ =>
    .skip fun _ => .skip fun _ => .skip fun _ =>
    faithful_optionalString.ensures.bind fun _ interconnect =>
    .pure ⟨vendor, model, architecture, uuid, driverVersion, pciAddress, interconnect⟩

theorem faithful_cpuPackageDetails :
    Faithful limits decodeCpuPackageDetails encodeCpuPackageDetails
      CpuPackageDetails.Decodable where
  readsBack h := by
    simp only [encodeCpuPackageDetails, List.append_assoc]
    exact (faithful_optionalString.readsBack h.vendor).append <|
      (faithful_optionalString.readsBack h.model).append <|
      (readsBack_optionalU32 _).append <| (readsBack_optionalU32 _).append <|
      (readsBack_optionalU32 _).append <| (readsBack_optionalU32 _).append <|
      (readsBack_optionalU32 _).then <| .pure _
  ensures := faithful_optionalString.ensures.bind fun _ vendor =>
    faithful_optionalString.ensures.bind fun _ model => .skip fun _ => .skip fun _ =>
    .skip fun _ => .skip fun _ => .skip fun _ => .pure ⟨vendor, model⟩

theorem faithful_memoryDomainDetails :
    Faithful limits decodeMemoryDomainDetails encodeMemoryDomainDetails
      MemoryDomainDetails.Decodable where
  readsBack h := by
    simp only [encodeMemoryDomainDetails, List.append_assoc]
    exact (readsBack_optionalEnum _).append <| (readsBack_optionalU64 _).append <|
      (readsBack_optionalU32 _).append <|
      (faithful_optionalQuantity.readsBack h.bandwidth).then <| .pure _
  ensures := .skip fun _ => .skip fun _ => .skip fun _ =>
    faithful_optionalQuantity.ensures.bind fun _ bandwidth => .pure ⟨bandwidth⟩

theorem faithful_nicDetails :
    Faithful limits decodeNicDetails encodeNicDetails NicDetails.Decodable where
  readsBack h := by
    simp only [encodeNicDetails, List.append_assoc]
    exact (faithful_optionalString.readsBack h.vendor).append <|
      (faithful_optionalString.readsBack h.model).append <|
      (faithful_optionalString.readsBack h.pciAddress).append <|
      (readsBack_optionalU32 _).append <|
      (faithful_optionalQuantity.readsBack h.linkSpeed).append <|
      (faithful_optionalString.readsBack h.macAddress).then <| .pure _
  ensures := faithful_optionalString.ensures.bind fun _ vendor =>
    faithful_optionalString.ensures.bind fun _ model =>
    faithful_optionalString.ensures.bind fun _ pciAddress => .skip fun _ =>
    faithful_optionalQuantity.ensures.bind fun _ linkSpeed =>
    faithful_optionalString.ensures.bind fun _ macAddress =>
    .pure ⟨vendor, model, pciAddress, linkSpeed, macAddress⟩

theorem faithful_dpuDetails :
    Faithful limits decodeDpuDetails encodeDpuDetails DpuDetails.Decodable where
  readsBack h := by
    simp only [encodeDpuDetails, List.append_assoc]
    exact (faithful_optionalString.readsBack h.vendor).append <|
      (faithful_optionalString.readsBack h.model).append <|
      (faithful_optionalString.readsBack h.firmwareVersion).append <|
      (faithful_optionalString.readsBack h.pciAddress).append <|
      (readsBack_optionalU32 _).then <| .pure _
  ensures := faithful_optionalString.ensures.bind fun _ vendor =>
    faithful_optionalString.ensures.bind fun _ model =>
    faithful_optionalString.ensures.bind fun _ firmwareVersion =>
    faithful_optionalString.ensures.bind fun _ pciAddress => .skip fun _ =>
    .pure ⟨vendor, model, firmwareVersion, pciAddress⟩

theorem faithful_switchDetails :
    Faithful limits decodeSwitchDetails encodeSwitchDetails SwitchDetails.Decodable where
  readsBack h := by
    simp only [encodeSwitchDetails, List.append_assoc]
    exact (faithful_optionalString.readsBack h.vendor).append <|
      (faithful_optionalString.readsBack h.model).append <|
      (readsBack_optionalU32 _).append <| (readsBack_optionalU32 _).append <|
      (faithful_optionalQuantity.readsBack h.linkSpeed).then <| .pure _
  ensures := faithful_optionalString.ensures.bind fun _ vendor =>
    faithful_optionalString.ensures.bind fun _ model => .skip fun _ => .skip fun _ =>
    faithful_optionalQuantity.ensures.bind fun _ linkSpeed => .pure ⟨vendor, model, linkSpeed⟩

theorem faithful_storageEndpointDetails :
    Faithful limits decodeStorageEndpointDetails encodeStorageEndpointDetails
      StorageEndpointDetails.Decodable where
  readsBack h := by
    simp only [encodeStorageEndpointDetails, List.append_assoc]
    exact (readsBack_optionalEnum _).append <|
      (faithful_optionalString.readsBack h.model).append <|
      (faithful_optionalString.readsBack h.interfaceName).append <|
      (readsBack_optionalU64 _).then <| .pure _
  ensures := .skip fun _ => faithful_optionalString.ensures.bind fun _ model =>
    faithful_optionalString.ensures.bind fun _ interfaceName => .skip fun _ =>
    .pure ⟨model, interfaceName⟩

theorem faithful_powerDomainDetails :
    Faithful limits decodePowerDomainDetails encodePowerDomainDetails
      PowerDomainDetails.Decodable where
  readsBack h := (readsBack_optionalEnum _).append <|
    (faithful_optionalString.readsBack h.label).then <| .pure _
  ensures := .skip fun _ => faithful_optionalString.ensures.bind fun _ label => .pure ⟨label⟩

theorem faithful_coolingDomainDetails :
    Faithful limits decodeCoolingDomainDetails encodeCoolingDomainDetails
      CoolingDomainDetails.Decodable where
  readsBack h := (readsBack_optionalEnum _).append <|
    (faithful_optionalString.readsBack h.label).then <| .pure _
  ensures := .skip fun _ => faithful_optionalString.ensures.bind fun _ label => .pure ⟨label⟩

theorem faithful_details : Faithful limits decodeDetails encodeDetails MemberDetails.Decodable where
  readsBack {details} h := by
    have tagged : ∀ tag, ReadsBack limits Decoder.u8 [.u8 tag] tag :=
      fun tag => .of_reads (reads_u8 tag)
    cases details with
    | monostate => exact (tagged 0).then (.pure _)
    | node => exact (tagged 1).cons ((faithful_nodeDetails.readsBack h).map _)
    | accelerator => exact (tagged 2).cons ((faithful_acceleratorDetails.readsBack h).map _)
    | cpuPackage => exact (tagged 3).cons ((faithful_cpuPackageDetails.readsBack h).map _)
    | memoryDomain => exact (tagged 4).cons ((faithful_memoryDomainDetails.readsBack h).map _)
    | nic => exact (tagged 5).cons ((faithful_nicDetails.readsBack h).map _)
    | dpu => exact (tagged 6).cons ((faithful_dpuDetails.readsBack h).map _)
    | switch => exact (tagged 7).cons ((faithful_switchDetails.readsBack h).map _)
    | storageEndpoint =>
      exact (tagged 8).cons ((faithful_storageEndpointDetails.readsBack h).map _)
    | powerDomain => exact (tagged 9).cons ((faithful_powerDomainDetails.readsBack h).map _)
    | coolingDomain => exact (tagged 10).cons ((faithful_coolingDomainDetails.readsBack h).map _)
  ensures := by
    refine .skip fun tag => ?_
    split
    · exact .pure trivial
    · exact faithful_nodeDetails.ensures.bind fun _ h => .pure h
    · exact faithful_acceleratorDetails.ensures.bind fun _ h => .pure h
    · exact faithful_cpuPackageDetails.ensures.bind fun _ h => .pure h
    · exact faithful_memoryDomainDetails.ensures.bind fun _ h => .pure h
    · exact faithful_nicDetails.ensures.bind fun _ h => .pure h
    · exact faithful_dpuDetails.ensures.bind fun _ h => .pure h
    · exact faithful_switchDetails.ensures.bind fun _ h => .pure h
    · exact faithful_storageEndpointDetails.ensures.bind fun _ h => .pure h
    · exact faithful_powerDomainDetails.ensures.bind fun _ h => .pure h
    · exact faithful_coolingDomainDetails.ensures.bind fun _ h => .pure h
    · exact .fail _

end Details

/-! The records of the graph. -/

def MemberKey.Decodable (key : MemberKey) : Prop := (validateIdentity key.id).ok = true

structure CapabilityRef.Decodable (capability : CapabilityRef) : Prop where
  id : capability.id.isSet = true
  observation : capability.toObservation.Decodable
  value : TextDecodable capability.value

structure MemberRecord.Decodable (record : MemberRecord) : Prop where
  key : record.key.Decodable
  observation : record.toObservation.Decodable
  ownerWorker : IdDecodable record.ownerWorker
  ownerBoot : IdDecodable record.ownerBoot
  parent : ∀ key ∈ record.parent, key.Decodable
  failureDomains : ∀ domain ∈ record.failureDomains, domain.isSet = true
  powerDomain : IdDecodable record.powerDomain
  coolingDomain : IdDecodable record.coolingDomain
  switchDomain : IdDecodable record.switchDomain
  health : record.health.toObservation.Decodable
  readiness : record.readiness.toObservation.Decodable
  reachability : record.reachability.toObservation.Decodable
  capabilities : ∀ capability ∈ record.capabilities, capability.Decodable
  details : record.details.Decodable
  source : TextDecodable record.source

structure RelationshipRecord.Decodable (record : RelationshipRecord) : Prop where
  source : record.key.source.Decodable
  target : record.key.target.Decodable
  observation : record.toObservation.Decodable
  ownerWorker : IdDecodable record.ownerWorker
  ownerBoot : IdDecodable record.ownerBoot
  link : IdDecodable record.link
  capacity : QuantityDecodable record.capacity
  origin : TextDecodable record.source

structure FailureDomainRecord.Decodable (record : FailureDomainRecord) : Prop where
  id : record.id.isSet = true
  parents : ∀ parent ∈ record.parents, parent.isSet = true
  observation : record.toObservation.Decodable
  ownerWorker : IdDecodable record.ownerWorker
  ownerBoot : IdDecodable record.ownerBoot
  label : TextDecodable record.label
  source : TextDecodable record.source

structure PowerDomainBudget.Decodable (budget : PowerDomainBudget) : Prop where
  domain : budget.domain.isSet = true
  limit : QuantityDecodable budget.limit
  observedDraw : QuantityDecodable budget.observedDraw
  headroom : QuantityDecodable budget.headroom

structure PowerEnvelopeRecord.Decodable (record : PowerEnvelopeRecord) : Prop where
  rackLimit : QuantityDecodable record.rackLimit
  rackObservedDraw : QuantityDecodable record.rackObservedDraw
  rackHeadroom : QuantityDecodable record.rackHeadroom
  domainBudgets : ∀ budget ∈ record.domainBudgets, budget.Decodable
  observation : record.toObservation.Decodable
  ownerWorker : IdDecodable record.ownerWorker
  ownerBoot : IdDecodable record.ownerBoot
  source : TextDecodable record.source

structure CoolingZoneRecord.Decodable (record : CoolingZoneRecord) : Prop where
  zone : record.zone.isSet = true
  designThermalLimit : QuantityDecodable record.designThermalLimit
  observedTemperature : QuantityDecodable record.observedTemperature
  coolingCapacity : QuantityDecodable record.coolingCapacity
  thermalHeadroom : QuantityDecodable record.thermalHeadroom
  throttling : ∀ evidence ∈ record.throttling, evidence.toObservation.Decodable

structure CoolingEnvelopeRecord.Decodable (record : CoolingEnvelopeRecord) : Prop where
  zones : ∀ zone ∈ record.zones, zone.Decodable
  observation : record.toObservation.Decodable
  ownerWorker : IdDecodable record.ownerWorker
  ownerBoot : IdDecodable record.ownerBoot
  source : TextDecodable record.source

section Graph
variable {limits : ResourceLimits}

theorem faithful_memberKey :
    Faithful limits decodeMemberKey encodeMemberKey MemberKey.Decodable where
  readsBack {key} h := by
    have hvalid : (validateIdentity key.id).ok = true := h
    have hshort := length_le_of_validateIdentity hvalid
    have htext : key.id.length < 2 ^ 32 := by
      simp only [kMaxIdentityLength] at hshort
      omega
    refine (readsBack_enum key.kind).cons ((readsBack_string htext).then ?_)
    rw [if_pos hvalid]
    exact .pure key
  ensures := by
    refine .skip fun kind => .skip fun id => ?_
    split
    · rename_i hvalid
      exact .pure hvalid
    · exact .fail _

theorem readsBack_generationSet (value : GenerationSet) :
    ReadsBack limits decodeGenerationSet (encodeGenerationSet value) value :=
  (readsBack_generation _).cons <| (readsBack_generation _).cons <|
    (readsBack_generation _).cons <| (readsBack_generation _).cons <|
    (readsBack_generation _).cons <| (readsBack_generation _).cons <|
    (readsBack_generation _).cons <| (readsBack_generation _).cons <|
    (readsBack_generation _).cons <| (readsBack_generation _).cons <| .pure _

theorem faithful_capability :
    Faithful limits decodeCapability encodeCapability CapabilityRef.Decodable where
  readsBack h := (readsBack_identity h.id).cons <|
    (faithful_observation.readsBack h.observation).append <|
    (faithful_optionalString.readsBack h.value).then <| .pure _
  ensures := ensures_identity.bind fun _ id => faithful_observation.ensures.bind fun _ observation =>
    faithful_optionalString.ensures.bind fun _ value => .pure ⟨id, observation, value⟩

theorem faithful_member :
    Faithful limits decodeMember encodeMember MemberRecord.Decodable where
  readsBack h := by
    simp only [encodeMember, List.append_assoc, List.cons_append, List.nil_append]
    exact (faithful_memberKey.readsBack h.key).append <| (readsBack_enum _).cons <|
      (readsBack_generation _).cons <| (readsBack_generation _).cons <|
      (faithful_observation.readsBack h.observation).append <| (readsBack_enum _).cons <|
      (faithful_optionalId.readsBack h.ownerWorker).append <|
      (faithful_optionalId.readsBack h.ownerBoot).append <|
      (faithful_memberKey.optional.readsBack h.parent).append <|
      ((faithful_identity.many fun _ => occupies_string _ _).readsBack h.failureDomains).append <|
      (faithful_optionalId.readsBack h.powerDomain).append <|
      (faithful_optionalId.readsBack h.coolingDomain).append <|
      (faithful_optionalId.readsBack h.switchDomain).append <|
      (faithful_evidence.readsBack h.health).append <|
      (faithful_evidence.readsBack h.readiness).append <|
      (faithful_evidence.readsBack h.reachability).append <|
      ((faithful_capability.many fun _ => occupies_string _ _).readsBack h.capabilities).append <|
      (faithful_details.readsBack h.details).append <|
      (faithful_optionalString.readsBack h.source).then <| .pure _
  ensures := faithful_memberKey.ensures.bind fun _ key => .skip fun _ => .skip fun _ =>
    .skip fun _ => faithful_observation.ensures.bind fun _ observation => .skip fun _ =>
    faithful_optionalId.ensures.bind fun _ ownerWorker =>
    faithful_optionalId.ensures.bind fun _ ownerBoot =>
    faithful_memberKey.optional.ensures.bind fun _ parent =>
    (ensures_many ensures_identity).bind fun _ failureDomains =>
    faithful_optionalId.ensures.bind fun _ powerDomain =>
    faithful_optionalId.ensures.bind fun _ coolingDomain =>
    faithful_optionalId.ensures.bind fun _ switchDomain =>
    faithful_evidence.ensures.bind fun _ health =>
    faithful_evidence.ensures.bind fun _ readiness =>
    faithful_evidence.ensures.bind fun _ reachability =>
    (ensures_many faithful_capability.ensures).bind fun _ capabilities =>
    faithful_details.ensures.bind fun _ details =>
    faithful_optionalString.ensures.bind fun _ source =>
    .pure ⟨key, observation, ownerWorker, ownerBoot, parent, failureDomains, powerDomain,
      coolingDomain, switchDomain, health, readiness, reachability, capabilities, details, source⟩

theorem faithful_relationship :
    Faithful limits decodeRelationship encodeRelationship RelationshipRecord.Decodable where
  readsBack h := by
    simp only [encodeRelationship, List.append_assoc, List.cons_append, List.nil_append]
    exact (readsBack_enum _).cons <| (faithful_memberKey.readsBack h.source).append <|
      (faithful_memberKey.readsBack h.target).append <|
      (faithful_observation.readsBack h.observation).append <| (readsBack_generation _).cons <|
      (faithful_optionalId.readsBack h.ownerWorker).append <|
      (faithful_optionalId.readsBack h.ownerBoot).append <|
      (faithful_optionalId.readsBack h.link).append <|
      (faithful_optionalQuantity.readsBack h.capacity).append <|
      (faithful_optionalString.readsBack h.origin).then <| .pure _
  ensures := .skip fun _ => faithful_memberKey.ensures.bind fun _ source =>
    faithful_memberKey.ensures.bind fun _ target =>
    faithful_observation.ensures.bind fun _ observation => .skip fun _ =>
    faithful_optionalId.ensures.bind fun _ ownerWorker =>
    faithful_optionalId.ensures.bind fun _ ownerBoot =>
    faithful_optionalId.ensures.bind fun _ link =>
    faithful_optionalQuantity.ensures.bind fun _ capacity =>
    faithful_optionalString.ensures.bind fun _ origin =>
    .pure ⟨source, target, observation, ownerWorker, ownerBoot, link, capacity, origin⟩

theorem faithful_failureDomain :
    Faithful limits decodeFailureDomain encodeFailureDomain FailureDomainRecord.Decodable where
  readsBack h := by
    simp only [encodeFailureDomain, List.append_assoc, List.cons_append, List.nil_append]
    exact (readsBack_identity h.id).cons <| (readsBack_enum _).cons <| (readsBack_enum _).cons <|
      ((faithful_identity.many fun _ => occupies_string _ _).readsBack h.parents).append <|
      (readsBack_generation _).cons <| (faithful_observation.readsBack h.observation).append <|
      (faithful_optionalId.readsBack h.ownerWorker).append <|
      (faithful_optionalId.readsBack h.ownerBoot).append <|
      (faithful_optionalString.readsBack h.label).append <|
      (faithful_optionalString.readsBack h.source).then <| .pure _
  ensures := ensures_identity.bind fun _ id => .skip fun _ => .skip fun _ =>
    (ensures_many ensures_identity).bind fun _ parents => .skip fun _ =>
    faithful_observation.ensures.bind fun _ observation =>
    faithful_optionalId.ensures.bind fun _ ownerWorker =>
    faithful_optionalId.ensures.bind fun _ ownerBoot =>
    faithful_optionalString.ensures.bind fun _ label =>
    faithful_optionalString.ensures.bind fun _ source =>
    .pure ⟨id, parents, observation, ownerWorker, ownerBoot, label, source⟩

theorem faithful_budget :
    Faithful limits decodeBudget encodeBudget PowerDomainBudget.Decodable where
  readsBack h := by
    simp only [encodeBudget, List.append_assoc]
    exact (readsBack_identity h.domain).cons <|
      (faithful_optionalQuantity.readsBack h.limit).append <|
      (faithful_optionalQuantity.readsBack h.observedDraw).append <|
      (faithful_optionalQuantity.readsBack h.headroom).then <| .pure _
  ensures := ensures_identity.bind fun _ domain =>
    faithful_optionalQuantity.ensures.bind fun _ limit =>
    faithful_optionalQuantity.ensures.bind fun _ observedDraw =>
    faithful_optionalQuantity.ensures.bind fun _ headroom =>
    .pure ⟨domain, limit, observedDraw, headroom⟩

theorem faithful_powerEnvelope :
    Faithful limits decodePowerEnvelope encodePowerEnvelope PowerEnvelopeRecord.Decodable where
  readsBack h := by
    simp only [encodePowerEnvelope, List.append_assoc]
    exact (readsBack_generation _).cons <|
      (faithful_optionalQuantity.readsBack h.rackLimit).append <|
      (faithful_optionalQuantity.readsBack h.rackObservedDraw).append <|
      (faithful_optionalQuantity.readsBack h.rackHeadroom).append <|
      ((faithful_budget.many fun _ => occupies_string _ _).readsBack h.domainBudgets).append <|
      (faithful_observation.readsBack h.observation).append <|
      (faithful_optionalId.readsBack h.ownerWorker).append <|
      (faithful_optionalId.readsBack h.ownerBoot).append <|
      (faithful_optionalString.readsBack h.source).then <| .pure _
  ensures := .skip fun _ => faithful_optionalQuantity.ensures.bind fun _ rackLimit =>
    faithful_optionalQuantity.ensures.bind fun _ rackObservedDraw =>
    faithful_optionalQuantity.ensures.bind fun _ rackHeadroom =>
    (ensures_many faithful_budget.ensures).bind fun _ domainBudgets =>
    faithful_observation.ensures.bind fun _ observation =>
    faithful_optionalId.ensures.bind fun _ ownerWorker =>
    faithful_optionalId.ensures.bind fun _ ownerBoot =>
    faithful_optionalString.ensures.bind fun _ source =>
    .pure ⟨rackLimit, rackObservedDraw, rackHeadroom, domainBudgets, observation, ownerWorker,
      ownerBoot, source⟩

theorem faithful_zone :
    Faithful limits decodeZone encodeZone CoolingZoneRecord.Decodable where
  readsBack h := by
    simp only [encodeZone, List.append_assoc]
    exact (readsBack_identity h.zone).cons <|
      (faithful_optionalQuantity.readsBack h.designThermalLimit).append <|
      (faithful_optionalQuantity.readsBack h.observedTemperature).append <|
      (faithful_optionalQuantity.readsBack h.coolingCapacity).append <|
      (faithful_optionalQuantity.readsBack h.thermalHeadroom).append <|
      (faithful_evidence.optional.readsBack h.throttling).then <| .pure _
  ensures := ensures_identity.bind fun _ zone =>
    faithful_optionalQuantity.ensures.bind fun _ designThermalLimit =>
    faithful_optionalQuantity.ensures.bind fun _ observedTemperature =>
    faithful_optionalQuantity.ensures.bind fun _ coolingCapacity =>
    faithful_optionalQuantity.ensures.bind fun _ thermalHeadroom =>
    faithful_evidence.optional.ensures.bind fun _ throttling =>
    .pure ⟨zone, designThermalLimit, observedTemperature, coolingCapacity, thermalHeadroom,
      throttling⟩

theorem faithful_coolingEnvelope :
    Faithful limits decodeCoolingEnvelope encodeCoolingEnvelope
      CoolingEnvelopeRecord.Decodable where
  readsBack h := by
    simp only [encodeCoolingEnvelope, List.append_assoc]
    exact (readsBack_generation _).cons <|
      ((faithful_zone.many fun _ => occupies_string _ _).readsBack h.zones).append <|
      (faithful_observation.readsBack h.observation).append <|
      (faithful_optionalId.readsBack h.ownerWorker).append <|
      (faithful_optionalId.readsBack h.ownerBoot).append <|
      (faithful_optionalString.readsBack h.source).then <| .pure _
  ensures := .skip fun _ => (ensures_many faithful_zone.ensures).bind fun _ zones =>
    faithful_observation.ensures.bind fun _ observation =>
    faithful_optionalId.ensures.bind fun _ ownerWorker =>
    faithful_optionalId.ensures.bind fun _ ownerBoot =>
    faithful_optionalString.ensures.bind fun _ source =>
    .pure ⟨zones, observation, ownerWorker, ownerBoot, source⟩

end Graph

/-! The ledger, and the whole state. -/

structure RackRecord.Decodable (rack : RackRecord) : Prop where
  id : rack.id.isSet = true
  epoch : rack.epoch.isSet = true
  label : TextDecodable rack.label

structure PublisherRecord.Decodable (publisher : PublisherRecord) : Prop where
  worker : publisher.worker.isSet = true
  boot : publisher.boot.isSet = true
  label : TextDecodable publisher.label

structure FencedBootRecord.Decodable (fenced : FencedBootRecord) : Prop where
  boot : fenced.boot.isSet = true
  worker : IdDecodable fenced.worker

structure RackSnapshot.Decodable (snapshot : RackSnapshot) : Prop where
  id : snapshot.id.isSet = true
  rack : snapshot.rack.isSet = true
  rackEpoch : snapshot.rackEpoch.isSet = true
  members : ∀ record ∈ snapshot.members, record.Decodable
  relationships : ∀ record ∈ snapshot.relationships, record.Decodable
  failureDomains : ∀ record ∈ snapshot.failureDomains, record.Decodable
  powerEnvelope : ∀ record ∈ snapshot.powerEnvelope, record.Decodable
  coolingEnvelope : ∀ record ∈ snapshot.coolingEnvelope, record.Decodable

section Ledger
variable {limits : ResourceLimits}

theorem readsBack_parsed {α : Type} {tag : IdentityTag} {id : StrongId tag}
    {next : StrongId tag → Decoder α} {ops : List WriteOp} {result : α} (h : id.isSet = true)
    (hnext : ReadsBack limits (next id) ops result) :
    ReadsBack limits (Decoder.parsed id.value >>= next) ops result := by
  intro hfits
  have hparsed : Reads limits (Decoder.parsed id.value) [] id :=
    .orFail _ (by rw [StrongId.parse_value, if_pos h])
  exact hparsed.bind (hnext hfits)

/-- The text of an identity that is parsed later on. -/
theorem readsBack_idText {tag : IdentityTag} (id : StrongId tag) :
    ReadsBack limits Decoder.string [.string id.value] id.value := by
  refine readsBack_string ?_
  have hlength := id.length_value_le
  simp only [kMaxIdentityLength] at hlength
  omega

theorem ensures_decodeRack :
    Ensures limits decodeRack fun value => ∀ rack ∈ value, rack.Decodable := by
  refine .skip fun flag => ?_
  split
  · exact .skip fun _ => .skip fun _ => (ensures_parsed _).bind fun _ id =>
      (ensures_parsed _).bind fun _ epoch => .skip fun _ => .skip fun _ =>
      faithful_optionalString.ensures.bind fun _ label => .skip fun _ =>
      .pure fun _ hfound => Option.some.inj hfound ▸ ⟨id, epoch, label⟩
  · exact .pure fun _ hfound => nomatch hfound

theorem readsBack_rack {value : Option RackRecord} (h : ∀ rack ∈ value, rack.Decodable) :
    ReadsBack limits decodeRack (WriteOp.optional encodeRackRecord value) value := by
  have flagged : ∀ flag, ReadsBack limits Decoder.u8 [.u8 flag] flag :=
    fun flag => .of_reads (reads_u8 flag)
  cases value with
  | none => exact (flagged 0).then (.pure none)
  | some rack =>
    obtain ⟨hid, hepoch, hlabel⟩ := h rack rfl
    refine (flagged 1).cons ?_
    simp only [encodeRackRecord, List.cons_append, List.nil_append]
    exact (readsBack_idText _).cons <| (readsBack_idText _).cons <| readsBack_parsed hid <|
      readsBack_parsed hepoch <| (readsBack_generation _).cons <| (readsBack_boolean _).cons <|
      (faithful_optionalString.readsBack hlabel).append <| (readsBack_timestamp _).cons <| .pure _

theorem faithful_publisher :
    Faithful limits decodePublisher encodePublisher PublisherRecord.Decodable where
  readsBack h := by
    simp only [encodePublisher, List.cons_append, List.nil_append]
    exact (readsBack_idText _).cons <| (readsBack_idText _).cons <| readsBack_parsed h.worker <|
      readsBack_parsed h.boot <| (readsBack_generation _).cons <| (readsBack_generation _).cons <|
      (readsBack_enum _).cons <| (readsBack_timestamp _).cons <| (readsBack_timestamp _).cons <|
      (readsBack_i64 _).cons <| (faithful_optionalString.readsBack h.label).append <|
      (readsBack_u64 _).cons <| (readsBack_u64 _).cons <| .pure _
  ensures := .skip fun _ => .skip fun _ => (ensures_parsed _).bind fun _ worker =>
    (ensures_parsed _).bind fun _ boot => .skip fun _ => .skip fun _ => .skip fun _ =>
    .skip fun _ => .skip fun _ => .skip fun _ =>
    faithful_optionalString.ensures.bind fun _ label => .skip fun _ => .skip fun _ =>
    .pure ⟨worker, boot, label⟩

theorem faithful_fencedWorker :
    Faithful limits decodeFencedWorker (fun worker => [.string worker.value])
      fun worker => worker.isSet = true where
  readsBack {worker} h hfits rest := by
    have hstring := readsBack_idText worker hfits rest
    simp only [decodeFencedWorker, hstring, Decoder.parsed, StrongId.parse_value, if_pos h]
    rfl
  ensures := by
    intro input worker rest hread
    unfold decodeFencedWorker at hread
    split at hread
    · exact ensures_parsed _ _ _ _ hread
    · cases hread

theorem faithful_fencedBoot :
    Faithful limits decodeFencedBoot encodeFencedBoot FencedBootRecord.Decodable where
  readsBack h := (readsBack_identity h.boot).cons <|
      (faithful_fencedWorker.optional.readsBack h.worker).append <|
      (readsBack_generation _).cons <| (readsBack_timestamp _).cons <| (readsBack_enum _).cons <|
      .pure _
  ensures := ensures_identity.bind fun _ boot =>
    faithful_fencedWorker.optional.ensures.bind fun _ worker => .skip fun _ => .skip fun _ =>
    .skip fun _ => .pure ⟨boot, worker⟩

theorem readsBack_limits {α : Type} {next : ResourceLimits → Decoder α} {ops : List WriteOp}
    {result : α} (hnext : ReadsBack limits (next limits) ops result) :
    ReadsBack limits (Reader.config >>= next) ops result :=
  fun hfits => (Reads.ofConfig limits).bind (hnext hfits)

theorem occupies_member (record : MemberRecord) : Occupies (encodeMember record) := by
  simp only [encodeMember, encodeMemberKey, List.cons_append]
  exact occupies_enum _ _

theorem occupies_relationship (record : RelationshipRecord) :
    Occupies (encodeRelationship record) :=
  occupies_enum _ _

theorem occupies_failureDomain (record : FailureDomainRecord) :
    Occupies (encodeFailureDomain record) := by
  simp only [encodeFailureDomain, List.cons_append]
  exact occupies_string _ _

theorem occupies_snapshot (snapshot : RackSnapshot) : Occupies (encodeSnapshot snapshot) := by
  simp only [encodeSnapshot, List.cons_append]
  exact occupies_string _ _

/-- The digest is no part of the content that it covers. -/
theorem computeSnapshotDigest_of_digest (snapshot : RackSnapshot) (digest : Str) :
    computeSnapshotDigest { snapshot with digest := digest } limits =
      computeSnapshotDigest snapshot limits := by
  have hsame : encodeSnapshot { snapshot with digest := digest } = encodeSnapshot snapshot := rfl
  simp only [computeSnapshotDigest, hsame]

theorem readsBack_snapshot {snapshot : RackSnapshot} (h : snapshot.Decodable)
    (hdigest : snapshot.digest = computeSnapshotDigest snapshot limits) :
    ReadsBack limits decodeSnapshot (encodeSnapshot snapshot) snapshot := by
  have hread : ReadsBack limits decodeSnapshot (encodeSnapshot snapshot)
      { snapshot with digest := computeSnapshotDigest { snapshot with digest := [] } limits } := by
    refine readsBack_limits ?_
    simp only [encodeSnapshot, List.append_assoc, List.cons_append, List.nil_append]
    exact (readsBack_idText _).cons <| (readsBack_generation _).cons <|
      (readsBack_generation _).cons <| (readsBack_timestamp _).cons <| (readsBack_idText _).cons <|
      (readsBack_idText _).cons <| readsBack_parsed h.id <| readsBack_parsed h.rack <|
      readsBack_parsed h.rackEpoch <| (readsBack_generationSet _).append <|
      (readsBack_enum _).cons <|
      ((faithful_member.many occupies_member).readsBack h.members).append <|
      ((faithful_relationship.many occupies_relationship).readsBack h.relationships).append <|
      ((faithful_failureDomain.many occupies_failureDomain).readsBack h.failureDomains).append <|
      (faithful_powerEnvelope.optional.readsBack h.powerEnvelope).append <|
      (faithful_coolingEnvelope.optional.readsBack h.coolingEnvelope).then <| .pure _
  rwa [computeSnapshotDigest_of_digest, ← hdigest] at hread

theorem ensures_snapshot : Ensures limits decodeSnapshot RackSnapshot.Decodable :=
  .skip fun _ => .skip fun _ => .skip fun _ => .skip fun _ => .skip fun _ =>
    .skip fun _ => .skip fun _ => (ensures_parsed _).bind fun _ id =>
    (ensures_parsed _).bind fun _ rack => (ensures_parsed _).bind fun _ rackEpoch =>
    .skip fun _ => .skip fun _ => (ensures_many faithful_member.ensures).bind fun _ members =>
    (ensures_many faithful_relationship.ensures).bind fun _ relationships =>
    (ensures_many faithful_failureDomain.ensures).bind fun _ failureDomains =>
    faithful_powerEnvelope.optional.ensures.bind fun _ powerEnvelope =>
    faithful_coolingEnvelope.optional.ensures.bind fun _ coolingEnvelope =>
    .pure ⟨id, rack, rackEpoch, members, relationships, failureDomains, powerEnvelope,
      coolingEnvelope⟩

end Ledger

end RackFabric
