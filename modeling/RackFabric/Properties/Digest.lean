import RackFabric.Library.PrefixCode
import RackFabric.Properties.Currency
import RackFabric.Properties.Extents
import RackFabric.Properties.Records

/-! The bytes under the digest determine the snapshot, when all of it is written. -/
namespace RackFabric
open Std Enumeration PrefixCode RackState

/-- The length of a text or of a collection fits its four-byte prefix. -/
def WriteOp.Sized : WriteOp → Prop
  | .string value => value.length < 2 ^ 32
  | .count value _ => value < 2 ^ 32
  | _ => True

instance (op : WriteOp) : Decidable op.Sized := by
  cases op <;> unfold WriteOp.Sized <;> infer_instance

/-- What the calls write determines the view of the value. -/
def Spells {α β : Type} (write : α → List WriteOp) (view : α → β) : Prop :=
  Determines (fun value => ∀ op ∈ write value, op.Sized)
    (fun value => (write value).flatMap WriteOp.bytes) view

namespace Spells
variable {α β γ ι : Type} {write first second : α → List WriteOp} {view : α → β}

/-- The calls on one field of a record. -/
theorem field (h : Spells write id) (name : ι → α) :
    Spells (fun value => write (name value)) name :=
  Determines.comp h name

theorem narrow {view' : α → γ} (h : Spells write view)
    (hview : ∀ left right, view left = view right → view' left = view' right) :
    Spells write view' :=
  Determines.narrow h hview

theorem append {view' : α → γ} (hfirst : Spells first view) (hsecond : Spells second view') :
    Spells (fun value => first value ++ second value) (fun value => (view value, view' value)) := by
  unfold Spells
  simp only [List.flatMap_append]
  apply Determines.append
  · exact hfirst.mono fun value h op hmem => h op (List.mem_append_left _ hmem)
  · exact hsecond.mono fun value h op hmem => h op (List.mem_append_right _ hmem)

theorem whole (h : Spells write view) (hview : ∀ left right, view left = view right → left = right) :
    Spells write id :=
  h.narrow hview

/-- The first calls tell how the others are read. -/
theorem keyed {key : α → ι} (hkey : Spells first key)
    (hvalue : ∀ k, Determines (fun value => (∀ op ∈ second value, op.Sized) ∧ key value = k)
      (fun value => (second value).flatMap WriteOp.bytes) view) :
    Spells (fun value => first value ++ second value) view := by
  unfold Spells
  simp only [List.flatMap_append]
  apply Determines.keyed
  · exact hkey.mono fun value h op hmem => h op (List.mem_append_left _ hmem)
  · exact fun k => (hvalue k).mono fun value h =>
      ⟨fun op hmem => h.1 op (List.mem_append_right _ hmem), h.2⟩

/-- A call of fixed width. -/
theorem of_width {call : α → WriteOp} (width : Nat)
    (hwidth : ∀ value, (call value).bytes.length = width)
    (hbytes : ∀ left right, (call left).Sized → (call right).Sized →
      (call left).bytes = (call right).bytes → view left = view right) :
    Spells (fun value => [call value]) view := by
  refine Determines.of_width width (fun value => by simpa using hwidth value) ?_
  intro left right hleft hright hsame
  simp only [List.flatMap_singleton] at hsame
  exact hbytes left right (hleft _ (by simp)) (hright _ (by simp)) hsame

end Spells

section Leaves
variable {α : Type} [DecidableEq α] [Enum8 α]

theorem encode_injective {width left right : Nat} (hleft : left < 256 ^ width)
    (hright : right < 256 ^ width)
    (h : LittleEndian.encode width left = LittleEndian.encode width right) : left = right := by
  rw [← LittleEndian.decode_encode hleft, h, LittleEndian.decode_encode hright]

theorem spells_u8 : Spells (fun value : UInt8 => [.u8 value]) id :=
  .of_width 1 (fun _ => rfl) fun _ _ _ _ h => (List.cons.inj h).1

theorem spells_boolean : Spells (fun value : Bool => [.boolean value]) id :=
  (spells_u8.field fun value : Bool => if value then 1 else 0).narrow fun left right h => by
    cases left <;> cases right <;> first | rfl | cases h

theorem spells_enum : Spells (fun value : α => [.enum value]) id :=
  (spells_u8.field toUInt8).narrow fun _ _ => toUInt8_injective

theorem spells_u32 : Spells (fun value : UInt32 => [.u32 value]) id :=
  .of_width 4 (fun _ => LittleEndian.length_encode 4 _) fun left right _ _ h =>
    UInt32.toNat_inj.mp (encode_injective left.toNat_lt right.toNat_lt h)

theorem spells_u64 : Spells (fun value : UInt64 => [.u64 value]) id :=
  .of_width 8 (fun _ => LittleEndian.length_encode 8 _) fun left right _ _ h =>
    UInt64.toNat_inj.mp (encode_injective left.toNat_lt right.toNat_lt h)

theorem spells_i64 : Spells (fun value : Int64 => [.i64 value]) id :=
  (spells_u64.field Int64.toUInt64).narrow fun left right h => by
    rw [← Int64.toInt64_toUInt64 left, ← Int64.toInt64_toUInt64 right]
    exact congrArg UInt64.toInt64 h

theorem spells_f64 : Spells (fun value : Double => [.f64 value]) id :=
  (spells_u64.field Double.bits).narrow fun ⟨_⟩ ⟨_⟩ h => congrArg Double.mk h

theorem spells_timestamp : Spells (fun value : Timestamp => [.timestamp value]) id :=
  (spells_i64.field Timestamp.unixMillis).narrow fun ⟨_⟩ ⟨_⟩ h => congrArg Timestamp.mk h

theorem spells_generation {tag : GenerationTag} :
    Spells (fun value : Generation tag => [.generation value]) id :=
  (spells_u64.field Generation.value).narrow fun _ _ => Generation.ext_value

/-- A text is read by its length. -/
theorem spells_string : Spells (fun value : Str => [.string value]) id := by
  intro left right restLeft restRight hleft hright hsame
  have hleft : left.length < 2 ^ 32 := hleft _ (List.mem_singleton.mpr rfl)
  have hright : right.length < 2 ^ 32 := hright _ (List.mem_singleton.mpr rfl)
  simp only [List.flatMap_singleton, WriteOp.bytes, Nat.mod_eq_of_lt hleft,
    Nat.mod_eq_of_lt hright, List.append_assoc] at hsame
  obtain ⟨hinitial, hrest⟩ := List.append_inj hsame (by simp)
  exact List.append_inj hrest (encode_injective hleft hright hinitial)

theorem spells_id {tag : IdentityTag} : Spells (fun id : StrongId tag => [.string id.value]) id :=
  (spells_string.field StrongId.value).narrow fun _ _ => StrongId.ext_value

end Leaves

section Combinators
variable {α : Type} {write : α → List WriteOp}

theorem spells_optional (h : Spells write id) : Spells (WriteOp.optional write) id := by
  have hparts : WriteOp.optional write =
      fun value => [.boolean value.isSome] ++ value.elim [] write := by
    funext value
    cases value <;> rfl
  rw [hparts]
  refine .keyed (spells_boolean.field Option.isSome) fun flag => ?_
  rintro left right restLeft restRight ⟨hleft, rfl⟩ ⟨hright, hsame⟩ hbytes
  cases left with
  | none =>
    cases right with
    | none => exact ⟨rfl, hbytes⟩
    | some value => cases hsame
  | some first =>
    cases right with
    | none => cases hsame
    | some second =>
      obtain ⟨hvalue, hrest⟩ := h hleft hright hbytes
      exact ⟨congrArg some hvalue, hrest⟩

theorem spells_many (maximum : ResourceLimits → Nat) (h : Spells write id) :
    Spells (WriteOp.many maximum write) id := by
  have hcount : Spells (fun values : List α => [.count values.length maximum]) List.length :=
    .of_width 4 (fun _ => LittleEndian.length_encode 4 _) fun left right hleft hright h =>
      @encode_injective 4 _ _ hleft hright h
  have hbytes (values : List α) : (values.flatMap write).flatMap WriteOp.bytes =
      values.flatMap fun value => (write value).flatMap WriteOp.bytes := List.flatMap_assoc
  change Spells (fun values : List α => [.count values.length maximum] ++ values.flatMap write) id
  refine hcount.keyed fun length => ?_
  simp only [hbytes]
  refine (Determines.flatMap h length).mono fun values hvalues => ⟨?_, hvalues.2⟩
  exact fun value hmem op hop => hvalues.1 op (List.mem_flatMap.mpr ⟨value, hmem, hop⟩)

end Combinators

section Fields
variable {α : Type} [DecidableEq α] [Enum8 α]

theorem spells_optionalString : Spells WriteOp.optionalString id :=
  spells_optional spells_string

theorem spells_optionalId {tag : IdentityTag} :
    Spells (WriteOp.optionalId : Option (StrongId tag) → _) id :=
  spells_optional spells_id

theorem spells_optionalU32 : Spells WriteOp.optionalU32 id :=
  spells_optional spells_u32

theorem spells_optionalU64 : Spells WriteOp.optionalU64 id :=
  spells_optional spells_u64

theorem spells_optionalEnum : Spells (WriteOp.optionalEnum : Option α → _) id :=
  spells_optional ((spells_u32.field fun value : α => (toUInt8 value).toUInt32).narrow
    fun _ _ h => toUInt8_injective (UInt8.toUInt32_inj.mp h))

end Fields

/-! The records. A view that lists every field is the record itself. -/

theorem spells_observation : Spells encodeObservation id :=
  spells_enum.field Observation.provenance
    |>.append (spells_timestamp.field Observation.observedAt)
    |>.append (spells_i64.field Observation.ttl)
    |>.append (spells_enum.field Observation.durability)
    |>.append (spells_boolean.field Observation.revalidationRequired)
    |>.whole (by rintro ⟨⟩ ⟨⟩ h; simp_all)

theorem spells_quantity : Spells encodeQuantity id :=
  spells_f64.field Quantity.value
    |>.append (spells_enum.field Quantity.unit)
    |>.append (spells_enum.field fun quantity : Quantity => quantity.provenance)
    |>.append ((spells_optional spells_f64).field Quantity.uncertainty)
    |>.append ((spells_timestamp.field fun quantity : Quantity => quantity.observedAt).append <|
      (spells_i64.field fun quantity : Quantity => quantity.ttl).append <|
      (spells_enum.field fun quantity : Quantity => quantity.durability).append <|
      spells_boolean.field fun quantity : Quantity => quantity.revalidationRequired)
    |>.whole (by rintro ⟨⟨⟩, _⟩ ⟨⟨⟩, _⟩ h; simp_all)

theorem spells_evidence {α : Type} [Inhabited α] [DecidableEq α] [Enum8 α] :
    Spells (encodeEvidence : EvidenceValue α → _) id := by
  have hvalue : Spells (fun value : α => [.raw [toUInt8 value]]) id :=
    .of_width 1 (fun _ => rfl) fun _ _ _ _ h => toUInt8_injective (List.cons.inj h).1
  exact hvalue.field EvidenceValue.value
    |>.append (spells_observation.field EvidenceValue.toObservation)
    |>.whole (by rintro ⟨⟩ ⟨⟩ h; simp_all)

theorem spells_memberKey : Spells encodeMemberKey id :=
  spells_enum.field MemberKey.kind
    |>.append (spells_string.field MemberKey.id)
    |>.whole (by rintro ⟨⟩ ⟨⟩ h; simp_all)

theorem spells_generationSet : Spells encodeGenerationSet id :=
  spells_generation.field GenerationSet.rack
    |>.append (spells_generation.field GenerationSet.membership)
    |>.append (spells_generation.field GenerationSet.topology)
    |>.append (spells_generation.field GenerationSet.failureDomains)
    |>.append (spells_generation.field GenerationSet.constraints)
    |>.append (spells_generation.field GenerationSet.power)
    |>.append (spells_generation.field GenerationSet.cooling)
    |>.append (spells_generation.field GenerationSet.health)
    |>.append (spells_generation.field GenerationSet.capabilities)
    |>.append (spells_generation.field GenerationSet.coordinatorEpoch)
    |>.whole (by rintro ⟨⟩ ⟨⟩ h; simp_all)

theorem spells_nodeDetails : Spells encodeNodeDetails id :=
  spells_optionalString.field NodeDetails.hostName
    |>.append (spells_optionalEnum.field NodeDetails.role)
    |>.append (spells_optionalEnum.field NodeDetails.architecture)
    |>.append (spells_optionalString.field NodeDetails.operatingSystem)
    |>.append (spells_optionalU64.field NodeDetails.memoryBytes)
    |>.append (spells_optionalU32.field NodeDetails.cpuPackageCount)
    |>.append (spells_optionalU32.field NodeDetails.logicalCpuCount)
    |>.append (spells_optionalU32.field NodeDetails.acceleratorCount)
    |>.append (spells_optionalU32.field NodeDetails.nicCount)
    |>.append (spells_optionalU32.field NodeDetails.dpuCount)
    |>.append (spells_optionalId.field NodeDetails.worker)
    |>.append (spells_optionalId.field NodeDetails.boot)
    |>.whole (by rintro ⟨⟩ ⟨⟩ h; simp_all)

theorem spells_acceleratorDetails : Spells encodeAcceleratorDetails id :=
  spells_optionalString.field AcceleratorDetails.vendor
    |>.append (spells_optionalString.field AcceleratorDetails.model)
    |>.append (spells_optionalString.field AcceleratorDetails.architecture)
    |>.append (spells_optionalString.field AcceleratorDetails.uuid)
    |>.append (spells_optionalString.field AcceleratorDetails.driverVersion)
    |>.append (spells_optionalString.field AcceleratorDetails.pciAddress)
    |>.append (spells_optionalU64.field AcceleratorDetails.memoryBytes)
    |>.append (spells_optionalU32.field AcceleratorDetails.computeCapabilityMajor)
    |>.append (spells_optionalU32.field AcceleratorDetails.computeCapabilityMinor)
    |>.append (spells_optionalU32.field AcceleratorDetails.smCount)
    |>.append (spells_optionalU32.field AcceleratorDetails.maxThreadsPerBlock)
    |>.append (spells_optionalString.field AcceleratorDetails.interconnect)
    |>.whole (by rintro ⟨⟩ ⟨⟩ h; simp_all)

theorem spells_cpuPackageDetails : Spells encodeCpuPackageDetails id :=
  spells_optionalString.field CpuPackageDetails.vendor
    |>.append (spells_optionalString.field CpuPackageDetails.model)
    |>.append (spells_optionalU32.field CpuPackageDetails.physicalCores)
    |>.append (spells_optionalU32.field CpuPackageDetails.logicalThreads)
    |>.append (spells_optionalU32.field CpuPackageDetails.baseClockMhz)
    |>.append (spells_optionalU32.field CpuPackageDetails.socketIndex)
    |>.append (spells_optionalU32.field CpuPackageDetails.numaNode)
    |>.whole (by rintro ⟨⟩ ⟨⟩ h; simp_all)

theorem spells_memoryDomainDetails : Spells encodeMemoryDomainDetails id :=
  spells_optionalEnum.field MemoryDomainDetails.kind
    |>.append (spells_optionalU64.field MemoryDomainDetails.capacityBytes)
    |>.append (spells_optionalU32.field MemoryDomainDetails.numaNode)
    |>.append ((spells_optional spells_quantity).field MemoryDomainDetails.bandwidth)
    |>.whole (by rintro ⟨⟩ ⟨⟩ h; simp_all)

theorem spells_nicDetails : Spells encodeNicDetails id :=
  spells_optionalString.field NicDetails.vendor
    |>.append (spells_optionalString.field NicDetails.model)
    |>.append (spells_optionalString.field NicDetails.pciAddress)
    |>.append (spells_optionalU32.field NicDetails.portCount)
    |>.append ((spells_optional spells_quantity).field NicDetails.linkSpeed)
    |>.append (spells_optionalString.field NicDetails.macAddress)
    |>.whole (by rintro ⟨⟩ ⟨⟩ h; simp_all)

theorem spells_dpuDetails : Spells encodeDpuDetails id :=
  spells_optionalString.field DpuDetails.vendor
    |>.append (spells_optionalString.field DpuDetails.model)
    |>.append (spells_optionalString.field DpuDetails.firmwareVersion)
    |>.append (spells_optionalString.field DpuDetails.pciAddress)
    |>.append (spells_optionalU32.field DpuDetails.portCount)
    |>.whole (by rintro ⟨⟩ ⟨⟩ h; simp_all)

theorem spells_switchDetails : Spells encodeSwitchDetails id :=
  spells_optionalString.field SwitchDetails.vendor
    |>.append (spells_optionalString.field SwitchDetails.model)
    |>.append (spells_optionalU32.field SwitchDetails.portCount)
    |>.append (spells_optionalU32.field SwitchDetails.layerIndex)
    |>.append ((spells_optional spells_quantity).field SwitchDetails.linkSpeed)
    |>.whole (by rintro ⟨⟩ ⟨⟩ h; simp_all)

theorem spells_storageEndpointDetails : Spells encodeStorageEndpointDetails id :=
  spells_optionalEnum.field StorageEndpointDetails.kind
    |>.append (spells_optionalString.field StorageEndpointDetails.model)
    |>.append (spells_optionalString.field StorageEndpointDetails.interfaceName)
    |>.append (spells_optionalU64.field StorageEndpointDetails.capacityBytes)
    |>.whole (by rintro ⟨⟩ ⟨⟩ h; simp_all)

theorem spells_powerDomainDetails : Spells encodePowerDomainDetails id :=
  spells_optionalEnum.field PowerDomainDetails.kind
    |>.append (spells_optionalString.field PowerDomainDetails.label)
    |>.whole (by rintro ⟨⟩ ⟨⟩ h; simp_all)

theorem spells_coolingDomainDetails : Spells encodeCoolingDomainDetails id :=
  spells_optionalEnum.field CoolingDomainDetails.kind
    |>.append (spells_optionalString.field CoolingDomainDetails.label)
    |>.whole (by rintro ⟨⟩ ⟨⟩ h; simp_all)

def detailsTag : MemberDetails → UInt8
  | .monostate => 0
  | .node _ => 1
  | .accelerator _ => 2
  | .cpuPackage _ => 3
  | .memoryDomain _ => 4
  | .nic _ => 5
  | .dpu _ => 6
  | .switch _ => 7
  | .storageEndpoint _ => 8
  | .powerDomain _ => 9
  | .coolingDomain _ => 10

def detailsBody : MemberDetails → List WriteOp
  | .monostate => []
  | .node details => encodeNodeDetails details
  | .accelerator details => encodeAcceleratorDetails details
  | .cpuPackage details => encodeCpuPackageDetails details
  | .memoryDomain details => encodeMemoryDomainDetails details
  | .nic details => encodeNicDetails details
  | .dpu details => encodeDpuDetails details
  | .switch details => encodeSwitchDetails details
  | .storageEndpoint details => encodeStorageEndpointDetails details
  | .powerDomain details => encodePowerDomainDetails details
  | .coolingDomain details => encodeCoolingDomainDetails details

theorem spells_details : Spells encodeDetails id := by
  have hparts : encodeDetails = fun details => [.u8 (detailsTag details)] ++ detailsBody details := by
    funext details
    cases details <;> rfl
  rw [hparts]
  refine (spells_u8.field detailsTag).keyed fun tag => ?_
  rintro left right restLeft restRight ⟨hleft, rfl⟩ ⟨hright, hsame⟩ hbytes
  cases left <;> cases right <;> cases hsame
  case monostate => exact ⟨rfl, hbytes⟩
  case node =>
    exact (spells_nodeDetails hleft hright hbytes).imp_left (congrArg MemberDetails.node)
  case accelerator =>
    exact (spells_acceleratorDetails hleft hright hbytes).imp_left
      (congrArg MemberDetails.accelerator)
  case cpuPackage =>
    exact (spells_cpuPackageDetails hleft hright hbytes).imp_left
      (congrArg MemberDetails.cpuPackage)
  case memoryDomain =>
    exact (spells_memoryDomainDetails hleft hright hbytes).imp_left
      (congrArg MemberDetails.memoryDomain)
  case nic =>
    exact (spells_nicDetails hleft hright hbytes).imp_left (congrArg MemberDetails.nic)
  case dpu =>
    exact (spells_dpuDetails hleft hright hbytes).imp_left (congrArg MemberDetails.dpu)
  case switch =>
    exact (spells_switchDetails hleft hright hbytes).imp_left (congrArg MemberDetails.switch)
  case storageEndpoint =>
    exact (spells_storageEndpointDetails hleft hright hbytes).imp_left
      (congrArg MemberDetails.storageEndpoint)
  case powerDomain =>
    exact (spells_powerDomainDetails hleft hright hbytes).imp_left
      (congrArg MemberDetails.powerDomain)
  case coolingDomain =>
    exact (spells_coolingDomainDetails hleft hright hbytes).imp_left
      (congrArg MemberDetails.coolingDomain)

theorem spells_capability : Spells encodeCapability id :=
  spells_id.field CapabilityRef.id
    |>.append ((spells_observation.field CapabilityRef.toObservation).append
      (spells_optionalString.field CapabilityRef.value))
    |>.whole (by rintro ⟨⟩ ⟨⟩ h; simp_all)

theorem spells_member : Spells encodeMember id :=
  spells_memberKey.field MemberRecord.key
    |>.append ((spells_enum.field MemberRecord.lifecycle).append <|
      (spells_generation.field MemberRecord.generation).append <|
      spells_generation.field MemberRecord.publicationGeneration)
    |>.append (spells_observation.field MemberRecord.toObservation)
    |>.append (spells_enum.field MemberRecord.revalidationReason)
    |>.append (spells_optionalId.field MemberRecord.ownerWorker)
    |>.append (spells_optionalId.field MemberRecord.ownerBoot)
    |>.append ((spells_optional spells_memberKey).field MemberRecord.parent)
    |>.append ((spells_many _ spells_id).field MemberRecord.failureDomains)
    |>.append (spells_optionalId.field MemberRecord.powerDomain)
    |>.append (spells_optionalId.field MemberRecord.coolingDomain)
    |>.append (spells_optionalId.field MemberRecord.switchDomain)
    |>.append (spells_evidence.field MemberRecord.health)
    |>.append (spells_evidence.field MemberRecord.readiness)
    |>.append (spells_evidence.field MemberRecord.reachability)
    |>.append ((spells_many _ spells_capability).field MemberRecord.capabilities)
    |>.append (spells_details.field MemberRecord.details)
    |>.append (spells_optionalString.field MemberRecord.source)
    |>.whole (by rintro ⟨⟩ ⟨⟩ h; simp_all)

theorem spells_relationship : Spells encodeRelationship id :=
  spells_enum.field (fun record : RelationshipRecord => record.key.cls)
    |>.append ((spells_memberKey.field fun record : RelationshipRecord => record.key.source)
      |>.append (spells_memberKey.field fun record : RelationshipRecord => record.key.target)
      |>.append (spells_observation.field RelationshipRecord.toObservation)
      |>.append (spells_generation.field RelationshipRecord.generation)
      |>.append (spells_optionalId.field RelationshipRecord.ownerWorker)
      |>.append (spells_optionalId.field RelationshipRecord.ownerBoot)
      |>.append (spells_optionalId.field RelationshipRecord.link)
      |>.append ((spells_optional spells_quantity).field RelationshipRecord.capacity)
      |>.append (spells_optionalString.field RelationshipRecord.source))
    |>.whole (by rintro ⟨_, ⟨⟩⟩ ⟨_, ⟨⟩⟩ h; simp_all)

theorem spells_failureDomain : Spells encodeFailureDomain id :=
  (spells_id.field FailureDomainRecord.id).append
      ((spells_enum.field FailureDomainRecord.kind).append
        (spells_enum.field FailureDomainRecord.lifecycle))
    |>.append ((spells_many _ spells_id).field FailureDomainRecord.parents)
    |>.append (spells_generation.field FailureDomainRecord.generation)
    |>.append (spells_observation.field FailureDomainRecord.toObservation)
    |>.append (spells_optionalId.field FailureDomainRecord.ownerWorker)
    |>.append (spells_optionalId.field FailureDomainRecord.ownerBoot)
    |>.append (spells_optionalString.field FailureDomainRecord.label)
    |>.append (spells_optionalString.field FailureDomainRecord.source)
    |>.whole (by rintro ⟨⟩ ⟨⟩ h; simp_all)

theorem spells_budget : Spells encodeBudget id :=
  spells_id.field PowerDomainBudget.domain
    |>.append ((spells_optional spells_quantity).field PowerDomainBudget.limit
      |>.append ((spells_optional spells_quantity).field PowerDomainBudget.observedDraw)
      |>.append ((spells_optional spells_quantity).field PowerDomainBudget.headroom))
    |>.whole (by rintro ⟨⟩ ⟨⟩ h; simp_all)

theorem spells_powerEnvelope : Spells encodePowerEnvelope id :=
  spells_generation.field PowerEnvelopeRecord.generation
    |>.append ((spells_optional spells_quantity).field PowerEnvelopeRecord.rackLimit
      |>.append ((spells_optional spells_quantity).field PowerEnvelopeRecord.rackObservedDraw)
      |>.append ((spells_optional spells_quantity).field PowerEnvelopeRecord.rackHeadroom)
      |>.append ((spells_many _ spells_budget).field PowerEnvelopeRecord.domainBudgets)
      |>.append (spells_observation.field PowerEnvelopeRecord.toObservation)
      |>.append (spells_optionalId.field PowerEnvelopeRecord.ownerWorker)
      |>.append (spells_optionalId.field PowerEnvelopeRecord.ownerBoot)
      |>.append (spells_optionalString.field PowerEnvelopeRecord.source))
    |>.whole (by rintro ⟨⟩ ⟨⟩ h; simp_all)

theorem spells_zone : Spells encodeZone id :=
  spells_id.field CoolingZoneRecord.zone
    |>.append ((spells_optional spells_quantity).field CoolingZoneRecord.designThermalLimit
      |>.append ((spells_optional spells_quantity).field CoolingZoneRecord.observedTemperature)
      |>.append ((spells_optional spells_quantity).field CoolingZoneRecord.coolingCapacity)
      |>.append ((spells_optional spells_quantity).field CoolingZoneRecord.thermalHeadroom)
      |>.append ((spells_optional spells_evidence).field CoolingZoneRecord.throttling))
    |>.whole (by rintro ⟨⟩ ⟨⟩ h; simp_all)

theorem spells_coolingEnvelope : Spells encodeCoolingEnvelope id :=
  spells_generation.field CoolingEnvelopeRecord.generation
    |>.append ((spells_many _ spells_zone).field CoolingEnvelopeRecord.zones
      |>.append (spells_observation.field CoolingEnvelopeRecord.toObservation)
      |>.append (spells_optionalId.field CoolingEnvelopeRecord.ownerWorker)
      |>.append (spells_optionalId.field CoolingEnvelopeRecord.ownerBoot)
      |>.append (spells_optionalString.field CoolingEnvelopeRecord.source))
    |>.whole (by rintro ⟨⟩ ⟨⟩ h; simp_all)

/-- The digest is not part of what it covers. -/
def undigested (snapshot : RackSnapshot) : RackSnapshot :=
  { snapshot with digest := [] }

theorem spells_snapshot : Spells encodeSnapshot undigested :=
  (spells_id.field RackSnapshot.id).append
      ((spells_generation.field RackSnapshot.generation).append <|
        (spells_generation.field RackSnapshot.publicationGeneration).append <|
        (spells_timestamp.field RackSnapshot.createdAt).append <|
        (spells_id.field RackSnapshot.rack).append <| spells_id.field RackSnapshot.rackEpoch)
    |>.append (spells_generationSet.field RackSnapshot.generations)
    |>.append (spells_enum.field RackSnapshot.lifecycle)
    |>.append ((spells_many _ spells_member).field RackSnapshot.members)
    |>.append ((spells_many _ spells_relationship).field RackSnapshot.relationships)
    |>.append ((spells_many _ spells_failureDomain).field RackSnapshot.failureDomains)
    |>.append ((spells_optional spells_powerEnvelope).field RackSnapshot.powerEnvelope)
    |>.append ((spells_optional spells_coolingEnvelope).field RackSnapshot.coolingEnvelope)
    |>.narrow (by rintro ⟨⟩ ⟨⟩ h; simp_all [undigested])

/-- The writer after every call of the encoder, whether it has met its bounds or not. -/
def snapshotWriter (snapshot : RackSnapshot) (limits : ResourceLimits) : ByteWriter :=
  ByteWriter.writeAll { limits := limits, maxBytes := limits.maxPayloadBytes }
    (encodeSnapshot snapshot)

def digestInput (snapshot : RackSnapshot) (limits : ResourceLimits) : Bytes :=
  (snapshotWriter snapshot limits).buffer

theorem computeSnapshotDigest_eq (snapshot : RackSnapshot) (limits : ResourceLimits) :
    computeSnapshotDigest snapshot limits = Sha256.hash (digestInput snapshot limits) := rfl

theorem sized_of_within {snapshot : RackSnapshot} {limits : ResourceLimits}
    (h : snapshot.extent.Within limits) : ∀ op ∈ encodeSnapshot snapshot, op.Sized := by
  rw [← callsExtent_snapshot] at h
  intro op hmem
  obtain ⟨htexts, hlists⟩ := parts_of_mem hmem
  cases op with
  | u8 value => trivial
  | raw written => trivial
  | string value => exact (h.texts value (htexts (List.mem_singleton_self value))).2
  | count length maximum => exact (h.lists _ (hlists (List.mem_singleton_self _))).2

theorem digestInput_of_within {snapshot : RackSnapshot} {limits : ResourceLimits}
    (h : snapshot.extent.Within limits) :
    digestInput snapshot limits = (encodeSnapshot snapshot).flatMap WriteOp.bytes := by
  rw [← callsExtent_snapshot] at h
  have hroom : ((encodeSnapshot snapshot).flatMap WriteOp.bytes).length ≤
      limits.maxPayloadBytes := by
    rw [← size_callsExtent]
    exact h.size
  have hwritten := @ByteWriter.writeAll_of_fits
    { limits := limits, maxBytes := limits.maxPayloadBytes } (encodeSnapshot snapshot) h.fits
    (by simpa using hroom)
  rw [digestInput, snapshotWriter, hwritten]
  rfl

/-- Snapshots whose records are within the limits are told apart by what is hashed. -/
theorem digest_input_determines_snapshot (first second : RackSnapshot)
    (limits limits' : ResourceLimits) (hfirst : first.extent.Within limits)
    (hsecond : second.extent.Within limits')
    (hsame : digestInput first limits = digestInput second limits') :
    undigested first = undigested second := by
  rw [digestInput_of_within hfirst, digestInput_of_within hsecond,
    ← List.append_nil (List.flatMap _ _),
    ← List.append_nil (List.flatMap _ (encodeSnapshot second))] at hsame
  exact (spells_snapshot (sized_of_within hfirst) (sized_of_within hsecond) hsame).1

def equippedSnapshot (inputs : List Input) : Option RackSnapshot :=
  published Scenario.defaults (Scenario.run (Scenario.equippedRack ++ inputs)) publishSnapshotInput

/-- Another process registers, which the snapshot does not show. -/
theorem equipped_snapshots_determined :
    undigested ((equippedSnapshot []).get (by decide +kernel)) =
      undigested ((equippedSnapshot [Scenario.registerPublisher Scenario.bootB]).get
        (by decide +kernel)) :=
  digest_input_determines_snapshot _ _ Scenario.defaults.limits Scenario.defaults.limits
    (by refine ⟨?_, ?_, ?_⟩ <;> decide +kernel) (by refine ⟨?_, ?_, ?_⟩ <;> decide +kernel)
    (by decide +kernel)

/-- A node whose host name is longer than a text may be. -/
def longNamedNode (letter : UInt8) : Input :=
  Scenario.publishMember Scenario.operator
    { key := Scenario.node "a"
      details := .node { hostName := some (List.replicate 300 letter) } }

def longNamedSnapshot (letter : UInt8) : Option RackSnapshot :=
  published Scenario.defaults (Scenario.run [Scenario.declareRack, longNamedNode letter])
    publishSnapshotInput

/-- The long name is left out of what is hashed, whichever it is. -/
theorem long_name_outside_digest :
    ¬ ∀ before before' first second,
      published Scenario.defaults (Scenario.run before) publishSnapshotInput = some first →
      published Scenario.defaults (Scenario.run before') publishSnapshotInput = some second →
      digestInput first Scenario.defaults.limits = digestInput second Scenario.defaults.limits →
        first.members = second.members := by
  intro h
  have hpublished : (longNamedSnapshot 0x61).isSome = true ∧
      (longNamedSnapshot 0x62).isSome = true := by
    decide +kernel
  have hinput : (longNamedSnapshot 0x61).map (digestInput · Scenario.defaults.limits) =
      (longNamedSnapshot 0x62).map (digestInput · Scenario.defaults.limits) := by
    decide +kernel
  have hmembers : (longNamedSnapshot 0x61).map (·.members) ≠
      (longNamedSnapshot 0x62).map (·.members) := by
    decide +kernel
  obtain ⟨first, hfirst⟩ := Option.isSome_iff_exists.mp hpublished.1
  obtain ⟨second, hsecond⟩ := Option.isSome_iff_exists.mp hpublished.2
  simp only [hfirst, hsecond, Option.map_some, Option.some.injEq] at hinput
  rw [hfirst, hsecond] at hmembers
  exact hmembers (congrArg some (h _ _ first second hfirst hsecond hinput))

end RackFabric
