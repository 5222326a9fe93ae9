import RackFabric.Properties.Answers
import RackFabric.Properties.Hardware
import RackFabric.Properties.Sending
import RackFabric.Properties.Writable

/-! The messages of a publication travel whole. -/
namespace RackFabric
open Enumeration

/-! The sizes of what the details are written as. -/

namespace WriteOp

theorem length_optionalString_le {value : Option Str} {maximum : Nat}
    (h : ∀ text ∈ value, text.length ≤ maximum) :
    ((optionalString value).flatMap bytes).length ≤ 5 + maximum := by
  cases value with
  | none =>
    simp [optionalString, optional, bytes]
    omega
  | some text =>
    have htext := h text rfl
    simp only [optionalString, optional, List.flatMap_cons, List.flatMap_nil, bytes,
      List.length_append, List.length_cons, List.length_nil, LittleEndian.length_encode]
    omega

theorem length_optionalU32_le (value : Option UInt32) :
    ((optionalU32 value).flatMap bytes).length ≤ 5 := by
  cases value <;> simp [optionalU32, optional, u32, bytes]

theorem length_optionalU64_le (value : Option UInt64) :
    ((optionalU64 value).flatMap bytes).length ≤ 9 := by
  cases value <;> simp [optionalU64, optional, u64, bytes]

theorem length_optionalEnum_le {α : Type} [DecidableEq α] [Enumeration.Enum8 α]
    (value : Option α) : ((optionalEnum value).flatMap bytes).length ≤ 5 := by
  cases value <;> simp [optionalEnum, optional, u32, bytes]

theorem length_optionalQuantity_le (value : Option Quantity) :
    ((optional encodeQuantity value).flatMap bytes).length ≤ 38 := by
  cases value with
  | none => simp [optional, bytes]
  | some quantity =>
    cases huncertainty : quantity.uncertainty <;>
      simp [optional, encodeQuantity, optionalDouble, huncertainty, f64, u64, i64, enum, timestamp,
        boolean, bytes]

end WriteOp

/-- Bounds that leave room for a record of discovery. -/
structure ResourceLimits.Ample (limits : ResourceLimits) : Prop where
  strings : 256 ≤ limits.maxStringBytes
  items : 2 ≤ limits.maxCollectionItems
  payload : 4096 + 2 * limits.maxStringBytes ≤ limits.maxPayloadBytes
  frame : 4096 + 2 * limits.maxStringBytes + kFrameOverheadBytes ≤ limits.maxFrameBytes
  narrow : limits.maxPayloadBytes < 2 ^ 32

structure Platform.Brief (platform : Platform) (limits : ResourceLimits) : Prop where
  hostName : platform.hostName.length ≤ limits.maxStringBytes
  operatingSystem : ∀ text ∈ osDescription platform, text.length ≤ limits.maxStringBytes
  descriptions : ∀ found ∈ Discovery.adapters platform, ∀ adapter ∈ found,
    adapter.description.length ≤ limits.maxStringBytes

/-- Details that are sent whole, in a payload of a few texts. -/
structure MemberDetails.Brief (limits : ResourceLimits) (details : MemberDetails) : Prop where
  sent : details.Sent limits
  size : ((encodeDetails details).flatMap WriteOp.bytes).length ≤ 128 + 2 * limits.maxStringBytes

theorem MemberDetails.Brief.of {limits : ResourceLimits} (hample : limits.Ample)
    {details : MemberDetails} (hdecodable : details.Decodable)
    (hfits : ∀ op ∈ encodeDetails details, op.Fits limits)
    (hsize : ((encodeDetails details).flatMap WriteOp.bytes).length ≤
      128 + 2 * limits.maxStringBytes) : details.Brief limits := by
  have hpayload := hample.payload
  exact ⟨⟨hdecodable, hfits, by omega⟩, hsize⟩

theorem WriteOp.allFit_optionalString_of {limits : ResourceLimits} {value : Option Str}
    (h : ∀ text ∈ value, text.length ≤ limits.maxStringBytes) :
    WriteOp.AllFit limits (WriteOp.optionalString value) := by
  rw [WriteOp.optionalString, WriteOp.allFit_optional]
  intro text htext
  exact WriteOp.allFit_cons.mpr ⟨h text htext, WriteOp.allFit_nil⟩

theorem WriteOp.allFit_optionalId_of {limits : ResourceLimits} (hample : limits.Ample)
    {tag : IdentityTag} (value : Option (StrongId tag)) :
    WriteOp.AllFit limits (WriteOp.optionalId value) := by
  rw [WriteOp.optionalId, WriteOp.allFit_optional]
  intro id _
  have hid := id.length_value_le
  have hstrings := hample.strings
  simp only [kMaxIdentityLength] at hid
  exact WriteOp.allFit_cons.mpr ⟨by simp only [WriteOp.Fits]; omega, WriteOp.allFit_nil⟩

/-- Details with texts within the bound of a string are sent whole. -/
theorem NodeDetails.brief {limits : ResourceLimits} (hample : limits.Ample)
    {details : NodeDetails} (hhost : ∀ text ∈ details.hostName, text.length ≤ limits.maxStringBytes)
    (hsystem : ∀ text ∈ details.operatingSystem, text.length ≤ limits.maxStringBytes)
    (hworker : details.worker = none) (hboot : details.boot = none) :
    (MemberDetails.node details).Brief limits := by
  have hpayload := hample.payload
  have hnarrow := hample.narrow
  have hdecodable : details.Decodable :=
    { hostName := fun text htext => by
        have hlength := hhost text htext
        omega
      operatingSystem := fun text htext => by
        have hlength := hsystem text htext
        omega
      worker := fun id hid => by
        rw [hworker] at hid
        cases hid
      boot := fun id hid => by
        rw [hboot] at hid
        cases hid }
  refine .of hample hdecodable ?_ ?_
  · change WriteOp.AllFit limits (encodeDetails (.node details))
    simp [encodeDetails, encodeNodeDetails, WriteOp.allFit_optionalString_of hhost,
      WriteOp.allFit_optionalString_of hsystem, WriteOp.allFit_optionalId_of hample]
  · have hhosts := WriteOp.length_optionalString_le hhost
    have hsystems := WriteOp.length_optionalString_le hsystem
    have hrole := WriteOp.length_optionalEnum_le details.role
    have harchitecture := WriteOp.length_optionalEnum_le details.architecture
    have hmemory := WriteOp.length_optionalU64_le details.memoryBytes
    have hpackages := WriteOp.length_optionalU32_le details.cpuPackageCount
    have hcpus := WriteOp.length_optionalU32_le details.logicalCpuCount
    have haccelerators := WriteOp.length_optionalU32_le details.acceleratorCount
    have hnics := WriteOp.length_optionalU32_le details.nicCount
    have hdpus := WriteOp.length_optionalU32_le details.dpuCount
    have hids : ((WriteOp.optionalId details.worker).flatMap WriteOp.bytes).length +
        ((WriteOp.optionalId details.boot).flatMap WriteOp.bytes).length = 2 := by
      rw [hworker, hboot]
      rfl
    simp only [encodeDetails, encodeNodeDetails, List.flatMap_append, List.length_append,
      List.flatMap_cons, WriteOp.bytes, List.length_cons, List.length_nil]
    omega

theorem CpuPackageDetails.brief {limits : ResourceLimits} (hample : limits.Ample)
    {details : CpuPackageDetails} (hvendor : details.vendor = none)
    (hmodel : details.model = none) :
    (MemberDetails.cpuPackage details).Brief limits := by
  have hnone : ∀ value : Option Str, value = none → TextDecodable value := by
    rintro value rfl text htext
    cases htext
  refine .of hample ⟨hnone _ hvendor, hnone _ hmodel⟩ ?_ ?_
  · change WriteOp.AllFit limits (encodeDetails (.cpuPackage details))
    simp [encodeDetails, encodeCpuPackageDetails, hvendor, hmodel, WriteOp.optionalString]
  · have hcores := WriteOp.length_optionalU32_le details.physicalCores
    have hthreads := WriteOp.length_optionalU32_le details.logicalThreads
    have hclock := WriteOp.length_optionalU32_le details.baseClockMhz
    have hsocket := WriteOp.length_optionalU32_le details.socketIndex
    have hnuma := WriteOp.length_optionalU32_le details.numaNode
    have htexts : ((WriteOp.optionalString details.vendor).flatMap WriteOp.bytes).length +
        ((WriteOp.optionalString details.model).flatMap WriteOp.bytes).length = 2 := by
      rw [hvendor, hmodel]
      rfl
    simp only [encodeDetails, encodeCpuPackageDetails, List.flatMap_append, List.length_append,
      List.flatMap_cons, WriteOp.bytes, List.length_cons, List.length_nil]
    omega

theorem MemoryDomainDetails.brief {limits : ResourceLimits} (hample : limits.Ample)
    {details : MemoryDomainDetails} (hbandwidth : QuantityDecodable details.bandwidth) :
    (MemberDetails.memoryDomain details).Brief limits := by
  refine .of hample ⟨hbandwidth⟩ ?_ ?_
  · change WriteOp.AllFit limits (encodeDetails (.memoryDomain details))
    simp [encodeDetails, encodeMemoryDomainDetails]
  · have hkind := WriteOp.length_optionalEnum_le details.kind
    have hcapacity := WriteOp.length_optionalU64_le details.capacityBytes
    have hnuma := WriteOp.length_optionalU32_le details.numaNode
    have hquantity := WriteOp.length_optionalQuantity_le details.bandwidth
    simp only [encodeDetails, encodeMemoryDomainDetails, List.flatMap_append, List.length_append,
      List.flatMap_cons, WriteOp.bytes, List.length_cons, List.length_nil]
    omega

theorem NicDetails.brief {limits : ResourceLimits} (hample : limits.Ample)
    {details : NicDetails} (hvendor : details.vendor = none) (haddress : details.pciAddress = none)
    (hmodel : ∀ text ∈ details.model, text.length ≤ limits.maxStringBytes)
    (hmac : ∀ text ∈ details.macAddress, text.length ≤ 17)
    (hspeed : QuantityDecodable details.linkSpeed) :
    (MemberDetails.nic details).Brief limits := by
  have hstrings := hample.strings
  have hpayload := hample.payload
  have hnarrow := hample.narrow
  have hmacs : ∀ text ∈ details.macAddress, text.length ≤ limits.maxStringBytes := by
    intro text htext
    have hlength := hmac text htext
    omega
  have hdecodable : details.Decodable :=
    { vendor := fun text htext => by
        rw [hvendor] at htext
        cases htext
      model := fun text htext => by
        have hlength := hmodel text htext
        omega
      pciAddress := fun text htext => by
        rw [haddress] at htext
        cases htext
      linkSpeed := hspeed
      macAddress := fun text htext => by
        have hlength := hmac text htext
        omega }
  refine .of hample hdecodable ?_ ?_
  · change WriteOp.AllFit limits (encodeDetails (.nic details))
    have hnone : WriteOp.AllFit limits (WriteOp.optionalString none) :=
      WriteOp.allFit_optionalString_of fun _ hnone => by cases hnone
    simp [encodeDetails, encodeNicDetails, hvendor, haddress, hnone,
      WriteOp.allFit_optionalString_of hmodel, WriteOp.allFit_optionalString_of hmacs]
  · have hmodels := WriteOp.length_optionalString_le hmodel
    have hmacLength := WriteOp.length_optionalString_le hmac
    have hports := WriteOp.length_optionalU32_le details.portCount
    have hquantity := WriteOp.length_optionalQuantity_le details.linkSpeed
    have htexts : ((WriteOp.optionalString details.vendor).flatMap WriteOp.bytes).length +
        ((WriteOp.optionalString details.pciAddress).flatMap WriteOp.bytes).length = 2 := by
      rw [hvendor, haddress]
      rfl
    simp only [encodeDetails, encodeNicDetails, List.flatMap_append, List.length_append,
      List.flatMap_cons, WriteOp.bytes, List.length_cons, List.length_nil]
    omega

namespace Discovery
variable {platform : Platform} {options : HardwareDiscoveryOptions} {limits : ResourceLimits}
  {text : Str} {domain : FailureDomainId}

theorem length_macAddress {address : List UInt8} (h : address.length = 6) :
    (macAddress address).length = 17 := by
  match address, h with
  | [_, _, _, _, _, _], _ => rfl

theorem brief_node (hample : limits.Ample) (h : platform.Brief limits) :
    (MemberDetails.node (nodeDetails platform options)).Brief limits := by
  refine NodeDetails.brief hample (fun text htext => ?_) h.operatingSystem rfl rfl
  simp only [nodeDetails] at htext
  split at htext
  · cases htext
  · obtain rfl := Option.some.inj htext
    exact h.hostName

theorem brief_nic (hample : limits.Ample) (hdiscoverable : Discoverable platform options)
    {adapter : AdapterEntry} (h : adapter.description.length ≤ limits.maxStringBytes)
    (index : Nat) : (nic platform options text domain index adapter).details.Brief limits := by
  refine NicDetails.brief hample rfl rfl (fun text htext => ?_) (fun text htext => ?_)
    (fun quantity hquantity => ?_)
  · obtain rfl := Option.some.inj htext
    exact h
  · split at htext
    · rename_i haddress
      obtain rfl := Option.some.inj htext
      exact (length_macAddress haddress).le
    · cases htext
  · unfold linkSpeed at hquantity
    split at hquantity
    · obtain rfl := Option.some.inj hquantity
      exact hdiscoverable.lifetime
    · cases hquantity

theorem brief_of_mem (hample : limits.Ample) (hdiscoverable : Discoverable platform options)
    (h : platform.Brief limits) {record : MemberRecord}
    (hrecord : record ∈ parts platform options text domain) : record.details.Brief limits := by
  unfold parts at hrecord
  rw [List.mem_append, List.mem_append] at hrecord
  rcases hrecord with (hrecord | hrecord) | hrecord
  · obtain ⟨pair, -, rfl⟩ := List.mem_map.mp hrecord
    exact CpuPackageDetails.brief hample rfl rfl
  · unfold memoryDomains at hrecord
    split at hrecord
    · obtain ⟨index, -, rfl⟩ := List.mem_map.mp hrecord
      exact MemoryDomainDetails.brief hample fun _ hnone => by cases hnone
    · cases hrecord
  · unfold nics at hrecord
    split at hrecord
    · split at hrecord
      · cases hrecord
      · rename_i found hfound
        obtain ⟨⟨adapter, index⟩, hmem, rfl⟩ := List.mem_map.mp hrecord
        have hadapter := (List.mem_filter.mp (List.fst_mem_of_mem_zipIdx hmem)).1
        exact brief_nic hample hdiscoverable (h.descriptions found hfound adapter hadapter) index
    · cases hrecord

end Discovery

/-! Records as they are published. -/

/-- A record of discovery: valid as it travels, and small enough to travel whole. -/
structure Recorded (limits : ResourceLimits) (domain : FailureDomainId) (record : MemberRecord) :
    Prop where
  evident : Synthetic.Evident record.carried
  brief : record.details.Brief limits
  present : record.lifecycle = .present
  plain : record.generation = {}
  parent : ∀ key ∈ record.parent, (validateIdentity key.id).ok = true
  failureDomains : record.failureDomains = [domain]
  powerDomain : record.powerDomain = none
  coolingDomain : record.coolingDomain = none
  switchDomain : record.switchDomain = none
  capabilities : record.capabilities.length ≤ 2

namespace Discovery
variable {platform : Platform} {options : HardwareDiscoveryOptions} {limits : ResourceLimits}
  {domain : FailureDomainId}

theorem recorded_node (hample : limits.Ample) (hdiscoverable : Discoverable platform options)
    (h : platform.Brief limits) :
    Recorded limits domain (node platform options (nodeIdText platform options) domain) where
  evident := evident_node hdiscoverable
  brief := brief_node hample h
  present := rfl
  plain := rfl
  parent := fun key hkey => by cases hkey
  failureDomains := rfl
  powerDomain := rfl
  coolingDomain := rfl
  switchDomain := rfl
  capabilities := by
    change (capabilities platform options).length ≤ 2
    unfold capabilities
    split <;> simp

theorem recorded_of_mem (hample : limits.Ample) (hdiscoverable : Discoverable platform options)
    (h : platform.Brief limits) {record : MemberRecord}
    (hrecord : record ∈ parts platform options (nodeIdText platform options) domain) :
    Recorded limits domain record := by
  have hpart := isPart_of_mem hrecord
  have hbrief := brief_of_mem hample hdiscoverable h hrecord
  have hevident := evident_part hdiscoverable hpart
  obtain ⟨kind, suffix, reading, details, rfl, -⟩ := hpart.made
  exact
    { evident := hevident
      brief := hbrief
      present := rfl
      plain := rfl
      parent := by
        intro key hkey
        obtain rfl := Option.some.inj hkey
        exact hdiscoverable.identity
      failureDomains := rfl
      powerDomain := rfl
      coolingDomain := rfl
      switchDomain := rfl
      capabilities := Nat.zero_le 2 }

end Discovery

/-! Calls of the payload writer that are within bounds. -/

/-- The calls are taken by the writer, write their lengths as they are, and so many bytes at
most. -/
structure PayloadOp.Within (limits : ResourceLimits) (size : Nat) (ops : List PayloadOp) :
    Prop where
  fits : ∀ op ∈ ops, op.Fits limits
  narrow : NarrowCalls ops
  size : (ops.flatMap PayloadOp.bytes).length ≤ size

namespace PayloadOp.Within
open PayloadOp
variable {limits : ResourceLimits} {size more : Nat} {ops rest : List PayloadOp}

theorem mono (h : Within limits size ops) (hle : size ≤ more) : Within limits more ops :=
  ⟨h.fits, h.narrow, h.size.trans hle⟩

theorem append (h : Within limits size ops) (hrest : Within limits more rest) :
    Within limits (size + more) (ops ++ rest) where
  fits := List.forall_mem_append.mpr ⟨h.fits, hrest.fits⟩
  narrow := narrowCalls_append.mpr ⟨h.narrow, hrest.narrow⟩
  size := by
    rw [List.flatMap_append, List.length_append]
    exact Nat.add_le_add h.size hrest.size

theorem raw (limits : ResourceLimits) (bytes : Bytes) :
    Within limits bytes.length [PayloadOp.raw bytes] where
  fits := by simp
  narrow := by simp
  size := by simp

theorem text (hample : limits.Ample) {value : Str} (h : value.length ≤ kMaxIdentityLength) :
    Within limits 132 [PayloadOp.string value] := by
  have hstrings := hample.strings
  simp only [kMaxIdentityLength] at h
  refine ⟨?_, ?_, ?_⟩
  · simp
    omega
  · simp [PayloadOp.Narrow]
    omega
  · simp
    omega

theorem block {bytes : Bytes} (hbytes : bytes.length ≤ size) (hsize : size ≤ limits.maxPayloadBytes)
    (hample : limits.Ample) : Within limits (4 + size) [PayloadOp.sized bytes] := by
  have hnarrow := hample.narrow
  refine ⟨?_, ?_, ?_⟩
  · simp only [List.mem_singleton, forall_eq, PayloadOp.Fits]
    omega
  · simp only [narrowCalls_cons, narrowCalls_nil, and_true, PayloadOp.Narrow]
    omega
  · simp [PayloadOp.bytes]
    omega

theorem optional {α : Type} {write : α → List PayloadOp} {value : Option α}
    (h : ∀ found ∈ value, Within limits size (write found)) :
    Within limits (1 + size) (PayloadOp.optional write value) := by
  cases value with
  | none => exact (raw limits [0]).mono (Nat.le_add_right 1 size)
  | some found => exact (raw limits [1]).append (h found rfl)

theorem optionalId (hample : limits.Ample) {tag : IdentityTag} (value : Option (StrongId tag)) :
    Within limits 133 (PayloadOp.optionalId value) := by
  cases value with
  | none => exact (raw limits [0]).mono (by decide)
  | some id => exact (raw limits [1]).append (text hample id.length_value_le)

theorem many {α : Type} {write : α → List PayloadOp} {values : List α} (hample : limits.Ample)
    (hfew : values.length ≤ 2) (h : ∀ value ∈ values, Within limits size (write value)) :
    Within limits (4 + 2 * size) (PayloadOp.many write values) := by
  have hitems := hample.items
  have hcount : Within limits 4 [PayloadOp.collectionSize values.length] :=
    ⟨by simp only [List.mem_singleton, forall_eq, PayloadOp.Fits]; omega,
      by simp only [narrowCalls_cons, narrowCalls_nil, and_true, PayloadOp.Narrow]; omega,
      by simp [PayloadOp.bytes]⟩
  have hvalues : Within limits (values.length * size) (values.flatMap write) := by
    clear hfew hcount
    induction values with
    | nil => exact ⟨by simp, by simp, by simp⟩
    | cons value values ih =>
      have hfirst := h value List.mem_cons_self
      have hlater := ih fun other hother => h other (List.mem_cons_of_mem _ hother)
      rw [List.flatMap_cons, List.length_cons, Nat.add_mul, Nat.one_mul, Nat.add_comm]
      exact hfirst.append hlater
  exact (hcount.append hvalues).mono (Nat.add_le_add_left (Nat.mul_le_mul_right _ hfew) 4)

theorem optionalText (hample : limits.Ample) {value : Option Str}
    (h : ∀ found ∈ value, found.length ≤ kMaxIdentityLength) :
    Within limits 133 (PayloadOp.optionalString value) := by
  cases value with
  | none => exact (raw limits [0]).mono (by decide)
  | some found => exact (raw limits [1]).append (text hample (h found rfl))

theorem enum {α : Type} [DecidableEq α] [Enum8 α] (value : α) :
    Within limits 1 [PayloadOp.enum8 value] :=
  raw limits [toUInt8 value]

theorem boolean (value : Bool) : Within limits 1 [PayloadOp.boolean value] :=
  raw limits [if value then 1 else 0]

theorem number (value : UInt64) : Within limits 8 [PayloadOp.u64 value] := by
  have hraw := raw limits (LittleEndian.encode 8 value.toNat)
  rwa [LittleEndian.length_encode] at hraw

theorem optionalGeneration {tag : GenerationTag} (value : Option (Generation tag)) :
    Within limits 9 (PayloadOp.optionalGeneration value) :=
  optional fun (found : Generation tag) _ => number found.value

theorem authority (hample : limits.Ample) (token : AuthorityToken) :
    Within limits 283 (writeAuthority token) :=
  (number token.coordinatorEpoch.value).append
    (((optionalId hample token.boot).append (optionalGeneration token.publicationGeneration)).append
      (optionalId hample token.rack))

theorem memberKey (hample : limits.Ample) {key : MemberKey}
    (h : (validateIdentity key.id).ok = true) : Within limits 133 (writeMemberKey key) :=
  (enum key.kind).append (text hample (length_le_of_validateIdentity h))

theorem evidenceHeader (evidence : Observation) :
    Within limits 18 (writeEvidenceHeader evidence) :=
  (enum evidence.provenance).append
    ((number evidence.observedAt.unixMillis.toUInt64).append
      ((number evidence.ttl.toUInt64).append (enum evidence.durability)))

theorem evidence {α : Type} [Inhabited α] [DecidableEq α] [Enum8 α] (value : EvidenceValue α) :
    Within limits 19 (writeEvidence value) :=
  (evidenceHeader value.toObservation).append (enum value.value)

theorem capability (hample : limits.Ample) {capability : CapabilityRef}
    (h : ∀ value ∈ capability.value, value.length ≤ kMaxIdentityLength) :
    Within limits 283 (writeCapability capability) :=
  (text hample capability.id.length_value_le).append
    ((evidenceHeader capability.toObservation).append (optionalText hample h))

end PayloadOp.Within

/-! The messages. -/

section Messages
open PayloadOp.Within
variable {limits : ResourceLimits} {domain : FailureDomainId} {record : MemberRecord}

theorem length_of_capability (h : Synthetic.Evident record.carried) {capability : CapabilityRef}
    (hcapability : capability ∈ record.capabilities) :
    ∀ value ∈ capability.value, value.length ≤ kMaxIdentityLength := by
  intro value hvalue
  have hvalid := h.capabilities capability.carried (List.mem_map_of_mem hcapability)
  simp only [validateCapability, firstError_cons, errorIf_eq_none] at hvalid
  have hlabel := hvalid.2.1
  rw [show capability.carried.value = some value from hvalue] at hlabel
  exact length_le_of_validateLabel (by simpa using hlabel)

theorem within_publishMember (hample : limits.Ample) (h : Recorded limits domain record)
    (token : AuthorityToken) :
    PayloadOp.Within limits (2146 + 2 * limits.maxStringBytes)
      (PublishMemberMessage.encode limits { authority := token, record := record }) := by
  have hpayload := hample.payload
  have hdomains : record.failureDomains.length ≤ 2 := by
    rw [h.failureDomains]
    exact Nat.le_succ 1
  have hsource : ∀ source ∈ record.source, source.length ≤ kMaxIdentityLength := fun source hmem =>
    length_le_of_validateLabel (h.evident.source source hmem)
  have hsent := h.brief.sent
  have hkey : PayloadOp.Within limits 133 (writeMemberKey record.key) :=
    memberKey hample h.evident.identity
  have hstate : PayloadOp.Within limits 9
      [PayloadOp.enum8 record.lifecycle, PayloadOp.generation record.generation] :=
    (enum record.lifecycle).append (number record.generation.value)
  have hparent := optional fun key hkey => memberKey hample (h.parent key hkey)
  have hdetails : PayloadOp.Within limits (4 + (128 + 2 * limits.maxStringBytes))
      [PayloadOp.sized (detailBytes limits record.details)] := by
    rw [detailBytes_of_fits hsent.fits hsent.size]
    exact block h.brief.size (by omega) hample
  have hcapabilities := many hample h.capabilities fun capability hcapability =>
    PayloadOp.Within.capability hample (length_of_capability h.evident hcapability)
  have hnames := many hample hdomains fun (id : FailureDomainId) _ => text hample id.length_value_le
  have hplaced := ((((authority hample token).append hkey).append hstate).append
    (evidenceHeader record.toObservation)).append hparent
  have hsupplied := (((hplaced.append hnames).append (optionalId hample record.powerDomain)).append
    (optionalId hample record.coolingDomain)).append (optionalId hample record.switchDomain)
  have hevident := ((((hsupplied.append hdetails).append hcapabilities).append
    (evidence record.health)).append (evidence record.readiness)).append
    (evidence record.reachability)
  have hexpected : PayloadOp.Within limits 9
      (PayloadOp.optionalGeneration (none : Option MemberGeneration)) := optionalGeneration none
  have hall := ((hevident.append (optionalText hample hsource)).append hexpected).append
    (boolean false)
  exact hall.mono (by omega)

structure RecordedDomain (record : FailureDomainRecord) : Prop where
  identity : (validateIdentity record.id.value).ok = true
  label : ∀ label ∈ record.label, (validateLabel label).ok = true
  evidence : validateEvidence record.toObservation = none
  present : record.lifecycle = .present
  parents : record.parents = []
  source : record.source = none

theorem within_publishFailureDomain {record : FailureDomainRecord} (hample : limits.Ample)
    (h : RecordedDomain record) (token : AuthorityToken) :
    PayloadOp.Within limits 1024
      (PublishFailureDomainMessage.encode { authority := token, record := record }) := by
  have hlabel : ∀ label ∈ record.label, label.length ≤ kMaxIdentityLength := fun label hmem =>
    length_le_of_validateLabel (h.label label hmem)
  have hsource : ∀ source ∈ record.source, source.length ≤ kMaxIdentityLength := by
    intro source hmem
    rw [h.source] at hmem
    cases hmem
  have hparents : record.parents.length ≤ 2 := by
    rw [h.parents]
    exact Nat.zero_le 2
  have hstate : PayloadOp.Within limits 134 [PayloadOp.string record.id.value,
      PayloadOp.enum8 record.kind, PayloadOp.enum8 record.lifecycle] :=
    (text hample record.id.length_value_le).append
      ((enum record.kind).append (enum record.lifecycle))
  have hnames := many hample hparents fun (id : FailureDomainId) _ => text hample id.length_value_le
  have hexpected : PayloadOp.Within limits 9
      (PayloadOp.optionalGeneration (none : Option FailureDomainGeneration)) :=
    optionalGeneration none
  have hall := ((((((authority hample token).append hstate).append hnames).append
    (evidenceHeader record.toObservation)).append (optionalText hample hlabel)).append
    (optionalText hample hsource)).append hexpected
  exact (hall.append (boolean false)).mono (by decide)

def Request.Delivered (limits : ResourceLimits) (request : Request) : Prop :=
  ∃ frame, request.frame limits = some frame ∧ (encodeFrame frame limits).isSome = true ∧
    frame.request limits = request.carried

structure Agent.Named (agent : Agent) : Prop where
  boot : agent.boot.isSet = true
  rack : ∀ rack ∈ agent.rack, rack.isSet = true

theorem Agent.Named.token {agent : Agent} (h : agent.Named) :
    ValidIdentities agent.token.identities := by
  refine validIdentities_append.mpr ⟨validIdentities_id.mpr h.boot, ?_⟩
  exact validIdentities_optionalId.mpr h.rack

/-- A message within the bounds is decoded as it travels. -/
theorem PayloadKind.decoded_of_within {kind : PayloadKind} {message : kind.Message} {size : Nat}
    (hwithin : PayloadOp.Within limits size (kind.calls limits message))
    (hvalid : ValidIdentities (kind.identities (kind.carried message)))
    (hdetails : kind.DetailsSent limits message) :
    ∃ payload, kind.encode limits message = some payload ∧ payload.length ≤ size ∧
      kind.decode limits payload = .ok (kind.carried message) := by
  have hcalls := @PayloadKind.calls_carried limits kind message
  have hencoded : kind.encode limits message =
      some ((kind.calls limits message).flatMap PayloadOp.bytes) :=
    PayloadWriter.encode_of_fits hwithin.fits
  have hcarried : kind.encode limits (kind.carried message) =
      some ((kind.calls limits message).flatMap PayloadOp.bytes) := by
    rw [← hencoded, PayloadKind.encode, PayloadKind.encode, hcalls]
  have hwhole : kind.Whole limits (kind.carried message) :=
    ⟨hcalls ▸ hwithin.narrow, (PayloadKind.detailsSent_carried message).mpr hdetails⟩
  have hdecoded := PayloadKind.decode_of_whole hvalid hcarried hwhole
  rw [PayloadKind.carried_carried] at hdecoded
  exact ⟨_, hencoded, hwithin.size, hdecoded⟩

theorem encodeFrame_of_le {frame : Frame} {size : Nat} (hample : limits.Ample)
    (hsize : frame.payload.length ≤ size) (hbound : size ≤ 4096 + 2 * limits.maxStringBytes) :
    (encodeFrame frame limits).isSome = true := by
  have hpayload := hample.payload
  have hframe := hample.frame
  rw [encodeFrame_isSome_iff]
  omega

theorem Recorded.identities (h : Recorded limits domain record) (hdomain : domain.isSet = true) :
    ValidIdentities record.carried.identities := by
  have hcapabilities : ∀ capability ∈ record.carried.capabilities,
      ValidIdentities capability.identities := by
    intro capability hmem
    have hvalid := h.evident.capabilities capability hmem
    simp only [validateCapability, firstError_cons, errorIf_eq_none] at hvalid
    simpa [CapabilityRef.identities, StrongId.identities, ValidIdentities] using hvalid.1
  have hparent : ValidIdentities (optionalIdentities MemberKey.identities record.parent) := by
    cases hsome : record.parent with
    | none => exact validIdentities_none
    | some key => exact validIdentities_some.mpr (validIdentities_key.mpr (h.parent key hsome))
  have hdomains : ValidIdentities (record.failureDomains.flatMap StrongId.identities) := by
    rw [h.failureDomains]
    simpa using hdomain
  simp only [MemberRecord.identities, MemberRecord.carried, ownerIdentities, h.powerDomain,
    h.coolingDomain, h.switchDomain, validIdentities_append, validIdentities_none,
    validIdentities_flatMap, and_true]
  exact ⟨⟨⟨⟨validIdentities_key.mpr h.evident.identity, hparent⟩,
    validIdentities_flatMap.mp hdomains⟩, validIdentities_details h.brief.sent.decodable⟩,
    hcapabilities⟩

theorem delivered_member (hample : limits.Ample) (h : Recorded limits domain record)
    (hdomain : domain.isSet = true) {agent : Agent} (hagent : agent.Named) :
    (agent.request (.member record)).Delivered limits := by
  obtain ⟨payload, hencoded, hsize, hdecoded⟩ := @PayloadKind.decoded_of_within limits
    .publishMember { authority := agent.token, record := record } _
    (within_publishMember hample h agent.token)
    (validIdentities_append.mpr ⟨hagent.token, h.identities hdomain⟩) h.brief.sent
  refine ⟨{ type := .publishNode, correlation := agent.correlation, payload := payload }, ?_,
    encodeFrame_of_le hample hsize (by omega), ?_⟩
  · have hframe : Coding.encode ⟨.publishMember, rfl⟩ limits
        ({ authority := agent.token, record := record } : PublishMemberMessage) = some payload :=
      hencoded
    simp [Request.frame, Agent.request, MessageType.coding, hframe]
  · simp [Frame.request, Agent.request, Request.carried, MessageType.coding, Coding.decode,
      hdecoded, Coding.carried, Frame.isResponse]
    rfl

theorem delivered_failureDomain {record : FailureDomainRecord} (hample : limits.Ample)
    (h : RecordedDomain record) {agent : Agent} (hagent : agent.Named) :
    (agent.request (.failureDomain record)).Delivered limits := by
  have hidentities : ValidIdentities record.carried.identities := by
    simp only [FailureDomainRecord.identities, FailureDomainRecord.carried, h.parents,
      ownerIdentities, validIdentities_append, validIdentities_none, List.flatMap_nil,
      validIdentities_nil, and_true]
    exact validIdentities_id.mpr (record.id.isSet_iff_valid.mpr h.identity)
  obtain ⟨payload, hencoded, hsize, hdecoded⟩ := @PayloadKind.decoded_of_within limits
    .publishFailureDomain { authority := agent.token, record := record } _
    (within_publishFailureDomain hample h agent.token)
    (validIdentities_append.mpr ⟨hagent.token, hidentities⟩) trivial
  refine ⟨{ type := .publishFailureDomain, correlation := agent.correlation, payload := payload },
    ?_, encodeFrame_of_le hample hsize (by omega), ?_⟩
  · have hframe : Coding.encode ⟨.publishFailureDomain, rfl⟩ limits
        ({ authority := agent.token, record := record } : PublishFailureDomainMessage) =
          some payload := hencoded
    simp [Request.frame, Agent.request, MessageType.coding, hframe]
  · simp [Frame.request, Agent.request, Request.carried, MessageType.coding, Coding.decode,
      hdecoded, Coding.carried, Frame.isResponse]
    rfl

end Messages

end RackFabric
