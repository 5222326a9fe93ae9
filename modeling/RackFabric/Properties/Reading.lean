import RackFabric.Model.Access
import RackFabric.Model.Wire
import RackFabric.Properties.MessageCodec
import RackFabric.Properties.Records

/-! The readers of the wire, part by part: what they do to memory, and what they let through. -/
namespace RackFabric
open Enumeration ByteReader

/-! The parts of the readers stay within the limits. -/

section Parts
variable {γ ε α : Type} {limitsOf : γ → ResourceLimits} {config : γ}

theorem Access.forall_ifOk {property : Access → Prop} {accesses : List Access}
    {outcome : Except ε α}
    (h : ∀ value, outcome = .ok value → ∀ access ∈ accesses, property access) :
    ∀ access ∈ Access.ifOk accesses outcome, property access := by
  cases outcome with
  | error error => simp [Access.ifOk]
  | ok value => exact h value rfl

theorem take_within {size : Nat} {error : ε} {input : Bytes} {result : Bytes × Bytes}
    (h : Reader.take size error config input = .ok result) : size ≤ input.length := by
  unfold Reader.take at h
  split at h
  · cases h
  · omega

theorem bounded_within {maximum : ResourceLimits → Nat} {length : Nat} {tooLong truncated : ε}
    {input : Bytes} {result : Bytes × Bytes}
    (h : bounded limitsOf maximum length tooLong truncated config input = .ok result) :
    length ≤ maximum (limitsOf config) ∧ length ≤ input.length := by
  change (if length > maximum (limitsOf config) then Reader.fail tooLong
    else Reader.take length truncated : Reader γ ε Bytes) config input = .ok result at h
  split at h
  · cases h
  · exact ⟨by omega, take_within h⟩

theorem some_of_orFail {value : Option α} {error : ε} {input : Bytes} {result : α × Bytes}
    (h : (Reader.orFail value error : Reader γ ε α) config input = .ok result) :
    ∃ found, value = some found := by
  cases value with
  | none => cases h
  | some found => exact ⟨found, rfl⟩

theorem CommonPart.sound {reader : Reader γ ε α} {input : Bytes} {accesses : List Access}
    {outcome : Except ε (α × Bytes)}
    (h : CommonPart limitsOf config α reader input accesses outcome) :
    reader config input = outcome ∧ ∀ access ∈ accesses, access.Within (limitsOf config) := by
  cases h with
  | number width error ofNat _ hwidth =>
    refine ⟨rfl, Access.forall_ifOk fun result hread => ?_⟩
    obtain ⟨bytes, rest, htake, -⟩ := reader_bind_eq_ok.mp hread
    simpa [Access.Within] using take_within htake
  | text length tooLong truncated =>
    refine ⟨rfl, Access.forall_ifOk fun result hread => ?_⟩
    simpa [Access.Within] using bounded_within hread
  | choice value error =>
    refine ⟨rfl, Access.forall_ifOk fun result hread => ?_⟩
    obtain ⟨found, hfound⟩ := some_of_orFail hread
    simpa [Access.Within] using (List.getElem?_eq_some_iff.mp hfound).1

end Parts

theorem PayloadPart.sound {reading : PayloadReading} {α : Type} {reader : PayloadReader α}
    {input : Bytes} {accesses : List Access} {outcome : Except DecodeStatus (α × Bytes)}
    (h : PayloadPart reading α reader input accesses outcome) :
    reader reading input = outcome ∧ ∀ access ∈ accesses, access.Within reading.limits := by
  cases h with
  | common h => exact h.sound
  | flag =>
    refine ⟨rfl, Access.forall_ifOk fun result hread => ?_⟩
    obtain ⟨value, hvalue, -⟩ := PayloadReader.flag_eq_ok.mp hread
    obtain ⟨bytes, rest, htake, -⟩ := reader_bind_eq_ok.mp hvalue
    simpa [Access.Within] using take_within htake
  | block length tooLong truncated =>
    refine ⟨rfl, Access.forall_ifOk fun result hread => ?_⟩
    simpa [Access.Within] using bounded_within hread
  | collection count =>
    refine ⟨rfl, Access.forall_ifOk fun result hread => ?_⟩
    change (if count > reading.limits.maxCollectionItems ∨ count > input.length
      then PayloadReader.malformed else Pure.pure count : PayloadReader Nat) reading input =
        .ok result at hread
    split at hread
    · cases hread
    · simp only [List.mem_singleton, forall_eq, Access.Within]
      omega
  | details h => exact ⟨rfl, h.forall_events fun hpart => hpart.sound.2⟩

/-! The decoder of the details, part by part. -/

namespace Decoder

abbrev Traces (limits : ResourceLimits) {α : Type} (read : Decoder α) : Prop :=
  Traceable (DetailPart limits) limits read

section Leaves
variable {limits : ResourceLimits} {α : Type} {read : Decoder α}

theorem traces_number (width : Nat) (hwidth : width ≤ 8) (ofNat : Nat → α) :
    Traces limits (do return ofNat (LittleEndian.decode (← Decoder.take width))) :=
  .part fun input => ⟨_, .number width _ ofNat input hwidth⟩

theorem traces_u8 : Traces limits Decoder.u8 := traces_number 1 (by decide) UInt8.ofNat

theorem traces_u32 : Traces limits Decoder.u32 := traces_number 4 (by decide) UInt32.ofNat

theorem traces_u64 : Traces limits Decoder.u64 := traces_number 8 (by decide) UInt64.ofNat

theorem traces_i64 : Traces limits Decoder.i64 := traces_u64.map UInt64.toInt64

theorem traces_f64 : Traces limits Decoder.f64 := traces_u64.map Double.mk

theorem traces_timestamp : Traces limits Decoder.timestamp := traces_i64.map Timestamp.mk

theorem traces_boolean : Traces limits Decoder.boolean := by
  refine traces_u8.bind fun value => ?_
  split
  · exact .fail _
  · exact .pure _

theorem traces_ttl : Traces limits Decoder.ttl := by
  refine traces_i64.bind fun value => ?_
  split
  · exact .fail _
  · exact .pure value

theorem traces_string : Traces limits Decoder.string :=
  traces_u32.bind fun length => .part fun input => ⟨_, .text length.toNat _ _ input⟩

theorem traces_enum8 [DecidableEq α] [Enum8 α] : Traces limits (Decoder.enum8 : Decoder α) :=
  traces_u8.bind fun value => .part fun input => ⟨_, .choice value.toNat _ input⟩

theorem traces_optional (h : Traces limits read) : Traces limits (Decoder.optional read) := by
  refine traces_boolean.bind fun present => ?_
  split
  · exact h.map some
  · exact .pure none

theorem traces_optionalEnum [DecidableEq α] [Enum8 α] :
    Traces limits (Decoder.optionalEnum : Decoder (Option α)) :=
  traces_optional <|
    traces_u32.bind fun value => .part fun input => ⟨_, .choice value.toNat _ input⟩

theorem traces_identity {tag : IdentityTag} :
    Traces limits (Decoder.identity : Decoder (StrongId tag)) :=
  traces_string.bind fun _ => .orFail _ _

theorem traces_optionalString : Traces limits (Decoder.optional Decoder.string) :=
  traces_optional traces_string

theorem traces_optionalU32 : Traces limits (Decoder.optional Decoder.u32) :=
  traces_optional traces_u32

theorem traces_optionalU64 : Traces limits (Decoder.optional Decoder.u64) :=
  traces_optional traces_u64

theorem traces_optionalId {tag : IdentityTag} :
    Traces limits (Decoder.optional (Decoder.identity : Decoder (StrongId tag))) :=
  traces_optional traces_identity

end Leaves

section Details
variable {limits : ResourceLimits}

theorem traces_quantity : Traces limits decodeQuantity :=
  traces_f64.bind fun _ => traces_enum8.bind fun _ => traces_enum8.bind fun _ =>
  (traces_optional traces_f64).bind fun _ => traces_timestamp.bind fun _ =>
  traces_ttl.bind fun _ => traces_enum8.bind fun _ => traces_boolean.bind fun _ => .pure _

theorem traces_nodeDetails : Traces limits decodeNodeDetails :=
  traces_optionalString.bind fun _ => traces_optionalEnum.bind fun _ =>
  traces_optionalEnum.bind fun _ => traces_optionalString.bind fun _ =>
  traces_optionalU64.bind fun _ => traces_optionalU32.bind fun _ =>
  traces_optionalU32.bind fun _ => traces_optionalU32.bind fun _ =>
  traces_optionalU32.bind fun _ => traces_optionalU32.bind fun _ =>
  traces_optionalId.bind fun _ => traces_optionalId.bind fun _ => .pure _

theorem traces_acceleratorDetails : Traces limits decodeAcceleratorDetails :=
  traces_optionalString.bind fun _ => traces_optionalString.bind fun _ =>
  traces_optionalString.bind fun _ => traces_optionalString.bind fun _ =>
  traces_optionalString.bind fun _ => traces_optionalString.bind fun _ =>
  traces_optionalU64.bind fun _ => traces_optionalU32.bind fun _ =>
  traces_optionalU32.bind fun _ => traces_optionalU32.bind fun _ =>
  traces_optionalU32.bind fun _ => traces_optionalString.bind fun _ => .pure _

theorem traces_cpuPackageDetails : Traces limits decodeCpuPackageDetails :=
  traces_optionalString.bind fun _ => traces_optionalString.bind fun _ =>
  traces_optionalU32.bind fun _ => traces_optionalU32.bind fun _ =>
  traces_optionalU32.bind fun _ => traces_optionalU32.bind fun _ =>
  traces_optionalU32.bind fun _ => .pure _

theorem traces_memoryDomainDetails : Traces limits decodeMemoryDomainDetails :=
  traces_optionalEnum.bind fun _ => traces_optionalU64.bind fun _ =>
  traces_optionalU32.bind fun _ => (traces_optional traces_quantity).bind fun _ => .pure _

theorem traces_nicDetails : Traces limits decodeNicDetails :=
  traces_optionalString.bind fun _ => traces_optionalString.bind fun _ =>
  traces_optionalString.bind fun _ => traces_optionalU32.bind fun _ =>
  (traces_optional traces_quantity).bind fun _ => traces_optionalString.bind fun _ => .pure _

theorem traces_dpuDetails : Traces limits decodeDpuDetails :=
  traces_optionalString.bind fun _ => traces_optionalString.bind fun _ =>
  traces_optionalString.bind fun _ => traces_optionalString.bind fun _ =>
  traces_optionalU32.bind fun _ => .pure _

theorem traces_switchDetails : Traces limits decodeSwitchDetails :=
  traces_optionalString.bind fun _ => traces_optionalString.bind fun _ =>
  traces_optionalU32.bind fun _ => traces_optionalU32.bind fun _ =>
  (traces_optional traces_quantity).bind fun _ => .pure _

theorem traces_storageEndpointDetails : Traces limits decodeStorageEndpointDetails :=
  traces_optionalEnum.bind fun _ => traces_optionalString.bind fun _ =>
  traces_optionalString.bind fun _ => traces_optionalU64.bind fun _ => .pure _

theorem traces_powerDomainDetails : Traces limits decodePowerDomainDetails :=
  traces_optionalEnum.bind fun _ => traces_optionalString.bind fun _ => .pure _

theorem traces_coolingDomainDetails : Traces limits decodeCoolingDomainDetails :=
  traces_optionalEnum.bind fun _ => traces_optionalString.bind fun _ => .pure _

theorem traces_details : Traces limits decodeDetails := by
  refine traces_u8.bind fun tag => ?_
  split
  · exact .pure _
  · exact traces_nodeDetails.map _
  · exact traces_acceleratorDetails.map _
  · exact traces_cpuPackageDetails.map _
  · exact traces_memoryDomainDetails.map _
  · exact traces_nicDetails.map _
  · exact traces_dpuDetails.map _
  · exact traces_switchDetails.map _
  · exact traces_storageEndpointDetails.map _
  · exact traces_powerDomainDetails.map _
  · exact traces_coolingDomainDetails.map _
  · exact .fail _

end Details

end Decoder

/-! What a payload reader lets through. -/

def ValidIdentities (identities : List Str) : Prop :=
  ∀ id ∈ identities, (validateIdentity id).ok = true

def NarrowCalls (calls : List PayloadOp) : Prop :=
  ∀ call ∈ calls, call.Narrow

section Lists
variable {α : Type}

@[simp] theorem validIdentities_nil : ValidIdentities [] := by simp [ValidIdentities]

@[simp] theorem validIdentities_append {first second : List Str} :
    ValidIdentities (first ++ second) ↔ ValidIdentities first ∧ ValidIdentities second :=
  List.forall_mem_append

@[simp] theorem validIdentities_flatMap {identities : α → List Str} {values : List α} :
    ValidIdentities (values.flatMap identities) ↔
      ∀ value ∈ values, ValidIdentities (identities value) :=
  List.forall_mem_flatMap

@[simp] theorem validIdentities_none {identities : α → List Str} :
    ValidIdentities (optionalIdentities identities none) :=
  validIdentities_nil

@[simp] theorem validIdentities_some {identities : α → List Str} {value : α} :
    ValidIdentities (optionalIdentities identities (some value)) ↔
      ValidIdentities (identities value) := Iff.rfl

@[simp] theorem validIdentities_id {tag : IdentityTag} {id : StrongId tag} :
    ValidIdentities id.identities ↔ id.isSet = true := by
  simp [ValidIdentities, StrongId.identities, id.isSet_iff_valid]

@[simp] theorem validIdentities_key {key : MemberKey} :
    ValidIdentities key.identities ↔ (validateIdentity key.id).ok = true := by
  simp [ValidIdentities, MemberKey.identities]

@[simp] theorem narrowCalls_nil : NarrowCalls [] := by simp [NarrowCalls]

@[simp] theorem narrowCalls_cons {call : PayloadOp} {calls : List PayloadOp} :
    NarrowCalls (call :: calls) ↔ call.Narrow ∧ NarrowCalls calls :=
  List.forall_mem_cons

@[simp] theorem narrowCalls_append {first second : List PayloadOp} :
    NarrowCalls (first ++ second) ↔ NarrowCalls first ∧ NarrowCalls second :=
  List.forall_mem_append

@[simp] theorem narrowCalls_flatMap {write : α → List PayloadOp} {values : List α} :
    NarrowCalls (values.flatMap write) ↔ ∀ value ∈ values, NarrowCalls (write value) :=
  List.forall_mem_flatMap

@[simp] theorem narrow_raw (bytes : Bytes) : (PayloadOp.raw bytes).Narrow := trivial

@[simp] theorem narrow_i64 (value : Int64) : (PayloadOp.i64 value).Narrow := trivial

@[simp] theorem narrow_f64 (value : Double) : (PayloadOp.f64 value).Narrow := trivial

@[simp] theorem narrow_enum8 [DecidableEq α] [Enumeration.Enum8 α] (value : α) :
    (PayloadOp.enum8 value).Narrow := trivial

end Lists

theorem validIdentities_optionalId {tag : IdentityTag} {value : Option (StrongId tag)} :
    ValidIdentities (optionalIdentities StrongId.identities value) ↔ IdDecodable value := by
  cases value <;> simp [IdDecodable]

/-- Of the details only a node names identities. -/
theorem validIdentities_details {details : MemberDetails} (h : details.Decodable) :
    ValidIdentities details.identities := by
  cases details with
  | node details =>
    exact validIdentities_append.mpr ⟨validIdentities_optionalId.mpr h.worker,
      validIdentities_optionalId.mpr h.boot⟩
  | _ => exact validIdentities_nil

/-- Details that are sent whole: the writer of their payload does not fail, and the reader
takes what it wrote. -/
structure MemberDetails.Sent (limits : ResourceLimits) (details : MemberDetails) : Prop where
  decodable : details.Decodable
  fits : ∀ op ∈ encodeDetails details, op.Fits limits
  size : ((encodeDetails details).flatMap WriteOp.bytes).length ≤ limits.maxPayloadBytes

/-- Valid identities, and lengths that are written as they are. -/
structure Sound (identities : List Str) (calls : List PayloadOp) : Prop where
  valid : ValidIdentities identities
  narrow : NarrowCalls calls

theorem narrow_of_valid {value : Str} (h : (validateIdentity value).ok = true) :
    (PayloadOp.string value).Narrow := by
  have hshort := length_le_of_validateIdentity h
  simp only [PayloadOp.Narrow]
  simp only [kMaxIdentityLength] at hshort
  omega

theorem narrow_id {tag : IdentityTag} {id : StrongId tag} (h : id.isSet = true) :
    (PayloadOp.string id.value).Narrow :=
  narrow_of_valid (id.isSet_iff_valid.mp h)

/-! Calls without a length. -/

@[simp] theorem narrow_optionalGeneration {tag : GenerationTag} (value : Option (Generation tag)) :
    NarrowCalls (PayloadOp.optionalGeneration value) := by
  cases value <;> simp [PayloadOp.optionalGeneration, PayloadOp.optional]

@[simp] theorem narrow_evidenceHeader (evidence : Observation) :
    NarrowCalls (writeEvidenceHeader evidence) := by
  simp [writeEvidenceHeader]

@[simp] theorem narrow_quantity (quantity : Quantity) : NarrowCalls (writeQuantity quantity) := by
  cases h : quantity.uncertainty <;> simp [writeQuantity, PayloadOp.optional, h]

@[simp] theorem narrow_optionalQuantity (value : Option Quantity) :
    NarrowCalls (PayloadOp.optional writeQuantity value) := by
  cases value <;> simp [PayloadOp.optional]

@[simp] theorem narrow_evidence {α : Type} [Inhabited α] [DecidableEq α] [Enum8 α]
    (evidence : EvidenceValue α) : NarrowCalls (writeEvidence evidence) := by
  simp [writeEvidence]

@[simp] theorem narrow_optionalEvidence {α : Type} [Inhabited α] [DecidableEq α] [Enum8 α]
    (value : Option (EvidenceValue α)) :
    NarrowCalls (PayloadOp.optional writeEvidence value) := by
  cases value <;> simp [PayloadOp.optional]

/-! The payload reader, part by part. -/

namespace PayloadReader

abbrev Traces (limits : ResourceLimits) {α : Type} (read : PayloadReader α) : Prop :=
  Traceable (PayloadPart { limits := limits }) { limits := limits } read

abbrev Guards (limits : ResourceLimits) {α : Type} (read : PayloadReader α)
    (property : α → Prop) : Prop :=
  Guarded (PayloadPart { limits := limits }) { limits := limits } read property

section Leaves
variable {limits : ResourceLimits} {α : Type} {read : PayloadReader α}

theorem traces_common
    (h : ∀ input, ∃ accesses, CommonPart PayloadReading.limits { limits := limits } α read input
      accesses (read { limits := limits } input)) : Traces limits read := by
  refine .part fun input => ?_
  obtain ⟨accesses, hpart⟩ := h input
  exact ⟨accesses, .common hpart⟩

theorem traces_number (width : Nat) (hwidth : width ≤ 8) (ofNat : Nat → α) :
    Traces limits (do return ofNat (LittleEndian.decode (← PayloadReader.take width))) :=
  traces_common fun input => ⟨_, .number width _ ofNat input hwidth⟩

theorem traces_u8 : Traces limits PayloadReader.u8 := traces_number 1 (by decide) UInt8.ofNat

theorem traces_u16 : Traces limits PayloadReader.u16 := traces_number 2 (by decide) UInt16.ofNat

theorem traces_u32 : Traces limits PayloadReader.u32 := traces_number 4 (by decide) UInt32.ofNat

theorem traces_u64 : Traces limits PayloadReader.u64 := traces_number 8 (by decide) UInt64.ofNat

theorem traces_i64 : Traces limits PayloadReader.i64 := traces_u64.map UInt64.toInt64

theorem traces_f64 : Traces limits PayloadReader.f64 := traces_u64.map Double.mk

theorem traces_generation {tag : GenerationTag} :
    Traces limits (PayloadReader.generation : PayloadReader (Generation tag)) :=
  traces_u64.map Generation.mk

theorem traces_boolean : Traces limits PayloadReader.boolean := by
  refine traces_u8.bind fun value => ?_
  split
  · exact .fail _
  · exact .pure _

theorem traces_enum8 [DecidableEq α] [Enum8 α] :
    Traces limits (PayloadReader.enum8 : PayloadReader α) :=
  traces_u8.bind fun value => traces_common fun input => ⟨_, .choice value.toNat _ input⟩

theorem traces_enum16 [DecidableEq α] [Enum8 α] :
    Traces limits (PayloadReader.enum16 : PayloadReader α) :=
  traces_u16.bind fun value => traces_common fun input => ⟨_, .choice value.toNat _ input⟩

theorem traces_flag : Traces limits PayloadReader.flag :=
  .part fun input => ⟨_, .flag input⟩

theorem guards_string :
    Guards limits PayloadReader.string fun text => (PayloadOp.string text).Narrow where
  traced := traces_u32.bind fun length =>
    traces_common fun input => ⟨_, .text length.toNat _ _ input⟩
  ensured := by
    refine .skip fun length => .skip fun limits => ?_
    split
    · exact .fail _
    · refine (Ensures.take _ _).mono fun text htext => ?_
      change text.length < 2 ^ 32
      exact htext ▸ length.toNat_lt

theorem guards_limits (limits : ResourceLimits) :
    Guards limits PayloadReader.limits fun found => found = limits :=
  .view PayloadReading.limits

theorem guards_bytes : Guards limits PayloadReader.bytes fun bytes =>
    bytes.length ≤ limits.maxPayloadBytes ∧ bytes.length < 2 ^ 32 where
  traced := traces_u32.bind fun length =>
    .part fun input => ⟨_, .block length.toNat _ _ input⟩
  ensured := by
    refine .skip fun length => ?_
    refine (guards_limits limits).ensured.bind fun found hfound => ?_
    subst hfound
    split
    · exact .fail _
    · rename_i hlong
      refine (Ensures.take _ _).mono fun bytes hbytes => ?_
      rw [hbytes]
      exact ⟨Nat.le_of_not_lt hlong, length.toNat_lt⟩

theorem guards_collectionSize :
    Guards limits PayloadReader.collectionSize fun count => count < 2 ^ 32 where
  traced := traces_u32.bind fun count => .part fun input => ⟨_, .collection count.toNat input⟩
  ensured := by
    refine .skip fun count => .skip fun limits => .skip fun remaining => ?_
    split
    · exact .fail _
    · exact .pure count.toNat_lt

theorem early_eq_recoded (read : PayloadReader α) :
    PayloadReader.early read = Reader.recoded (fun _ => .malformedPayload) read := by
  funext reading input
  unfold PayloadReader.early Reader.recoded
  cases read reading input <;> rfl

theorem guards_early {property : α → Prop} (h : Guards limits read property) :
    Guards limits (PayloadReader.early read) property := by
  rw [early_eq_recoded]
  exact h.recoded _

theorem guards_optionalString : Guards limits PayloadReader.optionalString fun text =>
    NarrowCalls (PayloadOp.optionalString text) := by
  refine .skip traces_boolean fun present => ?_
  split
  · exact guards_string.bind fun text htext =>
      .pure (by simpa [PayloadOp.optionalString] using htext)
  · exact .pure (by simp [PayloadOp.optionalString])

theorem guards_optionalId {tag : IdentityTag} :
    Guards limits (PayloadReader.optionalId : PayloadReader (Option (StrongId tag))) fun id =>
      Sound (optionalIdentities StrongId.identities id) (PayloadOp.optionalId id) := by
  refine guards_optionalString.bind fun text htext => ?_
  cases text with
  | none => exact .pure ⟨by simp, htext⟩
  | some text =>
    refine Guarded.bind (.orFail fun id hid => (StrongId.eq_of_parse hid : _ ∧ _)) fun id hid => ?_
    exact .pure ⟨by simpa using hid.2, by simpa [PayloadOp.optionalId, hid.1] using htext⟩

theorem traces_optional (h : Traces limits read) : Traces limits (PayloadReader.optional read) := by
  refine traces_flag.bind fun present => ?_
  split
  · exact h.map some
  · exact .pure none

theorem guards_optional {identities : α → List Str} {write : α → List PayloadOp}
    (h : Guards limits read fun value => Sound (identities value) (write value)) :
    Guards limits (PayloadReader.optional read) fun value =>
      Sound (optionalIdentities identities value) (PayloadOp.optional write value) := by
  refine .skip traces_flag fun present => ?_
  split
  · refine h.bind fun value hvalue => .pure ⟨by simpa using hvalue.valid, ?_⟩
    simpa [PayloadOp.optional] using hvalue.narrow
  · exact .pure ⟨by simp, by simp [PayloadOp.optional]⟩

theorem guards_many {identities : α → List Str} {write : α → List PayloadOp}
    (h : Guards limits read fun value => Sound (identities value) (write value)) :
    Guards limits (PayloadReader.many read) fun values =>
      Sound (values.flatMap identities) (PayloadOp.many write values) := by
  refine guards_collectionSize.bind fun count hcount => ?_
  refine (h.repeated count).mono fun values hvalues => ?_
  obtain ⟨rfl, heach⟩ := hvalues
  constructor
  · exact validIdentities_flatMap.mpr fun value hvalue => (heach value hvalue).valid
  · exact narrowCalls_cons.mpr
      ⟨hcount, narrowCalls_flatMap.mpr fun value hvalue => (heach value hvalue).narrow⟩

end Leaves

section Records
variable {limits : ResourceLimits}

theorem guards_typedId {tag : IdentityTag} :
    Guards limits (readTypedId : PayloadReader (StrongId tag)) fun id => id.isSet = true :=
  guards_early <| guards_string.bind fun _ _ => .orFail fun _ hid => (StrongId.eq_of_parse hid).2

theorem guards_typedIds {tag : IdentityTag} :
    Guards limits (PayloadReader.many (readTypedId : PayloadReader (StrongId tag))) fun ids =>
      Sound (ids.flatMap StrongId.identities)
        (PayloadOp.many (fun id => [.string id.value]) ids) :=
  guards_many <| guards_typedId.mono fun id hid =>
    ⟨validIdentities_id.mpr hid, by simp [narrow_id hid]⟩

theorem guards_memberKey :
    Guards limits readMemberKey fun key => Sound key.identities (writeMemberKey key) := by
  refine guards_early <| .skip traces_enum8 fun kind => guards_string.bind fun id hid => ?_
  split
  · rename_i hvalid
    exact .pure ⟨by simpa using hvalid, by simpa [writeMemberKey] using hid⟩
  · exact .fail _

theorem traces_generationSet : Traces limits readGenerationSet :=
  traces_generation.bind fun _ => traces_generation.bind fun _ => traces_generation.bind fun _ =>
  traces_generation.bind fun _ => traces_generation.bind fun _ => traces_generation.bind fun _ =>
  traces_generation.bind fun _ => traces_generation.bind fun _ => traces_generation.bind fun _ =>
  traces_generation.bind fun _ => .pure _

theorem traces_optionalGeneration {tag : GenerationTag} :
    Traces limits
      (PayloadReader.optional (PayloadReader.generation : PayloadReader (Generation tag))) :=
  traces_optional traces_generation

theorem guards_authority :
    Guards limits readAuthority fun token => Sound token.identities (writeAuthority token) :=
  guards_early <| .skip traces_generation fun _ => guards_optionalId.bind fun boot hboot =>
    .skip traces_optionalGeneration fun _ => guards_optionalId.bind fun rack hrack =>
    .pure ⟨by simp [AuthorityToken.identities, hboot.valid, hrack.valid],
      by simp [writeAuthority, hboot.narrow, hrack.narrow]⟩

theorem traces_evidenceHeader : Traces limits readEvidenceHeader :=
  traces_enum8.bind fun _ => traces_i64.bind fun _ => traces_i64.bind fun _ =>
  traces_enum8.bind fun _ => .pure _

theorem traces_quantity : Traces limits readQuantity :=
  traces_f64.bind fun _ => traces_enum8.bind fun _ => (traces_optional traces_f64).bind fun _ =>
  traces_evidenceHeader.bind fun _ => .pure _

theorem traces_optionalQuantity : Traces limits (PayloadReader.optional readQuantity) :=
  traces_optional traces_quantity

theorem traces_evidence {α : Type} [Inhabited α] [DecidableEq α] [Enum8 α] :
    Traces limits (readEvidence : PayloadReader (EvidenceValue α)) :=
  traces_evidenceHeader.bind fun _ => traces_enum8.bind fun _ => .pure _

theorem guards_capability : Guards limits readCapability fun capability =>
    Sound capability.identities (writeCapability capability) :=
  guards_typedId.bind fun id hid => .skip traces_evidenceHeader fun _ =>
  guards_optionalString.bind fun value hvalue =>
  .pure ⟨validIdentities_id.mpr hid, by simp [writeCapability, hvalue, narrow_id hid]⟩

theorem guards_budget : Guards limits readBudget fun budget =>
    Sound budget.identities (writeBudget budget) :=
  guards_typedId.bind fun domain hdomain => .skip traces_optionalQuantity fun _ =>
  .skip traces_optionalQuantity fun _ =>
  .pure ⟨validIdentities_id.mpr hdomain, by simp [writeBudget, narrow_id hdomain]⟩

theorem guards_zone : Guards limits readZone fun zone =>
    Sound zone.identities (writeZone zone) :=
  guards_typedId.bind fun zone hzone => .skip traces_optionalQuantity fun _ =>
  .skip traces_optionalQuantity fun _ => .skip traces_optionalQuantity fun _ =>
  .skip (traces_optional traces_evidence) fun _ =>
  .pure ⟨validIdentities_id.mpr hzone, by simp [writeZone, narrow_id hzone]⟩

theorem traces_wholeDetails (limits : ResourceLimits) (payload : Bytes) :
    Traces limits (wholeDetails limits payload) := by
  refine .part fun input => ?_
  obtain ⟨accesses, hrun⟩ := Decoder.traces_details payload
  exact ⟨accesses, .details hrun⟩

theorem ensures_wholeDetails {payload : Bytes} (hsize : payload.length ≤ limits.maxPayloadBytes)
    (hshort : payload.length < 2 ^ 32) :
    Ensures { limits := limits } (wholeDetails limits payload) fun details =>
      details.Sent limits ∧ (PayloadOp.sized (detailBytes limits details)).Narrow := by
  unfold wholeDetails
  split
  · rename_i details hdecoded
    refine .pure ⟨?_, ?_⟩
    · obtain ⟨hfits, hiff⟩ := writes_details.whole hdecoded
      have hpayload : payload = (encodeDetails details).flatMap WriteOp.bytes := hiff.mp hdecoded
      exact ⟨faithful_details.ensures payload details [] hdecoded, hfits, hpayload ▸ hsize⟩
    · rwa [PayloadOp.Narrow, detailBytes_of_decoded hdecoded hsize]
  · exact .fail _

theorem guards_details : Guards limits readDetails fun details =>
    details.Sent limits ∧ (PayloadOp.sized (detailBytes limits details)).Narrow := by
  refine guards_bytes.bind fun payload hpayload => ?_
  refine (guards_limits limits).bind fun found hfound => ?_
  rw [hfound]
  exact ⟨traces_wholeDetails limits payload, ensures_wholeDetails hpayload.1 hpayload.2⟩

end Records

end PayloadReader

end RackFabric
