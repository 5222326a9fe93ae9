import RackFabric.Library.Rewriting
import RackFabric.Model.MessageCodec
import RackFabric.Properties.Codec

/-! The decoder of the details of a member takes only what the encoder writes. -/
namespace RackFabric
open Enumeration ByteReader

/-- The byte of a flag, read as whether it is one. -/
theorem eq_flag_iff {value : UInt8} : value = (if value = 1 then 1 else 0) ↔ ¬ value > 1 := by
  constructor
  · intro h
    rw [h]
    split <;> decide
  · intro h
    have hsmall : value.toNat ≤ 1 := Nat.le_of_not_lt h
    split
    · assumption
    · rename_i hone
      have hvalue : value.toNat ≠ 1 := fun heq => hone (UInt8.toNat_inj.mp heq)
      exact UInt8.toNat_inj.mp (show value.toNat = 0 by omega)

namespace Decoder

/-- The decoder has one configuration, so all that it takes is written back. -/
def rewriting (limits : ResourceLimits) : Rewriting ResourceLimits WriteOp where
  lenient := limits
  strict := limits
  spell := WriteOp.bytes
  fits := WriteOp.Fits limits

section Leaves
variable {limits : ResourceLimits} {α : Type} {read : Decoder α} {write : α → List WriteOp}

theorem writes_u8 : Writes (rewriting limits) Decoder.u8 fun value => [.u8 value] := by
  refine Rewrites.number UInt8.ofNat (fun value hvalue => ?_) fun value => trivial
  have hbyte : value % 256 = value := Nat.mod_eq_of_lt hvalue
  simp only [rewriting, WriteOp.bytes, LittleEndian.encode, hbyte]

theorem writes_u32 : Writes (rewriting limits) Decoder.u32 fun value => [.u32 value] := by
  refine Rewrites.number UInt32.ofNat (fun value hvalue => ?_) fun value => trivial
  have hnumber : (UInt32.ofNat value).toNat = value := UInt32.toNat_ofNat_of_lt hvalue
  simp only [rewriting, WriteOp.u32, WriteOp.bytes, hnumber]

theorem writes_u64 : Writes (rewriting limits) Decoder.u64 fun value => [.u64 value] := by
  refine Rewrites.number UInt64.ofNat (fun value hvalue => ?_) fun value => trivial
  have hnumber : (UInt64.ofNat value).toNat = value := UInt64.toNat_ofNat_of_lt hvalue
  simp only [rewriting, WriteOp.u64, WriteOp.bytes, hnumber]

theorem writes_i64 : Writes (rewriting limits) Decoder.i64 fun value => [.i64 value] :=
  writes_u64.map UInt64.toInt64 fun value => by simp [WriteOp.i64]

theorem writes_f64 : Writes (rewriting limits) Decoder.f64 fun value => [.f64 value] :=
  writes_u64.map Double.mk fun _ => rfl

theorem writes_timestamp :
    Writes (rewriting limits) Decoder.timestamp fun value => [.timestamp value] :=
  writes_i64.map Timestamp.mk fun _ => rfl

theorem writes_ttl : Writes (rewriting limits) Decoder.ttl fun value => [.i64 value] := by
  refine writes_i64.field fun value => ?_
  split
  · exact .fail _
  · exact .pure (by simp)

/-- A byte above one is no flag, and the two others are written for their flags. -/
theorem writes_boolean :
    Writes (rewriting limits) Decoder.boolean fun value => [.boolean value] := by
  refine writes_u8.field fun value => ?_
  split
  · exact .fail _
  · rename_i hflag
    refine .pure ?_
    simp [WriteOp.boolean, ← eq_flag_iff.mpr hflag]

theorem writes_enum8 [DecidableEq α] [Enum8 α] :
    Writes (rewriting limits) (Decoder.enum8 : Decoder α) fun value => [.enum value] := by
  refine writes_u8.field fun value => .orFail fun found hfound => ?_
  have hbyte : toUInt8 found = value := UInt8.toNat_inj.mp (toNat_toUInt8_of_ofNat? hfound)
  simp [WriteOp.enum, hbyte]

/-- The length and the text are one call to the writer. -/
theorem writes_string : Writes (rewriting limits) Decoder.string fun text => [.string text] := by
  have hread : Rewrites (rewriting limits) Decoder.string fun calls text =>
      calls = [.u32 (UInt32.ofNat text.length), .raw text] ∧
        text.length ≤ limits.maxStringBytes ∧ text.length < 2 ^ 32 := by
    refine writes_u32.field fun length => .ofConfig id rfl ?_
    split
    · exact .fail _
    · rename_i hlong
      refine .take fun text htext => ⟨[.raw text], by simp [rewriting, WriteOp.bytes], ?_, ?_⟩
      · rw [htext, UInt32.ofNat_toNat]
        exact ⟨rfl, Nat.le_of_not_lt hlong, length.toNat_lt⟩
      · simp [rewriting, WriteOp.Fits]
  refine hread.respell fun calls text htext => ⟨_, rfl, ?_, ?_⟩
  · obtain ⟨rfl, -, hshort⟩ := htext
    have hlength : (UInt32.ofNat text.length).toNat = text.length :=
      UInt32.toNat_ofNat_of_lt hshort
    simp only [List.flatMap_cons, List.flatMap_nil, List.append_nil, rewriting, WriteOp.bytes,
      WriteOp.u32, hlength, Nat.mod_eq_of_lt hshort]
  · simpa [rewriting, WriteOp.Fits] using htext.2.1

theorem writes_optional (h : Writes (rewriting limits) read write) :
    Writes (rewriting limits) (Decoder.optional read) (WriteOp.optional write) := by
  refine writes_boolean.field fun present => ?_
  cases present with
  | false => exact .pure rfl
  | true => exact h.field fun value => .pure (by simp [WriteOp.optional, WriteOp.boolean])

theorem writes_optionalString :
    Writes (rewriting limits) (Decoder.optional Decoder.string) WriteOp.optionalString :=
  writes_optional writes_string

theorem writes_optionalU32 :
    Writes (rewriting limits) (Decoder.optional Decoder.u32) WriteOp.optionalU32 :=
  writes_optional writes_u32

theorem writes_optionalU64 :
    Writes (rewriting limits) (Decoder.optional Decoder.u64) WriteOp.optionalU64 :=
  writes_optional writes_u64

theorem writes_optionalDouble :
    Writes (rewriting limits) (Decoder.optional Decoder.f64) WriteOp.optionalDouble :=
  writes_optional writes_f64

theorem writes_optionalEnum [DecidableEq α] [Enum8 α] :
    Writes (rewriting limits) (Decoder.optionalEnum : Decoder (Option α)) WriteOp.optionalEnum := by
  refine writes_optional (writes_u32.field fun value => .orFail fun found hfound => ?_)
  have hnumber : (toUInt8 found).toUInt32 = value := by
    rw [← UInt32.toNat_inj, UInt8.toNat_toUInt32]
    exact toNat_toUInt8_of_ofNat? hfound
  simp [hnumber]

theorem writes_identity {tag : IdentityTag} :
    Writes (rewriting limits) Decoder.identity fun id : StrongId tag => [.string id.value] := by
  refine writes_string.field fun text => .orFail fun id hid => ?_
  simp [(StrongId.eq_of_parse hid).1]

theorem writes_optionalId {tag : IdentityTag} :
    Writes (rewriting limits) (Decoder.optional Decoder.identity)
      (WriteOp.optionalId : Option (StrongId tag) → List WriteOp) :=
  writes_optional writes_identity

end Leaves

end Decoder

open Decoder

section Details
variable {limits : ResourceLimits}

theorem writes_decodeQuantity : Writes (rewriting limits) decodeQuantity encodeQuantity :=
  writes_f64.field fun _ => writes_enum8.field fun _ => writes_enum8.field fun _ =>
  writes_optionalDouble.field fun _ => writes_timestamp.field fun _ => writes_ttl.field fun _ =>
  writes_enum8.field fun _ => writes_boolean.field fun _ => .pure (by simp [encodeQuantity])

theorem writes_decodeOptionalQuantity :
    Writes (rewriting limits) (Decoder.optional decodeQuantity) (WriteOp.optional encodeQuantity) :=
  writes_optional writes_decodeQuantity

theorem writes_nodeDetails : Writes (rewriting limits) decodeNodeDetails encodeNodeDetails :=
  writes_optionalString.field fun _ => writes_optionalEnum.field fun _ =>
  writes_optionalEnum.field fun _ => writes_optionalString.field fun _ =>
  writes_optionalU64.field fun _ => writes_optionalU32.field fun _ =>
  writes_optionalU32.field fun _ => writes_optionalU32.field fun _ =>
  writes_optionalU32.field fun _ => writes_optionalU32.field fun _ =>
  writes_optionalId.field fun _ => writes_optionalId.field fun _ =>
  .pure (by simp [encodeNodeDetails])

theorem writes_acceleratorDetails :
    Writes (rewriting limits) decodeAcceleratorDetails encodeAcceleratorDetails :=
  writes_optionalString.field fun _ => writes_optionalString.field fun _ =>
  writes_optionalString.field fun _ => writes_optionalString.field fun _ =>
  writes_optionalString.field fun _ => writes_optionalString.field fun _ =>
  writes_optionalU64.field fun _ => writes_optionalU32.field fun _ =>
  writes_optionalU32.field fun _ => writes_optionalU32.field fun _ =>
  writes_optionalU32.field fun _ => writes_optionalString.field fun _ =>
  .pure (by simp [encodeAcceleratorDetails])

theorem writes_cpuPackageDetails :
    Writes (rewriting limits) decodeCpuPackageDetails encodeCpuPackageDetails :=
  writes_optionalString.field fun _ => writes_optionalString.field fun _ =>
  writes_optionalU32.field fun _ => writes_optionalU32.field fun _ =>
  writes_optionalU32.field fun _ => writes_optionalU32.field fun _ =>
  writes_optionalU32.field fun _ => .pure (by simp [encodeCpuPackageDetails])

theorem writes_memoryDomainDetails :
    Writes (rewriting limits) decodeMemoryDomainDetails encodeMemoryDomainDetails :=
  writes_optionalEnum.field fun _ => writes_optionalU64.field fun _ =>
  writes_optionalU32.field fun _ => writes_decodeOptionalQuantity.field fun _ =>
  .pure (by simp [encodeMemoryDomainDetails])

theorem writes_nicDetails : Writes (rewriting limits) decodeNicDetails encodeNicDetails :=
  writes_optionalString.field fun _ => writes_optionalString.field fun _ =>
  writes_optionalString.field fun _ => writes_optionalU32.field fun _ =>
  writes_decodeOptionalQuantity.field fun _ => writes_optionalString.field fun _ =>
  .pure (by simp [encodeNicDetails])

theorem writes_dpuDetails : Writes (rewriting limits) decodeDpuDetails encodeDpuDetails :=
  writes_optionalString.field fun _ => writes_optionalString.field fun _ =>
  writes_optionalString.field fun _ => writes_optionalString.field fun _ =>
  writes_optionalU32.field fun _ => .pure (by simp [encodeDpuDetails])

theorem writes_switchDetails : Writes (rewriting limits) decodeSwitchDetails encodeSwitchDetails :=
  writes_optionalString.field fun _ => writes_optionalString.field fun _ =>
  writes_optionalU32.field fun _ => writes_optionalU32.field fun _ =>
  writes_decodeOptionalQuantity.field fun _ => .pure (by simp [encodeSwitchDetails])

theorem writes_storageEndpointDetails :
    Writes (rewriting limits) decodeStorageEndpointDetails encodeStorageEndpointDetails :=
  writes_optionalEnum.field fun _ => writes_optionalString.field fun _ =>
  writes_optionalString.field fun _ => writes_optionalU64.field fun _ =>
  .pure (by simp [encodeStorageEndpointDetails])

theorem writes_powerDomainDetails :
    Writes (rewriting limits) decodePowerDomainDetails encodePowerDomainDetails :=
  writes_optionalEnum.field fun _ => writes_optionalString.field fun _ =>
  .pure (by simp [encodePowerDomainDetails])

theorem writes_coolingDomainDetails :
    Writes (rewriting limits) decodeCoolingDomainDetails encodeCoolingDomainDetails :=
  writes_optionalEnum.field fun _ => writes_optionalString.field fun _ =>
  .pure (by simp [encodeCoolingDomainDetails])

/-- An alternative of the variant, after its tag. -/
theorem writes_alternative {α : Type} {read : Decoder α} {write : α → List WriteOp} {tag : UInt8}
    {number : Nat} (f : α → MemberDetails) (htag : tag.toNat = number)
    (h : Writes (rewriting limits) read write)
    (hencode : ∀ value, encodeDetails (f value) = .u8 (UInt8.ofNat number) :: write value) :
    Rewrites (rewriting limits) (do return f (← read))
      fun calls value => [.u8 tag] ++ calls = encodeDetails value := by
  refine h.field fun value => .pure ?_
  rw [hencode, ← htag, UInt8.ofNat_toNat]
  simp

theorem writes_details : Writes (rewriting limits) decodeDetails encodeDetails := by
  refine writes_u8.field fun tag => ?_
  split
  · rename_i htag
    obtain rfl : tag = 0 := UInt8.toNat_inj.mp htag
    exact .pure rfl
  · exact writes_alternative .node ‹_› writes_nodeDetails fun _ => rfl
  · exact writes_alternative .accelerator ‹_› writes_acceleratorDetails fun _ => rfl
  · exact writes_alternative .cpuPackage ‹_› writes_cpuPackageDetails fun _ => rfl
  · exact writes_alternative .memoryDomain ‹_› writes_memoryDomainDetails fun _ => rfl
  · exact writes_alternative .nic ‹_› writes_nicDetails fun _ => rfl
  · exact writes_alternative .dpu ‹_› writes_dpuDetails fun _ => rfl
  · exact writes_alternative .switch ‹_› writes_switchDetails fun _ => rfl
  · exact writes_alternative .storageEndpoint ‹_› writes_storageEndpointDetails fun _ => rfl
  · exact writes_alternative .powerDomain ‹_› writes_powerDomainDetails fun _ => rfl
  · exact writes_alternative .coolingDomain ‹_› writes_coolingDomainDetails fun _ => rfl
  · exact .fail _

/-- The payload of details that fit is what their encoder writes, to its end. -/
theorem detailBytes_of_fits {details : MemberDetails}
    (hfits : ∀ op ∈ encodeDetails details, op.Fits limits)
    (hsize : ((encodeDetails details).flatMap WriteOp.bytes).length ≤ limits.maxPayloadBytes) :
    detailBytes limits details = (encodeDetails details).flatMap WriteOp.bytes := by
  let writer : ByteWriter := { limits := limits, maxBytes := limits.maxPayloadBytes }
  have hroom : writer.buffer.length + ((encodeDetails details).flatMap WriteOp.bytes).length ≤
      writer.maxBytes := by
    simpa [writer] using hsize
  have hwritten := writer.writeAll_of_fits _ hfits hroom
  calc detailBytes limits details = (writer.writeAll (encodeDetails details)).buffer := rfl
    _ = (encodeDetails details).flatMap WriteOp.bytes := by rw [hwritten]; rfl

/-- Details that fill a payload are persisted as that payload again. -/
theorem detailBytes_of_decoded {payload : Bytes} {details : MemberDetails}
    (h : decodeDetails limits payload = .ok (details, []))
    (hsize : payload.length ≤ limits.maxPayloadBytes) : detailBytes limits details = payload := by
  obtain ⟨hfits, hiff⟩ := writes_details.whole h
  have hpayload : payload = (encodeDetails details).flatMap WriteOp.bytes := hiff.mp h
  rw [hpayload] at hsize ⊢
  exact detailBytes_of_fits hfits hsize

end Details

end RackFabric
