import RackFabric.Model.Framing
import RackFabric.Properties.StateFile

/-! A frame is decoded from its encoding, and nothing else is decoded as a frame,
unless its payload is longer than the length field can tell. -/
namespace RackFabric
open Enumeration

@[simp] theorem failFrameIf_bind_eq_ok {α : Type} {check : Bool} {status : DecodeStatus}
    {detail : String} {rest : Unit → Except (DecodeStatus × Str) α} {value : α} :
    (failFrameIf check status detail >>= rest) = .ok value ↔ check = false ∧ rest () = .ok value := by
  cases check <;> simp [failFrameIf, bind, Except.bind]

theorem failFrameIf_bind_of_false {α : Type} {check : Bool} (hcheck : check = false)
    (status : DecodeStatus) (detail : String) (rest : Unit → Except (DecodeStatus × Str) α) :
    (failFrameIf check status detail >>= rest) = rest () := by
  subst hcheck
  rfl

theorem failFrameIf_bind_of_true {α : Type} {check : Bool} (hcheck : check = true)
    (status : DecodeStatus) (detail : String) (rest : Unit → Except (DecodeStatus × Str) α) :
    (failFrameIf check status detail >>= rest) = .error (status, str detail) := by
  subst hcheck
  rfl

/-! Numbers where they are stored. -/

theorem drop_eq_field {data : Bytes} {offset width : Nat} (hinside : offset + width ≤ data.length) :
    data.drop offset =
      LittleEndian.encode width (loadAt data offset width) ++ data.drop (offset + width) := by
  have hwidth : ((data.drop offset).take width).length = width := by
    rw [List.length_take, List.length_drop]
    omega
  have hfield := LittleEndian.encode_decode ((data.drop offset).take width)
  rw [hwidth] at hfield
  rw [loadAt, hfield, ← List.drop_drop, List.take_append_drop]

/-! The parts of an encoded frame. -/

def headerBytes (frame : Frame) : Bytes :=
  kFrameMagic ++ (LittleEndian.encode 2 frame.version.toNat ++
    (LittleEndian.encode 2 (toUInt8 frame.type).toNat ++
      (LittleEndian.encode 2 frame.flags.toNat ++ (LittleEndian.encode 2 0 ++
        (LittleEndian.encode 8 frame.correlation.toNat ++
          LittleEndian.encode 4 (frame.payload.length % 2 ^ 32))))))

def coveredBytes (frame : Frame) : Bytes := headerBytes frame ++ frame.payload

def frameBytes (frame : Frame) : Bytes :=
  coveredBytes frame ++ LittleEndian.encode 4 (crc32c (coveredBytes frame)).toNat

@[simp] theorem length_headerBytes (frame : Frame) :
    (headerBytes frame).length = kFrameHeaderBytes := by
  have hmagic : kFrameMagic.length = 4 := by decide
  simp [headerBytes, hmagic, kFrameHeaderBytes]

@[simp] theorem length_coveredBytes (frame : Frame) :
    (coveredBytes frame).length = kFrameHeaderBytes + frame.payload.length := by
  simp [coveredBytes]

theorem length_frameBytes (frame : Frame) :
    (frameBytes frame).length = kFrameOverheadBytes + frame.payload.length := by
  simp only [frameBytes, List.length_append, length_coveredBytes, LittleEndian.length_encode,
    kFrameOverheadBytes, kFrameTrailerBytes]
  omega

theorem frameBytes_pos (frame : Frame) : 0 < (frameBytes frame).length := by
  rw [length_frameBytes]
  exact Nat.add_pos_left (by decide) _

theorem headerBytes_initial (frame : Frame) : headerBytes frame <+: frameBytes frame := by
  rw [frameBytes, coveredBytes, List.append_assoc]
  exact List.prefix_append _ _

theorem encodeFrame_eq_some_iff {frame : Frame} {limits : ResourceLimits} {bytes : Bytes} :
    encodeFrame frame limits = some bytes ↔
      frame.payload.length ≤ limits.maxPayloadBytes ∧
        kFrameOverheadBytes + frame.payload.length ≤ limits.maxFrameBytes ∧
          frameBytes frame = bytes := by
  have hcovered : kFrameMagic ++ LittleEndian.encode 2 frame.version.toNat ++
      LittleEndian.encode 2 (toUInt8 frame.type).toNat ++ LittleEndian.encode 2 frame.flags.toNat ++
      LittleEndian.encode 2 0 ++ LittleEndian.encode 8 frame.correlation.toNat ++
      LittleEndian.encode 4 (frame.payload.length % 2 ^ 32) ++ frame.payload =
        coveredBytes frame := by
    simp only [coveredBytes, headerBytes, List.append_assoc]
  simp only [encodeFrame, hcovered]
  split
  · rename_i hlong
    simp [Nat.not_le_of_gt hlong]
  · rename_i hpayload
    split
    · rename_i hlong
      simp [Nat.not_le_of_gt hlong]
    · rename_i htotal
      simp [Nat.le_of_not_gt hpayload, Nat.le_of_not_gt htotal, frameBytes]

/-! What the decoder reads of a header. -/

structure ValidHeader (data : Bytes) (type : MessageType) (limits : ResourceLimits) : Prop where
  minimum : kFrameOverheadBytes ≤ data.length
  magic : data.take 4 = kFrameMagic
  version : UInt16.ofNat (loadU16 data 4) = kProtocolVersion
  type : messageTypeFromValue (loadU16 data 6) = some type
  flags : UInt16.ofNat (loadU16 data 8) &&& ~~~ Frame.responseFlag = 0
  reserved : loadU16 data 10 = 0
  payload : loadU32 data 20 ≤ limits.maxPayloadBytes
  total : kFrameOverheadBytes + loadU32 data 20 ≤ limits.maxFrameBytes

def heldFrame (data : Bytes) (type : MessageType) : Frame where
  version := UInt16.ofNat (loadU16 data 4)
  type
  flags := UInt16.ofNat (loadU16 data 8)
  correlation := UInt64.ofNat (loadU64 data 12)
  payload := (data.drop kFrameHeaderBytes).take (loadU32 data 20)

namespace ValidHeader
variable {data : Bytes} {type : MessageType} {limits : ResourceLimits}

theorem decoded (h : ValidHeader data type limits) :
    decodeFrameBytes data limits = (do
      failFrameIf (data.length < kFrameOverheadBytes + loadU32 data 20) .truncatedFrame
        "buffer is shorter than the declared frame length"
      failFrameIf
        (loadU32 data (kFrameHeaderBytes + loadU32 data 20) ≠
          (crc32c (data.take (kFrameHeaderBytes + loadU32 data 20))).toNat)
        .checksumMismatch "frame checksum does not match"
      return ⟨heldFrame data type, kFrameOverheadBytes + loadU32 data 20⟩) := by
  unfold decodeFrameBytes
  rw [failFrameIf_bind_of_false (decide_eq_false (Nat.not_lt.mpr h.minimum)),
    failFrameIf_bind_of_false (by simp [h.magic]),
    failFrameIf_bind_of_false (by simp [h.version]), h.type]
  simp only []
  rw [failFrameIf_bind_of_false (by simp [h.flags]),
    failFrameIf_bind_of_false (by simp [h.reserved]),
    failFrameIf_bind_of_false (decide_eq_false (Nat.not_lt.mpr h.payload)),
    failFrameIf_bind_of_false (decide_eq_false (Nat.not_lt.mpr h.total))]
  rfl

theorem truncated (h : ValidHeader data type limits)
    (hshort : data.length < kFrameOverheadBytes + loadU32 data 20) :
    ∃ detail, decodeFrameBytes data limits = .error (.truncatedFrame, detail) := by
  rw [h.decoded, failFrameIf_bind_of_true (decide_eq_true hshort)]
  exact ⟨_, rfl⟩

theorem complete (h : ValidHeader data type limits)
    (hlong : kFrameOverheadBytes + loadU32 data 20 ≤ data.length)
    (hcrc : loadU32 data (kFrameHeaderBytes + loadU32 data 20) =
      (crc32c (data.take (kFrameHeaderBytes + loadU32 data 20))).toNat) :
    decodeFrameBytes data limits =
      .ok ⟨heldFrame data type, kFrameOverheadBytes + loadU32 data 20⟩ := by
  rw [h.decoded, failFrameIf_bind_of_false (decide_eq_false (Nat.not_lt.mpr hlong)),
    failFrameIf_bind_of_false (by simp [hcrc])]
  rfl

end ValidHeader

/-- What is decoded has passed every check. -/
theorem validHeader_of_ok {data : Bytes} {limits : ResourceLimits} {decoded : DecodedFrame}
    (h : decodeFrameBytes data limits = .ok decoded) :
    ∃ type, ValidHeader data type limits ∧
      kFrameOverheadBytes + loadU32 data 20 ≤ data.length ∧
      loadU32 data (kFrameHeaderBytes + loadU32 data 20) =
        (crc32c (data.take (kFrameHeaderBytes + loadU32 data 20))).toNat ∧
      decoded = ⟨heldFrame data type, kFrameOverheadBytes + loadU32 data 20⟩ := by
  unfold decodeFrameBytes at h
  simp only [failFrameIf_bind_eq_ok] at h
  obtain ⟨hminimum, hmagic, hversion, h⟩ := h
  split at h
  · cases h
  · rename_i type htype
    simp only [failFrameIf_bind_eq_ok, decide_eq_false_iff_not, Nat.not_lt, ne_eq, not_not] at *
    obtain ⟨hflags, hreserved, hpayload, htotal, hlong, hcrc, h⟩ := h
    refine ⟨type, ⟨hminimum, hmagic, hversion, htype, hflags, hreserved, hpayload, htotal⟩, hlong,
      hcrc, ?_⟩
    exact (Except.ok.inj h).symm

/-! What a header holds of the frame that it was written for. -/

section
variable (frame : Frame) {data : Bytes}

theorem loadAt_header {offset width value : Nat} (before after : Bytes)
    (hheader : headerBytes frame = before ++ (LittleEndian.encode width value ++ after))
    (hoffset : before.length = offset) (hvalue : value < 256 ^ width)
    (hinitial : headerBytes frame <+: data) : loadAt data offset width = value := by
  have hlength := congrArg List.length hheader
  simp only [List.length_append, LittleEndian.length_encode] at hlength
  rw [loadAt_of_initial hinitial (by omega)]
  exact loadAt_field before after hheader hoffset hvalue

variable (hinitial : headerBytes frame <+: data)
include hinitial

theorem header_magic : data.take 4 = kFrameMagic := by
  obtain ⟨rest, rfl⟩ := hinitial
  rw [headerBytes, List.append_assoc]
  exact List.take_left' (by decide)

theorem header_version : UInt16.ofNat (loadU16 data 4) = frame.version := by
  have hfield : loadU16 data 4 = frame.version.toNat :=
    loadAt_header frame kFrameMagic _ rfl (by decide) (UInt16.toNat_lt _) hinitial
  rw [hfield, UInt16.ofNat_toNat]

theorem header_type : loadU16 data 6 = (toUInt8 frame.type).toNat := by
  have hvalue : (toUInt8 frame.type).toNat < 256 ^ 2 :=
    Nat.lt_trans (toUInt8 frame.type).toNat_lt (by decide)
  exact loadAt_header frame (kFrameMagic ++ LittleEndian.encode 2 frame.version.toNat) _
    (by simp only [headerBytes, List.append_assoc]; rfl) (by simp [kFrameMagic, str]) hvalue hinitial

theorem header_flags : UInt16.ofNat (loadU16 data 8) = frame.flags := by
  have hfield : loadU16 data 8 = frame.flags.toNat :=
    loadAt_header frame (kFrameMagic ++ LittleEndian.encode 2 frame.version.toNat ++
      LittleEndian.encode 2 (toUInt8 frame.type).toNat) _
      (by simp only [headerBytes, List.append_assoc]; rfl) (by simp [kFrameMagic, str])
      (UInt16.toNat_lt _) hinitial
  rw [hfield, UInt16.ofNat_toNat]

theorem header_reserved : loadU16 data 10 = 0 :=
  loadAt_header frame (kFrameMagic ++ LittleEndian.encode 2 frame.version.toNat ++
    LittleEndian.encode 2 (toUInt8 frame.type).toNat ++ LittleEndian.encode 2 frame.flags.toNat) _
    (by simp only [headerBytes, List.append_assoc]; rfl) (by simp [kFrameMagic, str]) (by decide)
    hinitial

theorem header_correlation : UInt64.ofNat (loadU64 data 12) = frame.correlation := by
  have hfield : loadU64 data 12 = frame.correlation.toNat :=
    loadAt_header frame (kFrameMagic ++ LittleEndian.encode 2 frame.version.toNat ++
      LittleEndian.encode 2 (toUInt8 frame.type).toNat ++ LittleEndian.encode 2 frame.flags.toNat ++
      LittleEndian.encode 2 0) _
      (by simp only [headerBytes, List.append_assoc]; rfl) (by simp [kFrameMagic, str])
      (UInt64.toNat_lt _) hinitial
  rw [hfield, UInt64.ofNat_toNat]

theorem header_payloadLength : loadU32 data 20 = frame.payload.length % 2 ^ 32 :=
  loadAt_header frame (kFrameMagic ++ LittleEndian.encode 2 frame.version.toNat ++
    LittleEndian.encode 2 (toUInt8 frame.type).toNat ++ LittleEndian.encode 2 frame.flags.toNat ++
    LittleEndian.encode 2 0 ++ LittleEndian.encode 8 frame.correlation.toNat) []
    (by simp only [headerBytes, List.append_assoc, List.append_nil])
    (by simp [kFrameMagic, str]) (Nat.mod_lt _ (by decide)) hinitial

end

/-! The codec. -/

/-- A frame that the protocol allows, within the limits. -/
structure Frame.Supported (frame : Frame) (limits : ResourceLimits) : Prop where
  version : frame.version = kProtocolVersion
  type : (messageTypeFromValue (toUInt8 frame.type).toNat).isSome
  flags : frame.flags = 0 ∨ frame.flags = Frame.responseFlag
  payload : frame.payload.length ≤ limits.maxPayloadBytes
  total : kFrameOverheadBytes + frame.payload.length ≤ limits.maxFrameBytes

theorem messageTypeFromValue_eq {type : MessageType}
    (h : (messageTypeFromValue (toUInt8 type).toNat).isSome) :
    messageTypeFromValue (toUInt8 type).toNat = some type := by
  unfold messageTypeFromValue at h ⊢
  split at h
  · rename_i hrange
    rw [if_pos hrange, ofNat?_toUInt8]
  · cases h

namespace Frame.Supported
variable {frame : Frame} {limits : ResourceLimits} {data : Bytes}

theorem validHeader (h : frame.Supported limits) (hminimum : kFrameOverheadBytes ≤ data.length)
    (hinitial : headerBytes frame <+: data) : ValidHeader data frame.type limits := by
  have hlength := header_payloadLength frame hinitial
  have hbelow : loadU32 data 20 ≤ frame.payload.length := by
    rw [hlength]
    exact Nat.mod_le _ _
  refine ⟨hminimum, header_magic frame hinitial, ?_, ?_, ?_, header_reserved frame hinitial, ?_, ?_⟩
  · rw [header_version frame hinitial, h.version]
  · rw [header_type frame hinitial, messageTypeFromValue_eq h.type]
  · rw [header_flags frame hinitial]
    rcases h.flags with hflags | hflags <;> rw [hflags] <;> decide
  · exact Nat.le_trans hbelow h.payload
  · exact Nat.le_trans (Nat.add_le_add_left hbelow _) h.total

theorem encoded (h : frame.Supported limits) : encodeFrame frame limits = some (frameBytes frame) :=
  encodeFrame_eq_some_iff.mpr ⟨h.payload, h.total, rfl⟩

/-- The frame at the front of the bytes is what is decoded, whatever follows it. -/
theorem decoded (h : frame.Supported limits) (hsmall : frame.payload.length < 2 ^ 32)
    (rest : Bytes) :
    decodeFrameBytes (frameBytes frame ++ rest) limits =
      .ok ⟨frame, (frameBytes frame).length⟩ := by
  have hinitial : headerBytes frame <+: frameBytes frame ++ rest :=
    (headerBytes_initial frame).trans (List.prefix_append _ _)
  have hlength : loadU32 (frameBytes frame ++ rest) 20 = frame.payload.length := by
    rw [header_payloadLength frame hinitial, Nat.mod_eq_of_lt hsmall]
  have hsize : (frameBytes frame).length = kFrameOverheadBytes + frame.payload.length :=
    length_frameBytes frame
  have hvalid := @validHeader frame limits (frameBytes frame ++ rest) h
    (by rw [List.length_append]; omega) hinitial
  have hcovered : (frameBytes frame ++ rest).take (kFrameHeaderBytes + frame.payload.length) =
      coveredBytes frame := by
    rw [frameBytes, List.append_assoc]
    exact List.take_left' (length_coveredBytes frame)
  have hcrc : loadU32 (frameBytes frame ++ rest) (kFrameHeaderBytes + frame.payload.length) =
      (crc32c (coveredBytes frame)).toNat :=
    loadAt_field (coveredBytes frame) rest (by rw [frameBytes, List.append_assoc])
      (length_coveredBytes frame) (UInt32.toNat_lt _)
  have hpayload : ((frameBytes frame ++ rest).drop kFrameHeaderBytes).take frame.payload.length =
      frame.payload := by
    rw [frameBytes, coveredBytes, List.append_assoc, List.append_assoc,
      List.drop_left' (length_headerBytes frame)]
    exact List.take_left
  have hheld : heldFrame (frameBytes frame ++ rest) frame.type = frame := by
    rw [heldFrame, hlength, hpayload, header_version frame hinitial, header_flags frame hinitial,
      header_correlation frame hinitial]
  rw [hvalid.complete (by rw [hlength, List.length_append]; omega) (by rw [hlength, hcovered, hcrc]),
    hheld, hlength, hsize]

/-- What is cut off is waited for. -/
theorem truncated (h : frame.Supported limits) (hsmall : frame.payload.length < 2 ^ 32)
    {part : Bytes} (hpart : part <+: frameBytes frame) (hstrict : part ≠ frameBytes frame) :
    ∃ detail, decodeFrameBytes part limits = .error (.truncatedFrame, detail) := by
  have hsize : (frameBytes frame).length = kFrameOverheadBytes + frame.payload.length :=
    length_frameBytes frame
  have hshort : part.length < (frameBytes frame).length :=
    Nat.lt_of_le_of_ne hpart.length_le fun heq => hstrict (hpart.eq_of_length heq)
  by_cases hminimum : part.length < kFrameOverheadBytes
  · unfold decodeFrameBytes
    rw [failFrameIf_bind_of_true (decide_eq_true hminimum)]
    exact ⟨_, rfl⟩
  · have hinitial : headerBytes frame <+: part := by
      refine List.prefix_of_prefix_length_le (headerBytes_initial frame) hpart ?_
      rw [length_headerBytes]
      have hoverhead : kFrameOverheadBytes = kFrameHeaderBytes + kFrameTrailerBytes := rfl
      omega
    have hlength : loadU32 part 20 = frame.payload.length := by
      rw [header_payloadLength frame hinitial, Nat.mod_eq_of_lt hsmall]
    exact (h.validHeader (Nat.le_of_not_lt hminimum) hinitial).truncated (by omega)

end Frame.Supported

theorem loadAt_lt (data : Bytes) (offset width : Nat) : loadAt data offset width < 256 ^ width := by
  refine Nat.lt_of_lt_of_le (LittleEndian.decode_lt _) (Nat.pow_le_pow_right (by decide) ?_)
  rw [List.length_take]
  exact Nat.min_le_left _ _

theorem toUInt8_of_messageTypeFromValue {value : Nat} {type : MessageType}
    (h : messageTypeFromValue value = some type) : (toUInt8 type).toNat = value := by
  unfold messageTypeFromValue at h
  split at h
  · exact toNat_toUInt8_of_ofNat? h
  · cases h

namespace ValidHeader
variable {data : Bytes} {type : MessageType} {limits : ResourceLimits}

/-- No bit of the header is ignored. -/
theorem split (h : ValidHeader data type limits)
    (hlong : kFrameOverheadBytes + loadU32 data 20 ≤ data.length) :
    data = headerBytes (heldFrame data type) ++ ((heldFrame data type).payload ++
      (LittleEndian.encode 4 (loadU32 data (kFrameHeaderBytes + loadU32 data 20)) ++
        data.drop (kFrameOverheadBytes + loadU32 data 20))) := by
  have hminimum : 28 ≤ data.length := h.minimum
  have hoverhead : 28 + loadU32 data 20 ≤ data.length := hlong
  have hversion : (UInt16.ofNat (loadU16 data 4)).toNat = loadU16 data 4 :=
    UInt16.toNat_ofNat_of_lt (loadAt_lt data 4 2)
  have hflags : (UInt16.ofNat (loadU16 data 8)).toNat = loadU16 data 8 :=
    UInt16.toNat_ofNat_of_lt (loadAt_lt data 8 2)
  have hcorrelation : (UInt64.ofNat (loadU64 data 12)).toNat = loadU64 data 12 :=
    UInt64.toNat_ofNat_of_lt (loadAt_lt data 12 8)
  have hpayload : ((data.drop 24).take (loadU32 data 20)).length = loadU32 data 20 := by
    rw [List.length_take, List.length_drop]
    omega
  have hlength : loadU32 data 20 % 2 ^ 32 = loadU32 data 20 :=
    Nat.mod_eq_of_lt (loadAt_lt data 20 4)
  have htrailer : data.drop (24 + loadU32 data 20) =
      LittleEndian.encode 4 (loadU32 data (24 + loadU32 data 20)) ++
        data.drop (28 + loadU32 data 20) := by
    have hfield := @drop_eq_field data (24 + loadU32 data 20) 4
      (by omega)
    rwa [show 24 + loadU32 data 20 + 4 = 28 + loadU32 data 20 by omega] at hfield
  have hrest : data.drop 24 = (data.drop 24).take (loadU32 data 20) ++
      (LittleEndian.encode 4 (loadU32 data (24 + loadU32 data 20)) ++
        data.drop (28 + loadU32 data 20)) := by
    rw [← htrailer, ← List.drop_drop, List.take_append_drop]
  simp only [headerBytes, heldFrame, hversion, hflags, hcorrelation,
    toUInt8_of_messageTypeFromValue h.type, kFrameHeaderBytes, kFrameOverheadBytes,
    kFrameTrailerBytes, hpayload, hlength, List.append_assoc]
  rw [← hrest, ← h.reserved, ← h.magic]
  calc data = data.take 4 ++ data.drop 4 := (List.take_append_drop 4 data).symm
    _ = _ := by
      rw [@drop_eq_field data 4 2 (by omega),
        @drop_eq_field data 6 2 (by omega),
        @drop_eq_field data 8 2 (by omega),
        @drop_eq_field data 10 2 (by omega),
        @drop_eq_field data 12 8 (by omega),
        @drop_eq_field data 20 4 (by omega)]
      rfl

end ValidHeader

/-- The only flag is the lowest bit. -/
theorem flags_of_reserved {flags : UInt16} (h : flags &&& ~~~ Frame.responseFlag = 0) :
    flags = 0 ∨ flags = Frame.responseFlag := by
  have hmask : flags.toNat &&& (2 ^ 16 - 2) = 0 := by
    have htoNat := congrArg UInt16.toNat h
    simpa [Frame.responseFlag] using htoNat
  have hhalf : flags.toNat >>> 1 % 2 ^ 15 = 0 := by
    have hshift := congrArg (· >>> 1) hmask
    simp only [Nat.shiftRight_and_distrib] at hshift
    rw [← Nat.and_two_pow_sub_one_eq_mod]
    exact hshift
  have hbelow := flags.toNat_lt
  rw [Nat.shiftRight_eq_div_pow] at hhalf
  have hsmall : flags.toNat = 0 ∨ flags.toNat = 1 := by omega
  rcases hsmall with hzero | hone
  · exact Or.inl (UInt16.toNat_inj.mp hzero)
  · exact Or.inr (UInt16.toNat_inj.mp hone)

/-- The bytes that are decoded are those that the frame encodes to. -/
theorem frame_of_ok {data : Bytes} {limits : ResourceLimits} {decoded : DecodedFrame}
    (h : decodeFrameBytes data limits = .ok decoded) :
    decoded.frame.Supported limits ∧ decoded.frame.payload.length < 2 ^ 32 ∧
      decoded.consumed = (frameBytes decoded.frame).length ∧
      frameBytes decoded.frame ++ data.drop decoded.consumed = data := by
  obtain ⟨type, hvalid, hlong, hcrc, rfl⟩ := validHeader_of_ok h
  have hlength : (heldFrame data type).payload.length = loadU32 data 20 := by
    have hoverhead : 28 + loadU32 data 20 ≤ data.length := hlong
    rw [heldFrame, List.length_take, List.length_drop, kFrameHeaderBytes]
    omega
  have hsplit := hvalid.split hlong
  have hcovered : data.take (kFrameHeaderBytes + loadU32 data 20) =
      coveredBytes (heldFrame data type) := by
    conv => lhs; arg 2; rw [hsplit, ← List.append_assoc]
    exact List.take_left' (by rw [← hlength]; exact length_coveredBytes _)
  refine ⟨⟨hvalid.version, ?_, flags_of_reserved hvalid.flags, ?_, ?_⟩, ?_, ?_, ?_⟩
  · have htype := hvalid.type
    rw [← toUInt8_of_messageTypeFromValue htype] at htype
    exact Option.isSome_iff_exists.mpr ⟨type, htype⟩
  · rw [hlength]
    exact hvalid.payload
  · rw [hlength]
    exact hvalid.total
  · rw [hlength]
    exact loadAt_lt data 20 4
  · rw [length_frameBytes, hlength]
  · conv => rhs; rw [hsplit]
    rw [hcrc, hcovered, frameBytes, coveredBytes, List.append_assoc, List.append_assoc]

def Frame.Restored (frame : Frame) (limits : ResourceLimits) : Prop :=
  ∃ bytes, encodeFrame frame limits = some bytes ∧
    (∀ rest : Bytes,
      decodeFrame (some (bytes ++ rest)) limits = .ok ⟨frame, bytes.length⟩) ∧
    ∀ part : Bytes, part <+: bytes → part ≠ bytes →
      ∃ detail, decodeFrame (some part) limits = .error (.truncatedFrame, detail)

def CanonicalFrames (limits : ResourceLimits) : Prop :=
  ∀ (bytes : Bytes) (decoded : DecodedFrame),
    decodeFrame (some bytes) limits = .ok decoded →
      decoded.consumed ≤ bytes.length ∧
        encodeFrame decoded.frame limits = some (bytes.take decoded.consumed)

theorem canonicalFrames (limits : ResourceLimits) : CanonicalFrames limits := by
  intro bytes decoded h
  obtain ⟨hsupported, -, hconsumed, hbytes⟩ := frame_of_ok h
  have htake : bytes.take decoded.consumed = frameBytes decoded.frame := by
    conv => lhs; rw [← hbytes]
    exact List.take_left' hconsumed.symm
  refine ⟨?_, ?_⟩
  · rw [← hbytes, List.length_append]
    omega
  · rw [hsupported.encoded, htake]

theorem not_restored_of_long {frame : Frame} {limits : ResourceLimits}
    (hlong : 2 ^ 32 ≤ frame.payload.length) : ¬ frame.Restored limits := by
  rintro ⟨bytes, -, hdecoded, -⟩
  exact absurd (frame_of_ok (hdecoded [])).2.1 (Nat.not_lt.mpr hlong)

/-- The codec is faithful to a frame exactly when the length field can hold the
length of its payload. -/
theorem frame_codec_iff (frame : Frame) (limits : ResourceLimits) (h : frame.Supported limits) :
    frame.Restored limits ∧ CanonicalFrames limits ↔ frame.payload.length < 2 ^ 32 := by
  constructor
  · rintro ⟨hrestored, -⟩
    by_contra hlong
    exact not_restored_of_long (Nat.le_of_not_lt hlong) hrestored
  · intro hsmall
    exact ⟨⟨frameBytes frame, h.encoded, h.decoded hsmall, fun _ => h.truncated hsmall⟩,
      canonicalFrames limits⟩

def smallFrame : Frame where
  type := .query
  flags := Frame.responseFlag
  correlation := 7
  payload := [1, 2]

theorem small_frame_coded :
    (smallFrame.Restored {} ∧ CanonicalFrames {}) ↔ smallFrame.payload.length < 2 ^ 32 :=
  frame_codec_iff smallFrame {} ⟨rfl, by decide, Or.inr rfl, by decide, by decide⟩

def wideLimits : ResourceLimits where
  maxFrameBytes := 2 ^ 33
  maxPayloadBytes := 2 ^ 33 - 64

def longFrame : Frame where
  type := .query
  payload := List.replicate (2 ^ 32) 0

/-- The length that is stored for the payload is zero. -/
theorem long_frame_not_restored : longFrame.Supported wideLimits ∧
    ¬ (longFrame.Restored wideLimits ∧ CanonicalFrames wideLimits) := by
  have hlength : longFrame.payload.length = 2 ^ 32 := List.length_replicate
  refine ⟨⟨rfl, by decide, Or.inl rfl, ?_, ?_⟩, fun h => ?_⟩
  · rw [hlength]
    decide
  · rw [hlength]
    decide
  · exact not_restored_of_long (Nat.le_of_eq hlength.symm) h.1

end RackFabric
