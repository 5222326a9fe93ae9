import RackFabric.Properties.Corruption
import RackFabric.Properties.Framing

/-! Frames that a burst of errors has changed. Whatever the header says, the checksum
gives them away, unless the length field never told where the payload ends. -/
namespace RackFabric
open Checksum Enumeration

/-! The checksum of a text and the text that ends in it. -/

theorem encode_toBitVec (count : Nat) (value : BitVec 32) :
    (LittleEndian.encode count value.toNat).map UInt8.toBitVec = spell count value := by
  induction count generalizing value with
  | zero => rfl
  | succ count ih =>
    have hrest : value.toNat / 256 = (value >>> 8).toNat := by
      rw [BitVec.toNat_ushiftRight, Nat.shiftRight_eq_div_pow]
    have hbyte : (UInt8.ofNat (value.toNat % 256)).toBitVec = value.setWidth 8 := by
      apply BitVec.eq_of_toNat_eq
      simp
    rw [LittleEndian.encode, List.map_cons, hrest, ih, hbyte, spell]

theorem toBitVec_crc32c (data : Bytes) :
    (crc32c data).toBitVec =
      run crcTable (~~~ 0#32) (data.map UInt8.toBitVec) ^^^ BitVec.allOnes 32 := by
  have hseed : (~~~ (0 : UInt32)).toBitVec = ~~~ 0#32 := rfl
  rw [BitVec.xor_allOnes, ← hseed, ← toBitVec_crc_run]
  rfl

def sealed (data : Bytes) : Bytes := data ++ LittleEndian.encode 4 (crc32c data).toNat

theorem sealed_toBitVec (data : Bytes) :
    (sealed data).map UInt8.toBitVec = data.map UInt8.toBitVec ++
      spell 4 (run crcTable (~~~ 0#32) (data.map UInt8.toBitVec) ^^^ BitVec.allOnes 32) := by
  rw [sealed, List.map_append, ← toBitVec_crc32c, ← encode_toBitVec]
  rfl

/-- A burst of at most four bytes does not lead from one sealed text to another, also
when it reaches from the text into the checksum. -/
theorem eq_of_sealed_burst {left right : Bytes}
    (hdiffer : DifferWithin 4 (sealed left) (sealed right)) : left = right := by
  have hbits := hdiffer.map UInt8.toBitVec
  rw [sealed_toBitVec, sealed_toBitVec] at hbits
  have hwidth : 8 * 4 ≤ 32 := by decide
  have hsame := run_sealed_burst crcTable_separating (by decide) hwidth (by decide) hbits
  exact List.map_injective_iff.mpr (fun _ _ => UInt8.toBitVec_inj.mp) hsame

theorem frameBytes_eq_sealed (frame : Frame) : frameBytes frame = sealed (coveredBytes frame) := rfl

/-! Frames. -/

/-- At least one bit of the bytes is changed, inside four consecutive bytes and outside
the four that hold the length of the payload. -/
structure Disturbed (bytes data : Bytes) : Prop where
  burst : DifferWithin 4 bytes data
  changed : data ≠ bytes
  length : ∀ i, 20 ≤ i → i < 24 → data[i]? = bytes[i]?

theorem Disturbed.payloadLength {bytes data : Bytes} (h : Disturbed bytes data) :
    loadU32 data 20 = loadU32 bytes 20 := by
  have hfield : (data.drop 20).take 4 = (bytes.drop 20).take 4 := by
    apply List.ext_getElem?
    intro i
    rw [List.getElem?_take, List.getElem?_take]
    split
    · rw [List.getElem?_drop, List.getElem?_drop, h.length _ (by omega) (by omega)]
    · rfl
  rw [loadU32, loadU32, loadAt, loadAt, hfield]

/-- What is decoded of as many bytes as the frame has, under the same length field, is a
frame of that size. -/
theorem frameBytes_of_ok {frame : Frame} {data : Bytes} {limits : ResourceLimits}
    {decoded : DecodedFrame} (hsmall : frame.payload.length < 2 ^ 32)
    (hsize : data.length = (frameBytes frame).length)
    (hfield : loadU32 data 20 = loadU32 (frameBytes frame) 20)
    (h : decodeFrameBytes data limits = .ok decoded) : data = frameBytes decoded.frame := by
  obtain ⟨-, hdecoded, hconsumed, hbytes⟩ := frame_of_ok h
  have hinitial : headerBytes decoded.frame <+: data := by
    rw [← hbytes]
    exact (headerBytes_initial decoded.frame).trans (List.prefix_append _ _)
  rw [header_payloadLength decoded.frame hinitial,
    header_payloadLength frame (headerBytes_initial frame), Nat.mod_eq_of_lt hdecoded,
    Nat.mod_eq_of_lt hsmall] at hfield
  have hwhole : data.drop decoded.consumed = [] := by
    apply List.drop_eq_nil_of_le
    rw [hsize, hconsumed, length_frameBytes, length_frameBytes, hfield]
  rw [hwhole, List.append_nil] at hbytes
  exact hbytes.symm

theorem disturbed_refused {frame : Frame} {data : Bytes} (hsmall : frame.payload.length < 2 ^ 32)
    (h : Disturbed (frameBytes frame) data) (limits : ResourceLimits) (decoded : DecodedFrame) :
    decodeFrameBytes data limits ≠ .ok decoded := by
  intro hok
  have hdata := frameBytes_of_ok hsmall h.burst.1.symm h.payloadLength hok
  have hburst := h.burst
  rw [hdata, frameBytes_eq_sealed, frameBytes_eq_sealed] at hburst
  apply h.changed
  rw [hdata, frameBytes_eq_sealed, frameBytes_eq_sealed, eq_of_sealed_burst hburst]

/-! Payloads that are too long for the length field. -/

namespace Frame
variable (frame : Frame)

def declared : Frame :=
  { frame with payload := frame.payload.take (frame.payload.length % 2 ^ 32) }

/-- What the decoder never looks at. -/
def unread : Bytes := (frameBytes frame).drop (frameBytes frame.declared).length

theorem length_declared : frame.declared.payload.length = frame.payload.length % 2 ^ 32 := by
  rw [declared, List.length_take]
  exact Nat.min_eq_left (Nat.mod_le _ _)

theorem length_declared_lt : frame.declared.payload.length < 2 ^ 32 := by
  rw [length_declared]
  exact Nat.mod_lt _ (by decide)

theorem headerBytes_declared : headerBytes frame.declared = headerBytes frame := by
  rw [headerBytes, headerBytes, length_declared, Nat.mod_mod]
  rfl

theorem coveredBytes_declared_initial : coveredBytes frame.declared <+: frameBytes frame := by
  rw [frameBytes, coveredBytes, coveredBytes, headerBytes_declared, List.append_assoc]
  exact (List.prefix_append_right_inj _).mpr ((List.take_prefix _ _).trans (List.prefix_append _ _))

/-- The declared frame and the bytes that are left are as long as the whole. -/
theorem length_unread :
    (frameBytes frame.declared).length + frame.unread.length = (frameBytes frame).length := by
  have hbelow : frame.payload.length % 2 ^ 32 ≤ frame.payload.length := Nat.mod_le _ _
  rw [unread, List.length_drop, length_frameBytes, length_frameBytes, length_declared]
  omega

/-- Four bytes stand between what the checksum of the declared frame covers and the rest. -/
theorem split_declared : ∃ stored : Bytes, stored.length = 4 ∧
    frameBytes frame = coveredBytes frame.declared ++ (stored ++ frame.unread) := by
  obtain ⟨rest, hrest⟩ := frame.coveredBytes_declared_initial
  have hlength := frame.length_unread
  rw [← hrest, frameBytes_eq_sealed, sealed, List.length_append, List.length_append,
    LittleEndian.length_encode] at hlength
  have hunread : rest.drop 4 = frame.unread := by
    rw [unread, ← hrest, frameBytes_eq_sealed, sealed, List.length_append,
      LittleEndian.length_encode, ← List.drop_drop, List.drop_left]
  refine ⟨rest.take 4, ?_, ?_⟩
  · rw [List.length_take]
    omega
  · rw [← hunread, List.take_append_drop, hrest]

end Frame

theorem Frame.Supported.declared {frame : Frame} {limits : ResourceLimits}
    (h : frame.Supported limits) : frame.declared.Supported limits := by
  have hbelow : frame.declared.payload.length ≤ frame.payload.length := by
    rw [frame.length_declared]
    exact Nat.mod_le _ _
  exact ⟨h.version, h.type, h.flags, Nat.le_trans hbelow h.payload,
    Nat.le_trans (Nat.add_le_add_left hbelow _) h.total⟩

/-- Behind the header a burst of at most four bytes leaves the length field alone. -/
theorem disturbed_of_append {before here there after : Bytes}
    (hheader : kFrameHeaderBytes ≤ before.length) (hlength : here.length = there.length)
    (hshort : here.length ≤ 4) (hchanged : there ≠ here) :
    Disturbed (before ++ (here ++ after)) (before ++ (there ++ after)) := by
  have hfield : 24 ≤ before.length := hheader
  refine ⟨.of_append hlength hshort before after, ?_, fun i _ hi => ?_⟩
  · simpa using hchanged
  · rw [List.getElem?_append_left (by omega), List.getElem?_append_left (by omega)]

/-- Four bytes at most lead from such a frame to bytes that begin with the declared one. -/
theorem disturbed_accepted {frame : Frame} (hlong : 2 ^ 32 ≤ frame.payload.length) :
    ∃ rest, Disturbed (frameBytes frame) (frameBytes frame.declared ++ rest) := by
  obtain ⟨stored, hstored, hsplit⟩ := frame.split_declared
  have hcovered : kFrameHeaderBytes ≤ (coveredBytes frame.declared).length := by simp
  by_cases hsealed : stored = LittleEndian.encode 4 (crc32c (coveredBytes frame.declared)).toNat
  · -- The checksum happens to fit: another byte, behind it, is changed.
    have hunread : frame.unread ≠ [] := by
      intro hnone
      have hlength := frame.length_unread
      rw [hnone, length_frameBytes, length_frameBytes, frame.length_declared,
        List.length_nil] at hlength
      have hbelow : frame.payload.length % 2 ^ 32 < 2 ^ 32 := Nat.mod_lt _ (by decide)
      omega
    obtain ⟨byte, rest, hrest⟩ := List.exists_cons_of_ne_nil hunread
    refine ⟨(byte + 1) :: rest, ?_⟩
    have hframe : frameBytes frame = frameBytes frame.declared ++ ([byte] ++ rest) := by
      rw [hsplit, hsealed, hrest, frameBytes_eq_sealed frame.declared, sealed, List.append_assoc]
      rfl
    rw [hframe]
    refine @disturbed_of_append _ [byte] [byte + 1] rest ?_ rfl (Nat.le_add_left 1 3) ?_
    · rw [frameBytes_eq_sealed, sealed, List.length_append]
      omega
    · simp
  · refine ⟨frame.unread, ?_⟩
    rw [hsplit, frameBytes_eq_sealed frame.declared, sealed, List.append_assoc]
    exact disturbed_of_append hcovered (by rw [hstored, LittleEndian.length_encode])
      (by omega) (Ne.symm hsealed)

/-- Every short burst outside the length field is noticed exactly when that field can hold
the length of the payload. -/
theorem noise_noticed_iff (frame : Frame) (limits : ResourceLimits) (h : frame.Supported limits) :
    (∃ bytes, encodeFrame frame limits = some bytes ∧
      ∀ data, Disturbed bytes data → ∀ reading decoded,
        decodeFrame (some data) reading ≠ .ok decoded) ↔
      frame.payload.length < 2 ^ 32 := by
  constructor
  · rintro ⟨bytes, hencoded, hnoticed⟩
    rw [h.encoded] at hencoded
    cases hencoded
    by_contra hlong
    obtain ⟨rest, hdisturbed⟩ := disturbed_accepted (Nat.le_of_not_lt hlong)
    exact hnoticed _ hdisturbed limits _ (h.declared.decoded frame.length_declared_lt rest)
  · intro hsmall
    exact ⟨frameBytes frame, h.encoded, fun data hdisturbed reading decoded =>
      disturbed_refused hsmall hdisturbed reading decoded⟩

theorem small_frame_noticed :
    (∃ bytes, encodeFrame smallFrame {} = some bytes ∧
      ∀ data, Disturbed bytes data → ∀ reading decoded,
        decodeFrame (some data) reading ≠ .ok decoded) ↔
      smallFrame.payload.length < 2 ^ 32 :=
  noise_noticed_iff smallFrame {} ⟨rfl, by decide, Or.inr rfl, by decide, by decide⟩

/-! A frame of 2^32 bytes of payload whose first four are the checksum of its header. -/

def emptyFrame : Frame where
  type := .query

def swallowedFrame : Frame where
  type := .query
  payload := LittleEndian.encode 4 (crc32c (coveredBytes emptyFrame)).toNat ++
    List.replicate (2 ^ 32 - 4) 0

theorem length_swallowed : swallowedFrame.payload.length = 2 ^ 32 := by
  simp only [swallowedFrame, List.length_append, LittleEndian.length_encode,
    List.length_replicate]
  omega

theorem declared_swallowed : swallowedFrame.declared = emptyFrame := by
  rw [Frame.declared, length_swallowed]
  rfl

theorem swallowed_supported : swallowedFrame.Supported wideLimits := by
  refine ⟨rfl, by decide, Or.inl rfl, ?_, ?_⟩
  · rw [length_swallowed]
    decide
  · rw [length_swallowed]
    decide

/-- It is decoded as the empty frame, damaged or not. -/
theorem swallowed_frame_unnoticed : swallowedFrame.Supported wideLimits ∧
    ∃ bytes data, encodeFrame swallowedFrame wideLimits = some bytes ∧
      decodeFrame (some bytes) wideLimits = .ok ⟨emptyFrame, 28⟩ ∧ Disturbed bytes data ∧
      decodeFrame (some data) wideLimits = .ok ⟨emptyFrame, 28⟩ := by
  have hsupported : emptyFrame.Supported wideLimits :=
    declared_swallowed ▸ swallowed_supported.declared
  have hdecoded (rest : Bytes) :
      decodeFrame (some (frameBytes emptyFrame ++ rest)) wideLimits = .ok ⟨emptyFrame, 28⟩ :=
    hsupported.decoded (by decide) rest
  obtain ⟨rest, hdisturbed⟩ := disturbed_accepted (Nat.le_of_eq length_swallowed.symm)
  rw [declared_swallowed] at hdisturbed
  refine ⟨swallowed_supported, _, _, swallowed_supported.encoded, ?_, hdisturbed, hdecoded rest⟩
  have hheader : headerBytes swallowedFrame = coveredBytes emptyFrame := by
    rw [← Frame.headerBytes_declared, declared_swallowed, coveredBytes]
    exact (List.append_nil _).symm
  have hbytes : frameBytes swallowedFrame = frameBytes emptyFrame ++
      (List.replicate (2 ^ 32 - 4) 0 ++
        LittleEndian.encode 4 (crc32c (coveredBytes swallowedFrame)).toNat) := by
    rw [frameBytes, frameBytes, coveredBytes, hheader, swallowedFrame]
    simp only [List.append_assoc]
  rw [hbytes]
  exact hdecoded _

end RackFabric
