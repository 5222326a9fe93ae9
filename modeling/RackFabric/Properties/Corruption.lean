import RackFabric.Library.Checksum
import RackFabric.Properties.Serving
import RackFabric.Properties.StateFile

/-! State files that are read back, and damaged ones: no part of a file, nothing that
continues it and no short burst of errors passes the checks of the container. -/
namespace RackFabric
open Checksum

/-! The checksum as a register driven by a table. -/

def crcTable (index : BitVec 8) : BitVec 32 :=
  (crc32cEntry (UInt32.ofBitVec (index.setWidth 32))).toBitVec

theorem crcTable_separating : Separating crcTable := by
  have hupper : ((List.range 256).map fun index =>
      (crcTable (BitVec.ofNat 8 index) >>> 24).toNat).Nodup := by decide +kernel
  intro left right h
  have hget (index : BitVec 8) : ((List.range 256).map fun index =>
      (crcTable (BitVec.ofNat 8 index) >>> 24).toNat)[index.toNat]? =
        some (crcTable index >>> 24).toNat := by
    have hindex : index.toNat < 256 := index.isLt
    simp [hindex]
  apply BitVec.eq_of_toNat_eq
  apply (List.getElem?_inj (by simpa using left.isLt) hupper).mp
  rw [hget, hget, h]

theorem toBitVec_crc_step (crc : UInt32) (byte : UInt8) :
    (crc32cEntry ((crc ^^^ byte.toUInt32) &&& 0xFF) ^^^ (crc >>> 8)).toBitVec =
      feed crcTable crc.toBitVec byte.toBitVec := by
  have hindex : (crc ^^^ byte.toUInt32) &&& 0xFF =
      UInt32.ofBitVec ((crc.toBitVec.setWidth 8 ^^^ byte.toBitVec).setWidth 32) := by
    apply UInt32.toBitVec_inj.mp
    have hmask : ((crc ^^^ byte.toUInt32) &&& 0xFF).toBitVec =
        (crc.toBitVec ^^^ byte.toBitVec.setWidth 32) &&& (BitVec.allOnes 8).setWidth 32 := rfl
    rw [hmask]
    ext i hi
    simp only [BitVec.getElem_and, BitVec.getElem_xor, BitVec.getElem_setWidth,
      BitVec.getLsbD_allOnes, BitVec.getLsbD_xor, BitVec.getLsbD_setWidth]
    by_cases hbyte : i < 8
    · simp [hbyte, hi]
    · have hclear := BitVec.getLsbD_of_ge byte.toBitVec i (by omega)
      simp [hbyte, hclear]
  rw [feed, crcTable, ← hindex]
  rfl

theorem toBitVec_crc_run (data : Bytes) (crc : UInt32) :
    (data.foldl (fun crc byte => crc32cEntry ((crc ^^^ byte.toUInt32) &&& 0xFF) ^^^ (crc >>> 8))
      crc).toBitVec = run crcTable crc.toBitVec (data.map UInt8.toBitVec) := by
  induction data generalizing crc with
  | nil => rfl
  | cons byte rest ih =>
    rw [List.foldl_cons, ih, toBitVec_crc_step]
    rfl

/-- Texts that differ in a burst of at most four bytes have different checksums. -/
theorem crc32c_burst {left right : Bytes} (hdiffer : DifferWithin 4 left right)
    (h : crc32c left = crc32c right) : left = right := by
  have hregister : run crcTable (~~~ 0#32) (left.map UInt8.toBitVec) =
      run crcTable (~~~ 0#32) (right.map UInt8.toBitVec) := by
    have hseed : (~~~ (0 : UInt32)).toBitVec = ~~~ 0#32 := rfl
    rw [← hseed, ← toBitVec_crc_run, ← toBitVec_crc_run]
    exact congrArg UInt32.toBitVec (UInt32.not_inj.mp h)
  have hwidth : 8 * 4 ≤ 32 := by decide
  have hbits := run_burst crcTable_separating (by decide) hwidth (hdiffer.map UInt8.toBitVec)
    hregister
  exact List.map_injective_iff.mpr (fun _ _ => UInt8.toBitVec_inj.mp) hbits

/-! What the checks of the container say of a file that passes them. -/

structure SealedFile (data : Bytes) (payloadLength : Nat) : Prop where
  size : data.length = kHeaderBytes + payloadLength + kTrailerBytes
  magic : (data.drop (kHeaderBytes + payloadLength)).take 4 = kTrailerMagic
  checksum : loadU32 (data.drop (kHeaderBytes + payloadLength)) 4 =
    (crc32c (data.take (kHeaderBytes + payloadLength))).toNat

theorem loadU64_lt (data : Bytes) (offset : Nat) : loadU64 data offset < 2 ^ 64 := by
  have hdecoded := LittleEndian.decode_lt ((data.drop offset).take 8)
  have hlength : ((data.drop offset).take 8).length ≤ 8 := List.length_take_le _ _
  have hpower : 256 ^ ((data.drop offset).take 8).length ≤ 256 ^ 8 :=
    Nat.pow_le_pow_right (by decide) hlength
  unfold loadU64 loadAt
  omega

theorem sealedFile_of_parseFile {data payload : Bytes} {maxPersistedBytes : UInt64}
    (hsmall : data.length < 2 ^ 64) (h : parseFile data maxPersistedBytes = .ok payload) :
    SealedFile data (loadU64 data 16) := by
  simp only [parseFile, failFileIf_bind_eq_ok, decide_eq_false_iff_not, ne_eq, not_not] at h
  obtain ⟨hminimum, -, -, -, -, -, hlonger, hshorter, hmagic, hchecksum, -⟩ := h
  have hpayload := loadU64_lt data 16
  simp only [kHeaderBytes, kTrailerBytes] at hminimum hlonger hshorter
  refine ⟨?_, hmagic, hchecksum⟩
  simp only [kHeaderBytes, kTrailerBytes]
  omega

/-- Four bytes are known from the number they encode. -/
theorem loadU32_injective {left right : Bytes} (hleft : left.length = 4) (hright : right.length = 4)
    (h : LittleEndian.decode left = LittleEndian.decode right) : left = right := by
  rw [← LittleEndian.encode_decode left, ← LittleEndian.encode_decode right, hleft, hright, h]

/-- What the checksum covers, the magic of the trailer and the checksum. -/
theorem SealedFile.ext {file data : Bytes} {payloadLength : Nat} (hfile : SealedFile file payloadLength)
    (hdata : SealedFile data payloadLength)
    (hcovered : file.take (kHeaderBytes + payloadLength) = data.take (kHeaderBytes + payloadLength))
    (hstored : file.drop (kHeaderBytes + payloadLength + 4) =
      data.drop (kHeaderBytes + payloadLength + 4)) : file = data := by
  rw [← List.take_append_drop (kHeaderBytes + payloadLength) file,
    ← List.take_append_drop (kHeaderBytes + payloadLength) data,
    ← List.take_append_drop 4 (file.drop _), ← List.take_append_drop 4 (data.drop _),
    List.drop_drop, List.drop_drop, hcovered, hfile.magic, hdata.magic, hstored]

theorem SealedFile.length_stored {data : Bytes} {payloadLength : Nat} (h : SealedFile data payloadLength) :
    (data.drop (kHeaderBytes + payloadLength + 4)).length = 4 := by
  have hsize := h.size
  simp only [kHeaderBytes, kTrailerBytes] at hsize
  simp only [List.length_drop, kHeaderBytes]
  omega

/-- The checksum that a sealed file holds is its last four bytes. -/
theorem SealedFile.decode_stored {data : Bytes} {payloadLength : Nat} (h : SealedFile data payloadLength) :
    LittleEndian.decode (data.drop (kHeaderBytes + payloadLength + 4)) =
      (crc32c (data.take (kHeaderBytes + payloadLength))).toNat := by
  rw [← h.checksum, loadU32, loadAt, List.drop_drop,
    List.take_of_length_le (Nat.le_of_eq h.length_stored)]

/-- A burst of at most four bytes does not lead from one sealed file to another: it spares
what the checksum covers, or the checksum. -/
theorem SealedFile.eq_of_differWithin {file data : Bytes} {payloadLength : Nat}
    (hfile : SealedFile file payloadLength) (hdata : SealedFile data payloadLength)
    (hdiffer : DifferWithin 4 file data) : file = data := by
  have hspared := hdiffer.prefix_or_suffix (kHeaderBytes + payloadLength)
    (kHeaderBytes + payloadLength + 4) (by omega)
  cases hspared with
  | inl hcovered =>
    apply hfile.ext hdata hcovered
    apply loadU32_injective hfile.length_stored hdata.length_stored
    rw [hfile.decode_stored, hdata.decode_stored, hcovered]
  | inr hstored =>
    have hchecksum : crc32c (file.take (kHeaderBytes + payloadLength)) =
        crc32c (data.take (kHeaderBytes + payloadLength)) := by
      apply UInt32.toNat_inj.mp
      rw [← hfile.decode_stored, ← hdata.decode_stored, hstored]
    exact hfile.ext hdata (crc32c_burst (hdiffer.take _) hchecksum) hstored

/-! Damage. -/

/-- A part of the file is left, something follows it, or a burst of at most four bytes
changed it. -/
inductive Damaged (file : Bytes) : Bytes → Prop
  | shortened {data : Bytes} : data <+: file → data ≠ file → Damaged file data
  | extended {data : Bytes} : file <+: data → data ≠ file → Damaged file data
  | altered {data : Bytes} : DifferWithin 4 file data → data ≠ file → Damaged file data

/-- Of two sealed files, neither continues the other. -/
theorem SealedFile.eq_of_prefix {front data : Bytes} (hfront : SealedFile front (loadU64 front 16))
    (hdata : SealedFile data (loadU64 data 16)) (h : front <+: data) : front = data := by
  have hsize := hfront.size
  simp only [kHeaderBytes, kTrailerBytes] at hsize
  have hfield : loadU64 front 16 = loadU64 data 16 := (loadAt_of_initial h (by omega)).symm
  apply h.eq_of_length
  rw [hfront.size, hdata.size, hfield]

/-- A sealed file stays sealed under no damage. -/
theorem SealedFile.not_damaged {file data : Bytes} (hfile : SealedFile file (loadU64 file 16))
    (hdata : SealedFile data (loadU64 data 16)) : ¬ Damaged file data := by
  intro hdamaged
  cases hdamaged with
  | shortened hfront hchanged => exact hchanged (hdata.eq_of_prefix hfile hfront)
  | extended hfront hchanged => exact hchanged (hfile.eq_of_prefix hdata hfront).symm
  | altered hdiffer hchanged =>
    have hlength : loadU64 data 16 = loadU64 file 16 := by
      have hsize := hdiffer.1
      rw [hfile.size, hdata.size] at hsize
      omega
    rw [hlength] at hdata
    exact hchanged (hfile.eq_of_differWithin hdata hdiffer).symm

/-! Files that a save has written. -/

theorem saveState_eq_ok {state : RackState} {limits : ResourceLimits}
    {options : PersistenceOptions} {bytes : Bytes} (h : saveState state limits options = .ok bytes) :
    ∃ payload, encodeStatePayload state = .ok payload ∧ bytes = encodeFile payload ∧
      payload.length ≤ (min options.maxBytes limits.maxPersistedBytes).toNat := by
  unfold saveState at h
  cases hpayload : encodeStatePayload state with
  | error error => simp [hpayload] at h
  | ok payload =>
    simp only [hpayload] at h
    split at h
    · cases h
    · rename_i hbound
      cases h
      exact ⟨payload, rfl, rfl, Nat.le_of_not_lt hbound⟩

theorem readFile_eq_ok {file : Option Bytes} {readable : Bool} {maxBytes : UInt64} {data : Bytes}
    (h : readFile file readable maxBytes = .ok data) :
    file = some data ∧ data.length ≤ maxBytes.toNat := by
  unfold readFile at h
  split at h
  · cases h
  · split at h
    · cases h
    · rename_i hbound
      split at h
      · cases h
      · cases h
        exact ⟨rfl, Nat.le_of_not_lt hbound⟩

theorem parsePath_eq_ok {file : Option Bytes} {readable : Bool} {maxPersistedBytes : UInt64}
    {payload : Bytes} (h : parsePath file readable maxPersistedBytes = .ok payload) :
    ∃ data, file = some data ∧ data.length ≤ maxPersistedBytes.toNat ∧
      parseFile data maxPersistedBytes = .ok payload := by
  unfold parsePath at h
  cases hread : readFile file readable maxPersistedBytes with
  | error failure => simp [hread, bind, Except.bind] at h
  | ok data =>
    simp only [hread, bind, Except.bind] at h
    obtain ⟨hfile, hlength⟩ := readFile_eq_ok hread
    exact ⟨data, hfile, hlength, h⟩

/-- A file is read back when the whole of it, header and trailer included, fits the limit. -/
theorem parsePath_encodeFile_iff (payload : Bytes) (maxPersistedBytes : UInt64) :
    parsePath (some (encodeFile payload)) true maxPersistedBytes = .ok payload ↔
      kHeaderBytes + payload.length + kTrailerBytes ≤ maxPersistedBytes.toNat := by
  have hmax := maxPersistedBytes.toNat_lt
  have hlength := length_encodeFile payload
  constructor
  · intro h
    obtain ⟨data, hfile, hbound, -⟩ := parsePath_eq_ok h
    cases hfile
    rwa [← hlength]
  · intro hfits
    have hread : readFile (some (encodeFile payload)) true maxPersistedBytes =
        .ok (encodeFile payload) := by
      have hwithin : ¬ maxPersistedBytes.toNat < (encodeFile payload).length := by omega
      simp [readFile, hwithin]
    simp only [kHeaderBytes, kTrailerBytes] at hfits
    simp only [parsePath, hread, bind, Except.bind]
    exact parseFile_encodeFile (by omega) (by omega)

/-- A saved file is read back, under the limits it was saved with, exactly when the limit
leaves room for the header and the trailer beside the payload. -/
theorem saved_file_read_iff {state : RackState} {limits : ResourceLimits}
    {options : PersistenceOptions} {payload bytes : Bytes}
    (hpayload : encodeStatePayload state = .ok payload)
    (hsaved : saveState state limits options = .ok bytes) (file : Option Bytes) :
    parsePath (writeFile file bytes options.atomicReplace .completed) true
        limits.maxPersistedBytes = .ok payload ↔
      kHeaderBytes + payload.length + kTrailerBytes ≤ limits.maxPersistedBytes.toNat := by
  obtain ⟨encoded, hencoded, rfl, -⟩ := saveState_eq_ok hsaved
  cases hpayload.symm.trans hencoded
  exact parsePath_encodeFile_iff payload limits.maxPersistedBytes

namespace Scenario

/-- The payload of a rack without any record takes all that these limits give it. -/
def tightLimits : ResourceLimits := { maxPersistedBytes := 123 }

theorem fresh_payload : ∃ payload,
    encodeStatePayload (RackState.fresh {}) = .ok payload ∧ payload.length = 123 := by
  obtain ⟨payload, hpayload, hlength⟩ := @ok_of_any _ _
    (encodeStatePayload (RackState.fresh {})) (·.length = 123) (by decide +kernel)
  exact ⟨payload, hpayload, of_decide_eq_true hlength⟩

end Scenario

theorem fresh_file_read : ∃ payload bytes,
    encodeStatePayload (RackState.fresh {}) = .ok payload ∧
      saveState (RackState.fresh {}) {} {} = .ok bytes ∧
      (parsePath (writeFile none bytes true .completed) true
          ({} : ResourceLimits).maxPersistedBytes = .ok payload ↔
        kHeaderBytes + payload.length + kTrailerBytes ≤
          ({} : ResourceLimits).maxPersistedBytes.toNat) := by
  obtain ⟨payload, hpayload, hlength⟩ := Scenario.fresh_payload
  have hlimits : payload.length ≤ ({} : ResourceLimits).maxPersistedBytes.toNat := by
    rw [hlength]
    decide
  have hsaved := saveState_ok hpayload hlimits (by omega)
  exact ⟨payload, _, hpayload, hsaved, saved_file_read_iff hpayload hsaved none⟩

/-- The save counts the payload and the load counts the file. -/
theorem tight_file_not_read :
    ¬ ∀ payload bytes,
      encodeStatePayload (RackState.fresh { limits := Scenario.tightLimits }) = .ok payload →
      saveState (RackState.fresh { limits := Scenario.tightLimits }) Scenario.tightLimits {} =
        .ok bytes →
      parsePath (writeFile none bytes true .completed) true
        Scenario.tightLimits.maxPersistedBytes = .ok payload := by
  intro h
  obtain ⟨payload, hpayload, hsize⟩ := @ok_of_any _ _
    (encodeStatePayload (RackState.fresh { limits := Scenario.tightLimits })) (·.length = 123)
    (by decide +kernel)
  have hlength : payload.length = 123 := of_decide_eq_true hsize
  have hlimits : payload.length ≤ Scenario.tightLimits.maxPersistedBytes.toNat := by
    rw [hlength]
    decide
  have hsaved := saveState_ok hpayload hlimits (by omega)
  have hread := (parsePath_encodeFile_iff payload Scenario.tightLimits.maxPersistedBytes).mp
    (h payload _ hpayload hsaved)
  rw [hlength] at hread
  exact absurd hread (by decide)

/-- Whatever became of a saved file that fits the limits it is read with, a damaged one is
not accepted. -/
theorem damaged_file_refused {state : RackState} {limits : ResourceLimits}
    {options : PersistenceOptions} {bytes data : Bytes} (reading : ResourceLimits)
    (hsaved : saveState state limits options = .ok bytes)
    (hfits : bytes.length ≤ reading.maxPersistedBytes.toNat) (hdamaged : Damaged bytes data)
    (readable : Bool) (payload : Bytes) :
    parsePath (some data) readable reading.maxPersistedBytes ≠ .ok payload := by
  intro h
  obtain ⟨encoded, -, rfl, -⟩ := saveState_eq_ok hsaved
  obtain ⟨damaged, hdata, hbound, hparsed⟩ := parsePath_eq_ok h
  cases hdata
  have hmax := reading.maxPersistedBytes.toNat_lt
  rw [length_encodeFile] at hfits
  have hintact := (parsePath_encodeFile_iff encoded reading.maxPersistedBytes).mpr hfits
  obtain ⟨original, hfile, horiginal, haccepted⟩ := parsePath_eq_ok hintact
  cases hfile
  have hsealed := sealedFile_of_parseFile (by omega) haccepted
  exact hsealed.not_damaged (sealedFile_of_parseFile (by omega) hparsed) hdamaged

theorem extended_file_refused : ∃ bytes, saveState (RackState.fresh {}) {} {} = .ok bytes ∧
    ∀ payload, parsePath (some (bytes ++ [0])) true
      ({} : ResourceLimits).maxPersistedBytes ≠ .ok payload := by
  obtain ⟨payload, hpayload, hlength⟩ := Scenario.fresh_payload
  have hfile : (encodeFile payload).length ≤ ({} : ResourceLimits).maxPersistedBytes.toNat := by
    rw [length_encodeFile, hlength]
    decide
  have hsaved : saveState (RackState.fresh {}) {} {} = .ok (encodeFile payload) := by
    apply saveState_ok hpayload _ (by omega)
    rw [length_encodeFile] at hfile
    omega
  exact ⟨_, hsaved, damaged_file_refused {} hsaved hfile
    (.extended (List.prefix_append _ _) (by simp)) true⟩

end RackFabric
