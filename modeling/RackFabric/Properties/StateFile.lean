import RackFabric.Model.Persistence

/-! The container of the state file gives back the payload it was built from. -/
namespace RackFabric

@[simp] theorem failFileIf_bind_eq_ok {α : Type} {check : Bool} {status : PersistenceStatus}
    {detail : String} {rest : Unit → Except (PersistenceStatus × Str) α} {value : α} :
    (failFileIf check status detail >>= rest) = .ok value ↔ check = false ∧ rest () = .ok value := by
  cases check <;> simp [failFileIf, bind, Except.bind]

/-- A number is loaded from where it was stored. -/
theorem loadAt_field {data : Bytes} {offset width value : Nat} (before after : Bytes)
    (hdata : data = before ++ (LittleEndian.encode width value ++ after))
    (hoffset : before.length = offset) (hvalue : value < 256 ^ width) :
    loadAt data offset width = value := by
  subst hdata hoffset
  have htake : (LittleEndian.encode width value ++ after).take width =
      LittleEndian.encode width value := by
    rw [List.take_append_of_le_length (by simp), List.take_of_length_le (by simp)]
  rw [loadAt, List.drop_left, htake, LittleEndian.decode_encode hvalue]

theorem loadAt_of_initial {header data : Bytes} (hinitial : header <+: data) {offset width : Nat}
    (hinside : offset + width ≤ header.length) :
    loadAt data offset width = loadAt header offset width := by
  obtain ⟨rest, rfl⟩ := hinitial
  rw [loadAt, loadAt, List.drop_append_of_le_length (by omega),
    List.take_append_of_le_length (by rw [List.length_drop]; omega)]

theorem length_fromHex_hash (payload : Bytes) : (fromHex (Sha256.hash payload)).length = 32 := by
  simp [Sha256.hash]

@[simp] theorem length_fileHeader (payload : Bytes) : (fileHeader payload).length = kHeaderBytes := by
  have hmagic : kFileMagic.length = 8 := by decide
  simp [fileHeader, kHeaderBytes, hmagic, length_fromHex_hash]

theorem length_encodeFile (payload : Bytes) :
    (encodeFile payload).length = kHeaderBytes + payload.length + kTrailerBytes := by
  have hmagic : kTrailerMagic.length = 4 := by decide
  simp [encodeFile, hmagic, kTrailerBytes]
  omega

/-- The fields of the header in order, and what comes after it. -/
theorem encodeFile_eq (payload : Bytes) :
    encodeFile payload =
      kFileMagic ++ (LittleEndian.encode 4 kPersistenceFormatVersion ++
        (LittleEndian.encode 4 0 ++ (LittleEndian.encode 8 payload.length ++
          (LittleEndian.encode 8 (crc32c payload).toNat ++ (LittleEndian.encode 8 0 ++
            (fromHex (Sha256.hash payload) ++ (payload ++ (kTrailerMagic ++
              LittleEndian.encode 4 (crc32c (fileHeader payload ++ payload)).toNat)))))))) := by
  simp [encodeFile, fileHeader]

theorem drop_header (payload : Bytes) :
    (encodeFile payload).drop kHeaderBytes = payload ++ (kTrailerMagic ++
      LittleEndian.encode 4 (crc32c (fileHeader payload ++ payload)).toNat) := by
  rw [encodeFile, List.append_assoc, List.append_assoc, List.drop_left' (length_fileHeader payload)]

theorem take_digest (payload : Bytes) :
    ((encodeFile payload).drop 40).take 32 = fromHex (Sha256.hash payload) := by
  have hmagic : kFileMagic.length = 8 := by decide
  have hdrop : (encodeFile payload).drop 40 =
      fromHex (Sha256.hash payload) ++ (encodeFile payload).drop kHeaderBytes := by
    rw [drop_header, encodeFile_eq]
    simp [List.drop_append, List.drop_eq_nil_of_le, hmagic]
  rw [hdrop, ← length_fromHex_hash payload, List.take_left]

/-- Saving and reading a payload gives it back. -/
theorem parseFile_encodeFile {payload : Bytes} {maxPersistedBytes : UInt64}
    (h : payload.length ≤ maxPersistedBytes.toNat) (hsmall : payload.length + 80 < 2 ^ 64) :
    parseFile (encodeFile payload) maxPersistedBytes = .ok payload := by
  have hmagic : kFileMagic.length = 8 := by decide
  have htrailer : kTrailerMagic.length = 4 := by decide
  have hlength : (encodeFile payload).length = 72 + payload.length + 8 :=
    length_encodeFile payload
  have hcrc := (crc32c payload).toNat_lt
  have hmagicField : (encodeFile payload).take 8 = kFileMagic := by
    rw [encodeFile_eq, ← hmagic, List.take_left]
  have hversion : loadU32 (encodeFile payload) 8 = kPersistenceFormatVersion :=
    loadAt_field kFileMagic _ (encodeFile_eq payload) hmagic (by decide)
  have hflags : loadU32 (encodeFile payload) 12 = 0 :=
    loadAt_field (kFileMagic ++ LittleEndian.encode 4 kPersistenceFormatVersion) _
      (by rw [encodeFile_eq, List.append_assoc]) (by simp [hmagic]) (by decide)
  have hpayloadLength : loadU64 (encodeFile payload) 16 = payload.length :=
    loadAt_field (kFileMagic ++ LittleEndian.encode 4 kPersistenceFormatVersion ++
      LittleEndian.encode 4 0) _ (by rw [encodeFile_eq, List.append_assoc, List.append_assoc])
      (by simp [hmagic]) (by omega)
  have hpayloadCrc : loadU64 (encodeFile payload) 24 = (crc32c payload).toNat :=
    loadAt_field (kFileMagic ++ LittleEndian.encode 4 kPersistenceFormatVersion ++
      LittleEndian.encode 4 0 ++ LittleEndian.encode 8 payload.length) _
      (by simp only [encodeFile_eq, List.append_assoc]; rfl) (by simp [hmagic]) (by omega)
  have hreserved : loadU64 (encodeFile payload) 32 = 0 :=
    loadAt_field (kFileMagic ++ LittleEndian.encode 4 kPersistenceFormatVersion ++
      LittleEndian.encode 4 0 ++ LittleEndian.encode 8 payload.length ++
      LittleEndian.encode 8 (crc32c payload).toNat) _
      (by simp only [encodeFile_eq, List.append_assoc]; rfl) (by simp [hmagic]) (by decide)
  have hpayload : ((encodeFile payload).drop kHeaderBytes).take payload.length = payload := by
    rw [drop_header, List.take_left]
  have htrailerField : (encodeFile payload).drop (kHeaderBytes + payload.length) =
      kTrailerMagic ++ LittleEndian.encode 4 (crc32c (fileHeader payload ++ payload)).toNat := by
    rw [← List.drop_drop, drop_header, List.drop_left]
  have htrailerCrc : loadU32 (kTrailerMagic ++
      LittleEndian.encode 4 (crc32c (fileHeader payload ++ payload)).toNat) 4 =
      (crc32c (fileHeader payload ++ payload)).toNat :=
    loadAt_field kTrailerMagic [] (by simp) htrailer (UInt32.toNat_lt _)
  have hcovered : (encodeFile payload).take (kHeaderBytes + payload.length) =
      fileHeader payload ++ payload := by
    rw [encodeFile, List.append_assoc _ kTrailerMagic, ← length_fileHeader payload,
      ← List.length_append, List.take_left]
  have hdigest : toHex (fromHex (Sha256.hash payload)) = Sha256.hash payload := by
    rw [Sha256.hash, fromHex_toHex]
  have hminimum : ¬ 72 + payload.length + 8 < 80 := by omega
  have hexpected : (72 + payload.length + 8) % 18446744073709551616 = 72 + payload.length + 8 :=
    Nat.mod_eq_of_lt (by omega)
  have hmagicTrailer : (kTrailerMagic ++
      LittleEndian.encode 4 (crc32c (fileHeader payload ++ payload)).toNat).take 4 =
      kTrailerMagic := by
    rw [← htrailer, List.take_left]
  simp only [parseFile, failFileIf_bind_eq_ok, hlength, hmagicField, hversion, hflags,
    hpayloadLength, hpayloadCrc, hreserved, hpayload, htrailerField, htrailerCrc, hcovered,
    take_digest, hdigest, hmagicTrailer]
  simp [kHeaderBytes, kTrailerBytes, hminimum, hexpected, h, pure, Except.pure]

theorem saveState_ok {state : RackState} {payload : Bytes} {limits : ResourceLimits}
    (hpayload : encodeStatePayload state = .ok payload)
    (hlimits : payload.length ≤ limits.maxPersistedBytes.toNat)
    (hbound : payload.length ≤ 512 * 1024 * 1024) :
    saveState state limits {} = .ok (encodeFile payload) := by
  have hmin : ¬ payload.length > (min (512 * 1024 * 1024) limits.maxPersistedBytes).toNat := by
    change ¬ payload.length > (if _ ≤ _ then _ else _ : UInt64).toNat
    split
    · exact Nat.not_lt.mpr hbound
    · exact Nat.not_lt.mpr hlimits
  simp only [saveState, hpayload]
  exact if_neg hmin

/-- What a save has written is read as the candidate that its payload holds. -/
theorem readCandidate_encodeFile {options : RackFabricOptions} {payload : Bytes}
    {decoded : RackState} (hsize : payload.length + 80 ≤ options.limits.maxPersistedBytes.toNat)
    (hdecoded : decodeStatePayload payload options.limits = .ok decoded) :
    readCandidate options (some (encodeFile payload)) true = .ok (adoptCandidate options decoded) := by
  have hmax := options.limits.maxPersistedBytes.toNat_lt
  have hlength : (encodeFile payload).length = 72 + payload.length + 8 :=
    length_encodeFile payload
  have hread : readFile (some (encodeFile payload)) true options.limits.maxPersistedBytes =
      .ok (encodeFile payload) := by
    have hfits : ¬ options.limits.maxPersistedBytes.toNat < (encodeFile payload).length := by omega
    simp [readFile, hfits]
  have hparsed : parseFile (encodeFile payload) options.limits.maxPersistedBytes = .ok payload :=
    parseFile_encodeFile (by omega) (by omega)
  simp only [readCandidate, hread, hparsed, hdecoded, bind, Except.bind, pure, Except.pure]

/-- A file that a save has written takes effect when its candidate passes the gate. -/
theorem loadState_encodeFile {options : RackFabricOptions} {now : Timestamp} {payload : Bytes}
    {decoded : RackState} {epoch : CoordinatorEpoch}
    (hsize : payload.length + 80 ≤ options.limits.maxPersistedBytes.toNat)
    (hdecoded : decodeStatePayload payload options.limits = .ok decoded)
    (hgate : ((adoptCandidate options decoded).checkInvariants now).ok = true)
    (hepoch : decoded.generations.coordinatorEpoch.advance = some epoch) :
    loadState options now (some (encodeFile payload)) true =
      .ok (applyRecoveryPolicy (adoptCandidate options decoded) epoch) := by
  have hnext : (adoptCandidate options decoded).generations.coordinatorEpoch.advance =
      some epoch := hepoch
  simp only [loadState, readCandidate_encodeFile hsize hdecoded, bind, Except.bind, hgate, hnext]
  rfl

end RackFabric
