import RackFabric.Properties.DetailCodec

/-! The payload writer and the payload reader, call by call. -/
namespace RackFabric
open Enumeration ByteReader

/-! The payload writer. -/

namespace PayloadOp

def bytes : PayloadOp → Bytes
  | raw bytes => bytes
  | string value => LittleEndian.encode 4 (value.length % 2 ^ 32) ++ value
  | sized bytes => LittleEndian.encode 4 (bytes.length % 2 ^ 32) ++ bytes
  | collectionSize count => LittleEndian.encode 4 (count % 2 ^ 32)

def Fits (limits : ResourceLimits) : PayloadOp → Prop
  | raw _ => True
  | string value => value.length ≤ limits.maxStringBytes
  | sized bytes => bytes.length ≤ limits.maxPayloadBytes
  | collectionSize count => count ≤ limits.maxCollectionItems

/-! A value of a fixed width is written as its bytes. -/

@[simp] theorem u8_eq (value : UInt8) : u8 value = raw [value] := rfl

@[simp] theorem u16_eq (value : UInt16) : u16 value = raw (LittleEndian.encode 2 value.toNat) := rfl

@[simp] theorem u64_eq (value : UInt64) : u64 value = raw (LittleEndian.encode 8 value.toNat) := rfl

@[simp] theorem boolean_eq (value : Bool) : boolean value = raw [if value then 1 else 0] := rfl

@[simp] theorem enum16_eq {α : Type} [DecidableEq α] [Enum8 α] (value : α) :
    enum16 value = raw (LittleEndian.encode 2 (toUInt8 value).toUInt16.toNat) := rfl

@[simp] theorem generation_eq {tag : GenerationTag} (value : Generation tag) :
    generation value = raw (LittleEndian.encode 8 value.value.toNat) := rfl

@[simp] theorem fits_raw (limits : ResourceLimits) (bytes : Bytes) : (raw bytes).Fits limits :=
  trivial

@[simp] theorem fits_string (limits : ResourceLimits) (value : Str) :
    (string value).Fits limits ↔ value.length ≤ limits.maxStringBytes := Iff.rfl

@[simp] theorem length_bytes_raw (bytes : Bytes) : (raw bytes).bytes.length = bytes.length := rfl

@[simp] theorem length_bytes_string (value : Str) :
    (string value).bytes.length = 4 + value.length := by
  simp [bytes]

end PayloadOp

namespace PayloadWriter
variable {writer : PayloadWriter} {limits : ResourceLimits}

theorem write_of_failed (h : writer.ok = false) (op : PayloadOp) : writer.write op = writer := by
  simp [write, h]

theorem write_of_fits {op : PayloadOp} (h : writer.ok = true) (hfits : op.Fits writer.limits) :
    writer.write op = { writer with buffer := writer.buffer ++ op.bytes } := by
  cases op with
  | raw bytes => simp [write, h, PayloadOp.bytes]
  | string value => simp [write, h, PayloadOp.bytes, Nat.not_lt.mpr hfits]
  | sized bytes => simp [write, h, PayloadOp.bytes, Nat.not_lt.mpr hfits]
  | collectionSize count => simp [write, h, PayloadOp.bytes, Nat.not_lt.mpr hfits]

theorem write_of_not_fits {op : PayloadOp} (hfits : ¬ op.Fits writer.limits) :
    (writer.write op).ok = false := by
  cases op with
  | raw bytes => exact absurd trivial hfits
  | string value =>
    have hlong : writer.limits.maxStringBytes < value.length := Nat.lt_of_not_le hfits
    cases h : writer.ok <;> simp [write, h, hlong]
  | sized bytes =>
    have hlong : writer.limits.maxPayloadBytes < bytes.length := Nat.lt_of_not_le hfits
    cases h : writer.ok <;> simp [write, h, hlong]
  | collectionSize count =>
    have hmany : writer.limits.maxCollectionItems < count := Nat.lt_of_not_le hfits
    cases h : writer.ok <;> simp [write, h, hmany]

theorem foldl_write_of_failed (h : writer.ok = false) (ops : List PayloadOp) :
    ops.foldl write writer = writer := by
  induction ops with
  | nil => rfl
  | cons op ops ih => rw [List.foldl_cons, write_of_failed h, ih]

theorem foldl_write_of_fits {ops : List PayloadOp} (h : writer.ok = true)
    (hfits : ∀ op ∈ ops, op.Fits writer.limits) :
    ops.foldl write writer =
      { writer with buffer := writer.buffer ++ ops.flatMap PayloadOp.bytes } := by
  induction ops generalizing writer with
  | nil => simp
  | cons op ops ih =>
    obtain ⟨hop, hrest⟩ := List.forall_mem_cons.mp hfits
    rw [List.foldl_cons, write_of_fits h hop]
    rw [@ih { writer with buffer := writer.buffer ++ op.bytes } h hrest]
    simp

theorem foldl_write_of_not_fits {ops : List PayloadOp}
    (hfits : ¬ ∀ op ∈ ops, op.Fits writer.limits) : (ops.foldl write writer).ok = false := by
  induction ops generalizing writer with
  | nil => exact absurd (by simp) hfits
  | cons op ops ih =>
    rw [List.foldl_cons]
    by_cases hop : op.Fits writer.limits
    · cases h : writer.ok with
      | false => rw [write_of_failed h, foldl_write_of_failed h, h]
      | true =>
        rw [write_of_fits h hop]
        refine @ih { writer with buffer := writer.buffer ++ op.bytes } fun hrest => hfits ?_
        exact List.forall_mem_cons.mpr ⟨hop, hrest⟩
    · have hfailed := write_of_not_fits hop
      rw [foldl_write_of_failed hfailed, hfailed]

/-- A payload is its calls, one after the other, when every string fits. -/
theorem encode_of_fits {ops : List PayloadOp} (hfits : ∀ op ∈ ops, op.Fits limits) :
    encode limits ops = some (ops.flatMap PayloadOp.bytes) := by
  unfold encode
  rw [@foldl_write_of_fits { limits := limits } ops rfl hfits]
  rfl

theorem encode_of_not_fits {ops : List PayloadOp} (hfits : ¬ ∀ op ∈ ops, op.Fits limits) :
    encode limits ops = none := by
  unfold encode
  simp [@foldl_write_of_not_fits { limits := limits } ops hfits]

end PayloadWriter

/-! The payload reader. -/

namespace PayloadReader

/-- The decoders as they are, beside decoders whose presence bytes are zero or one. -/
def rewriting (limits : ResourceLimits) : Rewriting PayloadReading PayloadOp where
  lenient := { limits := limits }
  strict := { limits := limits, binaryFlags := true }
  spell := PayloadOp.bytes
  fits := PayloadOp.Fits limits

section Leaves
variable {limits : ResourceLimits} {α : Type} {read : PayloadReader α}
  {write : α → List PayloadOp}

theorem writes_u8 : Writes (rewriting limits) PayloadReader.u8 fun value => [.u8 value] := by
  refine Rewrites.number UInt8.ofNat (fun value hvalue => ?_) fun value => trivial
  have hbyte : value % 256 = value := Nat.mod_eq_of_lt hvalue
  simp [rewriting, PayloadOp.bytes, LittleEndian.encode, hbyte]

theorem writes_u16 : Writes (rewriting limits) PayloadReader.u16 fun value => [.u16 value] := by
  refine Rewrites.number UInt16.ofNat (fun value hvalue => ?_) fun value => trivial
  have hnumber : (UInt16.ofNat value).toNat = value := UInt16.toNat_ofNat_of_lt hvalue
  simp only [rewriting, PayloadOp.u16_eq, PayloadOp.bytes, hnumber]

/-- The writer has calls of its own for what the lengths are written before. -/
theorem writes_u32 : Writes (rewriting limits) PayloadReader.u32
    fun value => [.raw (LittleEndian.encode 4 value.toNat)] := by
  refine Rewrites.number UInt32.ofNat (fun value hvalue => ?_) fun value => trivial
  have hnumber : (UInt32.ofNat value).toNat = value := UInt32.toNat_ofNat_of_lt hvalue
  simp only [rewriting, PayloadOp.bytes, hnumber]

theorem writes_u64 : Writes (rewriting limits) PayloadReader.u64 fun value => [.u64 value] := by
  refine Rewrites.number UInt64.ofNat (fun value hvalue => ?_) fun value => trivial
  have hnumber : (UInt64.ofNat value).toNat = value := UInt64.toNat_ofNat_of_lt hvalue
  simp only [rewriting, PayloadOp.u64_eq, PayloadOp.bytes, hnumber]

theorem writes_i64 : Writes (rewriting limits) PayloadReader.i64 fun value => [.i64 value] :=
  writes_u64.map UInt64.toInt64 fun value => by simp [PayloadOp.i64]

theorem writes_f64 : Writes (rewriting limits) PayloadReader.f64 fun value => [.f64 value] :=
  writes_u64.map Double.mk fun _ => rfl

theorem writes_generation {tag : GenerationTag} :
    Writes (rewriting limits) PayloadReader.generation
      fun value : Generation tag => [.generation value] :=
  writes_u64.map Generation.mk fun _ => rfl

theorem writes_boolean :
    Writes (rewriting limits) PayloadReader.boolean fun value => [.boolean value] := by
  refine writes_u8.field fun value => ?_
  split
  · exact .fail _
  · rename_i hflag
    refine .pure ?_
    simp [← eq_flag_iff.mpr hflag]

theorem flag_eq_ok {reading : PayloadReading} {input rest : Bytes} {present : Bool} :
    PayloadReader.flag reading input = .ok (present, rest) ↔
      ∃ value, PayloadReader.u8 reading input = .ok (value, rest) ∧
        ¬ (reading.binaryFlags = true ∧ value > 1) ∧ decide (value = 1) = present := by
  unfold PayloadReader.flag
  cases PayloadReader.u8 reading input with
  | error status => simp
  | ok found =>
    obtain ⟨value, middle⟩ := found
    simp only [Except.ok.injEq, Prod.mk.injEq]
    split
    · rename_i hrefused
      constructor
      · intro h
        cases h
      · rintro ⟨_, ⟨rfl, -⟩, haccepted, -⟩
        exact absurd hrefused haccepted
    · rename_i haccepted
      simp only [Except.ok.injEq, Prod.mk.injEq]
      constructor
      · rintro ⟨hpresent, hrest⟩
        exact ⟨value, ⟨rfl, hrest⟩, haccepted, hpresent⟩
      · rintro ⟨_, ⟨rfl, hrest⟩, -, hpresent⟩
        exact ⟨hpresent, hrest⟩

/-- The presence bytes are where the two configurations differ. -/
theorem writes_flag :
    Writes (rewriting limits) PayloadReader.flag fun value => [.boolean value] where
  taken {input present rest} hread := by
    obtain ⟨value, hvalue, -, rfl⟩ := flag_eq_ok.mp hread
    obtain ⟨bytes, calls, rfl, rfl, -, -, hiff⟩ := writes_u8.taken hvalue
    have hbytes : bytes = [value] := hiff.mp hvalue
    subst hbytes
    refine ⟨[value], _, rfl, rfl, by simp [rewriting], rfl, ?_⟩
    have hspelled : [PayloadOp.boolean (decide (value = 1))].flatMap (rewriting limits).spell =
        [if value = 1 then 1 else 0] := by
      simp [rewriting, PayloadOp.bytes]
    rw [hspelled, flag_eq_ok, List.cons.injEq, eq_flag_iff]
    constructor
    · rintro ⟨other, hother, hflag, -⟩
      have hsame := hother.symm.trans hvalue
      obtain ⟨rfl, -⟩ := Prod.mk.inj (Except.ok.inj hsame)
      exact ⟨fun h => hflag ⟨rfl, h⟩, rfl⟩
    · intro h
      exact ⟨value, hvalue, fun hflag => h.1 hflag.2, rfl⟩
  narrower {input result} hread := by
    obtain ⟨value, hvalue, -, hpresent⟩ := flag_eq_ok.mp hread
    exact flag_eq_ok.mpr ⟨value, hvalue, fun hflag => Bool.false_ne_true hflag.1, hpresent⟩

theorem writes_optional (h : Writes (rewriting limits) read write) :
    Writes (rewriting limits) (PayloadReader.optional read) (PayloadOp.optional write) := by
  refine writes_flag.field fun present => ?_
  cases present with
  | false => exact .pure rfl
  | true => exact h.field fun value => .pure (by simp [PayloadOp.optional])

/-- A length and as many bytes are one call to the writer. -/
theorem writes_lengthPrefixed {maximum : ResourceLimits → Nat} {error : DecodeStatus}
    {call : Bytes → PayloadOp}
    (hbytes : ∀ text, (call text).bytes = LittleEndian.encode 4 (text.length % 2 ^ 32) ++ text)
    (hfits : ∀ text, text.length ≤ maximum limits → (call text).Fits limits) :
    Writes (rewriting limits) (do
      let length ← PayloadReader.u32
      let limits ← PayloadReader.limits
      if length.toNat > maximum limits then Reader.fail error else PayloadReader.take length.toNat)
      fun text => [call text] := by
  have hread : Rewrites (rewriting limits) (do
      let length ← PayloadReader.u32
      let limits ← PayloadReader.limits
      if length.toNat > maximum limits then Reader.fail error else PayloadReader.take length.toNat)
      fun calls text => calls = [.raw (LittleEndian.encode 4 text.length), .raw text] ∧
        text.length ≤ maximum limits ∧ text.length < 2 ^ 32 := by
    refine writes_u32.field fun length => .ofConfig PayloadReading.limits rfl ?_
    split
    · exact .fail _
    · rename_i hlong
      refine .take fun text htext => ⟨[.raw text], by simp [rewriting, PayloadOp.bytes], ?_, ?_⟩
      · rw [htext]
        exact ⟨rfl, Nat.le_of_not_lt hlong, length.toNat_lt⟩
      · simp [rewriting]
  refine hread.respell fun calls text htext => ⟨_, rfl, ?_, ?_⟩
  · obtain ⟨rfl, -, hshort⟩ := htext
    simp only [List.flatMap_cons, List.flatMap_nil, List.append_nil, rewriting, hbytes,
      Nat.mod_eq_of_lt hshort]
    rfl
  · simpa [rewriting] using hfits text htext.2.1

theorem writes_string :
    Writes (rewriting limits) PayloadReader.string fun text => [.string text] :=
  writes_lengthPrefixed (fun _ => rfl) fun _ h => h

theorem writes_bytes : Writes (rewriting limits) PayloadReader.bytes fun bytes => [.sized bytes] :=
  writes_lengthPrefixed (fun _ => rfl) fun _ h => h

theorem writes_optionalString :
    Writes (rewriting limits) PayloadReader.optionalString PayloadOp.optionalString := by
  refine writes_boolean.field fun present => ?_
  cases present with
  | false => exact .pure rfl
  | true => exact writes_string.field fun text => .pure (by simp [PayloadOp.optionalString])

theorem writes_enum8 [DecidableEq α] [Enum8 α] :
    Writes (rewriting limits) (PayloadReader.enum8 : PayloadReader α)
      fun value => [.enum8 value] := by
  refine writes_u8.field fun value => .orFail fun found hfound => ?_
  have hbyte : toUInt8 found = value := UInt8.toNat_inj.mp (toNat_toUInt8_of_ofNat? hfound)
  simp [PayloadOp.enum8, hbyte]

theorem writes_enum16 [DecidableEq α] [Enum8 α] :
    Writes (rewriting limits) (PayloadReader.enum16 : PayloadReader α)
      fun value => [.enum16 value] := by
  refine writes_u16.field fun value => .orFail fun found hfound => ?_
  have hnumber : (toUInt8 found).toUInt16 = value := by
    rw [← UInt16.toNat_inj, UInt8.toNat_toUInt16]
    exact toNat_toUInt8_of_ofNat? hfound
  simp [hnumber]

theorem writes_collectionSize : Rewrites (rewriting limits) PayloadReader.collectionSize
    fun calls count => calls = [.collectionSize count] := by
  have hread : Rewrites (rewriting limits) PayloadReader.collectionSize fun calls count =>
      calls = [.raw (LittleEndian.encode 4 count)] ∧ count ≤ limits.maxCollectionItems ∧
        count < 2 ^ 32 := by
    refine writes_u32.field fun count => .ofConfig PayloadReading.limits rfl ?_
    refine Rewrites.remaining.bind fun calls remaining hcalls => ?_
    subst hcalls
    split
    · exact .fail _
    · rename_i hlarge
      have hcount : count.toNat ≤ limits.maxCollectionItems :=
        Nat.le_of_not_lt fun h => hlarge (.inl h)
      exact .pure ⟨rfl, hcount, count.toNat_lt⟩
  refine hread.respell fun calls count hcount => ⟨_, rfl, ?_, ?_⟩
  · obtain ⟨rfl, -, hsmall⟩ := hcount
    simp only [List.flatMap_cons, List.flatMap_nil, List.append_nil, rewriting, PayloadOp.bytes,
      Nat.mod_eq_of_lt hsmall]
  · simpa [rewriting, PayloadOp.Fits] using hcount.2.1

theorem writes_many (h : Writes (rewriting limits) read write) :
    Writes (rewriting limits) (PayloadReader.many read) (PayloadOp.many write) := by
  refine writes_collectionSize.field fun count => ?_
  refine (h.repeated count).mono fun calls values hvalues => ?_
  obtain ⟨rfl, rfl⟩ := hvalues
  rfl

theorem writes_early {written : List PayloadOp → α → Prop}
    (h : Rewrites (rewriting limits) read written) :
    Rewrites (rewriting limits) (PayloadReader.early read) written := by
  refine h.withError fun reading input result => ?_
  unfold PayloadReader.early
  cases read reading input with
  | error status => simp
  | ok found => simp

theorem writes_optionalId {tag : IdentityTag} :
    Writes (rewriting limits) PayloadReader.optionalId
      (PayloadOp.optionalId : Option (StrongId tag) → List PayloadOp) := by
  refine writes_optionalString.field fun text => ?_
  cases text with
  | none => exact .pure rfl
  | some text =>
    refine Rewrites.bind (.orFail fun id hid => ?_) fun calls id hid => .pure hid
    simp [PayloadOp.optionalId, (StrongId.eq_of_parse hid).1]

theorem writes_optionalGeneration {tag : GenerationTag} :
    Writes (rewriting limits) (PayloadReader.optional PayloadReader.generation)
      (PayloadOp.optionalGeneration : Option (Generation tag) → List PayloadOp) :=
  writes_optional writes_generation

end Leaves

end PayloadReader

end RackFabric
