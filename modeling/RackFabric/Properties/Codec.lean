import RackFabric.Library.Restoring
import RackFabric.Model.Authorize
import RackFabric.Model.Payload

/-! The decoders read back what the encoders write, and let through nothing
that they check. -/
namespace RackFabric
open Std Enumeration ByteReader

/-! The writer. -/

namespace WriteOp

def bytes : WriteOp → Bytes
  | .u8 value => [value]
  | .raw bytes => bytes
  | .string value => LittleEndian.encode 4 (value.length % 2 ^ 32) ++ value
  | .count value _ => LittleEndian.encode 4 value

/-- The bounds of the call, apart from the size of the whole payload. -/
def Fits (limits : ResourceLimits) : WriteOp → Prop
  | .string value => value.length ≤ limits.maxStringBytes
  | .count value maximum => value ≤ maximum limits ∧ value < 2 ^ 32
  | _ => True

end WriteOp

namespace ByteWriter
variable {writer : ByteWriter}

theorem fail_failure (error : CodecError) : (writer.fail error).failure ≠ none := by
  unfold fail
  cases h : writer.failure <;> simp [h]

@[simp] theorem fail_limits (error : CodecError) : (writer.fail error).limits = writer.limits := by
  unfold fail
  cases writer.failure <;> rfl

@[simp] theorem raw_limits (bytes : Bytes) : (writer.raw bytes).limits = writer.limits := by
  unfold raw
  split <;> simp

theorem raw_ok {bytes : Bytes} (h : (writer.raw bytes).failure = none) :
    writer.failure = none ∧ (writer.raw bytes).buffer = writer.buffer ++ bytes := by
  unfold raw at h ⊢
  split at h
  · exact absurd h (fail_failure _)
  · rename_i hfits
    rw [if_neg hfits]
    exact ⟨h, rfl⟩

theorem write_ok {op : WriteOp} (h : (writer.write op).failure = none) :
    writer.failure = none ∧ (writer.write op).buffer = writer.buffer ++ op.bytes ∧
      (writer.write op).limits = writer.limits ∧ op.Fits writer.limits := by
  cases op with
  | u8 value => exact ⟨h, rfl, rfl, trivial⟩
  | raw bytes => exact ⟨(raw_ok h).1, (raw_ok h).2, raw_limits bytes, trivial⟩
  | string value =>
    simp only [write] at h ⊢
    split at h
    · exact absurd h (fail_failure _)
    · rename_i hlong
      rw [if_neg hlong]
      obtain ⟨hlength, hbuffer⟩ := raw_ok h
      obtain ⟨hok, hinitial⟩ := raw_ok hlength
      exact ⟨hok, by rw [hbuffer, hinitial, List.append_assoc]; rfl, by simp,
        Nat.le_of_not_lt hlong⟩
  | count value maximum =>
    simp only [write] at h ⊢
    split at h
    · exact absurd h (fail_failure _)
    · rename_i hlarge
      rw [if_neg hlarge]
      obtain ⟨hok, hbuffer⟩ := raw_ok h
      exact ⟨hok, hbuffer, by simp, by simp only [WriteOp.Fits]; omega⟩

/-- A payload that has been written completely is the bytes of its calls, and
every call has met its bound. -/
theorem writeAll_ok (ops : List WriteOp) (h : (writer.writeAll ops).failure = none) :
    (writer.writeAll ops).buffer = writer.buffer ++ ops.flatMap WriteOp.bytes ∧
      ∀ op ∈ ops, op.Fits writer.limits := by
  suffices hall : writer.failure = none ∧
      (writer.writeAll ops).buffer = writer.buffer ++ ops.flatMap WriteOp.bytes ∧
      ∀ op ∈ ops, op.Fits writer.limits from hall.2
  induction ops generalizing writer with
  | nil => exact ⟨h, by simp [writeAll], by simp⟩
  | cons op ops ih =>
    obtain ⟨hnext, hbuffer, hfits⟩ := @ih (writer.write op) h
    obtain ⟨hok, hop, hlimits, hfit⟩ := write_ok hnext
    refine ⟨hok, ?_, List.forall_mem_cons.mpr ⟨hfit, fun other hmem => ?_⟩⟩
    · rw [List.flatMap_cons, ← List.append_assoc, ← hop]
      exact hbuffer
    · rw [← hlimits]
      exact hfits other hmem

theorem write_of_fits {op : WriteOp} (hfits : op.Fits writer.limits)
    (hroom : writer.buffer.length + op.bytes.length ≤ writer.maxBytes) :
    writer.write op = { writer with buffer := writer.buffer ++ op.bytes } := by
  have hraw : ∀ (start : ByteWriter) (bytes : Bytes),
      start.buffer.length + bytes.length ≤ start.maxBytes →
        start.raw bytes = { start with buffer := start.buffer ++ bytes } := by
    intro start bytes hbound
    unfold raw
    rw [if_neg (by omega)]
  cases op with
  | u8 value => rfl
  | raw bytes => exact hraw writer bytes hroom
  | string value =>
    simp only [WriteOp.bytes, List.length_append, LittleEndian.length_encode] at hroom
    simp only [WriteOp.Fits] at hfits
    simp only [write, if_neg (Nat.not_lt.mpr hfits)]
    rw [hraw writer _ (by simp; omega), hraw _ _ (by simp; omega)]
    simp [WriteOp.bytes]
  | count value maximum =>
    simp only [WriteOp.Fits] at hfits
    simp only [write, if_neg (show ¬ (value > maximum writer.limits ∨ value > 0xFFFFFFFF) by omega)]
    exact hraw writer _ hroom

/-- With room for all its bytes, a payload whose calls meet their bounds is written. -/
theorem writeAll_of_fits (ops : List WriteOp) (hfits : ∀ op ∈ ops, op.Fits writer.limits)
    (hroom : writer.buffer.length + (ops.flatMap WriteOp.bytes).length ≤ writer.maxBytes) :
    writer.writeAll ops = { writer with buffer := writer.buffer ++ ops.flatMap WriteOp.bytes } := by
  induction ops generalizing writer with
  | nil => simp [writeAll]
  | cons op ops ih =>
    simp only [List.flatMap_cons, List.length_append] at hroom
    obtain ⟨hop, hrest⟩ := List.forall_mem_cons.mp hfits
    have hwrite := write_of_fits hop (by omega)
    have hlater := @ih (writer.write op) (by rw [hwrite]; exact hrest)
      (by rw [hwrite]; simp only [List.length_append]; omega)
    change (writer.write op).writeAll ops = _
    rw [hlater, hwrite]
    simp

end ByteWriter

/-! Reading back. -/

/-- When its bounds are met, what these calls write is read back as the value. -/
def ReadsBack {α : Type} (limits : ResourceLimits) (read : Decoder α) (ops : List WriteOp)
    (value : α) : Prop :=
  (∀ op ∈ ops, op.Fits limits) → Reads limits read (ops.flatMap WriteOp.bytes) value

section Rules
variable {α β : Type} {limits : ResourceLimits} {read : Decoder α} {next : α → Decoder β}
  {ops ops' : List WriteOp} {value : α} {result : β}

theorem ReadsBack.pure (value : α) : ReadsBack limits (Pure.pure value : Decoder α) [] value :=
  Restores.pure value

theorem ReadsBack.append (hfirst : ReadsBack limits read ops value)
    (hnext : ReadsBack limits (next value) ops' result) :
    ReadsBack limits (read >>= next) (ops ++ ops') result :=
  Restores.append hfirst hnext

theorem ReadsBack.cons {op : WriteOp} (hfirst : ReadsBack limits read [op] value)
    (hnext : ReadsBack limits (next value) ops' result) :
    ReadsBack limits (read >>= next) (op :: ops') result :=
  Restores.cons hfirst hnext

/-- The last reader of a decoder. -/
theorem ReadsBack.map (f : α → β) (h : ReadsBack limits read ops value) :
    ReadsBack limits (do return f (← read)) ops (f value) :=
  Restores.map f h

theorem ReadsBack.then (hfirst : ReadsBack limits read ops value)
    (hnext : Reads limits (next value) [] result) : ReadsBack limits (read >>= next) ops result :=
  Restores.then hfirst hnext

theorem ReadsBack.of_reads {op : WriteOp} (h : Reads limits read op.bytes value) :
    ReadsBack limits read [op] value :=
  Restores.of_reads fun _ => h

end Rules

section Leaves
variable {limits : ResourceLimits}

theorem reads_take {bytes : Bytes} {size : Nat} (h : bytes.length = size) :
    Reads limits (Decoder.take size) bytes bytes := by
  subst h
  exact .take _ bytes

theorem reads_number {α : Type} (width : Nat) {value : Nat} (ofNat : Nat → α)
    (h : value < 256 ^ width) :
    Reads limits (do return ofNat (LittleEndian.decode (← Decoder.take width)))
      (LittleEndian.encode width value) (ofNat value) :=
  Reads.number CodecError.truncated.toStr ofNat h

theorem reads_u8 (value : UInt8) : Reads limits Decoder.u8 [value] value := by
  have hread : Reads limits Decoder.u8 (LittleEndian.encode 1 value.toNat)
      (UInt8.ofNat value.toNat) := reads_number 1 UInt8.ofNat value.toNat_lt
  simpa [LittleEndian.encode] using hread

theorem reads_u32 {value : Nat} (h : value < 2 ^ 32) :
    Reads limits Decoder.u32 (LittleEndian.encode 4 value) (UInt32.ofNat value) :=
  reads_number 4 UInt32.ofNat h

theorem reads_u64 (value : UInt64) :
    Reads limits Decoder.u64 (LittleEndian.encode 8 value.toNat) value := by
  have hread : Reads limits Decoder.u64 (LittleEndian.encode 8 value.toNat)
      (UInt64.ofNat value.toNat) := reads_number 8 UInt64.ofNat value.toNat_lt
  rwa [UInt64.ofNat_toNat] at hread

theorem readsBack_u32 (value : UInt32) : ReadsBack limits Decoder.u32 [.u32 value] value := by
  refine .of_reads ?_
  have hread : Reads limits Decoder.u32 (LittleEndian.encode 4 value.toNat)
      (UInt32.ofNat value.toNat) := reads_u32 value.toNat_lt
  rwa [UInt32.ofNat_toNat] at hread

theorem readsBack_u64 (value : UInt64) : ReadsBack limits Decoder.u64 [.u64 value] value :=
  .of_reads (reads_u64 value)

theorem readsBack_i64 (value : Int64) : ReadsBack limits Decoder.i64 [.i64 value] value :=
  (readsBack_u64 value.toUInt64).map UInt64.toInt64

theorem readsBack_f64 (value : Double) : ReadsBack limits Decoder.f64 [.f64 value] value :=
  (readsBack_u64 value.bits).map Double.mk

theorem readsBack_timestamp (value : Timestamp) :
    ReadsBack limits Decoder.timestamp [.timestamp value] value :=
  (readsBack_i64 value.unixMillis).map Timestamp.mk

theorem readsBack_generation {tag : GenerationTag} (value : Generation tag) :
    ReadsBack limits Decoder.generation [.generation value] value :=
  (readsBack_u64 value.value).map Generation.mk

theorem readsBack_enum {α : Type} [DecidableEq α] [Enum8 α] (value : α) :
    ReadsBack limits Decoder.enum8 [.enum value] value :=
  (ReadsBack.of_reads (reads_u8 (toUInt8 value))).then (.orFail _ (ofNat?_toUInt8 value))

/-- The value of evidence is written as raw memory. -/
theorem readsBack_scalar {α : Type} [DecidableEq α] [Enum8 α] (value : α) :
    ReadsBack limits Decoder.enum8 [.raw [toUInt8 value]] value :=
  (ReadsBack.of_reads (reads_u8 (toUInt8 value))).then (.orFail _ (ofNat?_toUInt8 value))

theorem readsBack_boolean (value : Bool) :
    ReadsBack limits Decoder.boolean [.boolean value] value := by
  refine (ReadsBack.of_reads (reads_u8 (if value then 1 else 0))).then ?_
  cases value <;> exact .pure _

theorem ttlIsValid_iff {ttl : Millis} : ttlIsValid ttl = true ↔ ¬ (ttl < 0 ∨ 86400000 < ttl) := by
  unfold ttlIsValid kMaxTtlMillis
  rw [not_or, Int64.not_lt, Int64.not_lt]
  exact decide_eq_true_iff

theorem readsBack_ttl {ttl : Millis} (h : ttlIsValid ttl = true) :
    ReadsBack limits Decoder.ttl [.i64 ttl] ttl := by
  refine (readsBack_i64 ttl).then ?_
  rw [if_neg (ttlIsValid_iff.mp h)]
  exact .pure ttl

theorem readsBack_string {text : Str} (h : text.length < 2 ^ 32) :
    ReadsBack limits Decoder.string [.string text] text := by
  intro hfits
  have hshort : text.length ≤ limits.maxStringBytes := hfits _ List.mem_cons_self
  have hlength : (UInt32.ofNat text.length).toNat = text.length :=
    UInt32.toNat_ofNat_of_lt h
  rw [List.flatMap_singleton, WriteOp.bytes, Nat.mod_eq_of_lt h]
  refine (reads_u32 h).bind ((Reads.ofConfig limits).bind ?_)
  rw [hlength, if_neg (Nat.not_lt.mpr hshort)]
  exact reads_take rfl

theorem readsBack_identity {tag : IdentityTag} {id : StrongId tag} (h : id.isSet = true) :
    ReadsBack limits Decoder.identity [.string id.value] id := by
  have hlength := id.length_value_le
  have hshort : id.value.length < 2 ^ 32 := by
    simp only [kMaxIdentityLength] at hlength
    omega
  refine (readsBack_string hshort).then (.orFail _ ?_)
  rw [StrongId.parse_value, if_pos h]

theorem readsBack_optional {α : Type} {read : Decoder α} {write : α → List WriteOp}
    {value : Option α} (h : ∀ found ∈ value, ReadsBack limits read (write found) found) :
    ReadsBack limits (Decoder.optional read) (WriteOp.optional write value) value := by
  cases value with
  | none => exact (readsBack_boolean false).then (.pure none)
  | some found => exact (readsBack_boolean true).cons ((h found rfl).map some)

theorem readsBack_optionalEnum {α : Type} [DecidableEq α] [Enum8 α] (value : Option α) :
    ReadsBack limits Decoder.optionalEnum (WriteOp.optionalEnum value) value := by
  refine readsBack_optional fun found _ => (readsBack_u32 _).then (.orFail _ ?_)
  simp

/-! Collections. Every element that is written takes up some of the input. -/

def Occupies (ops : List WriteOp) : Prop :=
  0 < (ops.flatMap WriteOp.bytes).length

theorem occupies_cons {op : WriteOp} (h : 0 < op.bytes.length) (ops : List WriteOp) :
    Occupies (op :: ops) := by
  unfold Occupies
  rw [List.flatMap_cons, List.length_append]
  omega

theorem occupies_string (value : Str) (ops : List WriteOp) : Occupies (.string value :: ops) :=
  occupies_cons
    (by simp only [WriteOp.bytes, List.length_append, LittleEndian.length_encode]; omega) ops

theorem occupies_enum {α : Type} [DecidableEq α] [Enum8 α] (value : α) (ops : List WriteOp) :
    Occupies (.enum value :: ops) :=
  occupies_cons (by simp [WriteOp.enum, WriteOp.bytes]) ops

/-- A count is read when as many bytes follow it. -/
theorem count_eq_ok {maximum : ResourceLimits → Nat} {value : Nat} {rest : Bytes}
    (hfits : (WriteOp.count value maximum).Fits limits) (hrest : value ≤ rest.length) :
    Decoder.count maximum limits (LittleEndian.encode 4 value ++ rest) = .ok (value, rest) := by
  obtain ⟨hmaximum, hsmall⟩ := hfits
  have hvalue : (UInt32.ofNat value).toNat = value := UInt32.toNat_ofNat_of_lt hsmall
  refine reader_bind_eq_ok.mpr ⟨_, rest, reads_u32 hsmall rest, ?_⟩
  refine reader_bind_eq_ok.mpr ⟨limits, rest, rfl, ?_⟩
  refine reader_bind_eq_ok.mpr ⟨rest.length, rest, rfl, ?_⟩
  rw [hvalue, if_neg (by omega)]
  rfl

theorem reads_counted {α β : Type} {maximum : ResourceLimits → Nat} {write : α → List WriteOp}
    {next : Nat → Decoder β} {values : List α} {result : β}
    (hnext : (∀ op ∈ values.flatMap write, op.Fits limits) →
      Reads limits (next values.length) ((values.flatMap write).flatMap WriteOp.bytes) result)
    (hoccupies : ∀ value ∈ values, Occupies (write value)) :
    ReadsBack limits (Decoder.count maximum >>= next)
      (WriteOp.count values.length maximum :: values.flatMap write) result := by
  intro hfits rest
  obtain ⟨hcount, hvalues⟩ := List.forall_mem_cons.mp hfits
  have hlength := length_le_of_written hoccupies
  rw [List.flatMap_cons, WriteOp.bytes, List.append_assoc]
  refine reader_bind_eq_ok.mpr ⟨values.length, _, count_eq_ok hcount ?_, hnext hvalues rest⟩
  rw [List.length_append]
  omega

theorem readsBack_many {α : Type} {maximum : ResourceLimits → Nat} {read : Decoder α}
    {write : α → List WriteOp} {values : List α}
    (h : ∀ value ∈ values, ReadsBack limits read (write value) value)
    (hoccupies : ∀ value ∈ values, Occupies (write value)) :
    ReadsBack limits (Decoder.many maximum read) (WriteOp.many maximum write values) values := by
  refine reads_counted (fun hfits => ?_) hoccupies
  rw [List.flatMap_assoc]
  refine .repeated values fun value hvalue => h value hvalue fun op hop => hfits op ?_
  exact List.mem_flatMap.mpr ⟨value, hvalue, hop⟩

section Tables
variable {κ ρ : Type} [Ord κ] [TransOrd κ] {read : Decoder ρ} {keyOf : ρ → κ} {write : ρ → List WriteOp}

def gather (keyOf : ρ → κ) (records : List ρ) (table : ExtTreeMap κ ρ) : ExtTreeMap κ ρ :=
  records.foldl (fun table record => table.insert (keyOf record) record) table

theorem gather_eq_insertMany {entries : List (κ × ρ)}
    (hkey : ∀ entry ∈ entries, keyOf entry.2 = entry.1) (table : ExtTreeMap κ ρ) :
    gather keyOf (entries.map Prod.snd) table = table.insertMany entries := by
  induction entries generalizing table with
  | nil => rfl
  | cons entry entries ih =>
    obtain ⟨hentry, hentries⟩ := List.forall_mem_cons.mp hkey
    rw [List.map_cons, gather, List.foldl_cons, hentry, ← gather, ih hentries]
    exact ExtTreeMap.insertMany_cons.symm

theorem reads_decodeDistinct {remaining : Nat} {table result : ExtTreeMap κ ρ} {record : ρ}
    {duplicate : String} {bytes bytes' : Bytes} (hrecord : Reads limits read bytes record)
    (hnew : keyOf record ∉ table)
    (hrest : Reads limits (decodeDistinct read keyOf duplicate remaining
      (table.insert (keyOf record) record)) bytes' result) :
    Reads limits (decodeDistinct read keyOf duplicate (remaining + 1) table) (bytes ++ bytes')
      result := by
  refine hrecord.bind ?_
  rw [if_neg (by rwa [ExtTreeMap.contains_iff_mem])]
  exact hrest

variable [LawfulEqOrd κ]

/-- A fill that reads the records in order gathers them, when no key repeats. -/
theorem reads_gathered {fill : Nat → ExtTreeMap κ ρ → Decoder (ExtTreeMap κ ρ)}
    (hnil : ∀ table, Reads limits (fill 0 table) [] table)
    (hcons : ∀ {remaining : Nat} {table result : ExtTreeMap κ ρ} {record : ρ} {bytes bytes' : Bytes},
      Reads limits read bytes record → keyOf record ∉ table →
      Reads limits (fill remaining (table.insert (keyOf record) record)) bytes' result →
      Reads limits (fill (remaining + 1) table) (bytes ++ bytes') result)
    {records : List ρ} {bytes : ρ → Bytes} (hnodup : (records.map keyOf).Nodup)
    (hread : ∀ record ∈ records, Reads limits read (bytes record) record)
    {table : ExtTreeMap κ ρ} (hnew : ∀ record ∈ records, keyOf record ∉ table) :
    Reads limits (fill records.length table) (records.flatMap bytes)
      (gather keyOf records table) := by
  induction records generalizing table with
  | nil => exact hnil table
  | cons record records ih =>
    obtain ⟨hrecord, hrecords⟩ := List.forall_mem_cons.mp hread
    obtain ⟨hfresh, hothers⟩ := List.forall_mem_cons.mp hnew
    obtain ⟨hnot, hdistinct⟩ := List.nodup_cons.mp hnodup
    refine hcons hrecord hfresh (ih hdistinct hrecords fun other hother hmem => ?_)
    rcases ExtTreeMap.mem_insert.mp hmem with heq | hold
    · exact hnot (LawfulEqCmp.compare_eq_iff_eq.mp heq ▸ List.mem_map_of_mem hother)
    · exact hothers other hother hold

variable [DecidableEq κ]

/-- Gathering the records of a table gives the table again. -/
theorem gather_records {table : ExtTreeMap κ ρ}
    (hkey : ∀ {key : κ} {record : ρ}, table[key]? = some record → keyOf record = key) :
    gather keyOf (table.toList.map Prod.snd) ∅ = table := by
  have hentries : ∀ entry ∈ table.toList, keyOf entry.2 = entry.1 := fun entry hmem =>
    hkey (ExtTreeMap.mem_toList_iff_getElem?_eq_some.mp hmem)
  rw [gather_eq_insertMany hentries, ← ExtTreeMap.ofList_eq_insertMany_empty]
  refine ExtTreeMap.ext_getElem? fun key => ?_
  cases hfound : table[key]? with
  | some record =>
    exact ExtTreeMap.getElem?_ofList_of_mem ReflCmp.compare_self ExtTreeMap.distinct_keys_toList
      (ExtTreeMap.mem_toList_iff_getElem?_eq_some.mpr hfound)
  | none =>
    apply ExtTreeMap.getElem?_ofList_of_contains_eq_false
    rw [ExtTreeMap.map_fst_toList_eq_keys, Bool.eq_false_iff, Ne, List.contains_iff_mem,
      ExtTreeMap.mem_keys, ExtTreeMap.mem_iff_isSome_getElem?, hfound]
    simp

theorem insertIfNew_eq_insert {table : ExtTreeMap κ ρ} {key : κ} (record : ρ) (h : key ∉ table) :
    table.insertIfNew key record = table.insert key record := by
  refine ExtTreeMap.ext_getElem? fun other => ?_
  rw [ExtTreeMap.getElem?_insertIfNew, ExtTreeMap.getElem?_insert]
  simp [h]

theorem reads_decodeFirst {remaining : Nat} {table result : ExtTreeMap κ ρ} {record : ρ}
    {bytes bytes' : Bytes} (hrecord : Reads limits read bytes record)
    (hnew : keyOf record ∉ table)
    (hrest : Reads limits (decodeFirst read keyOf remaining
      (table.insert (keyOf record) record)) bytes' result) :
    Reads limits (decodeFirst read keyOf (remaining + 1) table) (bytes ++ bytes') result := by
  refine hrecord.bind ?_
  rw [insertIfNew_eq_insert record hnew]
  exact hrest

/-- The table is read back when its records are, under the keys they were stored at. -/
theorem readsBack_table {maximum bound : ResourceLimits → Nat} {exceeded : String}
    {fill : Nat → ExtTreeMap κ ρ → Decoder (ExtTreeMap κ ρ)}
    (hnil : ∀ table, Reads limits (fill 0 table) [] table)
    (hcons : ∀ {remaining : Nat} {table result : ExtTreeMap κ ρ} {record : ρ} {bytes bytes' : Bytes},
      Reads limits read bytes record → keyOf record ∉ table →
      Reads limits (fill remaining (table.insert (keyOf record) record)) bytes' result →
      Reads limits (fill (remaining + 1) table) (bytes ++ bytes') result)
    {table : ExtTreeMap κ ρ}
    (hkey : ∀ {key : κ} {record : ρ}, table[key]? = some record → keyOf record = key)
    (hread : ∀ {key : κ} {record : ρ}, table[key]? = some record →
      ReadsBack limits read (write record) record)
    (hoccupies : ∀ record, Occupies (write record))
    (hbound : table.size ≤ maximum limits → table.size ≤ bound limits) :
    ReadsBack limits (decodeTable maximum bound exceeded fill) (encodeTable maximum write table)
      table := by
  intro hall
  have hcount : table.size ≤ bound limits := by
    obtain ⟨hmaximum, -⟩ := hall _ List.mem_cons_self
    exact hbound (by simpa using hmaximum)
  have hrecords : ∀ record ∈ table.toList.map Prod.snd,
      ReadsBack limits read (write record) record := by
    intro record hmem
    obtain ⟨entry, hentry, rfl⟩ := List.mem_map.mp hmem
    exact hread (ExtTreeMap.mem_toList_iff_getElem?_eq_some.mp hentry)
  have hkeys : (table.toList.map Prod.snd).map keyOf = table.keys := by
    rw [← ExtTreeMap.map_fst_toList_eq_keys, List.map_map]
    exact List.map_congr_left fun entry hentry =>
      hkey (ExtTreeMap.mem_toList_iff_getElem?_eq_some.mp hentry)
  have hlength : (table.toList.map Prod.snd).length = table.size := by simp
  have hnew : ∀ record ∈ table.toList.map Prod.snd, keyOf record ∉ (∅ : ExtTreeMap κ ρ) :=
    fun _ _ => ExtTreeMap.not_mem_empty
  have hfill : (∀ op ∈ (table.toList.map Prod.snd).flatMap write, op.Fits limits) →
      Reads limits (fill (table.toList.map Prod.snd).length ∅)
        (((table.toList.map Prod.snd).flatMap write).flatMap WriteOp.bytes) table := by
    intro hfits
    rw [List.flatMap_assoc]
    have hgathered := reads_gathered hnil hcons (hkeys ▸ ExtTreeMap.nodup_keys)
      (fun record hmem => hrecords record hmem fun op hop =>
        hfits op (List.mem_flatMap.mpr ⟨record, hmem, hop⟩)) hnew
    rwa [gather_records hkey] at hgathered
  refine reads_counted (fun hfits => (Reads.ofConfig limits).bind ?_)
    (fun record _ => hoccupies record) hall
  rw [← hlength] at hcount
  rw [if_neg (Nat.not_lt.mpr hcount)]
  exact hfill hfits

end Tables

/-! What the decoders let through. -/

theorem ensures_ttl : Ensures limits Decoder.ttl fun ttl => ttlIsValid ttl = true := by
  refine Ensures.skip fun ttl => ?_
  split
  · exact .fail _
  · rename_i hrange
    exact .pure (ttlIsValid_iff.mpr hrange)

theorem ensures_string : Ensures limits Decoder.string fun text => text.length < 2 ^ 32 := by
  refine Ensures.skip fun length => Ensures.skip fun limits => ?_
  split
  · exact .fail _
  · exact (Ensures.take _ _).mono fun text htext => htext ▸ length.toNat_lt

theorem ensures_parsed {tag : IdentityTag} (text : Str) :
    Ensures limits (Decoder.parsed text) fun id : StrongId tag => id.isSet = true :=
  .orFail fun _ hfound => (StrongId.eq_of_parse hfound).2

theorem ensures_identity {tag : IdentityTag} :
    Ensures limits Decoder.identity fun id : StrongId tag => id.isSet = true :=
  Ensures.skip fun text => ensures_parsed text

theorem ensures_optional {α : Type} {read : Decoder α} {property : α → Prop}
    (h : Ensures limits read property) :
    Ensures limits (Decoder.optional read) fun value => ∀ found ∈ value, property found := by
  refine Ensures.skip fun present => ?_
  split
  · refine h.bind fun found hfound => .pure ?_
    rintro other ⟨⟩
    exact hfound
  · refine .pure ?_
    rintro other ⟨⟩

theorem ensures_many {α : Type} {maximum : ResourceLimits → Nat} {read : Decoder α}
    {property : α → Prop} (h : Ensures limits read property) :
    Ensures limits (Decoder.many maximum read) fun values => ∀ value ∈ values, property value :=
  Ensures.skip fun count => .repeated h count

section Tables
variable {κ ρ : Type} [Ord κ] {read : Decoder ρ} {keyOf : ρ → κ} {property : ρ → Prop}

theorem ensures_table {maximum bound : ResourceLimits → Nat} {exceeded : String}
    {fill : Nat → ExtTreeMap κ ρ → Decoder (ExtTreeMap κ ρ)}
    {wanted : ExtTreeMap κ ρ → Prop}
    (h : ∀ count, count ≤ bound limits → Ensures limits (fill count ∅) wanted) :
    Ensures limits (decodeTable maximum bound exceeded fill) wanted := by
  refine Ensures.skip fun count => ?_
  refine Ensures.ofConfig.bind ?_
  rintro _ rfl
  split
  · exact .fail _
  · rename_i hbound
    exact h count (Nat.le_of_not_lt hbound)

variable [TransOrd κ]

def EachRecord (property : ρ → Prop) (table : ExtTreeMap κ ρ) : Prop :=
  ∀ (key : κ) (record : ρ), table[key]? = some record → property record

theorem EachRecord.empty : EachRecord property (∅ : ExtTreeMap κ ρ) := by
  intro key record hfound
  simp at hfound

theorem EachRecord.insert {table : ExtTreeMap κ ρ} (h : EachRecord property table) (key : κ)
    {record : ρ} (hrecord : property record) : EachRecord property (table.insert key record) := by
  intro other found hfound
  rw [ExtTreeMap.getElem?_insert] at hfound
  split at hfound
  · exact Option.some.inj hfound ▸ hrecord
  · exact h other found hfound

theorem EachRecord.insertIfNew {table : ExtTreeMap κ ρ} (h : EachRecord property table) (key : κ)
    {record : ρ} (hrecord : property record) :
    EachRecord property (table.insertIfNew key record) := by
  intro other found hfound
  rw [ExtTreeMap.getElem?_insertIfNew] at hfound
  split at hfound
  · exact Option.some.inj hfound ▸ hrecord
  · exact h other found hfound

theorem ensures_decodeDistinct {duplicate : String} (h : Ensures limits read property)
    (count : Nat) {table : ExtTreeMap κ ρ} (htable : EachRecord property table) :
    Ensures limits (decodeDistinct read keyOf duplicate count table) (EachRecord property) := by
  induction count generalizing table with
  | zero => exact .pure htable
  | succ count ih =>
    refine h.bind fun record hrecord => ?_
    split
    · exact .fail _
    · exact ih (htable.insert _ hrecord)

theorem ensures_decodeFirst (h : Ensures limits read property) (count : Nat)
    {table : ExtTreeMap κ ρ} (htable : EachRecord property table) :
    Ensures limits (decodeFirst read keyOf count table) fun result =>
      EachRecord property result ∧ result.size ≤ table.size + count := by
  induction count generalizing table with
  | zero => exact .pure ⟨htable, Nat.le_refl _⟩
  | succ count ih =>
    refine h.bind fun record hrecord => ?_
    refine (ih (htable.insertIfNew _ hrecord)).mono fun result hresult => ⟨hresult.1, ?_⟩
    have hsize : (table.insertIfNew (keyOf record) record).size ≤ table.size + 1 :=
      ExtTreeMap.size_insertIfNew_le
    omega

end Tables

end Leaves

end RackFabric
