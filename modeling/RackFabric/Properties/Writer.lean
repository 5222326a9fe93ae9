import RackFabric.Library.Execution
import RackFabric.Model.Writer
import RackFabric.Properties.Codec

/-! What the byte writer does with its bound. Blocks are checked against it, and single
bytes are not. -/
namespace RackFabric

def WriterCall.bytes (call : WriterCall) : Bytes := call.ops.flatMap WriteOp.bytes

/-- The operation writes a byte of its own first: a byte, a flag, or whether there is a
value. -/
def WriterCall.opensWithByte : WriterCall → Bool
  | .u8 _ | .boolean _ | .optionalString _ | .optionalDouble _ | .optionalU32 _
  | .optionalU64 _ | .optionalI64 _ => true
  | _ => false

namespace ByteWriter
variable {writer : ByteWriter}

def Within (writer : ByteWriter) : Prop := writer.buffer.length ≤ writer.maxBytes

@[simp] theorem buffer_fail (error : CodecError) : (writer.fail error).buffer = writer.buffer := by
  unfold fail
  cases writer.failure <;> rfl

@[simp] theorem maxBytes_fail (error : CodecError) :
    (writer.fail error).maxBytes = writer.maxBytes := by
  unfold fail
  cases writer.failure <;> rfl

theorem maxBytes_raw (bytes : Bytes) : (writer.raw bytes).maxBytes = writer.maxBytes := by
  unfold raw
  split
  · exact maxBytes_fail _
  · rfl

theorem Within.raw (h : writer.Within) (bytes : Bytes) : (writer.raw bytes).Within := by
  unfold ByteWriter.raw
  split
  · simpa [Within] using h
  · rename_i hroom
    simp only [Within, List.length_append]
    omega

theorem initial_raw (bytes : Bytes) : writer.buffer <+: (writer.raw bytes).buffer := by
  unfold raw
  split
  · rw [buffer_fail]
  · exact List.prefix_append _ _

theorem maxBytes_write (op : WriteOp) : (writer.write op).maxBytes = writer.maxBytes := by
  cases op with
  | u8 value => rfl
  | raw bytes => exact maxBytes_raw bytes
  | string value =>
    simp only [write]
    split
    · exact maxBytes_fail _
    · rw [maxBytes_raw, maxBytes_raw]
  | count value maximum =>
    simp only [write]
    split
    · exact maxBytes_fail _
    · exact maxBytes_raw _

/-- What is in the buffer stays there. -/
theorem initial_write (op : WriteOp) : writer.buffer <+: (writer.write op).buffer := by
  cases op with
  | u8 value => exact List.prefix_append _ _
  | raw bytes => exact initial_raw bytes
  | string value =>
    simp only [write]
    split
    · rw [buffer_fail]
    · exact (initial_raw _).trans (initial_raw _)
  | count value maximum =>
    simp only [write]
    split
    · rw [buffer_fail]
    · exact initial_raw _

theorem Within.write (h : writer.Within) {op : WriteOp} (hop : ∀ value, op ≠ .u8 value) :
    (writer.write op).Within := by
  cases op with
  | u8 value => exact absurd rfl (hop value)
  | raw bytes => exact h.raw bytes
  | string value =>
    simp only [ByteWriter.write]
    split
    · simpa [Within] using h
    · exact (h.raw _).raw _
  | count value maximum =>
    simp only [ByteWriter.write]
    split
    · simpa [Within] using h
    · exact h.raw _

theorem maxBytes_writeAll (ops : List WriteOp) :
    (writer.writeAll ops).maxBytes = writer.maxBytes := by
  induction ops generalizing writer with
  | nil => rfl
  | cons op ops ih => exact ih.trans (maxBytes_write op)

theorem initial_writeAll (ops : List WriteOp) :
    writer.buffer <+: (writer.writeAll ops).buffer := by
  induction ops generalizing writer with
  | nil => exact List.prefix_refl _
  | cons op ops ih => exact (initial_write op).trans ih

theorem Within.writeAll (h : writer.Within) {ops : List WriteOp}
    (hops : ∀ op ∈ ops, ∀ value, op ≠ .u8 value) : (writer.writeAll ops).Within := by
  induction ops generalizing writer with
  | nil => exact h
  | cons op ops ih =>
    obtain ⟨hop, hrest⟩ := List.forall_mem_cons.mp hops
    exact ih (h.write hop) hrest

end ByteWriter

namespace WriterCall

def Checked (ops : List WriteOp) : Prop := ∀ op ∈ ops, ∀ value, op ≠ WriteOp.u8 value

theorem optional_split {α : Type} {write : α → List WriteOp} (h : ∀ value, Checked (write value))
    (value : Option α) : ∃ checked byte, Checked checked ∧
      WriteOp.optional write value = .u8 byte :: checked := by
  cases value with
  | none => exact ⟨[], 0, fun _ hmem => absurd hmem List.not_mem_nil, rfl⟩
  | some value => exact ⟨write value, 1, h value, rfl⟩

theorem checked_block (bytes : Bytes) : Checked [.raw bytes] := by
  intro op hop value
  rw [List.mem_singleton.mp hop]
  exact WriteOp.noConfusion

/-- An operation writes at most one byte past the check, and writes it first. -/
theorem ops_split (call : WriterCall) :
    (call.opensWithByte = false ∧ Checked call.ops) ∨
      (call.opensWithByte = true ∧ ∃ checked byte, Checked checked ∧
        call.ops = .u8 byte :: checked) := by
  have hnone : Checked [] := fun _ hmem => absurd hmem List.not_mem_nil
  cases call with
  | u8 value => exact Or.inr ⟨rfl, [], value, hnone, rfl⟩
  | boolean value => exact Or.inr ⟨rfl, [], _, hnone, rfl⟩
  | optionalString value =>
    exact Or.inr ⟨rfl, optional_split (fun text => by simp [Checked]) value⟩
  | optionalDouble value => exact Or.inr ⟨rfl, optional_split (fun _ => checked_block _) value⟩
  | optionalU32 value => exact Or.inr ⟨rfl, optional_split (fun _ => checked_block _) value⟩
  | optionalU64 value => exact Or.inr ⟨rfl, optional_split (fun _ => checked_block _) value⟩
  | optionalI64 value => exact Or.inr ⟨rfl, optional_split (fun _ => checked_block _) value⟩
  | string value => exact Or.inl ⟨rfl, by simp [Checked, ops]⟩
  | count value => exact Or.inl ⟨rfl, by simp [Checked, ops]⟩
  | countWithin value maximum => exact Or.inl ⟨rfl, by simp [Checked, ops]⟩
  | _ => exact Or.inl ⟨rfl, checked_block _⟩

end WriterCall

namespace ByteWriter
variable {writer : ByteWriter}

/-- An operation keeps to the bound unless its byte finds the buffer full. -/
theorem within_call_iff (h : writer.Within) (call : WriterCall) :
    (writer.call call).Within ↔
      (call.opensWithByte = true → writer.buffer.length < writer.maxBytes) := by
  rcases call.ops_split with ⟨hopens, hchecked⟩ | ⟨hopens, checked, byte, hchecked, hops⟩
  · refine iff_of_true (h.writeAll hchecked) fun hbyte => ?_
    rw [hopens] at hbyte
    cases hbyte
  · have hcall : writer.call call = (writer.write (.u8 byte)).writeAll checked := by
      rw [ByteWriter.call, hops]
      rfl
    rw [hcall]
    constructor
    · intro hwithin _
      have hkept := (@initial_writeAll (writer.write (.u8 byte)) checked).length_le
      have hbuffer : (writer.write (.u8 byte)).buffer.length = writer.buffer.length + 1 := by
        simp [write]
      unfold Within at hwithin
      rw [maxBytes_writeAll, maxBytes_write] at hwithin
      omega
    · intro hroom
      have hwithin : (writer.write (.u8 byte)).Within := by
        have hlt := hroom hopens
        simp only [Within, write, List.length_append, List.length_singleton]
        omega
      exact hwithin.writeAll hchecked

theorem run_call_eq (calls : List WriterCall) :
    Execution.run call writer calls = writer.writeAll (calls.flatMap WriterCall.ops) := by
  induction calls generalizing writer with
  | nil => rfl
  | cons first calls ih =>
    rw [Execution.run_cons, ih, List.flatMap_cons]
    simp only [call, writeAll, List.foldl_append]

/-- The buffer is never longer than the bound, and a writer that is ok holds all that it was
given. -/
def Honest (writer : ByteWriter) (calls : List WriterCall) : Prop :=
  Execution.Always call Within writer calls ∧
    ((Execution.run call writer calls).failure = none →
      (Execution.run call writer calls).buffer = calls.flatMap WriterCall.bytes)

/-- A fresh writer keeps its promise exactly when no operation that opens with a byte
finds the buffer full. -/
theorem writer_honest_iff (limits : ResourceLimits) (maxBytes : Nat) (calls : List WriterCall) :
    Honest { limits, maxBytes } calls ↔
      Execution.EachStep call (fun writer next =>
        next.opensWithByte = true → writer.buffer.length < writer.maxBytes)
        { limits, maxBytes } calls := by
  have hstart : Within { limits, maxBytes } := Nat.zero_le maxBytes
  have hexact := Execution.always_iff_eachStep call (fun _ => True) (fun _ _ _ => trivial)
    (fun writer next _ (h : writer.Within) => within_call_iff h next) trivial hstart calls
  refine Iff.trans (and_iff_left fun hok => ?_) hexact
  rw [run_call_eq] at hok ⊢
  rw [(writeAll_ok _ hok).1, List.flatMap_assoc]
  rfl

end ByteWriter

namespace Scenario

/-- A number that fills the buffer, and a flag. -/
def fullThenFlag : List WriterCall := [.u64 7, .boolean true]

theorem flag_past_bound :
    (Execution.run ByteWriter.call { limits := {}, maxBytes := 8 } fullThenFlag).failure = none ∧
      ¬ ByteWriter.Honest { limits := {}, maxBytes := 8 } fullThenFlag := by
  refine ⟨by decide, fun h => ?_⟩
  have hbound := h.1 fullThenFlag (List.prefix_refl _)
  exact absurd hbound (by unfold ByteWriter.Within; decide)

end Scenario

end RackFabric
