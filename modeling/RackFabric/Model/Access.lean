import RackFabric.Library.Tracing
import RackFabric.Model.MessageCodec

/-! What the readers of the wire do besides yielding a value: how far their cursors move, and
how large the objects are that they build. -/
namespace RackFabric
open Enumeration ByteReader

inductive Access where
  | /-- The cursor moves over so many of the bytes that are left. -/
    advance (size left : Nat)
  | /-- A string is built. -/
    text (length : Nat)
  | /-- The bytes of a payload within the payload are copied. -/
    block (length : Nat)
  | /-- A loop appends at most so many elements, with so many bytes left to read them from. -/
    collection (count left : Nat)
  | /-- An integer is cast to an enumeration of so many values. -/
    choice (value declared : Nat)

namespace Access

/-- The cursor stays within the input, and what is built stays within the limits. -/
def Within (limits : ResourceLimits) : Access → Prop
  | advance size left => size ≤ left
  | text length => length ≤ limits.maxStringBytes
  | block length => length ≤ limits.maxPayloadBytes
  | collection count left => count ≤ limits.maxCollectionItems ∧ count ≤ left
  | choice value declared => value < declared

/-- A part that fails neither moves the cursor nor builds anything. -/
def ifOk {ε α : Type} (accesses : List Access) : Except ε α → List Access
  | .ok _ => accesses
  | .error _ => []

end Access

/-! The parts that the readers are put together from. -/

section Parts
variable {γ ε α : Type}

/-- An integer of so many bytes. -/
def fixedWidth (width : Nat) (error : ε) (ofNat : Nat → α) : Reader γ ε α := do
  return ofNat (LittleEndian.decode (← Reader.take width error))

/-- The rest of a string or of a block, once its length is read. -/
def bounded (limitsOf : γ → ResourceLimits) (maximum : ResourceLimits → Nat) (length : Nat)
    (tooLong truncated : ε) : Reader γ ε Bytes := do
  let limits ← fun config input => .ok (limitsOf config, input)
  if length > maximum limits then Reader.fail tooLong else Reader.take length truncated

/-- What the reader of the details and the reader of a payload have in common. -/
inductive CommonPart (limitsOf : γ → ResourceLimits) (config : γ) : Parts γ ε Access
  | number {α : Type} (width : Nat) (error : ε) (ofNat : Nat → α) (input : Bytes)
      (hwidth : width ≤ 8) :
      CommonPart limitsOf config α (fixedWidth width error ofNat) input
        (Access.ifOk [.advance width input.length] (fixedWidth width error ofNat config input))
        (fixedWidth width error ofNat config input)
  | text (length : Nat) (tooLong truncated : ε) (input : Bytes) :
      CommonPart limitsOf config Bytes
        (bounded limitsOf (·.maxStringBytes) length tooLong truncated) input
        (Access.ifOk [.text length, .advance length input.length]
          (bounded limitsOf (·.maxStringBytes) length tooLong truncated config input))
        (bounded limitsOf (·.maxStringBytes) length tooLong truncated config input)
  | choice {α : Type} [DecidableEq α] [Enum8 α] (value : Nat) (error : ε) (input : Bytes) :
      CommonPart limitsOf config α (Reader.orFail (ofNat? value) error) input
        (Access.ifOk [.choice value (Enum8.values : List α).length]
          ((Reader.orFail (ofNat? value) error : Reader γ ε α) config input))
        (Reader.orFail (ofNat? value) error config input)

end Parts

/-- The parts of the decoder of the details. -/
abbrev DetailPart (limits : ResourceLimits) : Parts ResourceLimits Str Access :=
  CommonPart id limits

/-- The rest of a collection size, once the number is read. -/
def boundedCount (count : Nat) : PayloadReader Nat := do
  let limits ← PayloadReader.limits
  let remaining ← Reader.remaining
  if count > limits.maxCollectionItems ∨ count > remaining then PayloadReader.malformed
  else return count

/-- The rest of the details, once their payload is read. -/
def wholeDetails (limits : ResourceLimits) (payload : Bytes) : PayloadReader MemberDetails :=
  match decodeDetails limits payload with
  | .ok (value, []) => return value
  | _ => PayloadReader.malformed

/-- The parts of a payload reader. The details are decoded within their own payload. -/
inductive PayloadPart (reading : PayloadReading) : Parts PayloadReading DecodeStatus Access
  | common {α : Type} {reader : PayloadReader α} {input : Bytes} {accesses : List Access}
      {outcome : Except DecodeStatus (α × Bytes)}
      (h : CommonPart PayloadReading.limits reading α reader input accesses outcome) :
      PayloadPart reading α reader input accesses outcome
  | flag (input : Bytes) :
      PayloadPart reading Bool PayloadReader.flag input
        (Access.ifOk [.advance 1 input.length] (PayloadReader.flag reading input))
        (PayloadReader.flag reading input)
  | block (length : Nat) (tooLong truncated : DecodeStatus) (input : Bytes) :
      PayloadPart reading Bytes
        (bounded PayloadReading.limits (·.maxPayloadBytes) length tooLong truncated) input
        (Access.ifOk [.block length, .advance length input.length]
          (bounded PayloadReading.limits (·.maxPayloadBytes) length tooLong truncated reading
            input))
        (bounded PayloadReading.limits (·.maxPayloadBytes) length tooLong truncated reading input)
  | collection (count : Nat) (input : Bytes) :
      PayloadPart reading Nat (boundedCount count) input
        (Access.ifOk [.collection count input.length] (boundedCount count reading input))
        (boundedCount count reading input)
  | details {payload input : Bytes} {accesses : List Access}
      {outcome : Except Str (MemberDetails × Bytes)}
      (h : Run (DetailPart reading.limits) reading.limits decodeDetails payload accesses outcome) :
      PayloadPart reading MemberDetails (wholeDetails reading.limits payload) input accesses
        (wholeDetails reading.limits payload reading input)

end RackFabric
