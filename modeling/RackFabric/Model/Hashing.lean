import RackFabric.Model.Crypto

/-! The incremental SHA-256 object: a buffer of one block, how far it is filled, and the
bits seen. -/
namespace RackFabric.Sha256

/-- A hash object between calls: a full buffer has been transformed. -/
structure Object where
  state : State := {}
  bitCount : UInt64 := 0
  buffer : Bytes := List.replicate 64 0
  bufferLength : Nat := 0
  length_buffer : buffer.length = 64 := by decide
  bufferLength_lt : bufferLength < 64 := by decide

namespace Object

/-- The bytes of the buffer that count. -/
def held (object : Object) : Bytes := object.buffer.take object.bufferLength

/-- The bytes one turn of the loop of `update` takes. -/
def take (object : Object) (data : Bytes) : Nat :=
  if data.length < 64 - object.bufferLength then data.length else 64 - object.bufferLength

theorem take_le (object : Object) (data : Bytes) :
    object.take data ≤ data.length ∧ object.bufferLength + object.take data ≤ 64 := by
  have hroom := object.bufferLength_lt
  unfold take
  split <;> omega

theorem take_pos (object : Object) {data : Bytes} (h : data ≠ []) : 0 < object.take data := by
  have hroom := object.bufferLength_lt
  have hdata := List.length_pos_iff.mpr h
  unfold take
  split <;> omega

/-- The buffer after `memcpy` behind the bytes it holds. -/
def filled (object : Object) (data : Bytes) : Bytes :=
  object.held ++ data.take (object.take data) ++
    object.buffer.drop (object.bufferLength + object.take data)

theorem length_filled (object : Object) (data : Bytes) : (object.filled data).length = 64 := by
  have hbuffer := object.length_buffer
  have htake := object.take_le data
  simp only [filled, held, List.length_append, List.length_take, List.length_drop]
  omega

/-- One turn of the loop: the full block is transformed and the buffer emptied. -/
def absorbTaken (object : Object) (data : Bytes) : Object :=
  if hfull : object.bufferLength + object.take data = 64 then
    { object with
      state := transform object.state (object.filled data)
      buffer := object.filled data, bufferLength := 0
      length_buffer := object.length_filled data, bufferLength_lt := by decide }
  else
    { object with
      buffer := object.filled data, bufferLength := object.bufferLength + object.take data
      length_buffer := object.length_filled data
      bufferLength_lt := Nat.lt_of_le_of_ne (object.take_le data).2 hfull }

/-- The loop of `update`. -/
def absorbAll (object : Object) (data : Bytes) : Object :=
  if data = [] then object
  else absorbAll (object.absorbTaken data) (data.drop (object.take data))
termination_by data.length
decreasing_by
  have htake := object.take_le data
  have hpos := object.take_pos (by assumption)
  simp only [List.length_drop]
  omega

def update (object : Object) (data : Bytes) : Object :=
  absorbAll { object with bitCount := object.bitCount + UInt64.ofNat data.length * 8 } data

/-- The padding loop of `finish`, as far as the fuel goes. -/
def padTo56 : Nat → Object → Option Object
  | 0, _ => none
  | fuel + 1, object =>
      if object.bufferLength = 56 then some object else padTo56 fuel (object.update [0x00])

/-- The bytes of a bit count, the most significant first. -/
def lengthBytes (bitCount : UInt64) : Bytes :=
  (List.range 8).map fun i => (bitCount >>> (UInt64.ofNat (7 - i) * 8) &&& 0xFF).toUInt8

def finish (fuel : Nat) (object : Object) : Option Str := do
  let padded ← padTo56 fuel (object.update [0x80])
  some (toHex (digestBytes (padded.update (lengthBytes object.bitCount)).state))

end Object
end RackFabric.Sha256
