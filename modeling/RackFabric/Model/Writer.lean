import RackFabric.Model.Codec

/-! The operations of the byte writer, as its callers see them. -/
namespace RackFabric

inductive WriterCall where
  | u8 (value : UInt8)
  | u16 (value : UInt16)
  | u32 (value : UInt32)
  | u64 (value : UInt64)
  | i64 (value : Int64)
  | f64 (value : Double)
  | boolean (value : Bool)
  | string (value : Str)
  | optionalString (value : Option Str)
  | optionalDouble (value : Option Double)
  | optionalU32 (value : Option UInt32)
  | optionalU64 (value : Option UInt64)
  | optionalI64 (value : Option Int64)
  | count (value : Nat)
  /-- A count with a limit of its own. -/
  | countWithin (value maximum : Nat)
  | timestamp (value : Timestamp)
  | ttl (value : Millis)
  | raw (bytes : Bytes)

namespace WriterCall

/-- What the operation does with the buffer, in order. -/
def ops : WriterCall → List WriteOp
  | u8 value => [.u8 value]
  | u16 value => [.raw (LittleEndian.encode 2 value.toNat)]
  | u32 value => [.u32 value]
  | u64 value => [.u64 value]
  | i64 value => [.i64 value]
  | f64 value => [.f64 value]
  | boolean value => [.boolean value]
  | string value => [.string value]
  | optionalString value => WriteOp.optionalString value
  | optionalDouble value => WriteOp.optionalDouble value
  | optionalU32 value => WriteOp.optionalU32 value
  | optionalU64 value => WriteOp.optionalU64 value
  | optionalI64 value => WriteOp.optional (fun value => [.i64 value]) value
  | count value => [.count value (·.maxCollectionItems)]
  | countWithin value maximum => [.count value fun _ => maximum]
  | timestamp value => [.timestamp value]
  | ttl value => [.i64 value]
  | raw bytes => [.raw bytes]

end WriterCall

def ByteWriter.call (writer : ByteWriter) (call : WriterCall) : ByteWriter :=
  writer.writeAll call.ops

end RackFabric
