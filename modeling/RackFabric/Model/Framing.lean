import RackFabric.Model.Persistence
import RackFabric.Model.Protocol

/-! The decoder of frames. -/
namespace RackFabric
open Enumeration

/-- Why bytes are not decoded; the status `Ok` is a result. -/
inductive DecodeStatus where
  | badMagic | unsupportedVersion | unknownMessageType | oversizedFrame | truncatedFrame
  | checksumMismatch | reservedBitsSet | trailingGarbage | malformedPayload
deriving DecidableEq

/-- The source has no text for a malformed payload. -/
def DecodeStatus.toStr : DecodeStatus → Str
  | .badMagic => str "BAD_MAGIC"
  | .unsupportedVersion => str "UNSUPPORTED_VERSION"
  | .unknownMessageType => str "UNKNOWN_MESSAGE_TYPE"
  | .oversizedFrame => str "OVERSIZED_FRAME"
  | .truncatedFrame => str "TRUNCATED_FRAME"
  | .checksumMismatch => str "CHECKSUM_MISMATCH"
  | .reservedBitsSet => str "RESERVED_BITS_SET"
  | .trailingGarbage => str "TRAILING_GARBAGE"
  | .malformedPayload => str "TRUNCATED_FRAME"

structure DecodedFrame where
  frame : Frame
  /-- Number of bytes consumed from the input. -/
  consumed : Nat
deriving DecidableEq

/-- The status and its detail, or a frame. -/
abbrev DecodeResult := Except (DecodeStatus × Str) DecodedFrame

def messageTypeFromValue (value : Nat) : Option MessageType :=
  if 1 ≤ value ∧ value ≤ 22 then ofNat? value else none

def loadU16 (data : Bytes) (offset : Nat) : Nat := loadAt data offset 2

def failFrameIf (check : Bool) (status : DecodeStatus) (detail : String) :
    Except (DecodeStatus × Str) Unit :=
  if check then .error (status, str detail) else .ok ()

def decodeFrameBytes (data : Bytes) (limits : ResourceLimits) : DecodeResult := do
  failFrameIf (data.length < kFrameOverheadBytes) .truncatedFrame
    "buffer is shorter than the minimum frame length"
  failFrameIf (data.take 4 ≠ kFrameMagic) .badMagic "frame magic does not match"
  let version := UInt16.ofNat (loadU16 data 4)
  failFrameIf (version ≠ kProtocolVersion) .unsupportedVersion "unsupported protocol version"
  match messageTypeFromValue (loadU16 data 6) with
  | none => .error (.unknownMessageType, str "unknown message type")
  | some type => do
    let flags := UInt16.ofNat (loadU16 data 8)
    failFrameIf (flags &&& ~~~ Frame.responseFlag ≠ 0) .reservedBitsSet
      "reserved flag bits are set"
    failFrameIf (loadU16 data 10 ≠ 0) .reservedBitsSet "reserved header field is set"
    let payloadLength := loadU32 data 20
    failFrameIf (payloadLength > limits.maxPayloadBytes) .oversizedFrame
      "declared payload length exceeds the configured bound"
    let total := kFrameOverheadBytes + payloadLength
    failFrameIf (total > limits.maxFrameBytes) .oversizedFrame
      "declared frame length exceeds the configured bound"
    failFrameIf (data.length < total) .truncatedFrame
      "buffer is shorter than the declared frame length"
    failFrameIf
      (loadU32 data (kFrameHeaderBytes + payloadLength) ≠
        (crc32c (data.take (kFrameHeaderBytes + payloadLength))).toNat)
      .checksumMismatch "frame checksum does not match"
    return {
      frame :=
        { version, type, flags
          correlation := UInt64.ofNat (loadU64 data 12)
          payload := (data.drop kFrameHeaderBytes).take payloadLength }
      consumed := total }

/-- A null buffer has no bytes at all. -/
def decodeFrame (data : Option Bytes) (limits : ResourceLimits) : DecodeResult :=
  match data with
  | none => .error (.truncatedFrame, str "null buffer")
  | some data => decodeFrameBytes data limits

end RackFabric
