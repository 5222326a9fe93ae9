import RackFabric.Model.Inspection
import RackFabric.Model.Runtime

/-! The framed protocol: frames, the payloads that a client sends as they are
decoded, and the messages that the coordinator encodes. -/
namespace RackFabric
open Enumeration

def kVersionString : Str := str "1.0.0"

def kProtocolVersion : UInt16 := 1

def kFrameMagic : Bytes := str "RKF1"

def kFrameHeaderBytes : Nat := 24

def kFrameTrailerBytes : Nat := 4

def kFrameOverheadBytes : Nat := kFrameHeaderBytes + kFrameTrailerBytes

inductive MessageType where
  | invalid | hello | helloAck | register | registerAck | declareRack | publishNode
  | publishDevice | publishLink | publishFailureDomain | publishPower | publishCooling
  | publishHealth | publishCapability | withdraw | retireMember | revalidate | heartbeat
  | query | snapshotRequest | snapshotResponse | result | error
deriving DecidableEq

instance : Enum8 MessageType where
  values := [.invalid, .hello, .helloAck, .register, .registerAck, .declareRack, .publishNode,
    .publishDevice, .publishLink, .publishFailureDomain, .publishPower, .publishCooling,
    .publishHealth, .publishCapability, .withdraw, .retireMember, .revalidate, .heartbeat, .query,
    .snapshotRequest, .snapshotResponse, .result, .error]

inductive ProtocolError where
  | none | badMagic | unsupportedVersion | unknownMessageType | oversizedFrame | truncatedFrame
  | checksumMismatch | malformedPayload | trailingGarbage | invalidIdentity
  | collectionTooLarge | stringTooLong | notRegistered | staleCoordinatorEpoch
  | staleWorkerBoot | staleGeneration | notAuthorized | conflict | limitExceeded
  | unsupported | internal
deriving DecidableEq

instance : Enum8 ProtocolError where
  values := [.none, .badMagic, .unsupportedVersion, .unknownMessageType, .oversizedFrame,
    .truncatedFrame, .checksumMismatch, .malformedPayload, .trailingGarbage, .invalidIdentity,
    .collectionTooLarge, .stringTooLong, .notRegistered, .staleCoordinatorEpoch, .staleWorkerBoot,
    .staleGeneration, .notAuthorized, .conflict, .limitExceeded, .unsupported, .internal]

instance : Enum8 MutationOutcome where
  values := [.accepted, .noChange, .rejectStaleCoordinatorEpoch, .rejectStaleWorkerBoot,
    .rejectStaleGeneration, .rejectNotAuthorized, .rejectConflict, .rejectInvalidRelationship,
    .rejectUnknownParent, .rejectRetired, .revalidationRequired, .rejectInvalidInput,
    .rejectLimitExceeded, .rejectUnknownRack, .rejectNotRegistered, .rejectUnknownMember,
    .rejectRackRetired, .rejectUnsupported]

def ProtocolError.toStr : ProtocolError → Str
  | .none => str "NONE"
  | .badMagic => str "BAD_MAGIC"
  | .unsupportedVersion => str "UNSUPPORTED_VERSION"
  | .unknownMessageType => str "UNKNOWN_MESSAGE_TYPE"
  | .oversizedFrame => str "OVERSIZED_FRAME"
  | .truncatedFrame => str "TRUNCATED_FRAME"
  | .checksumMismatch => str "CHECKSUM_MISMATCH"
  | .malformedPayload => str "MALFORMED_PAYLOAD"
  | .trailingGarbage => str "TRAILING_GARBAGE"
  | .invalidIdentity => str "INVALID_IDENTITY"
  | .collectionTooLarge => str "COLLECTION_TOO_LARGE"
  | .stringTooLong => str "STRING_TOO_LONG"
  | .notRegistered => str "NOT_REGISTERED"
  | .staleCoordinatorEpoch => str "STALE_COORDINATOR_EPOCH"
  | .staleWorkerBoot => str "STALE_WORKER_BOOT"
  | .staleGeneration => str "STALE_GENERATION"
  | .notAuthorized => str "NOT_AUTHORIZED"
  | .conflict => str "CONFLICT"
  | .limitExceeded => str "LIMIT_EXCEEDED"
  | .unsupported => str "UNSUPPORTED"
  | .internal => str "INTERNAL"

structure Frame where
  version : UInt16 := kProtocolVersion
  type : MessageType := .invalid
  flags : UInt16 := 0
  correlation : UInt64 := 0
  payload : Bytes := []
deriving DecidableEq

def Frame.responseFlag : UInt16 := 1

/-- Nothing when the payload exceeds a bound. -/
def encodeFrame (frame : Frame) (limits : ResourceLimits) : Option Bytes :=
  if frame.payload.length > limits.maxPayloadBytes then none
  else if kFrameOverheadBytes + frame.payload.length > limits.maxFrameBytes then none
  else
    let covered := kFrameMagic ++ LittleEndian.encode 2 frame.version.toNat ++
      LittleEndian.encode 2 (toUInt8 frame.type).toNat ++ LittleEndian.encode 2 frame.flags.toNat ++
      LittleEndian.encode 2 0 ++ LittleEndian.encode 8 frame.correlation.toNat ++
      LittleEndian.encode 4 (frame.payload.length % 2 ^ 32) ++ frame.payload
    some (covered ++ LittleEndian.encode 4 (crc32c covered).toNat)

/-! Messages of a client. -/

structure HelloMessage where
  protocolVersion : UInt16 := kProtocolVersion
  coordinatorEpoch : CoordinatorEpoch := {}
  agentVersion : Str := []

structure RegisterMessage where
  rack : Option RackId := none
  worker : Option WorkerId := none
  boot : Option AgentBootId := none
  coordinatorEpoch : CoordinatorEpoch := {}
  label : Option Str := none

structure DeclareRackMessage where
  authority : AuthorityToken := {}
  epoch : RackEpochId
  label : Option Str := none
  redeclare : Bool := false

structure PublishMemberMessage where
  authority : AuthorityToken := {}
  record : MemberRecord := {}
  expectedGeneration : Option MemberGeneration := none
  supersede : Bool := false

structure PublishLinkMessage where
  authority : AuthorityToken := {}
  record : RelationshipRecord := {}
  expectedGeneration : Option TopologyGeneration := none
  supersede : Bool := false

structure PublishFailureDomainMessage where
  authority : AuthorityToken := {}
  record : FailureDomainRecord := {}
  expectedGeneration : Option FailureDomainGeneration := none
  supersede : Bool := false

structure PublishPowerMessage where
  authority : AuthorityToken := {}
  record : PowerEnvelopeRecord := {}
  expectedGeneration : Option PowerEnvelopeGeneration := none
  supersede : Bool := false

structure PublishCoolingMessage where
  authority : AuthorityToken := {}
  record : CoolingEnvelopeRecord := {}
  expectedGeneration : Option CoolingEnvelopeGeneration := none
  supersede : Bool := false

structure PublishHealthMessage where
  authority : AuthorityToken := {}
  member : MemberKey := {}
  health : EvidenceValue HealthState := {}
  readiness : EvidenceValue ReadinessState := {}
  publishReadiness : Bool := false
  expectedGeneration : Option MemberGeneration := none

structure PublishCapabilityMessage where
  authority : AuthorityToken := {}
  member : MemberKey := {}
  capability : CapabilityRef
  expectedGeneration : Option MemberGeneration := none

structure WithdrawMessage where
  authority : AuthorityToken := {}
  member : MemberKey := {}
  scope : WithdrawScope := .all
  expectedGeneration : Option MemberGeneration := none

structure RetireMemberMessage where
  authority : AuthorityToken := {}
  member : MemberKey := {}
  expectedGeneration : Option MemberGeneration := none

structure RevalidateMessage where
  authority : AuthorityToken := {}
  members : List MemberKey := []
  all : Bool := false

structure HeartbeatMessage where
  authority : AuthorityToken := {}
  publicationGeneration : PublicationGeneration := {}

structure QueryMessage where
  queryKind : UInt16 := 0
  member : Option MemberKey := none
  failureDomain : Option FailureDomainId := none

structure SnapshotRequestMessage where
  authority : AuthorityToken := {}
  create : Bool := true

/-- What the payload of a request decodes to. The coordinator decodes no other
type of message. -/
abbrev MessageType.Message : MessageType → Type
  | .hello => HelloMessage
  | .register => RegisterMessage
  | .declareRack => DeclareRackMessage
  | .publishNode | .publishDevice => PublishMemberMessage
  | .publishLink => PublishLinkMessage
  | .publishFailureDomain => PublishFailureDomainMessage
  | .publishPower => PublishPowerMessage
  | .publishCooling => PublishCoolingMessage
  | .publishHealth => PublishHealthMessage
  | .publishCapability => PublishCapabilityMessage
  | .withdraw => WithdrawMessage
  | .retireMember => RetireMemberMessage
  | .revalidate => RevalidateMessage
  | .heartbeat => HeartbeatMessage
  | .query => QueryMessage
  | .snapshotRequest => SnapshotRequestMessage
  | _ => Empty

/-- A frame that the coordinator receives, with its payload decoded. -/
structure Request where
  type : MessageType
  isResponse : Bool := false
  correlation : UInt64 := 0
  /-- Nothing when the decoder of the type refuses the payload. -/
  message : Option type.Message

/-! Messages of the coordinator. -/

structure HelloAckMessage where
  protocolVersion : UInt16 := kProtocolVersion
  coordinatorEpoch : CoordinatorEpoch := {}
  coordinatorVersion : Str := []
  rack : Option RackId := none
  acceptsMutations : Bool := true
deriving DecidableEq

structure RegisterAckMessage where
  accepted : Bool := false
  coordinatorEpoch : CoordinatorEpoch := {}
  generations : GenerationSet := {}
  publicationGeneration : PublicationGeneration := {}
deriving DecidableEq

structure ResultMessage where
  accepted : Bool := false
  outcome : MutationOutcome := .rejectInvalidInput
  generations : GenerationSet := {}
  code : Str := []
  detail : Str := []
deriving DecidableEq

structure ErrorMessage where
  error : ProtocolError := .none
  detail : Str := []
deriving DecidableEq

inductive Reply where
  | helloAck (message : HelloAckMessage)
  | registerAck (message : RegisterAckMessage)
  | result (message : ResultMessage)
  | error (message : ErrorMessage)
  | snapshotResponse (snapshot : RackSnapshot)
deriving DecidableEq

def Reply.type : Reply → MessageType
  | .helloAck _ => .helloAck
  | .registerAck _ => .registerAck
  | .result _ => .result
  | .error _ => .error
  | .snapshotResponse _ => .snapshotResponse

/-- One call to the payload writer. -/
inductive PayloadOp where
  | raw (bytes : Bytes)
  | string (value : Str)
  /-- A byte string after its length, from the writer's `bytes`. -/
  | sized (bytes : Bytes)
  | collectionSize (count : Nat)

structure PayloadWriter where
  limits : ResourceLimits
  buffer : Bytes := []
  ok : Bool := true

namespace PayloadWriter

/-- A writer that has failed takes no more bytes. -/
def write (writer : PayloadWriter) (op : PayloadOp) : PayloadWriter :=
  if !writer.ok then writer
  else match op with
    | .raw bytes => { writer with buffer := writer.buffer ++ bytes }
    | .string value =>
        if value.length > writer.limits.maxStringBytes then { writer with ok := false }
        else
          { writer with
            buffer := writer.buffer ++
              (LittleEndian.encode 4 (value.length % 2 ^ 32) ++ value) }
    | .sized bytes =>
        if bytes.length > writer.limits.maxPayloadBytes then { writer with ok := false }
        else
          { writer with
            buffer := writer.buffer ++
              (LittleEndian.encode 4 (bytes.length % 2 ^ 32) ++ bytes) }
    | .collectionSize count =>
        if count > writer.limits.maxCollectionItems then { writer with ok := false }
        else
          { writer with buffer := writer.buffer ++ LittleEndian.encode 4 (count % 2 ^ 32) }

def encode (limits : ResourceLimits) (ops : List PayloadOp) : Option Bytes :=
  let written := ops.foldl write { limits := limits }
  if written.ok then some written.buffer else none

end PayloadWriter

namespace PayloadOp

def u8 (value : UInt8) : PayloadOp := raw [value]

def u16 (value : UInt16) : PayloadOp := raw (LittleEndian.encode 2 value.toNat)

def u64 (value : UInt64) : PayloadOp := raw (LittleEndian.encode 8 value.toNat)

def boolean (value : Bool) : PayloadOp := u8 (if value then 1 else 0)

def enum16 {α : Type} [DecidableEq α] [Enum8 α] (value : α) : PayloadOp :=
  u16 (toUInt8 value).toUInt16

def generation {tag : GenerationTag} (value : Generation tag) : PayloadOp := u64 value.value

def optionalString : Option Str → List PayloadOp
  | none => [u8 0]
  | some value => [u8 1, string value]

end PayloadOp

open PayloadOp

def writeGenerationSet (value : GenerationSet) : List PayloadOp :=
  [generation value.rack, generation value.membership, generation value.topology,
    generation value.failureDomains, generation value.constraints, generation value.power,
    generation value.cooling, generation value.health, generation value.capabilities,
    generation value.coordinatorEpoch]

def HelloAckMessage.encode (message : HelloAckMessage) : List PayloadOp :=
  [u16 message.protocolVersion, generation message.coordinatorEpoch,
    string message.coordinatorVersion] ++
    optionalString (message.rack.map (·.value)) ++ [boolean message.acceptsMutations]

def RegisterAckMessage.encode (message : RegisterAckMessage) : List PayloadOp :=
  [boolean message.accepted, generation message.coordinatorEpoch] ++
    writeGenerationSet message.generations ++ [generation message.publicationGeneration]

def ResultMessage.encode (message : ResultMessage) : List PayloadOp :=
  [boolean message.accepted, enum16 message.outcome] ++
    writeGenerationSet message.generations ++ [string message.code, string message.detail]

def ErrorMessage.encode (message : ErrorMessage) : List PayloadOp :=
  [enum16 message.error, string message.detail]

/-- The snapshot is summarized by its digest; its records are not part. -/
def encodeSnapshotPayload (snapshot : RackSnapshot) (limits : ResourceLimits) : Option Bytes :=
  let writer : ByteWriter := { limits := limits, maxBytes := limits.maxPayloadBytes }
  let written := writer.writeAll <|
    [.string snapshot.id.value, .generation snapshot.generation,
      .generation snapshot.publicationGeneration, .timestamp snapshot.createdAt,
      .string snapshot.rack.value, .string snapshot.rackEpoch.value] ++
    encodeGenerationSet snapshot.generations ++
    [.u8 (toUInt8 snapshot.lifecycle), .string snapshot.digest]
  if written.failure.isNone then some written.buffer else none

def Reply.encode (limits : ResourceLimits) : Reply → Option Bytes
  | .helloAck message => PayloadWriter.encode limits message.encode
  | .registerAck message => PayloadWriter.encode limits message.encode
  | .result message => PayloadWriter.encode limits message.encode
  | .error message => PayloadWriter.encode limits message.encode
  | .snapshotResponse snapshot => encodeSnapshotPayload snapshot limits

/-- A frame of the coordinator, with what its payload encodes. -/
structure Response where
  correlation : UInt64
  reply : Reply
deriving DecidableEq

/-- The bytes that are sent, when every bound holds. -/
def Response.encode (limits : ResourceLimits) (response : Response) : Option Bytes :=
  (response.reply.encode limits).bind fun payload =>
    encodeFrame
      { type := response.reply.type, flags := Frame.responseFlag
        correlation := response.correlation, payload := payload } limits

end RackFabric
