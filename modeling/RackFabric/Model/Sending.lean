import RackFabric.Model.MessageCodec
import RackFabric.Model.Transport
import RackFabric.Model.Wire

/-! The sending side of a connection, and the requests that frames carry. -/
namespace RackFabric

/-- What the socket does next with the bytes of a call. -/
inductive SendEvent where
  /-- It takes one byte and as many more, as far as there are any. -/
  | written (more : Nat)
  | timeout
  /-- The wait or the write fails. -/
  | failure (error : Str)
deriving DecidableEq

inductive SendOutcome where
  | sent
  | failed (error : Str)
  | waiting
deriving DecidableEq

/-- The bytes that come to the wire, and how the call ends. -/
structure Sending where
  wire : Bytes := []
  outcome : SendOutcome
deriving DecidableEq

/-- Writes until all of the bytes have been taken. -/
def transmit (bytes : Bytes) : List SendEvent → Sending
  | [] => { outcome := if bytes.isEmpty then .sent else .waiting }
  | event :: events =>
      if bytes.isEmpty then { outcome := .sent }
      else
        match event with
        | .written more =>
            let rest := transmit (bytes.drop (more + 1)) events
            { rest with wire := bytes.take (more + 1) ++ rest.wire }
        | .timeout => { outcome := .failed (str "send timed out") }
        | .failure error => { outcome := .failed error }

/-- One call of `send`. -/
def sendFrame (limits : ResourceLimits) (frame : Frame) (events : List SendEvent) : Sending :=
  match encodeFrame frame limits with
  | none => { outcome := .failed (str "frame exceeds the configured bound") }
  | some bytes => transmit bytes events

/-! Requests in frames. -/

def Frame.isResponse (frame : Frame) : Bool :=
  frame.flags &&& Frame.responseFlag ≠ 0

/-- The codec of the messages of one type. -/
structure Coding (α : Type) where
  kind : PayloadKind
  same : kind.Message = α

namespace Coding
variable {α : Type}

def encode (coding : Coding α) (limits : ResourceLimits) (message : α) : Option Bytes :=
  coding.kind.encode limits (cast coding.same.symm message)

def decode (coding : Coding α) (limits : ResourceLimits) (payload : Bytes) : Option α :=
  (coding.kind.decode limits payload).toOption.map (cast coding.same)

def identities (coding : Coding α) (message : α) : List Str :=
  coding.kind.identities (cast coding.same.symm message)

def carried (coding : Coding α) (message : α) : α :=
  cast coding.same (coding.kind.carried (cast coding.same.symm message))

end Coding

/-- What the coordinator decodes the payload of a request with. -/
def MessageType.coding : (type : MessageType) → Option (Coding type.Message)
  | .hello => some ⟨.hello, rfl⟩
  | .register => some ⟨.register, rfl⟩
  | .declareRack => some ⟨.declareRack, rfl⟩
  | .publishNode => some ⟨.publishMember, rfl⟩
  | .publishDevice => some ⟨.publishMember, rfl⟩
  | .publishLink => some ⟨.publishLink, rfl⟩
  | .publishFailureDomain => some ⟨.publishFailureDomain, rfl⟩
  | .publishPower => some ⟨.publishPower, rfl⟩
  | .publishCooling => some ⟨.publishCooling, rfl⟩
  | .publishHealth => some ⟨.publishHealth, rfl⟩
  | .publishCapability => some ⟨.publishCapability, rfl⟩
  | .withdraw => some ⟨.withdraw, rfl⟩
  | .retireMember => some ⟨.retireMember, rfl⟩
  | .revalidate => some ⟨.revalidate, rfl⟩
  | .heartbeat => some ⟨.heartbeat, rfl⟩
  | .query => some ⟨.query, rfl⟩
  | .snapshotRequest => some ⟨.snapshotRequest, rfl⟩
  | _ => none

/-- The request that the coordinator makes of a frame. -/
def Frame.request (limits : ResourceLimits) (frame : Frame) : Request where
  type := frame.type
  isResponse := frame.isResponse
  correlation := frame.correlation
  message := frame.type.coding.bind fun coding => coding.decode limits frame.payload

/-- The frame in which a client sends a request. -/
def Request.frame (limits : ResourceLimits) (request : Request) : Option Frame := do
  let coding ← request.type.coding
  let message ← request.message
  let payload ← coding.encode limits message
  return { type := request.type, correlation := request.correlation, payload := payload }

/-- A request that cannot be encoded is not sent. -/
def sendRequest (limits : ResourceLimits) (request : Request) (events : List SendEvent) :
    Sending :=
  match request.frame limits with
  | none => { outcome := .failed (str "the message exceeds the configured bound") }
  | some frame => sendFrame limits frame events

/-- The request as it comes to the coordinator. -/
def Request.carried (request : Request) : Request :=
  { request with
    message := request.type.coding.bind fun coding => request.message.map coding.carried }

end RackFabric
