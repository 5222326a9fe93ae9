import RackFabric.Model.Framing

/-! The receiving side of a connection, and the loop that serves its frames. -/
namespace RackFabric

/-- What the socket does next. -/
inductive SocketEvent where
  /-- Bytes can be read. -/
  | bytes (chunk : Bytes)
  /-- The call has waited for as long as it may. -/
  | timeout
  /-- The wait fails, or the peer has closed the connection. -/
  | failure (error : Str)
deriving DecidableEq

inductive Collected where
  | filled (buffer : Bytes) (events : List SocketEvent)
  | failed (error : Str) (events : List SocketEvent)
  | waiting

/-- Reads until the buffer has as many bytes as wanted. A read takes no more than
that; what it leaves is read later. -/
def collect (wanted : Nat) (received : Bytes) : List SocketEvent → Collected
  | [] => if received.length < wanted then .waiting else .filled received []
  | event :: events =>
      if wanted ≤ received.length then .filled received (event :: events)
      else
        match event with
        | .bytes chunk =>
            let missing := wanted - received.length
            if chunk.length ≤ missing then collect wanted (received ++ chunk) events
            else .filled (received ++ chunk.take missing) (.bytes (chunk.drop missing) :: events)
        | .timeout => .failed (str "receive timed out") events
        | .failure error => .failed error events

inductive Received where
  | frame (frame : Frame) (events : List SocketEvent)
  | failed (error : Str) (events : List SocketEvent)
  | waiting

/-- The bytes behind a header, as many as the header tells. -/
def receivePayload (limits : ResourceLimits) (header : Bytes) (events : List SocketEvent) :
    Received :=
  let payloadLength := loadU32 header 20
  if payloadLength > limits.maxPayloadBytes then
    .failed (str "declared payload length exceeds the configured bound") events
  else
    let total := kFrameOverheadBytes + payloadLength
    if total > limits.maxFrameBytes then
      .failed (str "declared frame length exceeds the configured bound") events
    else
      match collect total header events with
      | .waiting => .waiting
      | .failed error events => .failed error events
      | .filled buffer events =>
          match decodeFrame (some buffer) limits with
          | .error (status, _) => .failed (str "malformed frame: " ++ status.toStr) events
          | .ok decoded => .frame decoded.frame events

/-- One call of `receive`. What it has read is lost with the call. -/
def receive (limits : ResourceLimits) (events : List SocketEvent) : Received :=
  match collect kFrameHeaderBytes [] events with
  | .waiting => .waiting
  | .failed error events => .failed error events
  | .filled header events =>
      match decodeFrame (some header) limits with
      | .ok decoded => .frame decoded.frame events
      | .error (status, _) =>
          if status ≠ .truncatedFrame then
            .failed (str "malformed frame header: " ++ status.toStr) events
          else receivePayload limits header events

/-- The frames that the loop of `serve` takes up, on a session that has introduced
itself. A call that has timed out is made again; any other failure ends the session. -/
def serveLoop (limits : ResourceLimits) : Nat → List SocketEvent → List Frame
  | 0, _ => []
  | fuel + 1, events =>
      match receive limits events with
      | .waiting => []
      | .frame frame events => frame :: serveLoop limits fuel events
      | .failed error events =>
          if error = str "receive timed out" then serveLoop limits fuel events else []

/-- Every call takes a byte or an event away. -/
def SocketEvent.weight : SocketEvent → Nat
  | .bytes chunk => chunk.length + 1
  | .timeout | .failure _ => 1

def dispatched (limits : ResourceLimits) (events : List SocketEvent) : List Frame :=
  serveLoop limits ((events.map SocketEvent.weight).sum + 1) events

end RackFabric
