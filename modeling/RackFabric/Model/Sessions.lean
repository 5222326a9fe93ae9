import Mathlib.Logic.Function.Basic
import RackFabric.Model.Coordinator

/-! The connections of a coordinator. A session reads the fabric when it admits
a frame and calls it later, and other sessions run in between. -/
namespace RackFabric

inductive Connection where
  | closed
  /-- The first frame must introduce the session. -/
  | greeting
  /-- The session, with the call of the frame that it is handling. -/
  | serving (session : Session) (call : Option Command)

/-- The boot that an open session is bound to. -/
def Connection.boot : Connection → Option AgentBootId
  | .serving session _ => session.boot
  | _ => none

structure Coordinator where
  fabric : RackState
  connections : Nat → Connection := fun _ => .closed

inductive CoordinatorEvent where
  | accept (connection : Nat)
  | receive (connection : Nat) (request : Request)
  /-- The call to the fabric of the frame that is being handled. -/
  | call (connection : Nat) (now : Timestamp)
  | disconnect (connection : Nat)
  /-- The accept loop, or a caller in the process, calls the fabric. -/
  | embedded (input : Input)

namespace Coordinator

/-- What an event leaves: the fabric, and one connection that has moved. -/
def moved (coordinator : Coordinator) (fabric : RackState) (connection : Nat) (next : Connection) :
    Coordinator where
  fabric := fabric
  connections := Function.update coordinator.connections connection next

abbrev withConnection (coordinator : Coordinator) (connection : Nat) (next : Connection) :
    Coordinator :=
  coordinator.moved coordinator.fabric connection next

def accept (coordinator : Coordinator) (connection : Nat) : Coordinator :=
  match coordinator.connections connection with
  | .closed => coordinator.withConnection connection .greeting
  | _ => coordinator

/-- A refused frame is answered at once, and a session handles one frame at a time. -/
def receive (coordinator : Coordinator) (connection : Nat) (request : Request) : Coordinator :=
  match coordinator.connections connection with
  | .greeting =>
      coordinator.withConnection connection
        (if request.type = .hello then .serving {} none else .closed)
  | .serving session none =>
      match admitRequest coordinator.fabric session request with
      | .error _ => coordinator
      | .ok command => coordinator.withConnection connection (.serving session (some command))
  | _ => coordinator

def call (options : CoordinatorOptions) (coordinator : Coordinator) (connection : Nat)
    (now : Timestamp) : Coordinator :=
  match coordinator.connections connection with
  | .serving session (some command) =>
      let reaction := execute options coordinator.fabric session now command
      coordinator.moved reaction.fabric connection (.serving reaction.session none)
  | _ => coordinator

/-- A session notices the end of its connection when it waits for a frame. -/
def disconnect (coordinator : Coordinator) (connection : Nat) : Coordinator :=
  match coordinator.connections connection with
  | .serving _ (some _) => coordinator
  | _ => coordinator.withConnection connection .closed

def step (options : CoordinatorOptions) (coordinator : Coordinator) :
    CoordinatorEvent → Coordinator
  | .accept connection => coordinator.accept connection
  | .receive connection request => coordinator.receive connection request
  | .call connection now => coordinator.call options connection now
  | .disconnect connection => coordinator.disconnect connection
  | .embedded input => { coordinator with fabric := coordinator.fabric.step options.fabric input }

def boundTo (coordinator : Coordinator) (connection : Nat) : Option AgentBootId :=
  (coordinator.connections connection).boot

end Coordinator

/-- The mutation of the fabric that a command calls for, registrations apart. -/
def Command.submission : Command → Option Mutation
  | .mutation submitted => some submitted
  | .heartbeat request => some (.heartbeat request)
  | .snapshot request => some (.publishSnapshot request)
  | _ => none

end RackFabric
