import Mathlib.Logic.Function.Basic
import RackFabric.Model.Text

/-! The registry of the connections that a coordinator serves. The accept loop, the
session threads and the calls of `stop` share it, and their steps interleave. -/
namespace RackFabric

/-- A socket handle. The system gives it to a new connection once it has been closed. -/
abbrev Handle := UInt64

def kInvalidHandle : Handle := ~~~ 0

/-- Where a session thread is. It has read the handle of its connection as it began. -/
inductive SessionStage where
  | spawned
  | greeting (handle : Handle)
  | serving (handle : Handle)
  /-- The loop is left, and the connection is not closed yet. -/
  | closing (handle : Handle)
  /-- Before the call of `end_session`. -/
  | leaving (handle : Handle)
  | ended
deriving DecidableEq

inductive Acceptor where
  | checking | accepting | finished
deriving DecidableEq

/-- Sessions are numbered as they are accepted; each has a thread and a connection. -/
structure SessionRegistry where
  stopping : Bool := false
  acceptor : Acceptor := .checking
  openConnections : Nat := 0
  totalConnections : Nat := 0
  stage : Nat → SessionStage := fun _ => .spawned
  handle : Nat → Handle := fun _ => kInvalidHandle
  sessionConnections : List Nat := []
  /-- The connections that calls of `stop` have taken out of the registry. -/
  stopped : List Nat := []

inductive RegistryEvent where
  | check
  | acceptNone
  /-- The system picks the handle. -/
  | accept (handle : Handle)
  | start (session : Nat)
  | hello (session : Nat)
  /-- No first frame is received, or another one than a greeting. -/
  | reject (session : Nat)
  /-- The peer has closed, a frame is malformed, or the coordinator stops. -/
  | leave (session : Nat)
  | close (session : Nat)
  | endSession (session : Nat)
  /-- The thread is gone, and nobody else holds the connection. -/
  | destroy (session : Nat)
  | stop
  | takeOver
  | stopClose (session : Nat)
deriving DecidableEq

namespace SessionRegistry

def withStage (registry : SessionRegistry) (session : Nat) (stage : SessionStage) :
    SessionRegistry :=
  { registry with stage := Function.update registry.stage session stage }

/-- `TcpConnection::close`; nothing happens the second time. -/
def closeConnection (registry : SessionRegistry) (session : Nat) : SessionRegistry :=
  { registry with handle := Function.update registry.handle session kInvalidHandle }

/-- The loop looks whether it is to stop before it waits for a connection. -/
def check (registry : SessionRegistry) : SessionRegistry :=
  match registry.acceptor with
  | .checking =>
      { registry with acceptor := if registry.stopping then .finished else .accepting }
  | _ => registry

def acceptNone (registry : SessionRegistry) : SessionRegistry :=
  match registry.acceptor with
  | .accepting => { registry with acceptor := .checking }
  | _ => registry

/-- No connection that is open has the handle. -/
def Free (registry : SessionRegistry) (handle : Handle) : Prop :=
  handle ≠ kInvalidHandle ∧
    ∀ session < registry.totalConnections, registry.handle session ≠ handle

instance (registry : SessionRegistry) (handle : Handle) : Decidable (registry.Free handle) :=
  inferInstanceAs (Decidable (_ ∧ _))

/-- A connection enters the registry together with the thread that serves it. -/
def register (registry : SessionRegistry) (handle : Handle) : SessionRegistry :=
  let session := registry.totalConnections
  { registry with
    openConnections := registry.openConnections + 1
    totalConnections := session + 1
    handle := Function.update registry.handle session handle
    sessionConnections := registry.sessionConnections ++ [session] }

def accept (maxConnections : Nat) (registry : SessionRegistry) (handle : Handle) :
    SessionRegistry :=
  match registry.acceptor with
  | .accepting =>
      if ¬ registry.Free handle then registry
      else if registry.openConnections ≥ maxConnections then
        { registry with acceptor := .checking }
      else { registry.register handle with acceptor := .checking }
  | _ => registry

/-- `const std::uintptr_t handle = local.handle()`. -/
def start (registry : SessionRegistry) (session : Nat) : SessionRegistry :=
  if session < registry.totalConnections ∧ registry.stage session = .spawned then
    registry.withStage session (.greeting (registry.handle session))
  else registry

def hello (registry : SessionRegistry) (session : Nat) : SessionRegistry :=
  match registry.stage session with
  | .greeting handle => registry.withStage session (.serving handle)
  | _ => registry

def reject (registry : SessionRegistry) (session : Nat) : SessionRegistry :=
  match registry.stage session with
  | .greeting handle => registry.withStage session (.leaving handle)
  | _ => registry

def leave (registry : SessionRegistry) (session : Nat) : SessionRegistry :=
  match registry.stage session with
  | .serving handle => registry.withStage session (.closing handle)
  | _ => registry

def close (registry : SessionRegistry) (session : Nat) : SessionRegistry :=
  match registry.stage session with
  | .closing handle => (registry.closeConnection session).withStage session (.leaving handle)
  | _ => registry

/-- The first entry whose connection has the handle is erased. -/
def erase (registry : SessionRegistry) (handle : Handle) : List Nat :=
  registry.sessionConnections.eraseP fun entry => registry.handle entry = handle

def endSession (registry : SessionRegistry) (session : Nat) : SessionRegistry :=
  match registry.stage session with
  | .leaving handle =>
      { registry.withStage session .ended with
        sessionConnections := registry.erase handle
        openConnections := registry.openConnections - 1 }
  | _ => registry

def destroy (registry : SessionRegistry) (session : Nat) : SessionRegistry :=
  if registry.stage session = .ended ∧ session ∉ registry.sessionConnections ∧
      session ∉ registry.stopped then
    registry.closeConnection session
  else registry

/-- `connections.swap(impl_->session_connections)`, under the lock. -/
def takeOver (registry : SessionRegistry) : SessionRegistry :=
  if registry.stopping then
    { registry with
      stopped := registry.stopped ++ registry.sessionConnections, sessionConnections := [] }
  else registry

/-- Calls of `stop` may overlap, so their connections are closed in any order. -/
def stopClose (registry : SessionRegistry) (session : Nat) : SessionRegistry :=
  if session ∈ registry.stopped then registry.closeConnection session else registry

/-- A step that its thread is not ready for leaves everything as it is. -/
def step (maxConnections : Nat) (registry : SessionRegistry) : RegistryEvent → SessionRegistry
  | .check => registry.check
  | .acceptNone => registry.acceptNone
  | .accept handle => registry.accept maxConnections handle
  | .start session => registry.start session
  | .hello session => registry.hello session
  | .reject session => registry.reject session
  | .leave session => registry.leave session
  | .close session => registry.close session
  | .endSession session => registry.endSession session
  | .destroy session => registry.destroy session
  | .stop => { registry with stopping := true }
  | .takeOver => registry.takeOver
  | .stopClose session => registry.stopClose session

end SessionRegistry

end RackFabric
