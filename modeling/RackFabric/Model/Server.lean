import Mathlib.Logic.Function.Basic
import RackFabric.Model.Coordinator
import RackFabric.Model.Persistence

/-! The session threads of a coordinator. They share the fabric and the state
file, and their steps interleave. -/
namespace RackFabric

/-- A session that is open, and what is left of the request it serves. -/
structure Thread where
  session : Session := {}
  correlation : UInt64 := 0
  pending : List Action := []
  /-- The copy of the state that a save works on. -/
  copy : Option RackState := none

structure Server where
  fabric : RackState
  file : Option Bytes
  threads : Nat → Thread := fun _ => {}
  /-- Every response, with the session that it was sent on. -/
  sent : List (Nat × Response) := []

inductive ServerEvent where
  /-- A session receives its next request, and calls the fabric. -/
  | receive (session : Nat) (now : Timestamp) (request : Request)
  /-- A save copies the state under the lock. -/
  | copy (session : Nat)
  /-- A save encodes its copy, writes it, and renames it to the state file. -/
  | replace (session : Nat)
  | respond (session : Nat)
  /-- The accept loop, or a caller in the process, calls the fabric. -/
  | call (input : Input)

namespace Server

def start (options : CoordinatorOptions) (file : Option Bytes) : Server where
  fabric := .fresh options.fabric
  file := file

def withThread (server : Server) (session : Nat) (thread : Thread) : Server :=
  { server with threads := Function.update server.threads session thread }

/-- A session serves one request at a time. -/
def receive (options : CoordinatorOptions) (server : Server) (session : Nat) (now : Timestamp)
    (request : Request) : Server :=
  let thread := server.threads session
  if thread.pending.isEmpty then
    let reaction := serve options server.fabric thread.session now request
    { server.withThread session
        { session := reaction.session, correlation := request.correlation
          pending := reaction.actions } with
      fabric := reaction.fabric }
  else server

def copy (server : Server) (session : Nat) : Server :=
  let thread := server.threads session
  match thread.pending, thread.copy with
  | .persist :: _, none =>
      server.withThread session { thread with copy := some server.fabric }
  | _, _ => server

/-- The file that a save leaves. A state that cannot be saved leaves the file as it is. -/
def savedFile (options : CoordinatorOptions) (file : Option Bytes) (copied : RackState) :
    Option Bytes :=
  let persistence : PersistenceOptions := {}
  match saveState copied options.fabric.limits persistence with
  | .ok bytes => writeFile file bytes persistence.atomicReplace .completed
  | .error _ => file

/-- The end of a save, whether or not it has written. -/
def replace (options : CoordinatorOptions) (server : Server) (session : Nat) : Server :=
  let thread := server.threads session
  match thread.copy with
  | none => server
  | some copied =>
      { server.withThread session { thread with pending := thread.pending.tail, copy := none } with
        file := savedFile options server.file copied }

def respond (options : CoordinatorOptions) (server : Server) (session : Nat) : Server :=
  let thread := server.threads session
  match thread.pending with
  | .reply message :: rest =>
      { server.withThread session { thread with pending := rest } with
        sent := server.sent ++
          (send options.limits thread.correlation (.reply message)).map (session, ·) }
  | _ => server

/-- A step that its thread is not ready for leaves the server as it is. -/
def step (options : CoordinatorOptions) (server : Server) : ServerEvent → Server
  | .receive session now request => server.receive options session now request
  | .copy session => server.copy session
  | .replace session => server.replace options session
  | .respond session => server.respond options session
  | .call input => { server with fabric := server.fabric.step options.fabric input }

end Server

end RackFabric
