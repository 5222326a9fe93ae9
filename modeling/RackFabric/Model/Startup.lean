import RackFabric.Model.Server

/-! The startup of a coordinator process. The server accepts sessions before the
state file is loaded. -/
namespace RackFabric

structure StartOptions extends CoordinatorOptions where
  bindHost : Str := str "127.0.0.1"
  rack : Option RackId := none
  rackEpoch : Option RackEpochId := none
  rackLabel : Option Str := none

def declareAtStart (fabric : RackState) (now : Timestamp) (rack : RackId) (epoch : RackEpochId)
    (label : Option Str) : Except Str RackState :=
  let (declared, result) := fabric.declareRack now
    { authority := { coordinatorEpoch := fabric.generations.coordinatorEpoch, rack := some rack }
      epoch := some epoch, label := label, redeclare := false }
  if result.outcome.isAccepted then .ok declared
  else .error (str "the coordinator could not declare the rack: " ++ result.explanation.render)

/-- A rack that the fabric already describes must agree with the arguments. -/
def agreeOrDeclare (fabric : RackState) (now : Timestamp) (rack : RackId) (epoch : RackEpochId)
    (label : Option Str) : Except Str RackState :=
  match fabric.rack with
  | none => declareAtStart fabric now rack epoch label
  | some recovered =>
      if recovered.id.value ≠ rack.value then
        .error (str "the recovered state describes rack " ++ recovered.id.value ++ str ", not " ++
          rack.value)
      else if recovered.epoch.value ≠ epoch.value then
        .error (str "the recovered state describes rack epoch " ++ recovered.epoch.value ++
          str ", not " ++ epoch.value)
      else .ok fabric

/-- The fabric that `CoordinatorServer::start` begins to serve. `bindError` is the
error of the listener, when it cannot be bound. -/
def startCoordinator (options : StartOptions) (bindError : Option Str) (now : Timestamp) :
    Except Str RackState :=
  if options.bindHost ≠ str "127.0.0.1" ∧ options.bindHost ≠ str "localhost" ∧
      options.bindHost ≠ str "::1" then
    .error (str "the coordinator binds loopback addresses only")
  else match bindError with
    | some error => .error error
    | none =>
        match options.rack, options.rackEpoch with
        | none, none => .ok (.fresh options.fabric)
        | some rack, some epoch =>
            agreeOrDeclare (.fresh options.fabric) now rack epoch options.rackLabel
        | _, _ => .error (str "rack and rack_epoch must be provided together")

/-! The command, with no client connected. -/

/-- The arguments of the command. -/
structure MainOptions where
  rack : Str := str "rack-demo"
  rackEpoch : Str := str "epoch-demo"
  rackLabel : Str := str "rack_fabric_coordinator"
  statePath : Str := []
  persist : Bool := false

def MainOptions.coordinator (options : MainOptions) : StartOptions where
  rack := StrongId.parse options.rack
  rackEpoch := StrongId.parse options.rackEpoch
  rackLabel := some options.rackLabel
  persistencePath := options.statePath
  persistAfterMutation := options.persist

/-- Why the command ends before it serves. -/
inductive StartupFailure where
  | invalidIdentities
  | notStarted (error : Str)
  | notRecovered (failure : PersistenceFailure)

def StartupFailure.exitCode : StartupFailure → Nat
  | .invalidIdentities => 2
  | .notStarted _ | .notRecovered _ => 1

/-- The state that the command serves once its startup is complete. -/
def coordinatorMain (options : MainOptions) (bindError : Option Str) (started loaded : Timestamp)
    (file : Option Bytes) (readable : Bool) : Except StartupFailure RackState :=
  let coordinator := options.coordinator
  if coordinator.rack.isNone ∨ coordinator.rackEpoch.isNone then .error .invalidIdentities
  else match startCoordinator coordinator bindError started with
    | .error error => .error (.notStarted error)
    | .ok fabric =>
        if options.statePath.isEmpty ∨ file.isNone then .ok fabric
        else match loadState coordinator.fabric loaded file readable with
          | .error failure => .error (.notRecovered failure)
          | .ok recovered => .ok recovered

/-! The command, while its sessions are served. -/

inductive StartupPhase where
  /-- The server accepts sessions. -/
  | started
  /-- The candidate is validated; it does not take effect yet. -/
  | loading (candidate : RackState)
  | completed
  | failed

structure Startup where
  server : Server
  phase : StartupPhase := .started

inductive StartupEvent where
  | serve (event : ServerEvent)
  /-- The command looks for the state file, and reads and validates it. -/
  | read (now : Timestamp) (readable : Bool)
  /-- The candidate replaces the state under the lock. -/
  | install

namespace Startup

/-- The server as it is started, next to the state file of an earlier process. -/
def launch (options : StartOptions) (bindError : Option Str) (now : Timestamp)
    (file : Option Bytes) : Except Str Server :=
  (startCoordinator options bindError now).map fun fabric => { fabric := fabric, file := file }

def read (options : CoordinatorOptions) (startup : Startup) (now : Timestamp) (readable : Bool) :
    Startup :=
  match startup.phase with
  | .started =>
      if options.persistencePath.isEmpty ∨ startup.server.file.isNone then
        { startup with phase := .completed }
      else match loadState options.fabric now startup.server.file readable with
        | .error _ => { startup with phase := .failed }
        | .ok candidate => { startup with phase := .loading candidate }
  | _ => startup

def install (startup : Startup) : Startup :=
  match startup.phase with
  | .loading candidate =>
      { server := { startup.server with fabric := candidate }, phase := .completed }
  | _ => startup

def step (options : CoordinatorOptions) (startup : Startup) : StartupEvent → Startup
  | .serve event => { startup with server := startup.server.step options event }
  | .read now readable => startup.read options now readable
  | .install => startup.install

end Startup

end RackFabric
