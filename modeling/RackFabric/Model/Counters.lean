import RackFabric.Model.Server

/-! The counters of a coordinator. They are raised by the sessions, between the call to
the fabric and what follows it. -/
namespace RackFabric

structure Counters where
  acceptedMutations : UInt64 := 0
  rejectedMutations : UInt64 := 0
  malformedFrames : UInt64 := 0
deriving DecidableEq

/-- The payload of the request is decoded, and found to be malformed. -/
def Session.findsMalformed (session : Session) (request : Request) : Bool :=
  !request.isResponse && request.message.isNone &&
    match request.type with
    | .hello | .register | .query => true
    | type => type.isMutation && session.boot.isSome

namespace Counters

/-- An unchanged request counts as rejected. -/
def finishMutation (counters : Counters) (result : MutationResult) : Counters :=
  if result.outcome.isAccepted then
    { counters with acceptedMutations := counters.acceptedMutations + 1 }
  else { counters with rejectedMutations := counters.rejectedMutations + 1 }

/-- A heartbeat is answered without being counted, and so is a snapshot that is refused. -/
def execute (options : CoordinatorOptions) (fabric : RackState) (now : Timestamp)
    (counters : Counters) : Command → Counters
  | .mutation mutation =>
      match (fabric.submit options.fabric now mutation).2 with
      | some result => counters.finishMutation result
      | none => counters
  | .snapshot request =>
      match RackState.publishSnapshot options.fabric fabric now request with
      | ((_, result), some _) =>
          if result.outcome.isAccepted then counters.finishMutation result else counters
      | (_, none) => counters
  | _ => counters

def serve (options : CoordinatorOptions) (fabric : RackState) (session : Session)
    (now : Timestamp) (counters : Counters) (request : Request) : Counters :=
  match admitRequest fabric session request with
  | .error _ =>
      if session.findsMalformed request then
        { counters with malformedFrames := counters.malformedFrames + 1 }
      else counters
  | .ok command => counters.execute options fabric now command

end Counters

structure CountingServer where
  server : Server
  counters : Counters := {}

namespace CountingServer

def start (options : CoordinatorOptions) (file : Option Bytes) : CountingServer where
  server := .start options file

def step (options : CoordinatorOptions) (counting : CountingServer) (event : ServerEvent) :
    CountingServer where
  server := counting.server.step options event
  counters :=
    match event with
    | .receive session now request =>
        let thread := counting.server.threads session
        if thread.pending.isEmpty then
          counting.counters.serve options counting.server.fabric thread.session now request
        else counting.counters
    | _ => counting.counters

end CountingServer

end RackFabric
