import RackFabric.Model.Conversation
import RackFabric.Model.Hardware
import RackFabric.Model.Sending

/-! An agent publishes what it has discovered, one exchange after another. The I/O lock keeps
its heartbeats away in the meantime. -/
namespace RackFabric

/-- Power and cooling domains come first, so that a member that refers to one finds it. -/
def publicationRank (record : MemberRecord) : Nat :=
  if record.key.kind = .powerDomain ∨ record.key.kind = .coolingDomain then 0 else 1

/-- `std::stable_sort` by rank. -/
def publicationOrder (members : List MemberRecord) : List MemberRecord :=
  members.insertionSort fun left right => publicationRank left ≤ publicationRank right

/-- The agent on its connection, and what it reports. -/
structure Publication where
  link : Link
  maxRetainedResults : Nat := 256
  report : AgentReport := {}
  diagnostics : List Str := []

namespace Publication

def oversized : AgentRequest → Str
  | .failureDomain _ => str "the failure domain message exceeds the configured bound"
  | _ => str "the member message exceeds the configured bound"

def reported (publication : Publication) (sent : AgentRequest) (result : MutationResult) :
    AgentReport :=
  match sent with
  | .failureDomain _ => publication.report.ofDomain publication.maxRetainedResults result
  | .member _ => publication.report.ofMember publication.maxRetainedResults result
  | .heartbeat => publication.report.ofHeartbeat result

/-- The coordinator decodes the frame of the request; the agent takes the first response. -/
def answered (options : CoordinatorOptions) (publication : Publication) (now : Timestamp)
    (request : Request) (frame : Frame) : Link × Except Str (Agent × MutationResult) :=
  let link := publication.link
  let agent := link.agent.nextCorrelation
  let arrived := frame.request options.limits
  let reaction := serve options link.fabric link.session now arrived
  (⟨agent, reaction.session, reaction.fabric⟩, do
    let reply ← Agent.exchange request (responses options link.fabric link.session now arrived)
    agent.takeResult reply)

/-- One record. An error ends the publication. -/
def publish (options : CoordinatorOptions) (publication : Publication) (now : Timestamp)
    (sent : AgentRequest) : Publication × Option Str :=
  let agent := publication.link.agent.nextCorrelation
  let request := agent.request sent
  match request.frame agent.limits with
  | none => (publication, some (oversized sent))
  | some frame =>
      if (encodeFrame frame agent.limits).isNone then
        ({ publication with link := { publication.link with agent := agent } },
          some (str "frame exceeds the configured bound"))
      else
        match publication.answered options now request frame with
        | (link, .error error) => ({ publication with link := link }, some error)
        | (link, .ok (agent, result)) =>
            ({ publication with
               link := { link with agent := agent }
               report := publication.reported sent result }, none)

/-- The records with the times at which the coordinator serves them. -/
def publishAll (options : CoordinatorOptions) :
    List (Timestamp × AgentRequest) → Publication → Publication × Option Str
  | [], publication => (publication, none)
  | (now, sent) :: rest, publication =>
      match publication.publish options now sent with
      | (publication, none) => publishAll options rest publication
      | (publication, some error) => (publication, some error)

end Publication

namespace HardwareDiscoveryResult

/-- The failure domains before the members that are in them. -/
def requests (discovery : HardwareDiscoveryResult) : List AgentRequest :=
  discovery.failureDomains.map .failureDomain ++
    (publicationOrder discovery.members).map .member

/-- What goes into the report of the agent. -/
def reported (discovery : HardwareDiscoveryResult) : List Str :=
  discovery.diagnostics ++ discovery.unsupported.map (str "unsupported: " ++ ·)

end HardwareDiscoveryResult

/-- `do_publish`. The coordinator serves the request at an index at the time of the clock; nothing
is returned when discovery dereferences an empty optional. -/
def Publication.doPublish (options : CoordinatorOptions) (platform : Platform)
    (publishHardware : Bool) (hardware : HardwareDiscoveryOptions) (clock : Nat → Timestamp)
    (publication : Publication) : Option (Publication × Option Str) :=
  if !publishHardware then some (publication, none)
  else
    (discoverLocalHardware platform hardware).map fun discovery =>
      let publication := { publication with diagnostics := discovery.reported }
      if !discovery.ok then (publication, some discovery.explanation.render)
      else
        publishAll options (discovery.requests.zipIdx.map fun (sent, index) => (clock index, sent))
          publication

end RackFabric
