import RackFabric.Model.Coordinator

/-! The agent of one host, and its connection to the coordinator. An exchange is
a request of the agent, what the coordinator makes of it, and the response. -/
namespace RackFabric

/-- The bytes of a host name that are kept. -/
def isSanitary (u : UInt8) : Bool :=
  (0x61 ≤ u ∧ u ≤ 0x7A) ∨ (0x41 ≤ u ∧ u ≤ 0x5A) ∨ (0x30 ≤ u ∧ u ≤ 0x39) ∨ u ∈ str "-_.:"

def sanitize (value : Str) : Str :=
  let out := value.filter isSanitary
  if out = [] ∨ out = str "." ∨ out = str ".." then str "local"
  else out.take kMaxIdentityLength

/-- The worker that an agent starts as; nothing when an empty optional is dereferenced,
which happens before the option is looked at. -/
def startWorker (worker : Option WorkerId) (hostName : Str) : Option WorkerId :=
  (StrongId.parse (sanitize hostName)).map worker.getD

structure Agent where
  /-- The rack of its options, which it presents with every mutation. -/
  rack : Option RackId := none
  label : Str := []
  limits : ResourceLimits := {}
  worker : WorkerId
  boot : AgentBootId
  coordinatorEpoch : CoordinatorEpoch := {}
  publicationGeneration : PublicationGeneration := {}
  /-- Of the last request. -/
  correlation : UInt64 := 0

/-- What an agent sends once it is registered. -/
inductive AgentRequest where
  | failureDomain (record : FailureDomainRecord)
  | member (record : MemberRecord)
  | heartbeat

namespace Agent

def token (agent : Agent) : AuthorityToken where
  coordinatorEpoch := agent.coordinatorEpoch
  boot := some agent.boot
  publicationGeneration := some agent.publicationGeneration
  rack := agent.rack

def nextCorrelation (agent : Agent) : Agent :=
  { agent with correlation := agent.correlation + 1 }

/-- A heartbeat carries its publication generation outside of its authority. -/
def heartbeatMessage (agent : Agent) : HeartbeatMessage where
  authority := { agent.token with publicationGeneration := none }
  publicationGeneration := agent.publicationGeneration

/-- The request as the coordinator decodes it. -/
def request (agent : Agent) : AgentRequest → Request
  | .failureDomain record =>
      { type := .publishFailureDomain, correlation := agent.correlation
        message := some ({ authority := agent.token, record := record } :
          PublishFailureDomainMessage) }
  | .member record =>
      { type := .publishNode, correlation := agent.correlation
        message := some ({ authority := agent.token, record := record } : PublishMemberMessage) }
  | .heartbeat =>
      { type := .heartbeat, correlation := agent.correlation
        message := some agent.heartbeatMessage }

/-- The response to the request, when it arrives. -/
def exchange (request : Request) (arrived : List Response) : Except Str Reply :=
  match arrived with
  | [] => .error (str "receive timed out")
  | response :: _ =>
      if response.correlation ≠ request.correlation then
        .error (str "the coordinator response correlation does not match the request")
      else .ok response.reply

def coordinatorError (message : ErrorMessage) : Str :=
  message.error.toStr ++ str " " ++ message.detail

/-- A text above the bound of the agent makes the message malformed. -/
def decodes (agent : Agent) (texts : List Str) : Bool :=
  texts.all fun text => text.length ≤ agent.limits.maxStringBytes

/-- An accepted result of any request advances the publication generation. -/
def takeResult (agent : Agent) : Reply → Except Str (Agent × MutationResult)
  | .error message =>
      if agent.decodes [message.detail] then
        .error (str "coordinator error: " ++ coordinatorError message)
      else .error (str "the coordinator sent a malformed error")
  | .result message =>
      if agent.decodes [message.code, message.detail] then
        .ok
          (if message.accepted then
            { agent with
              publicationGeneration :=
                agent.publicationGeneration.next.getD agent.publicationGeneration }
          else agent,
          { outcome := message.outcome, generationsAfter := message.generations
            explanation := { ok := message.accepted, code := message.code,
                             subject := message.detail } })
      else .error (str "the coordinator sent a malformed result")
  | _ => .error (str "the coordinator sent an unexpected response type")

/-! The handshake. -/

def helloRequest (agent : Agent) : Request where
  type := .hello
  correlation := agent.correlation
  message := some ({ agentVersion := kVersionString } : HelloMessage)

def takeHelloAck (agent : Agent) : Reply → Except Str (Agent × RackId)
  | .helloAck ack =>
      if !agent.decodes (ack.coordinatorVersion :: (ack.rack.map (·.value)).toList) then
        .error (str "the coordinator sent a malformed HELLO_ACK")
      else if ack.protocolVersion ≠ kProtocolVersion then
        .error (str "the coordinator speaks an unsupported protocol version")
      else match ack.rack with
        | none => .error (str "the coordinator has not declared a rack")
        | some rack => .ok ({ agent with coordinatorEpoch := ack.coordinatorEpoch }, rack)
  | _ => .error (str "the coordinator did not answer HELLO with HELLO_ACK")

def registerRequest (agent : Agent) (rack : RackId) : Request where
  type := .register
  correlation := agent.correlation
  message := some
    ({ rack := some rack, worker := some agent.worker, boot := some agent.boot
       coordinatorEpoch := agent.coordinatorEpoch
       label := if agent.label.isEmpty then none else some agent.label } : RegisterMessage)

def takeRegisterAck (agent : Agent) : Reply → Except Str Agent
  | .error message =>
      if agent.decodes [message.detail] then
        .error (str "registration failed: " ++ coordinatorError message)
      else .error (str "the coordinator sent a malformed error")
  | .registerAck ack =>
      if !ack.accepted then
        .error (str "the coordinator refused registration for boot " ++ agent.boot.value)
      else
        .ok { agent with
          coordinatorEpoch := ack.coordinatorEpoch
          publicationGeneration := ack.publicationGeneration }
  | _ => .error (str "the coordinator did not answer REGISTER with REGISTER_ACK")

end Agent

/-- An agent, its session at the coordinator, and the fabric. -/
structure Link where
  agent : Agent
  session : Session
  fabric : RackState

/-- Mutations of other parties come between the exchanges of the agent. -/
inductive LinkEvent where
  | exchange (now : Timestamp) (sent : AgentRequest)
  | other (input : Input)

namespace Link

/-- The agent connects and registers. -/
def start (options : CoordinatorOptions) (fabric : RackState) (now : Timestamp) (agent : Agent) :
    Except Str Link := do
  let agent := agent.nextCorrelation
  let hello ← Agent.exchange agent.helloRequest
    (responses options fabric {} now agent.helloRequest)
  let (agent, rack) ← agent.takeHelloAck hello
  let agent := agent.nextCorrelation
  let request := agent.registerRequest rack
  let reply ← Agent.exchange request (responses options fabric {} now request)
  let agent ← agent.takeRegisterAck reply
  let reaction := serve options fabric {} now request
  return ⟨agent, reaction.session, reaction.fabric⟩

/-- What the agent makes of the exchange, when it is completed. -/
def completion (options : CoordinatorOptions) (link : Link) (now : Timestamp)
    (sent : AgentRequest) : Except Str (Agent × MutationResult) := do
  let agent := link.agent.nextCorrelation
  let request := agent.request sent
  let reply ← Agent.exchange request (responses options link.fabric link.session now request)
  agent.takeResult reply

def step (options : CoordinatorOptions) (link : Link) : LinkEvent → Link
  | .exchange now sent =>
      let agent := link.agent.nextCorrelation
      let reaction := serve options link.fabric link.session now (agent.request sent)
      match link.completion options now sent with
      | .error _ => ⟨agent, reaction.session, reaction.fabric⟩
      | .ok (agent, _) => ⟨agent, reaction.session, reaction.fabric⟩
  | .other input => { link with fabric := link.fabric.step options.fabric input }

end Link

end RackFabric
