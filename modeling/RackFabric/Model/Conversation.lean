import RackFabric.Model.Agent

/-! The conversation of an agent with the coordinator, message by message. Requests
and responses are in flight, in order, and a response may arrive after the exchange
that asked for it has ended. -/
namespace RackFabric

/-- A message with the position of its request among those of the agent. The number
is not on the wire. -/
structure Numbered (α : Type) where
  number : Nat
  message : α

/-- What the agent keeps of its exchanges. -/
structure AgentReport where
  membersPublished : Nat := 0
  failureDomainsPublished : Nat := 0
  heartbeatsSent : Nat := 0
  results : List MutationResult := []
  lastError : Str := []

namespace AgentReport

/-- The oldest results make room for the new one. -/
def remember (report : AgentReport) (retained : Nat) (result : MutationResult) : AgentReport :=
  let results := report.results ++ [result]
  { report with results := results.drop (results.length - retained) }

def setError (report : AgentReport) (error : Str) : AgentReport :=
  { report with lastError := error }

def ofDomain (report : AgentReport) (retained : Nat) (result : MutationResult) : AgentReport :=
  let report := report.remember retained result
  if result.outcome.isAccepted then
    { report with failureDomainsPublished := report.failureDomainsPublished + 1 }
  else report.setError result.explanation.code

def ofMember (report : AgentReport) (retained : Nat) (result : MutationResult) : AgentReport :=
  let report := report.remember retained result
  if result.outcome.isAccepted then
    { report with membersPublished := report.membersPublished + 1 }
  else report.setError result.explanation.code

def ofHeartbeat (report : AgentReport) (result : MutationResult) : AgentReport :=
  if result.outcome.isAccepted then { report with heartbeatsSent := report.heartbeatsSent + 1 }
  else report.setError result.explanation.code

end AgentReport

structure Conversation where
  agent : Agent
  maxRetainedResults : Nat := 256
  report : AgentReport := {}
  connected : Bool := true
  /-- What the heartbeat thread is about to send; it has read the token without a lock. -/
  beat : Option HeartbeatMessage := none
  /-- All requests so far. -/
  issued : List Request := []
  /-- The request of the exchange that holds the I/O lock. -/
  waiting : Option (Numbered Request) := none
  requests : List (Numbered Request) := []
  responses : List (Numbered Response) := []
  session : Session
  fabric : RackState

inductive ConversationEvent where
  /-- A publication takes the I/O lock for one record, and sends it. -/
  | publishDomain (record : FailureDomainRecord)
  | publishMember (record : MemberRecord)
  /-- The heartbeat thread prepares its message. -/
  | prepare
  /-- The heartbeat thread takes the I/O lock, and sends its message. -/
  | beat
  /-- The coordinator serves the next request. -/
  | serve (now : Timestamp)
  /-- The next response reaches the exchange that waits for one. -/
  | receive
  /-- The exchange ends without a response: it cannot send, or has waited for too long. -/
  | fail (error : Str)
  | loseRequest
  | loseResponse
  /-- Another party calls the fabric. -/
  | other (input : Input)

namespace Conversation

def start (link : Link) : Conversation where
  agent := link.agent
  session := link.session
  fabric := link.fabric

/-- An exchange begins on an open connection, when no other one holds the lock. -/
def send (conversation : Conversation) (type : MessageType) (message : Option type.Message) :
    Conversation :=
  if conversation.waiting.isSome ∨ !conversation.connected then conversation
  else
    let agent := conversation.agent.nextCorrelation
    let request : Request := { type := type, correlation := agent.correlation, message := message }
    let numbered := ⟨conversation.issued.length, request⟩
    { conversation with
      agent := agent
      issued := conversation.issued ++ [request]
      waiting := some numbered
      requests := conversation.requests ++ [numbered] }

def publishDomain (conversation : Conversation) (record : FailureDomainRecord) : Conversation :=
  conversation.send .publishFailureDomain
    (some { authority := conversation.agent.token, record := record })

def publishMember (conversation : Conversation) (record : MemberRecord) : Conversation :=
  conversation.send .publishNode (some { authority := conversation.agent.token, record := record })

def prepare (conversation : Conversation) : Conversation :=
  { conversation with beat := some conversation.agent.heartbeatMessage }

def sendBeat (conversation : Conversation) : Conversation :=
  match conversation.beat with
  | none => conversation
  | some message => { conversation.send .heartbeat (some message) with beat := none }

def serve (options : CoordinatorOptions) (conversation : Conversation) (now : Timestamp) :
    Conversation :=
  match conversation.requests with
  | [] => conversation
  | request :: rest =>
      let reaction := RackFabric.serve options conversation.fabric conversation.session now
        request.message
      { conversation with
        requests := rest
        responses := conversation.responses ++
          (RackFabric.responses options conversation.fabric conversation.session now
            request.message).map (⟨request.number, ·⟩)
        session := reaction.session
        fabric := reaction.fabric }

/-- What the exchange makes of the response that reaches it. -/
def answer (conversation : Conversation) (request : Request) (response : Response) :
    Except Str (Agent × MutationResult) := do
  let reply ← Agent.exchange request [response]
  conversation.agent.takeResult reply

/-- An exchange that ends with an error. A heartbeat closes the connection then. -/
def abandon (conversation : Conversation) (type : MessageType) (error : Str) : Conversation :=
  if type = .heartbeat then
    { conversation with
      waiting := none, connected := false, report := conversation.report.setError error }
  else { conversation with waiting := none }

/-- A heartbeat that finds the authority revoked closes the connection. -/
def takesAuthority (outcome : MutationOutcome) : Bool :=
  outcome = .rejectStaleWorkerBoot ∨ outcome = .rejectStaleCoordinatorEpoch

/-- What the agent keeps of the result of an exchange. -/
def record (conversation : Conversation) (type : MessageType) (agent : Agent)
    (result : MutationResult) : Conversation :=
  let report := conversation.report
  let retained := conversation.maxRetainedResults
  let ended := { conversation with waiting := none, agent := agent }
  match type with
  | .heartbeat =>
      { ended with
        report := report.ofHeartbeat result
        connected := conversation.connected && !takesAuthority result.outcome }
  | .publishFailureDomain => { ended with report := report.ofDomain retained result }
  | _ => { ended with report := report.ofMember retained result }

def receive (conversation : Conversation) : Conversation :=
  match conversation.waiting, conversation.responses with
  | some waiting, response :: rest =>
      let arrived := { conversation with responses := rest }
      match conversation.answer waiting.message response.message with
      | .error error => arrived.abandon waiting.message.type error
      | .ok (agent, result) => arrived.record waiting.message.type agent result
  | _, _ => conversation

def fail (conversation : Conversation) (error : Str) : Conversation :=
  match conversation.waiting with
  | none => conversation
  | some waiting => conversation.abandon waiting.message.type error

def step (options : CoordinatorOptions) (conversation : Conversation) :
    ConversationEvent → Conversation
  | .publishDomain record => conversation.publishDomain record
  | .publishMember record => conversation.publishMember record
  | .prepare => conversation.prepare
  | .beat => conversation.sendBeat
  | .serve now => conversation.serve options now
  | .receive => conversation.receive
  | .fail error => conversation.fail error
  | .loseRequest => { conversation with requests := conversation.requests.tail }
  | .loseResponse => { conversation with responses := conversation.responses.tail }
  | .other input => { conversation with fabric := conversation.fabric.step options.fabric input }

end Conversation

end RackFabric
