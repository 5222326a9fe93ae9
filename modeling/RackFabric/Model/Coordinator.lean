import RackFabric.Model.Protocol

/-! The coordinator: how a session admits a request, what the request does to
the fabric, and how it is answered. -/
namespace RackFabric
open Enumeration

structure CoordinatorOptions where
  limits : ResourceLimits := {}
  fabric : RackFabricOptions := {}
  persistencePath : Str := []
  persistAfterMutation : Bool := false

/-- The identity that a connection has registered. -/
structure Session where
  boot : Option AgentBootId := none
  worker : Option WorkerId := none
deriving DecidableEq

def toResult (result : MutationResult) : ResultMessage where
  accepted := result.outcome.isAccepted
  outcome := result.outcome
  generations := result.generationsAfter
  code := result.explanation.code
  detail := result.explanation.render.take 4096

/-! Queries. -/

inductive QueryKind where
  | summary | members | member | relationships | failureDomains | powerEnvelope
  | coolingEnvelope | publishers | readiness | generations
deriving DecidableEq

instance : Enum8 QueryKind where
  values := [.summary, .members, .member, .relationships, .failureDomains, .powerEnvelope,
    .coolingEnvelope, .publishers, .readiness, .generations]

def renderSummary (summary : RackSummary) : Str :=
  str "lifecycle=" ++ summary.lifecycle.toStr ++ str " members=" ++ decimal summary.memberCount ++
    str " relationships=" ++ decimal summary.relationshipCount ++ str " failure_domains=" ++
    decimal summary.failureDomainCount ++ str " publishers=" ++ decimal summary.publisherCount ++
    str " snapshots=" ++ decimal summary.snapshotCount ++ str " digest=" ++ summary.digest

def renderGenerations (generations : GenerationSet) : Str :=
  let field := fun (name : String) (value : UInt64) => str name ++ decimal value.toNat
  field "rack=" generations.rack.value ++ field " membership=" generations.membership.value ++
    field " topology=" generations.topology.value ++
    field " failure_domains=" generations.failureDomains.value ++
    field " constraints=" generations.constraints.value ++
    field " power=" generations.power.value ++ field " cooling=" generations.cooling.value ++
    field " health=" generations.health.value ++
    field " capabilities=" generations.capabilities.value ++
    field " coordinator_epoch=" generations.coordinatorEpoch.value

def renderQuery (fabric : RackState) (now : Timestamp) (query : QueryMessage) : Str :=
  match (ofNat? query.queryKind.toNat : Option QueryKind) with
  | none => str "unsupported query"
  | some .summary => renderSummary (fabric.summary now)
  | some .generations => renderGenerations fabric.generations
  | some .readiness => (fabric.explainReadiness now).render
  | some .publishers =>
      str "publishers=" ++ decimal fabric.publishers.size ++ str " fenced=" ++
        decimal fabric.fencedBoots.size
  | some .member =>
      match query.member with
      | none => str "member query requires a member key"
      | some key => (fabric.explainMember now key).render
  | some .members => str "members=" ++ decimal fabric.members.size
  | some .relationships => str "relationships=" ++ decimal fabric.relationships.size
  | some .failureDomains => str "failure_domains=" ++ decimal fabric.failureDomains.size
  | some .powerEnvelope =>
      match fabric.power with
      | none => str "power envelope unknown"
      | some envelope =>
          str "power envelope generation=" ++ decimal envelope.generation.value.toNat
  | some .coolingEnvelope =>
      match fabric.cooling with
      | none => str "cooling envelope unknown"
      | some envelope =>
          str "cooling envelope generation=" ++ decimal envelope.generation.value.toNat ++
            str " zones=" ++ decimal envelope.zones.length

/-! Admission: decoding, and what a session may ask for. -/

/-- Why a request is answered with an error. -/
structure ProtocolRefusal where
  error : ProtocolError
  detail : Str
deriving DecidableEq

def refuseRequest {α : Type} (error : ProtocolError) (detail : String) :
    Except ProtocolRefusal α :=
  .error ⟨error, str detail⟩

/-- What an admitted request asks for. -/
inductive Command where
  | hello
  | register (worker : WorkerId) (boot : AgentBootId) (request : RegisterPublisherRequest)
  | query (message : QueryMessage)
  | mutation (mutation : Mutation)
  | heartbeat (request : HeartbeatRequest)
  | snapshot (request : SnapshotRequest)

def decoded {α : Type} (name : String) (message : Option α) : Except ProtocolRefusal α :=
  match message with
  | none => refuseRequest .malformedPayload (name ++ " payload is malformed")
  | some message => .ok message

def admitHello (message : Option HelloMessage) : Except ProtocolRefusal Command := do
  let hello ← decoded "HELLO" message
  if hello.protocolVersion ≠ kProtocolVersion then
    refuseRequest .unsupportedVersion "the agent speaks an unsupported protocol version"
  else return .hello

def admitRegister (fabric : RackState) (session : Session) (message : Option RegisterMessage) :
    Except ProtocolRefusal Command := do
  let message ← decoded "REGISTER" message
  match message.boot, message.worker with
  | some boot, some worker =>
      if session.boot.any (· ≠ boot) then
        refuseRequest .notAuthorized
          "this connection is already bound to a different boot identity"
      else match message.rack.or (fabric.rack.map (·.id)) with
        | none => refuseRequest .notAuthorized "no rack has been declared"
        | some rack =>
            return .register worker boot
              { rack := some rack, worker := some worker, boot := some boot
                coordinatorEpoch := fabric.generations.coordinatorEpoch, label := message.label }
  | _, _ => refuseRequest .malformedPayload "REGISTER requires a worker and a boot identity"

/-- The token of the coordinator, not that of the client, carries the epoch. -/
def tokenFor (fabric : RackState) (boot : AgentBootId) (presented : AuthorityToken) :
    AuthorityToken where
  coordinatorEpoch := fabric.generations.coordinatorEpoch
  boot := some boot
  publicationGeneration := presented.publicationGeneration
  rack := presented.rack.or (fabric.rack.map (·.id))

def checkSessionIdentity (boot : AgentBootId) (presented : AuthorityToken) :
    Except ProtocolRefusal Unit :=
  match presented.boot with
  | none => refuseRequest .notAuthorized "the mutation does not present a boot identity"
  | some claimed =>
      if claimed ≠ boot then
        refuseRequest .notAuthorized
          "the mutation presents a boot identity that does not belong to this connection"
      else .ok ()

/-- The message of a registered session, with the token it is submitted under. -/
def presented {α : Type} (fabric : RackState) (boot : AgentBootId) (name : String)
    (authority : α → AuthorityToken) (message : Option α) :
    Except ProtocolRefusal (α × AuthorityToken) := do
  let message ← decoded name message
  checkSessionIdentity boot (authority message)
  return (message, tokenFor fabric boot (authority message))

def admitMutation (fabric : RackState) (boot : AgentBootId) :
    Request → Except ProtocolRefusal Command
  | ⟨.declareRack, _, _, payload⟩ => do
      let (message, token) ← presented fabric boot "DECLARE_RACK" DeclareRackMessage.authority payload
      return .mutation (.declareRack
        { authority := token, epoch := some message.epoch, label := message.label
          redeclare := message.redeclare })
  | ⟨.publishNode, _, _, payload⟩ | ⟨.publishDevice, _, _, payload⟩ => do
      let (message, token) ←
        presented fabric boot "PUBLISH_MEMBER" PublishMemberMessage.authority payload
      return .mutation (.publishMember
        { authority := token, record := message.record
          expectedGeneration := message.expectedGeneration, supersede := message.supersede })
  | ⟨.publishLink, _, _, payload⟩ => do
      let (message, token) ← presented fabric boot "PUBLISH_LINK" PublishLinkMessage.authority payload
      return .mutation (.publishRelationship
        { authority := token, record := message.record
          expectedGeneration := message.expectedGeneration })
  | ⟨.publishFailureDomain, _, _, payload⟩ => do
      let (message, token) ←
        presented fabric boot "PUBLISH_FAILURE_DOMAIN" PublishFailureDomainMessage.authority payload
      return .mutation (.publishFailureDomain
        { authority := token, record := message.record
          expectedGeneration := message.expectedGeneration })
  | ⟨.publishPower, _, _, payload⟩ => do
      let (message, token) ←
        presented fabric boot "PUBLISH_POWER" PublishPowerMessage.authority payload
      return .mutation (.publishPowerEnvelope
        { authority := token, record := message.record
          expectedGeneration := message.expectedGeneration })
  | ⟨.publishCooling, _, _, payload⟩ => do
      let (message, token) ←
        presented fabric boot "PUBLISH_COOLING" PublishCoolingMessage.authority payload
      return .mutation (.publishCoolingEnvelope
        { authority := token, record := message.record
          expectedGeneration := message.expectedGeneration })
  | ⟨.publishHealth, _, _, payload⟩ => do
      let (message, token) ←
        presented fabric boot "PUBLISH_HEALTH" PublishHealthMessage.authority payload
      return .mutation (.publishHealth
        { authority := token, member := message.member, health := message.health
          readiness := message.readiness, publishReadiness := message.publishReadiness
          expectedGeneration := message.expectedGeneration })
  | ⟨.publishCapability, _, _, payload⟩ => do
      let (message, token) ←
        presented fabric boot "PUBLISH_CAPABILITY" PublishCapabilityMessage.authority payload
      return .mutation (.publishCapability
        { authority := token, member := message.member, capability := some message.capability
          expectedGeneration := message.expectedGeneration })
  | ⟨.withdraw, _, _, payload⟩ => do
      let (message, token) ← presented fabric boot "WITHDRAW" WithdrawMessage.authority payload
      return .mutation (.withdrawEvidence
        { authority := token, member := message.member, scope := message.scope
          expectedGeneration := message.expectedGeneration })
  | ⟨.retireMember, _, _, payload⟩ => do
      let (message, token) ←
        presented fabric boot "RETIRE_MEMBER" RetireMemberMessage.authority payload
      return .mutation (.retireMember
        { authority := token, member := message.member
          expectedGeneration := message.expectedGeneration })
  | ⟨.revalidate, _, _, payload⟩ => do
      let (message, token) ← presented fabric boot "REVALIDATE" RevalidateMessage.authority payload
      return .mutation (.revalidateMembers
        { authority := token, members := message.members, all := message.all })
  | ⟨.heartbeat, _, _, payload⟩ => do
      let (_, token) ← presented fabric boot "HEARTBEAT" HeartbeatMessage.authority payload
      return .heartbeat { authority := { token with publicationGeneration := none } }
  | ⟨.snapshotRequest, _, _, payload⟩ => do
      let (_, token) ←
        presented fabric boot "SNAPSHOT_REQUEST" SnapshotRequestMessage.authority payload
      return .snapshot { authority := token }
  | _ => refuseRequest .unsupported "the message type is not a mutation"

/-- The types that only a registered session may send. -/
def MessageType.isMutation : MessageType → Bool
  | .declareRack | .publishNode | .publishDevice | .publishLink | .publishFailureDomain
  | .publishPower | .publishCooling | .publishHealth | .publishCapability | .withdraw
  | .retireMember | .revalidate | .heartbeat | .snapshotRequest => true
  | _ => false

/-- The dispatch of a request on an open session. -/
def admitRequest (fabric : RackState) (session : Session) (request : Request) :
    Except ProtocolRefusal Command :=
  if request.isResponse then
    refuseRequest .malformedPayload "a request message must not carry the response flag"
  else match request with
    | ⟨.hello, _, _, payload⟩ => admitHello payload
    | ⟨.register, _, _, payload⟩ => admitRegister fabric session payload
    | ⟨.query, _, _, payload⟩ => return .query (← decoded "QUERY" payload)
    | request =>
        if request.type.isMutation then
          match session.boot with
          | none =>
              refuseRequest .notRegistered "the session has not registered a boot identity"
          | some boot => admitMutation fabric boot request
        else refuseRequest .unsupported "the message type is not accepted by the coordinator"

/-! Execution: the call to the fabric, and what follows it. -/

/-- What a handler does once it holds the result of the fabric. -/
inductive Action where
  | persist
  | reply (message : Reply)
deriving DecidableEq

structure Reaction where
  fabric : RackState
  session : Session
  /-- In the order in which they are carried out. -/
  actions : List Action

def persistIfConfigured (options : CoordinatorOptions) : List Action :=
  if !options.persistAfterMutation || options.persistencePath.isEmpty then [] else [.persist]

def replyResult (result : MutationResult) : List Action :=
  [.reply (.result (toResult result))]

def finishMutation (options : CoordinatorOptions) (result : MutationResult) : List Action :=
  (if result.outcome.isAccepted then persistIfConfigured options else []) ++ replyResult result

namespace RackState

/-- What a mutation returns to its caller, with its explanation. -/
def submit (options : RackFabricOptions) (state : RackState) (now : Timestamp) :
    Mutation → RackState × Option MutationResult :=
  let reply := fun (result : RackState × MutationResult) => (result.1, some result.2)
  fun
  | .registerPublisher request => reply (registerPublisher options state now request)
  | .declareRack request => reply (state.declareRack now request)
  | .publishMember request => reply (publishMember options state request)
  | .publishRelationship request => reply (publishRelationship options state request)
  | .publishFailureDomain request => reply (publishFailureDomain options state request)
  | .publishPowerEnvelope request => reply (state.publishPowerEnvelope now request)
  | .publishCoolingEnvelope request => reply (state.publishCoolingEnvelope now request)
  | .publishHealth request => reply (state.publishHealth request)
  | .publishCapability request => reply (publishCapability options state request)
  | .withdrawEvidence request => reply (state.withdrawEvidence request)
  | .withdrawRelationship request => reply (state.withdrawRelationship request)
  | .markUnavailable request => reply (state.markUnavailable request)
  | .retireMember request => reply (state.retireMember request)
  | .retireRack request => reply (state.retireRack now request)
  | .revalidateMembers request => reply (state.revalidateMembers request)
  | .fencePublisher request => reply (state.fencePublisher now request)
  | .heartbeat request => reply (state.heartbeat now request)
  | .expirePublishers later => (state.expirePublishers now later, none)
  | .publishSnapshot request => reply (publishSnapshot options state now request).1

end RackState

def helloAck (fabric : RackState) : HelloAckMessage where
  coordinatorEpoch := fabric.generations.coordinatorEpoch
  coordinatorVersion := kVersionString
  rack := fabric.rack.map (·.id)

/-- The generation is that of the publisher that is registered now. -/
def registerAck (fabric : RackState) (boot : AgentBootId) (result : MutationResult) :
    RegisterAckMessage where
  accepted := result.outcome.isAccepted
  coordinatorEpoch := fabric.generations.coordinatorEpoch
  generations := result.generationsAfter
  publicationGeneration :=
    if result.outcome.isAccepted then
      (fabric.publishers[boot]?.map (·.publicationGeneration)).getD .first
    else {}

def queryResult (limits : ResourceLimits) (fabric : RackState) (now : Timestamp)
    (query : QueryMessage) : ResultMessage where
  accepted := true
  outcome := .accepted
  generations := fabric.generations
  code := str "QUERY_RESULT"
  detail := (renderQuery fabric now query).take limits.maxStringBytes

def execute (options : CoordinatorOptions) (fabric : RackState) (session : Session)
    (now : Timestamp) : Command → Reaction
  | .hello => ⟨fabric, session, [.reply (.helloAck (helloAck fabric))]⟩
  | .register worker boot request =>
      let (registered, result) := RackState.registerPublisher options.fabric fabric now request
      { fabric := registered
        session := if result.outcome.isAccepted then ⟨some boot, some worker⟩ else session
        actions := [.reply (.registerAck (registerAck registered boot result))] }
  | .query message =>
      ⟨fabric, session, [.reply (.result (queryResult options.limits fabric now message))]⟩
  | .mutation mutation =>
      let (after, result) := fabric.submit options.fabric now mutation
      ⟨after, session, (result.map (finishMutation options)).getD []⟩
  | .heartbeat request =>
      let (after, result) := fabric.heartbeat now request
      ⟨after, session, replyResult result⟩
  | .snapshot request =>
      match RackState.publishSnapshot options.fabric fabric now request with
      | ((after, result), some snapshot) =>
          if result.outcome.isAccepted then
            -- The snapshot is a response of its own, before the result.
            ⟨after, session, .reply (.snapshotResponse snapshot) :: finishMutation options result⟩
          else ⟨after, session, replyResult result⟩
      | ((after, result), none) => ⟨after, session, replyResult result⟩

/-- What the coordinator does with a request on an open session. -/
def serve (options : CoordinatorOptions) (fabric : RackState) (session : Session)
    (now : Timestamp) (request : Request) : Reaction :=
  match admitRequest fabric session request with
  | .error refusal => ⟨fabric, session, [.reply (.error ⟨refusal.error, refusal.detail⟩)]⟩
  | .ok command => execute options fabric session now command

/-- A reply that cannot be encoded within the bounds is not sent. -/
def send (limits : ResourceLimits) (correlation : UInt64) : Action → List Response
  | .persist => []
  | .reply message =>
      if (Response.encode limits ⟨correlation, message⟩).isSome then [⟨correlation, message⟩]
      else []

/-- The response frames that a request is answered with. -/
def responses (options : CoordinatorOptions) (fabric : RackState) (session : Session)
    (now : Timestamp) (request : Request) : List Response :=
  (serve options fabric session now request).actions.flatMap
    (send options.limits request.correlation)

end RackFabric
