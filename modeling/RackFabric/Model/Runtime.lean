import RackFabric.Library.Execution
import RackFabric.Model.Administer

/-! The runtime as a machine: a step is one public mutation at one clock reading. -/
namespace RackFabric

inductive Mutation where
  | registerPublisher (request : RegisterPublisherRequest)
  | declareRack (request : DeclareRackRequest)
  | publishMember (request : PublishMemberRequest)
  | publishRelationship (request : PublishRelationshipRequest)
  | publishFailureDomain (request : PublishFailureDomainRequest)
  | publishPowerEnvelope (request : PublishPowerEnvelopeRequest)
  | publishCoolingEnvelope (request : PublishCoolingEnvelopeRequest)
  | publishHealth (request : PublishHealthRequest)
  | publishCapability (request : PublishCapabilityRequest)
  | withdrawEvidence (request : WithdrawEvidenceRequest)
  | withdrawRelationship (request : WithdrawRelationshipRequest)
  | markUnavailable (request : MarkUnavailableRequest)
  | retireMember (request : RetireMemberRequest)
  | retireRack (request : RetireRackRequest)
  | revalidateMembers (request : RevalidateMembersRequest)
  | fencePublisher (request : FencePublisherRequest)
  | heartbeat (request : HeartbeatRequest)
  /-- The clock readings of the fences that the expiry makes. -/
  | expirePublishers (later : AgentBootId → Timestamp)
  | publishSnapshot (request : SnapshotRequest)

structure Input where
  now : Timestamp := ⟨1000⟩
  mutation : Mutation

/-- The boot that a mutation is submitted by, when its authority carries one. -/
def Mutation.submittedBy : Mutation → Option AgentBootId
  | .registerPublisher request => request.boot
  | .declareRack request => request.authority.boot
  | .publishMember request => request.authority.boot
  | .publishRelationship request => request.authority.boot
  | .publishFailureDomain request => request.authority.boot
  | .publishPowerEnvelope request => request.authority.boot
  | .publishCoolingEnvelope request => request.authority.boot
  | .publishHealth request => request.authority.boot
  | .publishCapability request => request.authority.boot
  | .withdrawEvidence request => request.authority.boot
  | .withdrawRelationship request => request.authority.boot
  | .markUnavailable request => request.authority.boot
  | .retireMember request => request.authority.boot
  | .retireRack request => request.authority.boot
  | .revalidateMembers request => request.authority.boot
  | .fencePublisher _ => none
  | .heartbeat request => request.authority.boot
  | .expirePublishers _ => none
  | .publishSnapshot request => request.authority.boot

namespace RackState

/-- Expiry returns a count and no outcome. -/
def perform (options : RackFabricOptions) (state : RackState) (input : Input) :
    RackState × Option MutationOutcome :=
  let reply := fun (result : RackState × MutationResult) => (result.1, some result.2.outcome)
  match input.mutation with
  | .registerPublisher request => reply (registerPublisher options state input.now request)
  | .declareRack request => reply (state.declareRack input.now request)
  | .publishMember request => reply (publishMember options state request)
  | .publishRelationship request => reply (publishRelationship options state request)
  | .publishFailureDomain request => reply (publishFailureDomain options state request)
  | .publishPowerEnvelope request => reply (state.publishPowerEnvelope input.now request)
  | .publishCoolingEnvelope request => reply (state.publishCoolingEnvelope input.now request)
  | .publishHealth request => reply (state.publishHealth request)
  | .publishCapability request => reply (publishCapability options state request)
  | .withdrawEvidence request => reply (state.withdrawEvidence request)
  | .withdrawRelationship request => reply (state.withdrawRelationship request)
  | .markUnavailable request => reply (state.markUnavailable request)
  | .retireMember request => reply (state.retireMember request)
  | .retireRack request => reply (state.retireRack input.now request)
  | .revalidateMembers request => reply (state.revalidateMembers request)
  | .fencePublisher request => reply (state.fencePublisher input.now request)
  | .heartbeat request => reply (state.heartbeat input.now request)
  | .expirePublishers later => (state.expirePublishers input.now later, none)
  | .publishSnapshot request => reply (publishSnapshot options state input.now request).1

def step (options : RackFabricOptions) (state : RackState) (input : Input) : RackState :=
  (state.perform options input).1

/-- The states of an instance that started fresh and ran some mutations. -/
def Reachable (options : RackFabricOptions) (state : RackState) : Prop :=
  ∃ inputs, Execution.run (step options) (fresh options) inputs = state

end RackState

end RackFabric
