import RackFabric.Properties.Effects

/-! The graph of every reachable state is well formed. -/
namespace RackFabric
open Std SecondaryIndex Reachability Relation RackGraph RackState

variable {options : RackFabricOptions} {state : RackState}

namespace RackGraph

theorem WellFormed.enrolled (h : state.WellFormed) {publisher : Option PublisherRef}
    {request : PublishMemberRequest} {record : MemberRecord}
    (hadmitted : admitMember options state publisher request = .ok record) :
    (state.storeMember record.key state.members[record.key]? record).WellFormed := by
  have hchecked := memberAdmission hadmitted
  refine h.storeMember rfl (fun parent hparent => ?_) fun domain => hchecked.domain_mem
  obtain ⟨-, hmem, hcycle⟩ := hchecked.parent_checked hparent
  exact ⟨hmem, not_path_of_containsCycle hcycle⟩

theorem WellFormed.linked (h : state.WellFormed) {publisher : Option PublisherRef}
    {request : PublishRelationshipRequest} {record : RelationshipRecord}
    (hadmitted : admitRelationship options state publisher request = .ok record) :
    (state.storeRelationship state.relationships[record.key]? record).WellFormed := by
  have hchecked := relationshipAdmission hadmitted
  refine h.storeRelationship hchecked.canonical hchecked.distinct hchecked.endpoint_mem.1
    hchecked.endpoint_mem.2 fun hcontains hpath => ?_
  have hcycle := (hchecked.not_cyclic hcontains).2
  rw [(relationshipContainsCycle_iff h.toKeyed h.touching).mpr hpath] at hcycle
  cases hcycle

theorem WellFormed.filed (h : state.WellFormed) {publisher : Option PublisherRef}
    {request : PublishFailureDomainRequest} {record : FailureDomainRecord}
    (hadmitted : admitFailureDomain options state publisher request = .ok record) :
    (state.storeFailureDomain state.failureDomains[record.id]? record).WellFormed := by
  refine h.storeFailureDomain fun parent hparent => ?_
  obtain ⟨hmem, hcycle⟩ := (failureDomainAdmission hadmitted).parent_safe hparent
  refine ⟨hmem, fun hpath => ?_⟩
  rw [domainContainsCycle_iff.mpr hpath] at hcycle
  cases hcycle

theorem WellFormed.not_own_parent {graph : RackGraph} (h : graph.WellFormed) {key : MemberKey}
    {record : MemberRecord} (hfound : graph.members[key]? = some record) :
    record.parent ≠ some key :=
  fun hparent => h.parents_acyclic.irrefl key (parentEdge_iff.mpr ⟨record, hfound, hparent⟩)

structure Revision (graph : RackGraph) (key : MemberKey) (existing record : MemberRecord) :
    Prop where
  found : graph.members[key]? = some existing
  key : record.key = key
  parent : record.parent = existing.parent
  failureDomains : record.failureDomains = existing.failureDomains
  ownerBoot : record.ownerBoot = existing.ownerBoot

theorem WellFormed.revision {graph : RackGraph} (h : graph.WellFormed) {key : MemberKey}
    {existing record : MemberRecord} (hrevision : graph.Revision key existing record) :
    (graph.storeMember record.key (some existing) record).WellFormed := by
  have hkey := h.members hrevision.found
  rw [hrevision.key]
  exact h.reviseMember hrevision.found (hrevision.key.trans hkey.symm) (Or.inl hrevision.parent)
    hrevision.failureDomains

theorem Revision.parentEdge {graph : RackGraph} {key parent : MemberKey}
    {existing record : MemberRecord} (h : graph.Revision key existing record)
    (hparent : record.parent = some parent) : graph.ParentEdge key parent :=
  parentEdge_iff.mpr ⟨existing, h.found, h.parent ▸ hparent⟩

theorem revision_of_health (hkeyed : state.Keyed) {publisher : Option PublisherRef}
    {request : PublishHealthRequest} {existing record : MemberRecord}
    (hadmitted : admitHealth state publisher request = .ok (existing, record)) :
    state.Revision request.member existing record := by
  obtain ⟨hfound, -, hrecord⟩ := admitHealth_ok hadmitted
  have hkey := hkeyed.members hfound
  rw [hrecord]
  exact ⟨hfound, hkey, rfl, rfl, rfl⟩

theorem revision_of_withdrawal (hkeyed : state.Keyed) {publisher : Option PublisherRef}
    {request : WithdrawEvidenceRequest} {existing record : MemberRecord}
    (hadmitted : admitWithdrawal state publisher request = .ok (existing, record)) :
    state.Revision request.member existing record := by
  obtain ⟨hfound, -, hrecord⟩ := admitWithdrawal_ok hadmitted
  have hkey := hkeyed.members hfound
  rw [hrecord]
  cases request.scope <;> exact ⟨hfound, hkey, rfl, rfl, rfl⟩

theorem revision_of_capability (hkeyed : state.Keyed) {publisher : Option PublisherRef}
    {request : PublishCapabilityRequest} {existing record : MemberRecord}
    (hadmitted : admitCapability options state publisher request = .ok (existing, record)) :
    state.Revision request.member existing record := by
  obtain ⟨hfound, -, requested, -, hrecord⟩ := admitCapability_ok hadmitted
  have hkey := hkeyed.members hfound
  rw [hrecord]
  exact ⟨hfound, hkey, rfl, rfl, rfl⟩

theorem revision_of_unavailable (hkeyed : state.Keyed) {request : MarkUnavailableRequest}
    {existing record : MemberRecord}
    (hadmitted : admitUnavailable state request = .ok (existing, record)) :
    state.Revision request.member existing record := by
  obtain ⟨hfound, -, -, hrecord⟩ := admitUnavailable_ok hadmitted
  have hkey := hkeyed.members hfound
  rw [hrecord]
  exact ⟨hfound, hkey, rfl, rfl, rfl⟩

/-- The retired member itself is not detached from its parent. -/
theorem WellFormed.trimmed_self {graph : RackGraph} (h : graph.WellFormed) {member : MemberKey}
    {existing : MemberRecord} (hfound : graph.members[member]? = some existing) :
    (graph.trimmed member).members[member]? = some existing := by
  rw [members_trimmed, hfound, Option.map_some, detached_of_other (h.not_own_parent hfound)]

theorem revision_of_retirement (h : state.WellFormed) {request : RetireMemberRequest}
    {record : MemberRecord} (hadmitted : admitRetirement state request = .ok record) :
    ∃ existing, state.members[request.member]? = some existing ∧
      (state.trimmed request.member).Revision request.member existing record := by
  obtain ⟨existing, hfound, -, -, hrecord⟩ := admitRetirement_ok hadmitted
  have hkey := h.members hfound
  refine ⟨existing, hfound, ?_⟩
  rw [hrecord]
  exact ⟨h.trimmed_self hfound, hkey, rfl, rfl, rfl⟩

theorem WellFormed.retired (h : state.WellFormed) {request : RetireMemberRequest}
    {record : MemberRecord} (hadmitted : admitRetirement state request = .ok record) :
    (retireInGraph state.toRackGraph request.member record).WellFormed := by
  obtain ⟨existing, -, hrevision⟩ := revision_of_retirement h hadmitted
  rw [retireInGraph_eq, hrevision.found]
  exact (h.maintained (maintained_trimmed _ request.member)).revision hrevision

theorem WellFormed.effect {mutation : Mutation} {after : RackGraph} (h : state.WellFormed)
    (heffect : GraphEffect options state mutation after) : after.WellFormed := by
  cases heffect with
  | maintained _ hsteps => exact h.maintained hsteps
  | enrolled _ hadmitted => exact h.enrolled hadmitted
  | linked _ hadmitted => exact h.linked hadmitted
  | filed _ hadmitted => exact h.filed hadmitted
  | observed _ hadmitted => exact h.revision (revision_of_health h.toKeyed hadmitted)
  | withdrawn _ hadmitted => exact h.revision (revision_of_withdrawal h.toKeyed hadmitted)
  | retired _ hadmitted => exact h.retired hadmitted

end RackGraph

namespace RackState

theorem wellFormed_step (state : RackState) (input : Input) (h : state.WellFormed) :
    (step options state input).WellFormed :=
  h.effect (step_effect h.toKeyed input)

theorem wellFormed_run (options : RackFabricOptions) (inputs : List Input) :
    (Execution.run (step options) (fresh options) inputs).WellFormed :=
  Execution.invariant (step options) wellFormed_step WellFormed.empty inputs

/-- Every run of mutations leaves a graph whose references all lead somewhere
and whose three relations have no cycle. -/
theorem integrity_of_run (options : RackFabricOptions) (inputs : List Input) :
    (Execution.run (step options) (fresh options) inputs).Integrity :=
  (wellFormed_run options inputs).toIntegrity

theorem parentsClosed_of_integrity {graph : RackGraph} (h : graph.Integrity) :
    graph.ParentsClosed := by
  intro child parent hparent
  obtain ⟨record, hfound, hrecord⟩ := parentEdge_iff.mp hparent
  exact h.parent_mem hfound hrecord

end RackState

/-! A small rack, whose runs show where a property fails. -/
namespace Scenario

def defaults : RackFabricOptions := {}

def rack : RackId := .ofText (str "rack-a")

def operator : AuthorityToken := { coordinatorEpoch := .first, rack := some rack }

def process (boot : AgentBootId) : AuthorityToken := { operator with boot := some boot }

def bootA : AgentBootId := .ofText (str "boot-a")

def bootB : AgentBootId := .ofText (str "boot-b")

def node (name : String) : MemberKey := ⟨.node, str name⟩

def declareRack : Input where
  mutation := .declareRack { authority := operator, epoch := some (.ofText (str "epoch-1")) }

def registerPublisher (boot : AgentBootId) : Input where
  mutation := .registerPublisher
    { rack := some rack, worker := some (.ofText (str "worker")), boot := some boot
      coordinatorEpoch := .first }

def publishMember (token : AuthorityToken) (record : MemberRecord) : Input where
  mutation := .publishMember { authority := token, record := record }

def publishFailureDomain (name : String) (parents : List String) : Input where
  mutation := .publishFailureDomain
    { authority := operator
      record :=
        { id := .ofText (str name), kind := .powerFeed
          parents := parents.map fun parent => .ofText (str parent) } }

def run (inputs : List Input) : RackState :=
  Execution.run (step defaults) (fresh defaults) inputs

/-- What is measured holds for a minute. -/
def measured : Observation where
  provenance := .measured
  observedAt := ⟨900⟩
  ttl := 60000
  durability := .ephemeral

/-- Two linked nodes in a hierarchy of failure domains, of which a process owns the second. -/
def equippedRack : List Input :=
  [declareRack, registerPublisher bootA, publishFailureDomain "grid" [],
    publishFailureDomain "feed" ["grid"],
    publishMember operator
      { key := node "a", lifecycle := .present, provenance := .reported, observedAt := ⟨900⟩
        failureDomains := [.ofText (str "feed")]
        health := { measured with value := .healthy }
        capabilities := [{ measured with id := .ofText (str "cuda"), value := some (str "12.4") }]
        details := .node { hostName := some (str "a.local"), memoryBytes := some 1024 } },
    publishMember (process bootA)
      { key := node "b", parent := some (node "a"), failureDomains := [.ofText (str "grid")] },
    { mutation := .publishRelationship
        { authority := operator
          record :=
            { key := ⟨.connectedTo, node "a", node "b"⟩
              capacity := some { measured with unit := .gigabitsPerSecond } } } },
    { mutation := .publishPowerEnvelope
        { authority := operator
          record := { rackLimit := some { measured with value := ⟨0x408F400000000000⟩ } } } }]

end Scenario

end RackFabric
