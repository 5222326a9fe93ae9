import RackFabric.Model.Administer
import RackFabric.Properties.Retirement

/-! What each mutation has checked by the time it commits. -/
namespace RackFabric
open Std SecondaryIndex Reachability Relation

@[simp] theorem clearRetired_key (record : MemberRecord) :
    (RackState.clearRetired record).key = record.key := by
  unfold RackState.clearRetired
  split <;> rfl

@[simp] theorem clearRetired_lifecycle (record : MemberRecord) :
    (RackState.clearRetired record).lifecycle = record.lifecycle := by
  unfold RackState.clearRetired
  split <;> rfl

@[simp] theorem clearRetired_parent (record : MemberRecord) :
    (RackState.clearRetired record).parent = record.parent := by
  unfold RackState.clearRetired
  split <;> rfl

@[simp] theorem clearRetired_failureDomains (record : MemberRecord) :
    (RackState.clearRetired record).failureDomains = record.failureDomains := by
  unfold RackState.clearRetired
  split <;> rfl

@[simp] theorem clearRetired_powerDomain (record : MemberRecord) :
    (RackState.clearRetired record).powerDomain = record.powerDomain := by
  unfold RackState.clearRetired
  split <;> rfl

@[simp] theorem clearRetired_coolingDomain (record : MemberRecord) :
    (RackState.clearRetired record).coolingDomain = record.coolingDomain := by
  unfold RackState.clearRetired
  split <;> rfl

@[simp] theorem clearRetired_switchDomain (record : MemberRecord) :
    (RackState.clearRetired record).switchDomain = record.switchDomain := by
  unfold RackState.clearRetired
  split <;> rfl

@[simp] theorem clearRetired_generation (record : MemberRecord) :
    (RackState.clearRetired record).generation = record.generation := by
  unfold RackState.clearRetired
  split <;> rfl

@[simp] theorem clearRetired_ownerBoot (record : MemberRecord) :
    (RackState.clearRetired record).ownerBoot = record.ownerBoot := by
  unfold RackState.clearRetired
  split <;> rfl

namespace RackState

@[simp] theorem ownerAfter_boot (token : AuthorityToken) (publisher : Option PublisherRef)
    (worker : Option WorkerId) (boot : Option AgentBootId) :
    (ownerAfter token publisher worker boot).2 = token.boot.or boot := by
  unfold ownerAfter
  cases token.boot <;> rfl

def Admits {α : Type} (state : RackState) (token : AuthorityToken)
    (check : Option PublisherRef → Except Refusal α) : Prop :=
  ∃ publisher value, state.checkAuthority token true = .ok publisher ∧
    check publisher = .ok value

/-! publish_member -/

structure MemberAdmission (options : RackFabricOptions) (state : RackState)
    (publisher : Option PublisherRef) (request : PublishMemberRequest) (record : MemberRecord) :
    Prop where
  valid : validateMemberRecord request.record options.limits = none
  replaces : ∀ {existing : MemberRecord}, state.members[request.record.key]? = some existing →
    admitOverMember existing request = .ok ()
  references : checkReferences state.toRackGraph (clearRetired request.record) = .ok ()
  stored : ∃ target owner,
    owner = ownerAfter request.authority publisher request.record.ownerWorker
      request.record.ownerBoot ∧
    record = { clearRetired request.record with
      generation := target
      ownerWorker := owner.1
      ownerBoot := owner.2
      publicationGeneration := (publisher.map (·.record.publicationGeneration)).getD
        request.record.publicationGeneration }

variable {options : RackFabricOptions} {state : RackState} {publisher : Option PublisherRef}

section Member
variable {request : PublishMemberRequest} {record : MemberRecord}

theorem memberAdmission (h : admitMember options state publisher request = .ok record) :
    MemberAdmission options state publisher request record := by
  unfold admitMember at h
  simp only [bind_eq_ok, refuseIf_eq_ok, refuseSome_eq_ok, require_eq_ok, exists_and_left,
    exists_const, pure_eq_ok] at h
  obtain ⟨hvalid, -, -, ⟨⟩, hover, ⟨⟩, hreferences, target, -, rfl⟩ := h
  have hworker : (clearRetired request.record).ownerWorker = request.record.ownerWorker := by
    unfold clearRetired
    split <;> rfl
  have hpublication : (clearRetired request.record).publicationGeneration =
      request.record.publicationGeneration := by
    unfold clearRetired
    split <;> rfl
  refine ⟨hvalid, fun hfound => ?_, hreferences, target, _, rfl, ?_⟩
  · rw [hfound] at hover
    exact hover
  · rw [hworker, hpublication, clearRetired_ownerBoot]

namespace MemberAdmission
variable (h : MemberAdmission options state publisher request record)
include h

theorem key : record.key = request.record.key := by
  obtain ⟨target, owner, -, rfl⟩ := h.stored
  exact clearRetired_key _

theorem lifecycle : record.lifecycle = request.record.lifecycle := by
  obtain ⟨target, owner, -, rfl⟩ := h.stored
  exact clearRetired_lifecycle _

theorem parent : record.parent = request.record.parent := by
  obtain ⟨target, owner, -, rfl⟩ := h.stored
  exact clearRetired_parent _

theorem failureDomains : record.failureDomains = request.record.failureDomains := by
  obtain ⟨target, owner, -, rfl⟩ := h.stored
  exact clearRetired_failureDomains _

/-- A record that is published as retired carries no evidence. -/
theorem cleared (hretired : record.lifecycle = .retired) :
    record.health.hasEvidence = false ∧ record.readiness.hasEvidence = false ∧
      record.reachability.hasEvidence = false := by
  have hlife := h.lifecycle.symm.trans hretired
  obtain ⟨target, owner, -, rfl⟩ := h.stored
  simp [clearRetired, hlife, Observation.hasEvidence]

theorem not_revived {existing : MemberRecord}
    (hfound : state.members[request.record.key]? = some existing)
    (hretired : existing.lifecycle = .retired) : record.lifecycle = .retired := by
  have hover := h.replaces hfound
  unfold admitOverMember at hover
  rw [refuseIf_bind_eq_ok] at hover
  rw [h.lifecycle]
  simpa [hretired] using hover.1

theorem not_conflicting {existing : MemberRecord}
    (hfound : state.members[request.record.key]? = some existing) :
    ownerConflict existing.ownerBoot request.authority = false := by
  have hover := h.replaces hfound
  unfold admitOverMember at hover
  rw [refuseIf_bind_eq_ok, refuseIf_bind_eq_ok] at hover
  exact hover.2.1

theorem domain_mem {domain : FailureDomainId} (hdomain : domain ∈ record.failureDomains) :
    domain ∈ state.failureDomains := by
  have hreferences := h.references
  unfold checkReferences at hreferences
  simp only [bind_eq_ok] at hreferences
  obtain ⟨⟨⟩, -, ⟨⟩, hdomains, -⟩ := hreferences
  have hcheck := forM_eq_ok.mp hdomains domain (by
    rw [clearRetired_failureDomains, ← h.failureDomains]
    exact hdomain)
  simpa using hcheck

theorem parent_checked {parent : MemberKey} (hparent : record.parent = some parent) :
    parent ≠ record.key ∧ parent ∈ state.members ∧
      state.containsCycle parent record.key = false := by
  have hreferences := h.references
  unfold checkReferences at hreferences
  simp only [bind_eq_ok] at hreferences
  obtain ⟨⟨⟩, hcheck, -⟩ := hreferences
  unfold checkParent at hcheck
  rw [clearRetired_parent, ← h.parent, hparent] at hcheck
  simpa [h.key] using hcheck

end MemberAdmission

end Member

/-! publish_relationship -/

structure RelationshipAdmission (state : RackState) (publisher : Option PublisherRef)
    (request : PublishRelationshipRequest) (record : RelationshipRecord) : Prop where
  valid : validateEvidence request.record.toObservation = none
  capacity : ∀ {capacity : Quantity}, request.record.capacity = some capacity →
    validateQuantity capacity capacity.unit = none
  distinct : record.key.source ≠ record.key.target
  endpoints : checkEndpoints state.toRackGraph record.key = .ok ()
  replaces : ∀ {existing : RelationshipRecord}, state.relationships[record.key]? = some existing →
    ownerConflict existing.ownerBoot request.authority = false
  stored : ∃ owner,
    owner = ownerAfter request.authority publisher request.record.ownerWorker
      request.record.ownerBoot ∧
    state.generations.topology.advance = some record.generation ∧
    record = { request.record with
      key := request.record.key.canonical
      generation := record.generation
      ownerWorker := owner.1
      ownerBoot := owner.2 }

section Relationship
variable {request : PublishRelationshipRequest} {record : RelationshipRecord}

theorem relationshipAdmission
    (h : admitRelationship options state publisher request = .ok record) :
    RelationshipAdmission state publisher request record := by
  unfold admitRelationship at h
  simp only [bind_eq_ok, refuseIf_eq_ok, refuseSome_eq_ok, require_eq_ok, exists_and_left,
    exists_const, pure_eq_ok] at h
  obtain ⟨hdistinct, hvalid, hcapacity, ⟨⟩, hendpoints, -, ⟨⟩, hover, next, hnext, rfl⟩ := h
  refine ⟨hvalid, fun hsome => ?_, by simpa using hdistinct, hendpoints, fun hfound => ?_, _, rfl,
    hnext, rfl⟩
  · simpa [hsome] using hcapacity
  · simp only at hfound
    rw [hfound] at hover
    unfold admitOverRelationship at hover
    exact (refuseIf_bind_eq_ok.mp hover).1

namespace RelationshipAdmission
variable (h : RelationshipAdmission state publisher request record)
include h

theorem key : record.key = request.record.key.canonical := by
  obtain ⟨owner, -, -, hrecord⟩ := h.stored
  rw [hrecord]

theorem canonical : record.key.canonical = record.key := by
  rw [h.key, RelationshipKey.canonical_canonical]

theorem endpoint_mem : record.key.source ∈ state.members ∧ record.key.target ∈ state.members := by
  have hcheck := h.endpoints
  unfold checkEndpoints at hcheck
  simp only [refuseIf_bind_eq_ok] at hcheck
  simpa using hcheck.1

theorem not_cyclic (hcontains : record.key.cls = .contains) :
    state.containsCycle record.key.source record.key.target = false ∧
      state.relationshipContainsCycle record.key.source record.key.target = false := by
  have hcheck := h.endpoints
  unfold checkEndpoints at hcheck
  simp only [refuseIf_bind_eq_ok, refuseIf_eq_ok] at hcheck
  simpa [hcontains] using hcheck.2

end RelationshipAdmission

end Relationship

/-! publish_failure_domain -/

structure FailureDomainAdmission (state : RackState) (publisher : Option PublisherRef)
    (request : PublishFailureDomainRequest) (record : FailureDomainRecord) : Prop where
  identity : (validateIdentity request.record.id.value).ok
  valid : validateEvidence request.record.toObservation = none
  parent_checked : ∀ parent ∈ record.parents,
    checkDomainParent state.toRackGraph record.id parent = .ok ()
  replaces : ∀ {existing : FailureDomainRecord}, state.failureDomains[record.id]? = some existing →
    ownerConflict existing.ownerBoot request.authority = false
  stored : ∃ owner,
    owner = ownerAfter request.authority publisher request.record.ownerWorker
      request.record.ownerBoot ∧
    state.generations.failureDomains.advance = some record.generation ∧
    record = { request.record with
      parents := (ExtTreeSet.ofList request.record.parents).toList
      generation := record.generation
      ownerWorker := owner.1
      ownerBoot := owner.2 }

section FailureDomain
variable {request : PublishFailureDomainRequest} {record : FailureDomainRecord}

theorem failureDomainAdmission
    (h : admitFailureDomain options state publisher request = .ok record) :
    FailureDomainAdmission state publisher request record := by
  unfold admitFailureDomain at h
  simp only [bind_eq_ok, refuseIf_eq_ok, refuseSome_eq_ok, require_eq_ok, exists_and_left,
    exists_const, pure_eq_ok] at h
  obtain ⟨hidentity, -, hvalid, ⟨⟩, hparents, -, ⟨⟩, hover, next, hnext, rfl⟩ := h
  refine ⟨by simpa using hidentity, hvalid, forM_eq_ok.mp hparents, fun hfound => ?_, _, rfl,
    hnext, rfl⟩
  simp only at hfound
  rw [hfound] at hover
  unfold admitOverFailureDomain at hover
  exact (refuseIf_bind_eq_ok.mp (refuseIf_bind_eq_ok.mp hover).2).1

theorem FailureDomainAdmission.id (h : FailureDomainAdmission state publisher request record) :
    record.id = request.record.id := by
  obtain ⟨owner, -, -, hrecord⟩ := h.stored
  rw [hrecord]

theorem FailureDomainAdmission.parent_safe
    (h : FailureDomainAdmission state publisher request record) {parent : FailureDomainId}
    (hparent : parent ∈ record.parents) :
    parent ∈ state.failureDomains ∧ state.domainContainsCycle parent record.id = false := by
  have hcheck := h.parent_checked parent hparent
  unfold checkDomainParent at hcheck
  simp only [refuseIf_bind_eq_ok, refuseIf_eq_ok] at hcheck
  simpa using hcheck.2

end FailureDomain

/-! publish_power_envelope and publish_cooling_envelope -/

structure PowerEnvelopeAdmission (state : RackState) (publisher : Option PublisherRef)
    (request : PublishPowerEnvelopeRequest) (record : PowerEnvelopeRecord) : Prop where
  valid : validateEvidence request.record.toObservation = none
  limit : ∀ {limit : Quantity}, request.record.rackLimit = some limit →
    validateQuantity limit .watts = none
  draw : ∀ {draw : Quantity}, request.record.rackObservedDraw = some draw →
    validateQuantity draw draw.unit = none
  next : state.generations.power.advance = some record.generation
  stored : ∃ owner,
    owner = ownerAfter request.authority publisher request.record.ownerWorker
      request.record.ownerBoot ∧
    record = { request.record with
      generation := record.generation
      revalidationRequired := false
      ownerWorker := owner.1
      ownerBoot := owner.2 }

theorem powerEnvelopeAdmission {request : PublishPowerEnvelopeRequest}
    {record : PowerEnvelopeRecord} (h : admitPowerEnvelope state publisher request = .ok record) :
    PowerEnvelopeAdmission state publisher request record := by
  unfold admitPowerEnvelope at h
  simp only [bind_eq_ok, refuseSome_eq_ok, require_eq_ok, exists_and_left, exists_const,
    pure_eq_ok] at h
  obtain ⟨hvalid, hlimit, hdraw, -, -, next, hnext, rfl⟩ := h
  refine ⟨hvalid, fun hsome => ?_, fun hsome => ?_, hnext, _, rfl, rfl⟩
  · simpa [hsome] using hlimit
  · simpa [hsome] using hdraw

structure CoolingEnvelopeAdmission (state : RackState) (publisher : Option PublisherRef)
    (request : PublishCoolingEnvelopeRequest) (record : CoolingEnvelopeRecord) : Prop where
  valid : validateEvidence request.record.toObservation = none
  zone_checked : ∀ zone ∈ request.record.zones, checkZone state.toRackGraph zone = .ok ()
  next : state.generations.cooling.advance = some record.generation
  stored : ∃ owner,
    owner = ownerAfter request.authority publisher request.record.ownerWorker
      request.record.ownerBoot ∧
    record = { request.record with
      zones := request.record.zones.insertionSort fun left right =>
        (compare left.zone right.zone).isLE
      generation := record.generation
      revalidationRequired := false
      ownerWorker := owner.1
      ownerBoot := owner.2 }

theorem coolingEnvelopeAdmission {request : PublishCoolingEnvelopeRequest}
    {record : CoolingEnvelopeRecord}
    (h : admitCoolingEnvelope state publisher request = .ok record) :
    CoolingEnvelopeAdmission state publisher request record := by
  unfold admitCoolingEnvelope at h
  simp only [bind_eq_ok, refuseSome_eq_ok, require_eq_ok, exists_and_left, exists_const,
    pure_eq_ok] at h
  obtain ⟨hvalid, ⟨⟩, hzones, -, -, next, hnext, rfl⟩ := h
  exact ⟨hvalid, forM_eq_ok.mp hzones, hnext, _, rfl, rfl⟩

/-- The zones are only sorted. -/
theorem CoolingEnvelopeAdmission.zones {request : PublishCoolingEnvelopeRequest}
    {record : CoolingEnvelopeRecord}
    (h : CoolingEnvelopeAdmission state publisher request record) :
    record.zones.Perm request.record.zones := by
  obtain ⟨owner, -, hrecord⟩ := h.stored
  rw [hrecord]
  exact List.perm_insertionSort _ _

/-! The mutations of one published member. -/

theorem findMember_ok {member : MemberKey} {existing : MemberRecord}
    (h : state.findMember member = .ok existing) : state.members[member]? = some existing := by
  simpa [findMember] using h

theorem ownedMember_ok {token : AuthorityToken} {member : MemberKey} {existing : MemberRecord}
    (h : state.ownedMember token member = .ok existing) :
    state.members[member]? = some existing ∧ ownerConflict existing.ownerBoot token = false := by
  unfold ownedMember at h
  simp only [bind_eq_ok, refuseIf_eq_ok, exists_and_left, exists_const, pure_eq_ok] at h
  obtain ⟨found, hfound, howner, rfl⟩ := h
  exact ⟨findMember_ok hfound, howner⟩

/-- Only the two generations move. -/
theorem nextRecord_ok {record next : MemberRecord} {subject : Str}
    (h : nextRecord publisher record subject = .ok next) :
    next = { record with
      generation := next.generation, publicationGeneration := next.publicationGeneration } := by
  unfold nextRecord at h
  simp only [bind_eq_ok, require_eq_ok, pure_eq_ok] at h
  obtain ⟨generation, -, rfl⟩ := h
  rfl

theorem admitHealth_ok {request : PublishHealthRequest} {existing record : MemberRecord}
    (h : admitHealth state publisher request = .ok (existing, record)) :
    state.members[request.member]? = some existing ∧
      ownerConflict existing.ownerBoot request.authority = false ∧
      record = { withHealth existing request with
        generation := record.generation
        publicationGeneration := record.publicationGeneration } := by
  unfold admitHealth at h
  simp only [bind_eq_ok, refuseSome_eq_ok, exists_and_left, exists_const, pure_eq_ok,
    Prod.mk.injEq] at h
  obtain ⟨found, hfound, ⟨⟩, -, -, -, next, hnext, rfl, rfl⟩ := h
  exact ⟨(ownedMember_ok hfound).1, (ownedMember_ok hfound).2, nextRecord_ok hnext⟩

theorem admitCapability_ok {request : PublishCapabilityRequest} {existing record : MemberRecord}
    (h : admitCapability options state publisher request = .ok (existing, record)) :
    state.members[request.member]? = some existing ∧
      ownerConflict existing.ownerBoot request.authority = false ∧
      ∃ requested, request.capability = some requested ∧ record = { existing with
        capabilities :=
          putCapability { requested with revalidationRequired := false } existing.capabilities
        generation := record.generation
        publicationGeneration := record.publicationGeneration } := by
  unfold admitCapability at h
  simp only [bind_eq_ok, refuseIf_eq_ok, refuseSome_eq_ok, require_eq_ok, exists_and_left,
    exists_const, pure_eq_ok, Prod.mk.injEq] at h
  obtain ⟨found, hfound, requested, hrequested, -, -, -, -, -, next, hnext, rfl, rfl⟩ := h
  exact ⟨(ownedMember_ok hfound).1, (ownedMember_ok hfound).2, requested, hrequested,
    nextRecord_ok hnext⟩

theorem admitWithdrawal_ok {request : WithdrawEvidenceRequest} {existing record : MemberRecord}
    (h : admitWithdrawal state publisher request = .ok (existing, record)) :
    state.members[request.member]? = some existing ∧
      ownerConflict existing.ownerBoot request.authority = false ∧
      record = { withdrawn existing request.scope with
        generation := record.generation
        publicationGeneration := record.publicationGeneration } := by
  unfold admitWithdrawal at h
  simp only [bind_eq_ok, pure_eq_ok, Prod.mk.injEq] at h
  obtain ⟨found, hfound, next, hnext, rfl, rfl⟩ := h
  exact ⟨(ownedMember_ok hfound).1, (ownedMember_ok hfound).2, nextRecord_ok hnext⟩

theorem admitUnavailable_ok {request : MarkUnavailableRequest} {existing record : MemberRecord}
    (h : admitUnavailable state request = .ok (existing, record)) :
    state.members[request.member]? = some existing ∧
      ownerConflict existing.ownerBoot request.authority = false ∧
      existing.lifecycle ≠ .retired ∧
      record = { existing with
        lifecycle := .unavailable, revalidationRequired := true
        revalidationReason := request.reason, generation := record.generation } := by
  unfold admitUnavailable at h
  simp only [bind_eq_ok, refuseIf_eq_ok, require_eq_ok, exists_and_left, exists_const, pure_eq_ok,
    Prod.mk.injEq] at h
  obtain ⟨found, hfound, hretired, -, next, -, rfl, rfl⟩ := h
  exact ⟨(ownedMember_ok hfound).1, (ownedMember_ok hfound).2, by simpa using hretired, rfl⟩

theorem admitRetirement_ok {request : RetireMemberRequest} {record : MemberRecord}
    (h : admitRetirement state request = .ok record) :
    ∃ existing, state.members[request.member]? = some existing ∧
      existing.lifecycle ≠ .retired ∧
      existing.generation.next = some record.generation ∧
      record = { retiredRecord existing with generation := record.generation } := by
  unfold admitRetirement at h
  simp only [bind_eq_ok, refuseIf_eq_ok, require_eq_ok, exists_and_left, exists_const,
    pure_eq_ok] at h
  obtain ⟨existing, hfound, hretired, next, hnext, rfl⟩ := h
  exact ⟨existing, findMember_ok hfound, by simpa using hretired, hnext, rfl⟩

theorem admitRackRetirement_ok {request : RetireRackRequest} {rack : RackRecord}
    {next : RackGeneration}
    (h : admitRackRetirement state request = .ok (rack, publisher, next)) :
    state.checkAuthority request.authority true = .ok publisher := by
  unfold admitRackRetirement at h
  simp only [bind_eq_ok, refuseIf_eq_ok, require_eq_ok, exists_and_left, exists_const, pure_eq_ok,
    Prod.mk.injEq] at h
  obtain ⟨_, -, -, -, found, hauthority, _, -, -, rfl, -⟩ := h
  exact hauthority

theorem admitRelationshipWithdrawal_ok {request : WithdrawRelationshipRequest}
    (h : admitRelationshipWithdrawal state request = .ok ()) :
    ∃ existing, state.relationships[request.key.canonical]? = some existing ∧
      ownerConflict existing.ownerBoot request.authority = false := by
  unfold admitRelationshipWithdrawal at h
  simpa only [require_bind_eq_ok, refuseIf_eq_ok] using h

theorem admitFence_ok {request : FencePublisherRequest} {boot : AgentBootId}
    {publisher : PublisherRecord} (h : admitFence state request = .ok (boot, publisher)) :
    state.publishers[boot]? = some publisher := by
  unfold admitFence at h
  simp only [bind_eq_ok, refuseIf_eq_ok, require_eq_ok, exists_and_left, exists_const, pure_eq_ok,
    Prod.mk.injEq] at h
  obtain ⟨named, -, -, found, hfound, -, rfl, rfl⟩ := h
  exact hfound

theorem boot_of_admitFence {request : FencePublisherRequest} {boot : AgentBootId}
    {publisher : PublisherRecord} (h : admitFence state request = .ok (boot, publisher)) :
    request.boot = some boot := by
  unfold admitFence at h
  simp only [bind_eq_ok, refuseIf_eq_ok, require_eq_ok, exists_and_left, exists_const, pure_eq_ok,
    Prod.mk.injEq] at h
  obtain ⟨named, hnamed, -, found, -, -, rfl, rfl⟩ := h
  exact hnamed

end RackState

end RackFabric
