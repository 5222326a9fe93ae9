import RackFabric.Properties.Effects

/-! What a step can do to the whole state, said once. -/
namespace RackFabric
open Std RackState

def Mutation.token : Mutation → Option AuthorityToken
  | .registerPublisher _ => none
  | .declareRack request => some request.authority
  | .publishMember request => some request.authority
  | .publishRelationship request => some request.authority
  | .publishFailureDomain request => some request.authority
  | .publishPowerEnvelope request => some request.authority
  | .publishCoolingEnvelope request => some request.authority
  | .publishHealth request => some request.authority
  | .publishCapability request => some request.authority
  | .withdrawEvidence request => some request.authority
  | .withdrawRelationship request => some request.authority
  | .markUnavailable request => some request.authority
  | .retireMember request => some request.authority
  | .retireRack request => some request.authority
  | .revalidateMembers request => some request.authority
  | .fencePublisher _ => none
  | .heartbeat request => some request.authority
  | .expirePublishers _ => none
  | .publishSnapshot request => some request.authority

def Mutation.rackScoped : Mutation → Bool
  | .declareRack _ | .heartbeat _ => false
  | _ => true

theorem Mutation.submittedBy_of_token {mutation : Mutation} {token : AuthorityToken}
    (h : mutation.token = some token) : mutation.submittedBy = token.boot := by
  cases mutation <;> cases h <;> rfl

namespace RackState

section Admitted
variable (options : RackFabricOptions) (state : RackState) (now : Timestamp)
  (publisher : Option PublisherRef)

/-- What an admitted mutation stores, before its publication advances. -/
inductive Admitted : Mutation → RackState → Prop where
  | member {request : PublishMemberRequest} {record : MemberRecord}
      (hadmitted : admitMember options state publisher request = .ok record) :
      Admitted (.publishMember request) (state.commitMember record)
  | relationship {request : PublishRelationshipRequest} {record : RelationshipRecord}
      (hadmitted : admitRelationship options state publisher request = .ok record) :
      Admitted (.publishRelationship request) (state.commitRelationship record)
  | failureDomain {request : PublishFailureDomainRequest} {record : FailureDomainRecord}
      (hadmitted : admitFailureDomain options state publisher request = .ok record) :
      Admitted (.publishFailureDomain request) (state.commitFailureDomain record)
  | powerEnvelope {request : PublishPowerEnvelopeRequest} {record : PowerEnvelopeRecord}
      (hadmitted : admitPowerEnvelope state publisher request = .ok record) :
      Admitted (.publishPowerEnvelope request) (state.commitPowerEnvelope record now)
  | coolingEnvelope {request : PublishCoolingEnvelopeRequest} {record : CoolingEnvelopeRecord}
      (hadmitted : admitCoolingEnvelope state publisher request = .ok record) :
      Admitted (.publishCoolingEnvelope request) (state.commitCoolingEnvelope record now)
  | health {request : PublishHealthRequest} {existing record : MemberRecord}
      (hadmitted : admitHealth state publisher request = .ok (existing, record)) :
      Admitted (.publishHealth request) (state.commitHealth existing record)
  | capability {request : PublishCapabilityRequest} {existing record : MemberRecord}
      (hadmitted : admitCapability options state publisher request = .ok (existing, record)) :
      Admitted (.publishCapability request) (state.commitCapability existing record)
  | withdrawal {request : WithdrawEvidenceRequest} {existing record : MemberRecord}
      (hadmitted : admitWithdrawal state publisher request = .ok (existing, record)) :
      Admitted (.withdrawEvidence request) (state.commitRevision existing record)
  | relationshipWithdrawal {request : WithdrawRelationshipRequest}
      (hadmitted : admitRelationshipWithdrawal state request = .ok ()) :
      Admitted (.withdrawRelationship request)
        (state.commitRelationshipWithdrawal request.key.canonical)
  | unavailable {request : MarkUnavailableRequest} {existing record : MemberRecord}
      (hadmitted : admitUnavailable state request = .ok (existing, record)) :
      Admitted (.markUnavailable request) (state.commitRevision existing record)
  | retirement {request : RetireMemberRequest} {record : MemberRecord}
      (hadmitted : admitRetirement state request = .ok record) :
      Admitted (.retireMember request) (state.commitRetirement request.member record)
  | rackRetirement {request : RetireRackRequest} {rack : RackRecord} {next : RackGeneration}
      (hadmitted : admitRackRetirement state request = .ok (rack, publisher, next)) :
      Admitted (.retireRack request) (state.commitRackRetirement rack next now)
  | revalidation {request : RevalidateMembersRequest} {graph : RackGraph} {count : Nat}
      (hrevalidated : revalidateTargets request.authority (state.revalidationTargets request)
        state.toRackGraph 0 = (graph, .ok (count + 1))) :
      Admitted (.revalidateMembers request) { state with toRackGraph := graph }.bumpMembership
  | snapshot {request : SnapshotRequest} {snapshot : RackSnapshot}
      (hadmitted : admitSnapshot state publisher now = .ok snapshot) :
      Admitted (.publishSnapshot request) (retainSnapshot options state snapshot)

end Admitted

inductive Transition (options : RackFabricOptions) (state : RackState) (now : Timestamp) :
    Mutation → RackState → Option MutationOutcome → Prop where
  | refused {mutation : Mutation} {outcome : MutationOutcome} (hrefused : outcome ≠ .accepted) :
      Transition options state now mutation state (some outcome)
  | noted {mutation : Mutation} {token : AuthorityToken} {publisher : Option PublisherRef}
      (refusal : Refusal) (htoken : mutation.token = some token)
      (hauthority : state.checkAuthority token true = .ok publisher) :
      Transition options state now mutation (state.noteRefusal publisher refusal)
        (some refusal.outcome)
  | committed {mutation : Mutation} {token : AuthorityToken} {publisher : Option PublisherRef}
      {committed : RackState} (htoken : mutation.token = some token)
      (hauthority : state.checkAuthority token true = .ok publisher)
      (hadmitted : Admitted options state now publisher mutation committed) :
      Transition options state now mutation (committed.advancePublication publisher)
        (some .accepted)
  | stopped {request : RevalidateMembersRequest} {publisher : Option PublisherRef}
      {graph : RackGraph} {refusal : Refusal}
      (hauthority : state.checkAuthority request.authority true = .ok publisher)
      (hstopped : revalidateTargets request.authority (state.revalidationTargets request)
        state.toRackGraph 0 = (graph, .error refusal)) :
      Transition options state now (.revalidateMembers request)
        ({ state with toRackGraph := graph }.noteRefusal publisher refusal) (some refusal.outcome)
  | refreshed {request : RegisterPublisherRequest} {worker : WorkerId} {boot : AgentBootId}
      {existing : PublisherRecord}
      (hadmitted : admitRegistration options state request = .ok (worker, boot))
      (hfound : state.publishers[boot]? = some existing) :
      Transition options state now (.registerPublisher request)
        { state with
          publishers := state.publishers.insert boot
            { existing with lastSeenAt := now, state := .active } }
        (some .noChange)
  | registered {request : RegisterPublisherRequest} {worker : WorkerId} {boot : AgentBootId}
      (hadmitted : admitRegistration options state request = .ok (worker, boot))
      (hnew : state.publishers[boot]? = none) :
      Transition options state now (.registerPublisher request)
        { state with
          publishers := state.publishers.insert boot
            { worker := worker
              boot := boot
              coordinatorEpoch := state.generations.coordinatorEpoch
              publicationGeneration := .first
              state := .active
              registeredAt := now
              lastSeenAt := now
              leaseMillis := options.limits.publisherLeaseMillis
              label := request.label } }
        (some .accepted)
  | declared {request : DeclareRackRequest} {named : RackId} {epoch : RackEpochId}
      (hadmitted : admitDeclaration state request = .ok (named, epoch))
      (hnone : state.rack = none) :
      Transition options state now (.declareRack request)
        (state.commitDeclaration named epoch request.label now) (some .accepted)
  | redeclared {request : DeclareRackRequest} {named : RackId} {epoch : RackEpochId}
      {rack : RackRecord} {generation : RackGeneration}
      (hadmitted : admitDeclaration state request = .ok (named, epoch))
      (hsome : state.rack = some rack)
      (hover : admitOverRack rack named epoch request = .ok generation) :
      Transition options state now (.declareRack request)
        (state.commitRedeclaration rack epoch generation request.label now) (some .accepted)
  | beat {request : HeartbeatRequest} {found : PublisherRef}
      (hauthority : state.checkAuthority request.authority false = .ok (some found)) :
      Transition options state now (.heartbeat request)
        { state with
          publishers := state.publishers.modify found.boot fun record =>
            { record with lastSeenAt := now, state := .active } }
        (some .accepted)
  | fenced {request : FencePublisherRequest} {boot : AgentBootId} {publisher : PublisherRecord}
      (hadmitted : admitFence state request = .ok (boot, publisher)) :
      Transition options state now (.fencePublisher request)
        (state.commitFence boot publisher request.reason now) (some .accepted)
  | expired (later : AgentBootId → Timestamp) :
      Transition options state now (.expirePublishers later) (state.expirePublishers now later)
        none

variable {options : RackFabricOptions} {state : RackState} {now : Timestamp}

/-- A mutation under authority is refused, noted against its publisher, or committed. -/
theorem underAuthority_transition {α : Type} {mutation : Mutation} {token : AuthorityToken}
    {check : Option PublisherRef → Except Refusal α} (commit : α → RackState)
    {rest : α → Except Refusal (RackState × String × Str)}
    (hrest : ∀ value, ∃ code subject, rest value = .ok (commit value, code, subject))
    (htoken : mutation.token = some token)
    (hcommitted : ∀ {publisher value}, check publisher = .ok value →
      Admitted options state now publisher mutation (commit value)) :
    let result := state.underAuthority token fun publisher => check publisher >>= rest
    Transition options state now mutation result.1 (some result.2.outcome) := by
  unfold underAuthority
  cases hauthority : state.checkAuthority token true with
  | error refusal => exact .refused refusal.not_accepted
  | ok publisher =>
    cases hcheck : check publisher with
    | error refusal =>
      simp only [hcheck, bind, Except.bind]
      exact .noted refusal htoken hauthority
    | ok value =>
      obtain ⟨code, subject, hvalue⟩ := hrest value
      simp only [hcheck, bind, Except.bind, hvalue]
      exact .committed htoken hauthority (hcommitted hcheck)

theorem publishHealth_transition (request : PublishHealthRequest) :
    let result := state.publishHealth request
    Transition options state now (.publishHealth request) result.1 (some result.2.outcome) := by
  unfold publishHealth
  apply underAuthority_transition (fun revision => state.commitHealth revision.1 revision.2)
  · exact fun ⟨_, _⟩ => ⟨_, _, rfl⟩
  · rfl
  · exact .health

theorem publishCapability_transition (request : PublishCapabilityRequest) :
    let result := publishCapability options state request
    Transition options state now (.publishCapability request) result.1 (some result.2.outcome) := by
  unfold publishCapability
  apply underAuthority_transition (fun revision => state.commitCapability revision.1 revision.2)
  · exact fun ⟨_, _⟩ => ⟨_, _, rfl⟩
  · rfl
  · exact .capability

theorem withdrawEvidence_transition (request : WithdrawEvidenceRequest) :
    let result := state.withdrawEvidence request
    Transition options state now (.withdrawEvidence request) result.1 (some result.2.outcome) := by
  unfold withdrawEvidence
  apply underAuthority_transition (fun revision => state.commitRevision revision.1 revision.2)
  · exact fun ⟨_, _⟩ => ⟨_, _, rfl⟩
  · rfl
  · exact .withdrawal

theorem markUnavailable_transition (request : MarkUnavailableRequest) :
    let result := state.markUnavailable request
    Transition options state now (.markUnavailable request) result.1 (some result.2.outcome) := by
  unfold markUnavailable
  apply underAuthority_transition (fun revision => state.commitRevision revision.1 revision.2)
  · exact fun ⟨_, _⟩ => ⟨_, _, rfl⟩
  · rfl
  · exact .unavailable

theorem registerPublisher_transition (request : RegisterPublisherRequest) :
    let result := registerPublisher options state now request
    Transition options state now (.registerPublisher request) result.1
      (some result.2.outcome) := by
  unfold registerPublisher
  cases hadmitted : admitRegistration options state request with
  | error refusal => exact .refused refusal.not_accepted
  | ok pair =>
    obtain ⟨worker, boot⟩ := pair
    cases hfound : state.publishers[boot]? with
    | some existing =>
      simp only [hfound]
      exact .refreshed hadmitted hfound
    | none =>
      simp only [hfound]
      exact .registered hadmitted hfound

theorem declareRack_transition (request : DeclareRackRequest) :
    let result := state.declareRack now request
    Transition options state now (.declareRack request) result.1 (some result.2.outcome) := by
  unfold declareRack
  cases hadmitted : admitDeclaration state request with
  | error refusal => exact .refused refusal.not_accepted
  | ok pair =>
    obtain ⟨named, epoch⟩ := pair
    cases hrack : state.rack with
    | none => exact .declared hadmitted hrack
    | some rack =>
      cases hover : admitOverRack rack named epoch request with
      | error refusal =>
        simp only [hover]
        exact .refused refusal.not_accepted
      | ok generation =>
        simp only [hover]
        exact .redeclared hadmitted hrack hover

theorem retireRack_transition (request : RetireRackRequest) :
    let result := state.retireRack now request
    Transition options state now (.retireRack request) result.1 (some result.2.outcome) := by
  unfold retireRack
  cases hadmitted : admitRackRetirement state request with
  | error refusal => exact .refused refusal.not_accepted
  | ok admitted =>
    obtain ⟨rack, publisher, next⟩ := admitted
    exact .committed rfl (admitRackRetirement_ok hadmitted) (.rackRetirement hadmitted)

/-- A count that does not move means that no target was changed. -/
theorem revalidateTargets_ok {token : AuthorityToken} {targets : List MemberKey}
    {graph after : RackGraph} {revalidated count : Nat}
    (h : revalidateTargets token targets graph revalidated = (after, .ok count)) :
    revalidated ≤ count ∧ (count = revalidated → after = graph) := by
  induction targets generalizing graph revalidated with
  | nil =>
    cases h
    exact ⟨Nat.le_refl _, fun _ => rfl⟩
  | cons key targets ih =>
    unfold revalidateTargets at h
    split at h
    · cases h
    · split at h
      · cases h
      · split at h
        · exact ih h
        · split at h
          · cases h
          · obtain ⟨hle, -⟩ := ih h
            exact ⟨by omega, fun hsame => absurd hsame (by omega)⟩

theorem revalidateMembers_transition (request : RevalidateMembersRequest) :
    let result := state.revalidateMembers request
    Transition options state now (.revalidateMembers request) result.1
      (some result.2.outcome) := by
  unfold revalidateMembers
  cases hauthority : state.checkAuthority request.authority true with
  | error refusal => exact .refused refusal.not_accepted
  | ok publisher =>
    dsimp only
    split
    · exact .refused (Refusal.not_accepted _)
    · cases hresult : revalidateTargets request.authority (state.revalidationTargets request)
        state.toRackGraph 0 with
      | mk graph verdict =>
        match verdict with
        | .error refusal => exact .stopped hauthority hresult
        | .ok 0 =>
          obtain rfl := (revalidateTargets_ok hresult).2 rfl
          exact .refused (Refusal.not_accepted _)
        | .ok (count + 1) => exact .committed rfl hauthority (.revalidation hresult)

theorem fencePublisher_transition (request : FencePublisherRequest) :
    let result := state.fencePublisher now request
    Transition options state now (.fencePublisher request) result.1
      (some result.2.outcome) := by
  unfold fencePublisher
  cases hadmitted : admitFence state request with
  | error refusal => exact .refused refusal.not_accepted
  | ok pair => exact .fenced hadmitted

/-- The expiry is a sequence of fences. -/
theorem expirePublishers_induction {holds : RackState → Prop}
    (hfence : ∀ (state : RackState) (now : Timestamp) (request : FencePublisherRequest),
      holds state → holds (state.fencePublisher now request).1)
    (h : holds state) (later : AgentBootId → Timestamp) :
    holds (state.expirePublishers now later) := by
  unfold expirePublishers
  generalize state.expiredBoots now = boots
  induction boots generalizing state with
  | nil => exact h
  | cons boot boots ih => exact ih (hfence _ _ _ h)

theorem heartbeat_transition (request : HeartbeatRequest) :
    let result := state.heartbeat now request
    Transition options state now (.heartbeat request) result.1 (some result.2.outcome) := by
  unfold heartbeat
  cases hauthority : state.checkAuthority request.authority false with
  | error refusal => exact .refused refusal.not_accepted
  | ok publisher =>
    cases publisher with
    | none => exact .refused (Refusal.not_accepted _)
    | some found => exact .beat hauthority

theorem publishSnapshot_transition (request : SnapshotRequest) :
    let result := (publishSnapshot options state now request).1
    Transition options state now (.publishSnapshot request) result.1
      (some result.2.outcome) := by
  unfold publishSnapshot
  cases hauthority : state.checkAuthority request.authority true with
  | error refusal => exact .refused refusal.not_accepted
  | ok publisher =>
    cases hadmitted : admitSnapshot state publisher now with
    | error refusal =>
      simp only [hadmitted]
      exact .refused refusal.not_accepted
    | ok snapshot =>
      simp only [hadmitted]
      exact .committed rfl hauthority (.snapshot hadmitted)

theorem perform_transition (state : RackState) (input : Input) :
    Transition options state input.now input.mutation (state.perform options input).1
      (state.perform options input).2 := by
  obtain ⟨now, mutation⟩ := input
  cases mutation with
  | registerPublisher request => exact registerPublisher_transition request
  | declareRack request => exact declareRack_transition request
  | publishMember request =>
    exact underAuthority_transition state.commitMember (fun _ => ⟨_, _, rfl⟩) rfl .member
  | publishRelationship request =>
    exact underAuthority_transition state.commitRelationship (fun _ => ⟨_, _, rfl⟩) rfl
      .relationship
  | publishFailureDomain request =>
    exact underAuthority_transition state.commitFailureDomain (fun _ => ⟨_, _, rfl⟩) rfl
      .failureDomain
  | publishPowerEnvelope request =>
    exact underAuthority_transition (fun record => state.commitPowerEnvelope record now)
      (fun _ => ⟨_, _, rfl⟩) rfl .powerEnvelope
  | publishCoolingEnvelope request =>
    exact underAuthority_transition (fun record => state.commitCoolingEnvelope record now)
      (fun _ => ⟨_, _, rfl⟩) rfl .coolingEnvelope
  | publishHealth request => exact publishHealth_transition request
  | publishCapability request => exact publishCapability_transition request
  | withdrawEvidence request => exact withdrawEvidence_transition request
  | withdrawRelationship request =>
    exact underAuthority_transition
      (fun _ => state.commitRelationshipWithdrawal request.key.canonical)
      (fun _ => ⟨_, _, rfl⟩) rfl .relationshipWithdrawal
  | markUnavailable request => exact markUnavailable_transition request
  | retireMember request =>
    exact underAuthority_transition (state.commitRetirement request.member)
      (fun _ => ⟨_, _, rfl⟩) rfl .retirement
  | retireRack request => exact retireRack_transition request
  | revalidateMembers request => exact revalidateMembers_transition request
  | fencePublisher request => exact fencePublisher_transition request
  | heartbeat request => exact heartbeat_transition request
  | expirePublishers later => exact .expired later
  | publishSnapshot request => exact publishSnapshot_transition request

theorem admitDeclaration_ok {request : DeclareRackRequest} {named : RackId}
    {epoch : RackEpochId} (h : admitDeclaration state request = .ok (named, epoch)) :
    ∃ publisher, state.checkAuthority request.authority false = .ok publisher := by
  unfold admitDeclaration at h
  simp only [bind_eq_ok, refuseIf_eq_ok, require_eq_ok, exists_and_left, exists_const] at h
  obtain ⟨_, -, -, -, _, -, publisher, hauthority, -⟩ := h
  exact ⟨publisher, hauthority⟩

theorem rackScoped_of_admitted {now : Timestamp} {publisher : Option PublisherRef}
    {mutation : Mutation} {committed : RackState}
    (h : Admitted options state now publisher mutation committed) :
    mutation.rackScoped = true := by
  cases h <;> rfl

/-- An accepted mutation has passed the authority check. -/
theorem authority_of_accepted {now : Timestamp} {mutation : Mutation} {token : AuthorityToken}
    {after : RackState} {outcome : Option MutationOutcome} (htoken : mutation.token = some token)
    (haccepted : outcome = some .accepted)
    (h : Transition options state now mutation after outcome) :
    ∃ publisher, state.checkAuthority token mutation.rackScoped = .ok publisher := by
  cases h with
  | refused hrefused => exact absurd (Option.some.inj haccepted) hrefused
  | noted refusal => exact absurd (Option.some.inj haccepted) refusal.not_accepted
  | @stopped _ _ _ refusal _ _ => exact absurd (Option.some.inj haccepted) refusal.not_accepted
  | committed hsame hauthority hadmitted =>
    obtain rfl := Option.some.inj (hsame.symm.trans htoken)
    rw [rackScoped_of_admitted hadmitted]
    exact ⟨_, hauthority⟩
  | declared hadmitted | redeclared hadmitted =>
    cases htoken
    exact admitDeclaration_ok hadmitted
  | beat hauthority =>
    cases htoken
    exact ⟨_, hauthority⟩
  | refreshed | registered | fenced | expired => cases htoken

end RackState

end RackFabric
