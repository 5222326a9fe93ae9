import RackFabric.Model.Runtime
import RackFabric.Properties.Admission

/-! What a step does to the graph. Six mutations reshape it; the others leave it
alone or keep it up. -/
namespace RackFabric
open Std SecondaryIndex Reachability Relation RackGraph

namespace RackState

/-- The mutation is one of the six that reshape the graph, and it is admitted. -/
def Reshapes (options : RackFabricOptions) (state : RackState) : Mutation → Prop
  | .publishMember request =>
      state.Admits request.authority fun publisher => admitMember options state publisher request
  | .publishRelationship request =>
      state.Admits request.authority fun publisher =>
        admitRelationship options state publisher request
  | .publishFailureDomain request =>
      state.Admits request.authority fun publisher =>
        admitFailureDomain options state publisher request
  | .publishHealth request =>
      state.Admits request.authority fun publisher => admitHealth state publisher request
  | .withdrawEvidence request =>
      state.Admits request.authority fun publisher => admitWithdrawal state publisher request
  | .retireMember request =>
      state.Admits request.authority fun _ => admitRetirement state request
  | _ => False

inductive GraphEffect (options : RackFabricOptions) (state : RackState) :
    Mutation → RackGraph → Prop where
  | maintained {mutation : Mutation} {after : RackGraph}
      (hquiet : ¬ Reshapes options state mutation)
      (hsteps : ReflTransGen Upkeep state.toRackGraph after) :
      GraphEffect options state mutation after
  | enrolled {request : PublishMemberRequest} {publisher : Option PublisherRef}
      {record : MemberRecord}
      (hauthority : state.checkAuthority request.authority true = .ok publisher)
      (hadmitted : admitMember options state publisher request = .ok record) :
      GraphEffect options state (.publishMember request)
        (state.storeMember record.key state.members[record.key]? record)
  | linked {request : PublishRelationshipRequest} {publisher : Option PublisherRef}
      {record : RelationshipRecord}
      (hauthority : state.checkAuthority request.authority true = .ok publisher)
      (hadmitted : admitRelationship options state publisher request = .ok record) :
      GraphEffect options state (.publishRelationship request)
        (state.storeRelationship state.relationships[record.key]? record)
  | filed {request : PublishFailureDomainRequest} {publisher : Option PublisherRef}
      {record : FailureDomainRecord}
      (hauthority : state.checkAuthority request.authority true = .ok publisher)
      (hadmitted : admitFailureDomain options state publisher request = .ok record) :
      GraphEffect options state (.publishFailureDomain request)
        (state.storeFailureDomain state.failureDomains[record.id]? record)
  | observed {request : PublishHealthRequest} {publisher : Option PublisherRef}
      {existing record : MemberRecord}
      (hauthority : state.checkAuthority request.authority true = .ok publisher)
      (hadmitted : admitHealth state publisher request = .ok (existing, record)) :
      GraphEffect options state (.publishHealth request)
        (state.storeMember record.key (some existing) record)
  | withdrawn {request : WithdrawEvidenceRequest} {publisher : Option PublisherRef}
      {existing record : MemberRecord}
      (hauthority : state.checkAuthority request.authority true = .ok publisher)
      (hadmitted : admitWithdrawal state publisher request = .ok (existing, record)) :
      GraphEffect options state (.withdrawEvidence request)
        (state.storeMember record.key (some existing) record)
  | retired {request : RetireMemberRequest} {publisher : Option PublisherRef}
      {record : MemberRecord}
      (hauthority : state.checkAuthority request.authority true = .ok publisher)
      (hadmitted : admitRetirement state request = .ok record) :
      GraphEffect options state (.retireMember request)
        (retireInGraph state.toRackGraph request.member record)

/-! The bookkeeping of publishers does not reach the graph. -/

variable {options : RackFabricOptions} {state : RackState}

@[simp] theorem toRackGraph_advancePublication (publisher : Option PublisherRef) :
    (state.advancePublication publisher).toRackGraph = state.toRackGraph := by
  cases publisher <;> rfl

@[simp] theorem toRackGraph_noteRefusal (publisher : Option PublisherRef) (refusal : Refusal) :
    (state.noteRefusal publisher refusal).toRackGraph = state.toRackGraph := by
  cases publisher with
  | none => rfl
  | some publisher =>
    simp only [noteRefusal]
    split <;> rfl

theorem generations_advancePublication (publisher : Option PublisherRef) :
    (state.advancePublication publisher).generations = state.generations := by
  cases publisher <;> rfl

theorem generations_noteRefusal (publisher : Option PublisherRef) (refusal : Refusal) :
    (state.noteRefusal publisher refusal).generations = state.generations := by
  cases publisher with
  | none => rfl
  | some found =>
    simp only [noteRefusal]
    split <;> rfl

theorem outcome_refuse (refusal : Refusal) : (state.refuse refusal).2.outcome = refusal.outcome :=
  rfl

/-- A mutation under authority commits exactly when it is admitted. -/
theorem underAuthority_cases {α : Type} {token : AuthorityToken}
    (check : Option PublisherRef → Except Refusal α) (commit : α → RackState)
    {rest : α → Except Refusal (RackState × String × Str)}
    (hrest : ∀ value, ∃ code subject, rest value = .ok (commit value, code, subject)) :
    let result := state.underAuthority token fun publisher => check publisher >>= rest
    (¬ state.Admits token check ∧ result.2.outcome ≠ .accepted ∧
      (result.1 = state ∨ ∃ publisher refusal, state.checkAuthority token true = .ok publisher ∧
        result.1 = state.noteRefusal publisher refusal)) ∨
    ∃ publisher value, state.checkAuthority token true = .ok publisher ∧
      check publisher = .ok value ∧ result.2.outcome = .accepted ∧
      result.1 = (commit value).advancePublication publisher := by
  unfold underAuthority
  cases hauthority : state.checkAuthority token true with
  | error refusal =>
    refine Or.inl ⟨?_, refusal.not_accepted, Or.inl rfl⟩
    rintro ⟨publisher, value, hok, -⟩
    rw [hauthority] at hok
    cases hok
  | ok publisher =>
    cases hcheck : check publisher with
    | error refusal =>
      refine Or.inl ⟨?_, ?_, Or.inr ⟨publisher, refusal, rfl, ?_⟩⟩
      · rintro ⟨found, value, hok, hvalue⟩
        rw [hauthority] at hok
        cases hok
        rw [hcheck] at hvalue
        cases hvalue
      · simpa [hcheck, bind, Except.bind, outcome_refuse] using refusal.not_accepted
      · simp [hcheck, bind, Except.bind, refuse]
    | ok value =>
      obtain ⟨code, subject, hvalue⟩ := hrest value
      refine Or.inr ⟨publisher, value, rfl, hcheck, ?_, ?_⟩
      · simp [hcheck, bind, Except.bind, hvalue, accept, makeResult]
      · simp [hcheck, bind, Except.bind, hvalue, accept]

theorem underAuthority_accepted_iff {α : Type} {token : AuthorityToken}
    {check : Option PublisherRef → Except Refusal α} (commit : α → RackState)
    {rest : α → Except Refusal (RackState × String × Str)}
    (hrest : ∀ value, ∃ code subject, rest value = .ok (commit value, code, subject)) :
    some (state.underAuthority token fun publisher => check publisher >>= rest).2.outcome =
        some MutationOutcome.accepted ↔
      state.Admits token check := by
  rw [Option.some.injEq]
  rcases underAuthority_cases check commit hrest with
    ⟨hnot, houtcome, -⟩ | ⟨publisher, value, hauthority, hok, houtcome, -⟩
  · exact iff_of_false houtcome hnot
  · exact iff_of_true houtcome ⟨publisher, value, hauthority, hok⟩

/-- What an admitted mutation commits. -/
theorem committed_of_admits {α : Type} {token : AuthorityToken}
    {check : Option PublisherRef → Except Refusal α} (commit : α → RackState)
    {rest : α → Except Refusal (RackState × String × Str)}
    (hrest : ∀ value, ∃ code subject, rest value = .ok (commit value, code, subject))
    (h : state.Admits token check) :
    ∃ publisher value, state.checkAuthority token true = .ok publisher ∧
      check publisher = .ok value ∧
      (state.underAuthority token fun publisher => check publisher >>= rest).1 =
        (commit value).advancePublication publisher := by
  rcases underAuthority_cases check commit hrest with
    ⟨hnot, -, -⟩ | ⟨publisher, value, hauthority, hok, -, hcommitted⟩
  · exact absurd h hnot
  · exact ⟨publisher, value, hauthority, hok, hcommitted⟩

theorem committed_of_accepted {α : Type} {token : AuthorityToken}
    {check : Option PublisherRef → Except Refusal α} (commit : α → RackState)
    {rest : α → Except Refusal (RackState × String × Str)}
    (hrest : ∀ value, ∃ code subject, rest value = .ok (commit value, code, subject))
    (haccepted : some (state.underAuthority token fun publisher =>
      check publisher >>= rest).2.outcome = some MutationOutcome.accepted) :
    ∃ publisher value, state.checkAuthority token true = .ok publisher ∧
      check publisher = .ok value ∧
      (state.underAuthority token fun publisher => check publisher >>= rest).1 =
        (commit value).advancePublication publisher :=
  committed_of_admits commit hrest ((underAuthority_accepted_iff commit hrest).mp haccepted)

/-- What is asked of an accepted mutation holds, when a committed state meets it exactly
under a condition on the request. -/
theorem accepted_imp_iff {α : Type} {token : AuthorityToken}
    {check : Option PublisherRef → Except Refusal α} (commit : α → RackState)
    {rest : α → Except Refusal (RackState × String × Str)}
    (hrest : ∀ value, ∃ code subject, rest value = .ok (commit value, code, subject))
    {holds : RackState → Prop} {fails : Prop}
    (h : ∀ publisher value, check publisher = .ok value →
      (holds ((commit value).advancePublication publisher) ↔ ¬ fails)) :
    let result := state.underAuthority token fun publisher => check publisher >>= rest
    (some result.2.outcome = some MutationOutcome.accepted → holds result.1) ↔
      ¬ (state.Admits token check ∧ fails) := by
  intro result
  rcases underAuthority_cases check commit hrest with
    ⟨hnot, houtcome, -⟩ | ⟨publisher, value, hauthority, hok, houtcome, hcommitted⟩
  · exact iff_of_true (fun haccepted => absurd (Option.some.inj haccepted) houtcome)
      fun hfails => hnot hfails.1
  · have hcommit : holds result.1 ↔ ¬ fails := by
      rw [show result.1 = _ from hcommitted]
      exact h publisher value hok
    have hadmits : state.Admits token check := ⟨publisher, value, hauthority, hok⟩
    rw [and_iff_right hadmits, ← hcommit]
    exact ⟨fun himp => himp (congrArg some houtcome), fun hholds _ => hholds⟩

/-- What holds of the graph before a refusal and of the committed graph holds after. -/
theorem underAuthority_graph {α : Type} {token : AuthorityToken} {holds : RackGraph → Prop}
    {check : Option PublisherRef → Except Refusal α} (commit : α → RackState)
    {rest : α → Except Refusal (RackState × String × Str)}
    (hrest : ∀ value, ∃ code subject, rest value = .ok (commit value, code, subject))
    (hrefused : ¬ state.Admits token check → holds state.toRackGraph)
    (hcommitted : ∀ {publisher value}, state.checkAuthority token true = .ok publisher →
      check publisher = .ok value → holds (commit value).toRackGraph) :
    holds (state.underAuthority token fun publisher => check publisher >>= rest).1.toRackGraph := by
  rcases underAuthority_cases check commit hrest with
    ⟨hnot, -, hsame | ⟨publisher, refusal, -, hnoted⟩⟩ | ⟨publisher, value, hauthority, hok, -, hdone⟩
  · rw [hsame]
    exact hrefused hnot
  · rw [hnoted, toRackGraph_noteRefusal]
    exact hrefused hnot
  · rw [hdone, toRackGraph_advancePublication]
    exact hcommitted hauthority hok

/-! The six mutations that reshape the graph. -/

theorem publishMember_effect (request : PublishMemberRequest) :
    GraphEffect options state (.publishMember request)
      (publishMember options state request).1.toRackGraph :=
  underAuthority_graph state.commitMember (fun _ => ⟨_, _, rfl⟩)
    (fun hnot => .maintained hnot .refl) .enrolled

theorem publishRelationship_effect (request : PublishRelationshipRequest) :
    GraphEffect options state (.publishRelationship request)
      (publishRelationship options state request).1.toRackGraph :=
  underAuthority_graph state.commitRelationship (fun _ => ⟨_, _, rfl⟩)
    (fun hnot => .maintained hnot .refl) .linked

theorem publishFailureDomain_effect (request : PublishFailureDomainRequest) :
    GraphEffect options state (.publishFailureDomain request)
      (publishFailureDomain options state request).1.toRackGraph :=
  underAuthority_graph state.commitFailureDomain (fun _ => ⟨_, _, rfl⟩)
    (fun hnot => .maintained hnot .refl) .filed

theorem publishHealth_effect (request : PublishHealthRequest) :
    GraphEffect options state (.publishHealth request)
      (state.publishHealth request).1.toRackGraph := by
  unfold publishHealth
  apply underAuthority_graph (fun revision => state.commitHealth revision.1 revision.2)
  · rintro ⟨_, _⟩
    exact ⟨_, _, rfl⟩
  · exact fun hnot => .maintained hnot .refl
  · rintro publisher ⟨existing, record⟩ hauthority hok
    exact .observed hauthority hok

theorem withdrawEvidence_effect (request : WithdrawEvidenceRequest) :
    GraphEffect options state (.withdrawEvidence request)
      (state.withdrawEvidence request).1.toRackGraph := by
  unfold withdrawEvidence
  apply underAuthority_graph (fun revision => state.commitRevision revision.1 revision.2)
  · rintro ⟨_, _⟩
    exact ⟨_, _, rfl⟩
  · exact fun hnot => .maintained hnot .refl
  · rintro publisher ⟨existing, record⟩ hauthority hok
    exact .withdrawn hauthority hok

theorem retireMember_effect (request : RetireMemberRequest) :
    GraphEffect options state (.retireMember request)
      (state.retireMember request).1.toRackGraph :=
  underAuthority_graph (state.commitRetirement request.member) (fun _ => ⟨_, _, rfl⟩)
    (fun hnot => .maintained hnot .refl) .retired

/-! The other mutations keep the graph up. -/

abbrev Maintains (before after : RackState) : Prop :=
  ReflTransGen Upkeep before.toRackGraph after.toRackGraph

theorem maintains_revision (hkeyed : state.Keyed) {key : MemberKey}
    {existing record : MemberRecord} (hfound : state.members[key]? = some existing)
    (hkept : existing.Kept record) : Maintains state (state.reviseMember existing record) := by
  refine .single (.store ?_ hkept)
  rw [hkept.key, hkeyed.members hfound]
  exact hfound

theorem publishCapability_maintains (hkeyed : state.Keyed) (request : PublishCapabilityRequest) :
    Maintains state (publishCapability options state request).1 := by
  unfold publishCapability
  apply underAuthority_graph (fun revision => state.commitCapability revision.1 revision.2)
  · rintro ⟨_, _⟩
    exact ⟨_, _, rfl⟩
  · exact fun _ => .refl
  · rintro publisher ⟨existing, record⟩ hauthority hok
    obtain ⟨hfound, -, requested, -, hrecord⟩ := admitCapability_ok hok
    refine maintains_revision hkeyed hfound ?_
    rw [hrecord]
    exact ⟨rfl, rfl, rfl, rfl, rfl, rfl, Iff.rfl, id, id, id⟩

theorem markUnavailable_maintains (hkeyed : state.Keyed) (request : MarkUnavailableRequest) :
    Maintains state (state.markUnavailable request).1 := by
  unfold markUnavailable
  apply underAuthority_graph (fun revision => state.commitRevision revision.1 revision.2)
  · rintro ⟨_, _⟩
    exact ⟨_, _, rfl⟩
  · exact fun _ => .refl
  · rintro publisher ⟨existing, record⟩ hauthority hok
    obtain ⟨hfound, -, hretired, hrecord⟩ := admitUnavailable_ok hok
    refine maintains_revision hkeyed hfound ?_
    rw [hrecord]
    exact ⟨rfl, rfl, rfl, rfl, rfl, rfl, by simp [hretired], id, id, id⟩

theorem withdrawRelationship_maintains (request : WithdrawRelationshipRequest) :
    Maintains state (state.withdrawRelationship request).1 :=
  underAuthority_graph (fun _ => state.commitRelationshipWithdrawal request.key.canonical)
    (fun _ => ⟨_, _, rfl⟩) (fun _ => .refl) fun _ _ => .single (.unlink _)

theorem publishPowerEnvelope_maintains (now : Timestamp) (request : PublishPowerEnvelopeRequest) :
    Maintains state (state.publishPowerEnvelope now request).1 :=
  underAuthority_graph (fun record => state.commitPowerEnvelope record now)
    (fun _ => ⟨_, _, rfl⟩) (fun _ => .refl) fun _ _ => .refl

theorem publishCoolingEnvelope_maintains (now : Timestamp)
    (request : PublishCoolingEnvelopeRequest) :
    Maintains state (state.publishCoolingEnvelope now request).1 :=
  underAuthority_graph (fun record => state.commitCoolingEnvelope record now)
    (fun _ => ⟨_, _, rfl⟩) (fun _ => .refl) fun _ _ => .refl

theorem registerPublisher_maintains (now : Timestamp) (request : RegisterPublisherRequest) :
    Maintains state (registerPublisher options state now request).1 := by
  unfold registerPublisher
  cases admitRegistration options state request with
  | error refusal => exact .refl
  | ok pair =>
    cases hfound : state.publishers[pair.2]? <;>
      simp [hfound, refuse, accept, ReflTransGen.refl]

theorem kept_of_reason (record : MemberRecord) (required : Bool) (reason : RevalidationReason) :
    record.Kept { record with revalidationRequired := required, revalidationReason := reason } :=
  ⟨rfl, rfl, rfl, rfl, rfl, rfl, Iff.rfl, id, id, id⟩

theorem commitRedeclaration_upkeep (rack : RackRecord) (epoch : RackEpochId)
    (generation : RackGeneration) (label : Option Str) (now : Timestamp) :
    state.Upkeep (state.commitRedeclaration rack epoch generation label now).toRackGraph := by
  change state.Upkeep (state.annotate
    (fun record => { record with revalidationRequired := true, revalidationReason := .superseded })
    (fun record => { record with revalidationRequired := true })
    fun record => { record with revalidationRequired := true })
  exact .annotate (fun record => kept_of_reason record true .superseded) (fun _ => rfl)
    (fun _ => ⟨rfl, rfl⟩) (fun _ => rfl) fun _ => rfl

theorem declareRack_maintains (now : Timestamp) (request : DeclareRackRequest) :
    Maintains state (state.declareRack now request).1 := by
  unfold declareRack
  split
  · exact .refl
  · split
    · exact .refl
    · split
      · exact .refl
      · exact .single (commitRedeclaration_upkeep ..)

/-- A present member of a retired rack becomes unavailable. -/
theorem kept_of_unavailable (record : MemberRecord) :
    record.Kept (if record.lifecycle = .present then
      { record with
        lifecycle := .unavailable, revalidationRequired := true
        revalidationReason := .superseded }
    else record) := by
  split
  · rename_i hpresent
    exact ⟨rfl, rfl, rfl, rfl, rfl, rfl, by simp [hpresent], id, id, id⟩
  · exact ⟨rfl, rfl, rfl, rfl, rfl, rfl, Iff.rfl, id, id, id⟩

theorem commitRackRetirement_upkeep (rack : RackRecord) (next : RackGeneration)
    (now : Timestamp) :
    state.Upkeep (state.commitRackRetirement rack next now).toRackGraph := by
  have hgraph : (state.commitRackRetirement rack next now).toRackGraph =
      state.annotate (fun record => if record.lifecycle = .present then
        { record with
          lifecycle := .unavailable, revalidationRequired := true
          revalidationReason := .superseded }
      else record) (fun record => record) fun record => record := by
    simp [commitRackRetirement, annotate, ExtTreeMap.map_id]
  rw [hgraph]
  exact .annotate kept_of_unavailable (fun _ => rfl) (fun _ => ⟨rfl, rfl⟩) (fun _ => rfl)
    fun _ => rfl

theorem retireRack_maintains (now : Timestamp) (request : RetireRackRequest) :
    Maintains state (state.retireRack now request).1 := by
  unfold retireRack
  split
  · exact .refl
  · refine .single ?_
    rw [accept, toRackGraph_advancePublication]
    exact commitRackRetirement_upkeep ..

theorem heartbeat_maintains (now : Timestamp) (request : HeartbeatRequest) :
    Maintains state (state.heartbeat now request).1 := by
  unfold heartbeat
  split <;> exact .refl

theorem publishSnapshot_maintains (now : Timestamp) (request : SnapshotRequest) :
    Maintains state (publishSnapshot options state now request).1.1 := by
  unfold publishSnapshot
  split
  · exact .refl
  · split
    · exact .refl
    · unfold Maintains
      rw [accept, toRackGraph_advancePublication]
      exact .refl

/-! Fences revise the members of one owner, and the records it published. -/

theorem hasEvidence_fencedEvidence {α : Type} [Inhabited α] (evidence : EvidenceValue α) :
    (fencedEvidence evidence).hasEvidence = evidence.hasEvidence := by
  unfold fencedEvidence
  split <;> rfl

theorem kept_of_fence (record : MemberRecord) (reason : RevalidationReason) :
    record.Kept (fencedMember record reason) where
  key := rfl
  parent := rfl
  failureDomains := rfl
  powerDomain := rfl
  coolingDomain := rfl
  ownerBoot := rfl
  retired := Iff.rfl
  health h := hasEvidence_fencedEvidence record.health ▸ h
  readiness h := hasEvidence_fencedEvidence record.readiness ▸ h
  reachability h := hasEvidence_fencedEvidence record.reachability ▸ h

theorem fenceMember_maintains (reason : RevalidationReason) (graph : RackGraph) (key : MemberKey) :
    ReflTransGen Upkeep graph (fenceMember reason graph key) := by
  unfold fenceMember
  split
  · exact .refl
  · rename_i existing hfound
    exact .single (.store hfound (kept_of_fence existing reason))

theorem fenceMembers_maintains (reason : RevalidationReason) (keys : List MemberKey)
    (graph : RackGraph) :
    ReflTransGen Upkeep graph (keys.foldl (fenceMember reason) graph) := by
  induction keys generalizing graph with
  | nil => exact .refl
  | cons key keys ih => exact (fenceMember_maintains reason graph key).trans (ih _)

theorem fenceInGraph_eq (graph : RackGraph) (boot : AgentBootId) (reason : RevalidationReason) :
    fenceInGraph graph boot reason =
      ((entries graph.membersByOwnerBoot boot).toList.foldl (fenceMember reason) graph).annotate
        (fun record => record) (fencedRelationship boot) (fencedDomain boot) := by
  simp only [fenceInGraph, annotate, ExtTreeMap.map_id]

theorem fenceInGraph_maintains (graph : RackGraph) (boot : AgentBootId)
    (reason : RevalidationReason) :
    ReflTransGen Upkeep graph (fenceInGraph graph boot reason) := by
  rw [fenceInGraph_eq]
  refine (fenceMembers_maintains reason _ graph).tail (.annotate (fun record => ?_) ?_ ?_ ?_ ?_)
  · exact ⟨rfl, rfl, rfl, rfl, rfl, rfl, Iff.rfl, id, id, id⟩
  · intro record
    unfold fencedRelationship
    split <;> rfl
  · intro record
    unfold fencedDomain
    split <;> exact ⟨rfl, rfl⟩
  · intro record
    unfold fencedRelationship
    split <;> rfl
  · intro record
    unfold fencedDomain
    split <;> rfl

theorem fencePublisher_maintains (now : Timestamp) (request : FencePublisherRequest) :
    Maintains state (state.fencePublisher now request).1 := by
  unfold fencePublisher
  split
  · exact .refl
  · exact fenceInGraph_maintains ..

theorem expirePublishers_maintains (now : Timestamp) (later : AgentBootId → Timestamp) :
    Maintains state (state.expirePublishers now later) := by
  unfold expirePublishers
  generalize state.expiredBoots now = boots
  induction boots generalizing state with
  | nil => exact .refl
  | cons boot boots ih => exact (fencePublisher_maintains ..).trans ih

/-! Revalidation clears the flag of its targets, one after another. -/

theorem revalidateTargets_maintains (token : AuthorityToken) (targets : List MemberKey)
    (graph : RackGraph) (revalidated : Nat) :
    ReflTransGen Upkeep graph (revalidateTargets token targets graph revalidated).1 := by
  induction targets generalizing graph revalidated with
  | nil => exact .refl
  | cons key targets ih =>
    unfold revalidateTargets
    split
    · exact .refl
    · rename_i existing hfound
      split
      · exact .refl
      · split
        · exact ih graph revalidated
        · split
          · exact .refl
          · refine .head (.store hfound ?_) (ih _ _)
            exact ⟨rfl, rfl, rfl, rfl, rfl, rfl, Iff.rfl, id, id, id⟩

theorem revalidateMembers_graph (request : RevalidateMembersRequest) :
    (state.revalidateMembers request).1.toRackGraph = state.toRackGraph ∨
      ∃ publisher, state.checkAuthority request.authority true = .ok publisher ∧
        (state.revalidateMembers request).1.toRackGraph =
          (revalidateTargets request.authority (state.revalidationTargets request)
            state.toRackGraph 0).1 := by
  unfold revalidateMembers
  split
  · exact Or.inl rfl
  · rename_i publisher hauthority
    dsimp only
    split
    · exact Or.inl rfl
    · refine Or.inr ⟨publisher, hauthority, ?_⟩
      split
      · rw [refuse, toRackGraph_noteRefusal]
      · rfl
      · rw [accept, toRackGraph_advancePublication]
        rfl

theorem revalidateMembers_maintains (request : RevalidateMembersRequest) :
    Maintains state (state.revalidateMembers request).1 := by
  rcases state.revalidateMembers_graph request with hsame | ⟨publisher, -, hgraph⟩
  · rw [Maintains, hsame]
  · rw [Maintains, hgraph]
    exact revalidateTargets_maintains ..

/-- A step keeps the graph up, or does to it what one of six mutations does. -/
theorem step_effect (hkeyed : state.Keyed) (input : Input) :
    GraphEffect options state input.mutation (step options state input).toRackGraph := by
  obtain ⟨now, mutation⟩ := input
  cases mutation with
  | registerPublisher request => exact .maintained id (registerPublisher_maintains now request)
  | declareRack request => exact .maintained id (declareRack_maintains now request)
  | publishMember request => exact publishMember_effect request
  | publishRelationship request => exact publishRelationship_effect request
  | publishFailureDomain request => exact publishFailureDomain_effect request
  | publishPowerEnvelope request => exact .maintained id (publishPowerEnvelope_maintains now request)
  | publishCoolingEnvelope request =>
    exact .maintained id (publishCoolingEnvelope_maintains now request)
  | publishHealth request => exact publishHealth_effect request
  | publishCapability request => exact .maintained id (publishCapability_maintains hkeyed request)
  | withdrawEvidence request => exact withdrawEvidence_effect request
  | withdrawRelationship request => exact .maintained id (withdrawRelationship_maintains request)
  | markUnavailable request => exact .maintained id (markUnavailable_maintains hkeyed request)
  | retireMember request => exact retireMember_effect request
  | retireRack request => exact .maintained id (retireRack_maintains now request)
  | revalidateMembers request => exact .maintained id (revalidateMembers_maintains request)
  | fencePublisher request => exact .maintained id (fencePublisher_maintains now request)
  | heartbeat request => exact .maintained id (heartbeat_maintains now request)
  | expirePublishers later => exact .maintained id (expirePublishers_maintains now later)
  | publishSnapshot request => exact .maintained id (publishSnapshot_maintains now request)

end RackState

end RackFabric
