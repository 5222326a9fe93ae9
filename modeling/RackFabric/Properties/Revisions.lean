import RackFabric.Properties.Validation
import RackFabric.Properties.Versions

/-! Where the members of a state come from: they are published, given a capability, or
rewritten under their key. -/
namespace RackFabric
open Std Tables RackGraph RackState Relation

/-- How one record of a member becomes another that carries nothing new. -/
inductive MemberRecord.Rewrite : MemberRecord → MemberRecord → Prop
  | observed (record : MemberRecord) (request : PublishHealthRequest)
      (generation : MemberGeneration) (publication : PublicationGeneration) :
      Rewrite record { withHealth record request with
        generation := generation, publicationGeneration := publication }
  | withdrawn (record : MemberRecord) (scope : WithdrawScope)
      (generation : MemberGeneration) (publication : PublicationGeneration) :
      Rewrite record { RackState.withdrawn record scope with
        generation := generation, publicationGeneration := publication }
  | unavailable (record : MemberRecord) (reason : RevalidationReason)
      (generation : MemberGeneration) :
      Rewrite record { record with
        lifecycle := .unavailable, revalidationRequired := true
        revalidationReason := reason, generation := generation }
  | retired (record : MemberRecord) (generation : MemberGeneration) :
      Rewrite record { retiredRecord record with generation := generation }
  | detached (record : MemberRecord) (parent : MemberKey) :
      Rewrite record (RackGraph.detached parent record)
  | fenced (record : MemberRecord) (reason : RevalidationReason) :
      Rewrite record (fencedMember record reason)
  | revalidated (record : MemberRecord) (generation : MemberGeneration) :
      Rewrite record (revalidatedRecord record generation)
  | superseded (record : MemberRecord) :
      Rewrite record { record with
        revalidationRequired := true, revalidationReason := .superseded }

namespace RackState
variable {options : RackFabricOptions} {state after : RackState} {now : Timestamp}
  {publisher : Option PublisherRef}

abbrev Rewritten : MemberRecord → MemberRecord → Prop :=
  ReflTransGen MemberRecord.Rewrite

inductive MembersChange (options : RackFabricOptions) (state : RackState) :
    Mutation → RackGraph → Prop
  | rewritten {mutation : Mutation} {after : RackGraph}
      (hdescended : Descended (Rewritten) state.members after.members) :
      MembersChange options state mutation after
  | published {request : PublishMemberRequest} {publisher : Option PublisherRef}
      {record : MemberRecord} {after : RackGraph}
      (hauthority : state.checkAuthority request.authority true = .ok publisher)
      (hadmitted : admitMember options state publisher request = .ok record)
      (hmembers : after.members = state.members.insert record.key record) :
      MembersChange options state (.publishMember request) after
  | enabled {request : PublishCapabilityRequest} {publisher : Option PublisherRef}
      {existing record : MemberRecord} {after : RackGraph}
      (hadmitted : admitCapability options state publisher request = .ok (existing, record))
      (hmembers : after.members = state.members.insert record.key record) :
      MembersChange options state (.publishCapability request) after

theorem descended_revision {member : MemberKey} {existing record : MemberRecord}
    (h : state.Succeeds member existing record) (hkeyed : Keyed state.toRackGraph)
    (hrewrite : existing.Rewrite record) :
    Descended (Rewritten) state.members (state.reviseMember existing record).members := by
  have hkey : record.key = member := h.key.trans (hkeyed.members h.found)
  rw [show (state.reviseMember existing record).members = state.members.insert record.key record
    from members_storeMember .., hkey]
  exact Descended.insert (fun _ => .refl) h.found (.single hrewrite)

theorem descended_fenceMembers (reason : RevalidationReason) (keys : List MemberKey)
    (graph : RackGraph) :
    Descended (Rewritten) graph.members
      (keys.foldl (fenceMember reason) graph).members := by
  induction keys generalizing graph with
  | nil => exact Descended.refl (fun _ => .refl) _
  | cons key keys ih =>
    refine Descended.trans ReflTransGen.trans ?_ (ih (fenceMember reason graph key))
    unfold fenceMember
    split
    · exact Descended.refl (fun _ => .refl) _
    · rename_i existing hfound
      rw [members_storeMember]
      exact Descended.insert (fun _ => .refl) hfound (.single (.fenced existing reason))

theorem descended_fencePublisher (now : Timestamp) (request : FencePublisherRequest) :
    Descended (Rewritten) state.members
      (state.fencePublisher now request).1.members := by
  unfold fencePublisher
  split
  · exact Descended.refl (fun _ => .refl) _
  · exact descended_fenceMembers request.reason _ state.toRackGraph

theorem descended_revalidateTargets (token : AuthorityToken) (targets : List MemberKey)
    (graph : RackGraph) (revalidated : Nat) :
    Descended (Rewritten) graph.members
      (revalidateTargets token targets graph revalidated).1.members := by
  induction targets generalizing graph revalidated with
  | nil => exact Descended.refl (fun _ => .refl) _
  | cons key targets ih =>
    rcases revalidateTargets_cons graph token key targets revalidated with
      ⟨-, refusal, hstop, -⟩ | ⟨-, -, hskip⟩ | ⟨-, existing, next, hfound, -, -, hgo⟩
    · rw [hstop]
      exact Descended.refl (fun _ => .refl) _
    · rw [hskip]
      exact ih graph revalidated
    · rw [hgo]
      refine Descended.trans ReflTransGen.trans ?_ (ih _ _)
      rw [members_storeMember]
      exact Descended.insert (fun _ => .refl) hfound (.single (.revalidated existing next))

theorem descended_retirement {request : RetireMemberRequest} {record : MemberRecord}
    (hadmitted : admitRetirement state request = .ok record) (hkeyed : Keyed state.toRackGraph) :
    Descended (Rewritten) state.members
      (state.commitRetirement request.member record).members := by
  obtain ⟨existing, hfound, -, -, hrecord⟩ := admitRetirement_ok hadmitted
  have hkey : record.key = request.member := by
    have hexisting := hkeyed.members hfound
    rw [hrecord]
    exact hexisting
  have hretired : existing.Rewrite record := by
    rw [hrecord]
    exact .retired existing record.generation
  intro key later hlater
  rw [members_retirement hkey] at hlater
  split at hlater
  · rename_i hsame
    obtain rfl := Option.some.inj hlater
    exact ⟨existing, hsame ▸ hfound, .single hretired⟩
  · obtain ⟨old, hold, rfl⟩ := Option.map_eq_some_iff.mp hlater
    exact ⟨old, hold, .single (.detached old request.member)⟩

theorem admitted_membersChange {mutation : Mutation} {token : AuthorityToken}
    {committed : RackState} (hkeyed : Keyed state.toRackGraph)
    (htoken : mutation.token = some token)
    (hauthority : state.checkAuthority token true = .ok publisher)
    (h : Admitted options state now publisher mutation committed) :
    MembersChange options state mutation committed.toRackGraph := by
  have hsame : Descended (Rewritten) state.members state.members :=
    Descended.refl (fun _ => .refl) _
  cases h with
  | member hadmitted =>
    cases htoken
    exact .published hauthority hadmitted (members_storeMember ..)
  | health hadmitted =>
    obtain ⟨-, -, hrecord⟩ := admitHealth_ok hadmitted
    refine .rewritten (descended_revision (succeeds_health hadmitted) hkeyed ?_)
    rw [hrecord]
    exact .observed ..
  | capability hadmitted => exact .enabled hadmitted (members_storeMember ..)
  | withdrawal hadmitted =>
    obtain ⟨-, -, hrecord⟩ := admitWithdrawal_ok hadmitted
    refine .rewritten (descended_revision (succeeds_withdrawal hadmitted) hkeyed ?_)
    rw [hrecord]
    exact .withdrawn ..
  | unavailable hadmitted =>
    obtain ⟨-, -, -, hrecord⟩ := admitUnavailable_ok hadmitted
    refine .rewritten (descended_revision (succeeds_unavailable hadmitted) hkeyed ?_)
    rw [hrecord]
    exact .unavailable ..
  | retirement hadmitted => exact .rewritten (descended_retirement hadmitted hkeyed)
  | rackRetirement =>
    refine .rewritten (Descended.map fun record => ?_)
    split
    · exact .single (.unavailable record .superseded record.generation)
    · exact .refl
  | @revalidation request graph count hrevalidated =>
    have hdescended := @descended_revalidateTargets request.authority
      (state.revalidationTargets request) state.toRackGraph 0
    rw [hrevalidated] at hdescended
    exact .rewritten hdescended
  | relationship =>
    refine .rewritten ?_
    rw [show (state.commitRelationship _).members = state.members from
      members_storeRelationship ..]
    exact hsame
  | failureDomain =>
    refine .rewritten ?_
    rw [show (state.commitFailureDomain _).members = state.members from
      members_storeFailureDomain ..]
    exact hsame
  | relationshipWithdrawal =>
    refine .rewritten ?_
    rw [show (state.commitRelationshipWithdrawal _).members = state.members from
      members_dropRelationship ..]
    exact hsame
  | _ => exact .rewritten hsame

theorem membersChange {mutation : Mutation} {outcome : Option MutationOutcome}
    (hkeyed : Keyed state.toRackGraph) (h : Transition options state now mutation after outcome) :
    MembersChange options state mutation after.toRackGraph := by
  have hsame : Descended (Rewritten) state.members state.members :=
    Descended.refl (fun _ => .refl) _
  cases h with
  | noted =>
    refine .rewritten ?_
    rw [members_noteRefusal]
    exact hsame
  | committed htoken hauthority hadmitted =>
    rw [toRackGraph_advancePublication]
    exact admitted_membersChange hkeyed htoken hauthority hadmitted
  | @stopped request _ graph refusal hauthority hstopped =>
    have hdescended := @descended_revalidateTargets request.authority
      (state.revalidationTargets request) state.toRackGraph 0
    rw [hstopped] at hdescended
    refine .rewritten ?_
    rw [members_noteRefusal]
    exact hdescended
  | redeclared =>
    exact .rewritten (Descended.map fun record => .single (.superseded record))
  | fenced => exact .rewritten (descended_fenceMembers _ _ state.toRackGraph)
  | expired later =>
    have hfence : ∀ (between : RackState) now request,
        Descended (Rewritten) state.members between.members →
          Descended (Rewritten) state.members
            (between.fencePublisher now request).1.members :=
      fun between now request hbetween =>
        hbetween.trans ReflTransGen.trans (descended_fencePublisher now request)
    exact .rewritten (expirePublishers_induction hfence hsame later)
  | _ => exact .rewritten hsame

/-- What holds of the members of a state holds of the next ones, when rewriting keeps it
and it holds of the member that is published. -/
theorem MembersChange.forall {mutation : Mutation} {holds : MemberRecord → Prop}
    (h : MembersChange options state mutation after.toRackGraph)
    (hkept : ∀ {existing record : MemberRecord}, existing.Rewrite record →
      holds existing → holds record)
    (hpublished : ∀ {request : PublishMemberRequest} {publisher : Option PublisherRef}
      {record : MemberRecord}, mutation = .publishMember request →
      state.checkAuthority request.authority true = .ok publisher →
      admitMember options state publisher request = .ok record → holds record)
    (henabled : ∀ {request : PublishCapabilityRequest} {publisher : Option PublisherRef}
      {existing record : MemberRecord}, mutation = .publishCapability request →
      admitCapability options state publisher request = .ok (existing, record) →
      holds existing → holds record)
    (hold : ∀ (key : MemberKey) (record : MemberRecord), state.members[key]? = some record →
      holds record) :
    ∀ (key : MemberKey) (record : MemberRecord), after.members[key]? = some record →
      holds record := by
  cases h with
  | rewritten hdescended =>
    refine hdescended.forall (fun hrewritten hexisting => ?_) hold
    induction hrewritten with
    | refl => exact hexisting
    | tail _ hrewrite ih => exact hkept hrewrite ih
  | published hauthority hadmitted hmembers =>
    intro key record hfound
    rw [hmembers] at hfound
    rcases getElem?_insert_cases hfound with ⟨-, rfl⟩ | ⟨-, hkept⟩
    · exact hpublished rfl hauthority hadmitted
    · exact hold key record hkept
  | enabled hadmitted hmembers =>
    intro key record hfound
    rw [hmembers] at hfound
    rcases getElem?_insert_cases hfound with ⟨-, rfl⟩ | ⟨-, hkept⟩
    · exact henabled rfl hadmitted (hold _ _ (admitCapability_ok hadmitted).1)
    · exact hold key record hkept

end RackState

end RackFabric
