import RackFabric.Model.Coordinator
import RackFabric.Properties.Leases
import RackFabric.Properties.Restored

/-! Who owns the records of the rack, and whether the owners are still there. -/
namespace RackFabric
open Std Relation RackGraph RackState Tables

namespace RackGraph

inductive Owner (graph : RackGraph) (boot : AgentBootId) : Prop where
  | member {key : MemberKey} {record : MemberRecord} (hfound : graph.members[key]? = some record)
      (howner : record.ownerBoot = some boot)
  | relationship {key : RelationshipKey} {record : RelationshipRecord}
      (hfound : graph.relationships[key]? = some record) (howner : record.ownerBoot = some boot)
  | failureDomain {id : FailureDomainId} {record : FailureDomainRecord}
      (hfound : graph.failureDomains[id]? = some record) (howner : record.ownerBoot = some boot)

variable {graph after : RackGraph} {boot : AgentBootId}

theorem Owner.of_storeMember {key : MemberKey} {existing : Option MemberRecord}
    {record : MemberRecord} (h : (graph.storeMember key existing record).Owner boot) :
    graph.Owner boot ∨ record.ownerBoot = some boot := by
  cases h with
  | member hfound howner =>
    rw [members_storeMember] at hfound
    rcases getElem?_insert_cases hfound with ⟨rfl, rfl⟩ | ⟨-, hold⟩
    · exact Or.inr howner
    · exact Or.inl (.member hold howner)
  | relationship hfound howner => exact Or.inl (.relationship (by simpa using hfound) howner)
  | failureDomain hfound howner => exact Or.inl (.failureDomain (by simpa using hfound) howner)

/-- A record that keeps its owner adds none. -/
theorem Owner.of_revision {key : MemberKey} {existing record : MemberRecord}
    (hfound : graph.members[key]? = some existing) (hkept : record.ownerBoot = existing.ownerBoot)
    (h : (graph.storeMember record.key (some existing) record).Owner boot) : graph.Owner boot := by
  rcases h.of_storeMember with hold | hrecord
  · exact hold
  · exact .member hfound (hkept ▸ hrecord)

theorem Owner.of_storeRelationship {existing : Option RelationshipRecord}
    {record : RelationshipRecord} (h : (graph.storeRelationship existing record).Owner boot) :
    graph.Owner boot ∨ record.ownerBoot = some boot := by
  cases h with
  | member hfound howner => exact Or.inl (.member (by simpa using hfound) howner)
  | relationship hfound howner =>
    rw [relationships_storeRelationship] at hfound
    rcases getElem?_insert_cases hfound with ⟨rfl, rfl⟩ | ⟨-, hold⟩
    · exact Or.inr howner
    · exact Or.inl (.relationship hold howner)
  | failureDomain hfound howner => exact Or.inl (.failureDomain (by simpa using hfound) howner)

theorem Owner.of_storeFailureDomain {existing : Option FailureDomainRecord}
    {record : FailureDomainRecord} (h : (graph.storeFailureDomain existing record).Owner boot) :
    graph.Owner boot ∨ record.ownerBoot = some boot := by
  cases h with
  | member hfound howner => exact Or.inl (.member (by simpa using hfound) howner)
  | relationship hfound howner => exact Or.inl (.relationship (by simpa using hfound) howner)
  | failureDomain hfound howner =>
    rw [failureDomains_storeFailureDomain] at hfound
    rcases getElem?_insert_cases hfound with ⟨rfl, rfl⟩ | ⟨-, hold⟩
    · exact Or.inr howner
    · exact Or.inl (.failureDomain hold howner)

theorem Upkeep.owner (hstep : graph.Upkeep after) (h : after.Owner boot) : graph.Owner boot := by
  cases hstep with
  | store hfound hkept =>
    rcases h.of_storeMember with hold | hrecord
    · exact hold
    · exact .member hfound (hkept.ownerBoot ▸ hrecord)
  | detach hfound =>
    rcases h.of_storeMember with hold | hrecord
    · exact hold
    · exact .member hfound hrecord
  | unlink key =>
    cases h with
    | member hfound howner => exact .member (by simpa using hfound) howner
    | relationship hfound howner =>
      rw [relationships_dropRelationship, ExtTreeMap.getElem?_erase] at hfound
      split at hfound
      · cases hfound
      · exact .relationship hfound howner
    | failureDomain hfound howner => exact .failureDomain (by simpa using hfound) howner
  | annotate hmembers _ _ hrelationshipOwners hdomainOwners =>
    cases h with
    | member hfound howner =>
      obtain ⟨old, hold, rfl⟩ := getElem?_map_cases hfound
      exact .member hold ((hmembers old).ownerBoot ▸ howner)
    | relationship hfound howner =>
      obtain ⟨old, hold, rfl⟩ := getElem?_map_cases hfound
      exact .relationship hold (hrelationshipOwners old ▸ howner)
    | failureDomain hfound howner =>
      obtain ⟨old, hold, rfl⟩ := getElem?_map_cases hfound
      exact .failureDomain hold (hdomainOwners old ▸ howner)

theorem Owner.maintained (hsteps : ReflTransGen Upkeep graph after) (h : after.Owner boot) :
    graph.Owner boot := by
  induction hsteps with
  | refl => exact h
  | tail _ hstep ih => exact ih (hstep.owner h)

end RackGraph

namespace RackState
variable {options : RackFabricOptions} {state : RackState}

def Live (state : RackState) (boot : AgentBootId) : Prop :=
  boot ∉ state.fencedBoots ∧
    ∃ record, state.publishers[boot]? = some record ∧ ¬ record.Revoked

theorem live_of_authorized {token : AuthorityToken} {found : PublisherRef}
    (h : state.Authorized token found) : state.Live found.boot := by
  refine ⟨h.not_fenced, found.record, h.recorded, ?_⟩
  rintro (hlost | hfenced)
  · exact h.live.1 hlost
  · exact h.live.2 hfenced

end RackState

/-- The owner that the operator names in a publication. A process owns what it publishes. -/
def Mutation.namedOwner : Mutation → Option AgentBootId
  | .publishMember request =>
      if request.authority.boot.isNone then request.record.ownerBoot else none
  | .publishRelationship request =>
      if request.authority.boot.isNone then request.record.ownerBoot else none
  | .publishFailureDomain request =>
      if request.authority.boot.isNone then request.record.ownerBoot else none
  | _ => none

namespace RackState
variable {options : RackFabricOptions} {state : RackState}

/-- The owner of a published record is the process that publishes it, or nobody else
than the operator names. -/
theorem owner_published {token : AuthorityToken} {publisher : Option PublisherRef}
    {worker : Option WorkerId} {owner : Option AgentBootId} {boot : AgentBootId}
    (hauthority : state.checkAuthority token true = .ok publisher)
    (howner : (ownerAfter token publisher worker owner).2 = some boot) :
    state.Live boot ∨ token.boot = none ∧ owner = some boot := by
  rw [ownerAfter_boot] at howner
  rcases checkAuthority_ok hauthority with ⟨hnone, -⟩ | ⟨found, rfl, hsome, -⟩
  · rw [hnone] at howner
    exact Or.inr ⟨hnone, howner⟩
  · rw [hsome] at howner
    obtain rfl := Option.some.inj howner
    exact Or.inl (live_of_authorized (authorized_of_ok hauthority))

theorem ownerBoot_withdrawn (record : MemberRecord) (scope : WithdrawScope) :
    (withdrawn record scope).ownerBoot = record.ownerBoot := by
  cases scope <;> rfl

/-- What an admitted publication names as the owner of its record, the process that publishes
or what an operator's record says. -/
theorem owner_admitted {α : Type} {token : AuthorityToken}
    {check : Option PublisherRef → Except Refusal α} (commit : α → RackState)
    {rest : α → Except Refusal (RackState × String × Str)}
    (hrest : ∀ value, ∃ code subject, rest value = .ok (commit value, code, subject))
    {publisher : Option PublisherRef} {value : α} {worker : Option WorkerId}
    {owner : Option AgentBootId} {boot : AgentBootId}
    (hauthority : state.checkAuthority token true = .ok publisher)
    (hadmitted : check publisher = .ok value)
    (howner : (ownerAfter token publisher worker owner).2 = some boot) :
    state.Live boot ∨
      some (state.underAuthority token fun publisher => check publisher >>= rest).2.outcome =
          some .accepted ∧
        token.boot = none ∧ owner = some boot := by
  rcases owner_published hauthority howner with hlive | hnamed
  · exact Or.inl hlive
  · have haccepted := (underAuthority_accepted_iff commit hrest).mpr
      ⟨publisher, value, hauthority, hadmitted⟩
    exact Or.inr ⟨haccepted, hnamed⟩

def Fences (options : RackFabricOptions) (state : RackState) (input : Input)
    (boot : AgentBootId) : Prop :=
  match input.mutation with
  | .fencePublisher request =>
      request.boot = some boot ∧ (state.perform options input).2 = some .accepted
  | .expirePublishers _ => boot ∈ state.expiredBoots input.now
  | _ => False

/-- An owner was one before, or it publishes and is live, or the operator has named it. -/
theorem owner_step (hkeyed : state.Keyed) (input : Input) {boot : AgentBootId}
    (h : (step options state input).Owner boot) :
    state.Owner boot ∨ ¬ state.Fences options input boot ∧
      (state.Live boot ∨ (state.perform options input).2 = some .accepted ∧
        input.mutation.namedOwner = some boot) := by
  obtain ⟨now, mutation⟩ := input
  have heffect := @step_effect options state hkeyed ⟨now, mutation⟩
  generalize hafter : (step options state ⟨now, mutation⟩).toRackGraph = after at h heffect
  cases heffect with
  | maintained _ hsteps => exact Or.inl (h.maintained hsteps)
  | @enrolled request publisher record hauthority hadmitted =>
    rcases h.of_storeMember with hold | howner
    · exact Or.inl hold
    · obtain ⟨target, owner, rfl, hrecord⟩ := (memberAdmission hadmitted).stored
      rw [hrecord] at howner
      have hnames : state.Live boot ∨
          some (publishMember options state request).2.outcome = some .accepted ∧
            request.authority.boot = none ∧ request.record.ownerBoot = some boot :=
        owner_admitted state.commitMember (fun _ => ⟨_, _, rfl⟩) hauthority hadmitted howner
      rcases hnames with hlive | ⟨haccepted, hnone, hnamed⟩
      · exact Or.inr ⟨id, Or.inl hlive⟩
      · have howner : (Mutation.publishMember request).namedOwner = some boot := by
          simp [Mutation.namedOwner, hnone, hnamed]
        exact Or.inr ⟨id, Or.inr ⟨haccepted, howner⟩⟩
  | @linked request publisher record hauthority hadmitted =>
    rcases h.of_storeRelationship with hold | howner
    · exact Or.inl hold
    · obtain ⟨owner, rfl, -, hrecord⟩ := (relationshipAdmission hadmitted).stored
      rw [hrecord] at howner
      have hnames : state.Live boot ∨
          some (publishRelationship options state request).2.outcome = some .accepted ∧
            request.authority.boot = none ∧ request.record.ownerBoot = some boot :=
        owner_admitted state.commitRelationship (fun _ => ⟨_, _, rfl⟩) hauthority hadmitted howner
      rcases hnames with hlive | ⟨haccepted, hnone, hnamed⟩
      · exact Or.inr ⟨id, Or.inl hlive⟩
      · have howner : (Mutation.publishRelationship request).namedOwner = some boot := by
          simp [Mutation.namedOwner, hnone, hnamed]
        exact Or.inr ⟨id, Or.inr ⟨haccepted, howner⟩⟩
  | @filed request publisher record hauthority hadmitted =>
    rcases h.of_storeFailureDomain with hold | howner
    · exact Or.inl hold
    · obtain ⟨owner, rfl, -, hrecord⟩ := (failureDomainAdmission hadmitted).stored
      rw [hrecord] at howner
      have hnames : state.Live boot ∨
          some (publishFailureDomain options state request).2.outcome = some .accepted ∧
            request.authority.boot = none ∧ request.record.ownerBoot = some boot :=
        owner_admitted state.commitFailureDomain (fun _ => ⟨_, _, rfl⟩) hauthority hadmitted howner
      rcases hnames with hlive | ⟨haccepted, hnone, hnamed⟩
      · exact Or.inr ⟨id, Or.inl hlive⟩
      · have howner : (Mutation.publishFailureDomain request).namedOwner = some boot := by
          simp [Mutation.namedOwner, hnone, hnamed]
        exact Or.inr ⟨id, Or.inr ⟨haccepted, howner⟩⟩
  | observed _ hadmitted =>
    obtain ⟨hfound, -, hrecord⟩ := admitHealth_ok hadmitted
    exact Or.inl (h.of_revision hfound (by rw [hrecord]; rfl))
  | withdrawn _ hadmitted =>
    obtain ⟨hfound, -, hrecord⟩ := admitWithdrawal_ok hadmitted
    exact Or.inl (h.of_revision hfound (by rw [hrecord]; exact ownerBoot_withdrawn _ _))
  | @retired request _ record _ hadmitted =>
    obtain ⟨existing, hfound, -, -, hrecord⟩ := admitRetirement_ok hadmitted
    rw [retireInGraph_eq] at h
    rcases h.of_storeMember with hold | howner
    · exact Or.inl (hold.maintained (maintained_trimmed _ request.member))
    · refine Or.inl (.member hfound ?_)
      rw [hrecord] at howner
      exact howner

/-! What becomes of a live publisher. -/

/-- The publisher is in the state that it was in, or it has become active. -/
def Stays (before after : PublisherRecord) : Prop :=
  after.state = before.state ∨ after.state = .active

theorem stays_refl (record : PublisherRecord) : Stays record record := Or.inl rfl

theorem live_of_followed {after : RackState} {boot : AgentBootId} (h : state.Live boot)
    (hfenced : after.fencedBoots = state.fencedBoots)
    (hfollowed : Followed Stays state.publishers after.publishers) : after.Live boot := by
  obtain ⟨hfree, record, hfound, hlive⟩ := h
  obtain ⟨later, hlater, hsame | hactive⟩ := hfollowed boot record hfound
  · exact ⟨hfenced ▸ hfree, later, hlater, by rwa [PublisherRecord.Revoked, hsame]⟩
  · exact ⟨hfenced ▸ hfree, later, hlater, by simp [PublisherRecord.Revoked, hactive]⟩

theorem live_noteRefusal {boot : AgentBootId} (h : state.Live boot)
    (publisher : Option PublisherRef) (refusal : Refusal) :
    (state.noteRefusal publisher refusal).Live boot := by
  cases publisher with
  | none => exact h
  | some found =>
    simp only [noteRefusal]
    split
    · exact h
    · exact live_of_followed h rfl (Followed.modify stays_refl fun record _ => Or.inl rfl)

theorem live_advancePublication {boot : AgentBootId} (h : state.Live boot)
    (publisher : Option PublisherRef) : (state.advancePublication publisher).Live boot := by
  cases publisher with
  | none => exact h
  | some found => exact live_of_followed h rfl (Followed.modify stays_refl fun record _ => Or.inr rfl)

theorem live_commitFence {boot named : AgentBootId} (h : state.Live boot) (hnamed : named ≠ boot)
    (publisher : PublisherRecord) (reason : RevalidationReason) (now : Timestamp) :
    (state.commitFence named publisher reason now).Live boot := by
  obtain ⟨hfree, record, hfound, hlive⟩ := h
  refine ⟨?_, record, ?_, hlive⟩
  · simpa [commitFence, hnamed] using hfree
  · simp [commitFence, ExtTreeMap.getElem?_insert, hnamed, hfound]

theorem live_fencePublisher {boot : AgentBootId} (h : state.Live boot) (now : Timestamp)
    {request : FencePublisherRequest} (hother : request.boot ≠ some boot) :
    (state.fencePublisher now request).1.Live boot := by
  unfold fencePublisher
  split
  · exact h
  · rename_i named publisher hadmitted
    refine live_commitFence h ?_ publisher request.reason now
    rintro rfl
    exact hother (boot_of_admitFence hadmitted)

theorem live_expirePublishers {boot : AgentBootId} {now : Timestamp} (h : state.Live boot)
    (hspared : boot ∉ state.expiredBoots now) (later : AgentBootId → Timestamp) :
    (state.expirePublishers now later).Live boot := by
  unfold expirePublishers
  generalize state.expiredBoots now = boots at hspared
  induction boots generalizing state with
  | nil => exact h
  | cons first boots ih =>
    rw [List.mem_cons, not_or] at hspared
    refine ih (live_fencePublisher h _ fun heq => hspared.1 ?_) hspared.2
    exact (Option.some.inj heq).symm

def Closed (state : RackState) : Prop :=
  state.Ended ∧ ∀ boot, ¬ state.Live boot

theorem not_ended_of_authority {token : AuthorityToken} {rackScoped : Bool}
    {publisher : Option PublisherRef} (h : state.checkAuthority token rackScoped = .ok publisher) :
    ¬ state.Ended := by
  unfold checkAuthority at h
  simp only [bind_eq_ok, refuseIf_eq_ok, exists_and_left, exists_const] at h
  obtain ⟨-, -, -, hgoing, -⟩ := h
  simp [Ended, hgoing]

theorem not_ended_of_registration {request : RegisterPublisherRequest} {worker : WorkerId}
    {boot : AgentBootId} (h : admitRegistration options state request = .ok (worker, boot)) :
    ¬ state.Ended := by
  unfold admitRegistration at h
  simp only [bind_eq_ok, refuseIf_eq_ok, require_eq_ok, exists_and_left, exists_const] at h
  obtain ⟨_, -, _, -, _, -, -, rack, hrack, -, hgoing, -⟩ := h
  simp [Ended, hrack, hgoing]

theorem closed_of_retirement (rack : RackRecord) (next : RackGeneration) (now : Timestamp)
    (publisher : Option PublisherRef) :
    ((state.commitRackRetirement rack next now).advancePublication publisher).Closed := by
  refine ⟨by cases publisher <;> rfl, fun boot hlive => ?_⟩
  obtain ⟨hfree, record, hfound, -⟩ := hlive
  rw [fencedBoots_advancePublication, fenced_of_retirement, not_or] at hfree
  refine hfree.1 ?_
  have hmem : boot ∈ ((state.commitRackRetirement rack next now).advancePublication
      publisher).publishers := by
    simp [ExtTreeMap.mem_iff_isSome_getElem?, hfound]
  cases publisher with
  | none => simpa [advancePublication, commitRackRetirement] using hmem
  | some found =>
    simpa [advancePublication, commitRackRetirement, ExtTreeMap.mem_modify] using hmem

theorem closed_fencePublisher (h : state.Closed) (now : Timestamp)
    (request : FencePublisherRequest) : (state.fencePublisher now request).1.Closed := by
  unfold fencePublisher
  split
  · exact h
  · rename_i named publisher hadmitted
    refine ⟨h.1, fun boot hlive => ?_⟩
    obtain ⟨hfree, record, hfound, hstate⟩ := hlive
    have hother : named ≠ boot ∧ boot ∉ state.fencedBoots := by
      simpa [accept, commitFence] using hfree
    refine h.2 boot ⟨hother.2, record, ?_, hstate⟩
    simpa [accept, commitFence, ExtTreeMap.getElem?_insert, hother.1] using hfound

/-- Nothing can be done to a rack that is closed, but to fence. -/
theorem closed_step (input : Input) (h : state.Closed) : (step options state input).Closed := by
  obtain ⟨now, mutation⟩ := input
  have htransition := @perform_transition options state ⟨now, mutation⟩
  change (state.perform options ⟨now, mutation⟩).1.Closed
  simp only at htransition
  generalize state.perform options ⟨now, mutation⟩ = result at htransition ⊢
  obtain ⟨after, outcome⟩ := result
  simp only at htransition ⊢
  cases htransition with
  | refused => exact h
  | noted _ _ hauthority | committed _ hauthority _ | stopped hauthority _ | beat hauthority =>
    exact absurd h.1 (not_ended_of_authority hauthority)
  | declared hadmitted | redeclared hadmitted =>
    obtain ⟨_, hauthority⟩ := admitDeclaration_ok hadmitted
    exact absurd h.1 (not_ended_of_authority hauthority)
  | refreshed hadmitted | registered hadmitted =>
    exact absurd h.1 (not_ended_of_registration hadmitted)
  | @fenced request named publisher hadmitted =>
    have hfenced := closed_fencePublisher h now request
    rwa [fencePublisher, hadmitted] at hfenced
  | expired later =>
    exact expirePublishers_induction
      (fun before now request (h : before.Closed) => closed_fencePublisher h now request) h later

/-- A live publisher stays live, unless the mutation fences it or closes the rack. -/
theorem live_step {input : Input} {boot : AgentBootId} (h : state.Live boot)
    (hspared : ¬ state.Fences options input boot) :
    (step options state input).Live boot ∨ (step options state input).Closed := by
  obtain ⟨now, mutation⟩ := input
  have htransition := @perform_transition options state ⟨now, mutation⟩
  change (state.perform options ⟨now, mutation⟩).1.Live boot ∨
    (state.perform options ⟨now, mutation⟩).1.Closed
  unfold Fences at hspared
  simp only at htransition hspared
  generalize state.perform options ⟨now, mutation⟩ = result at htransition hspared ⊢
  obtain ⟨after, outcome⟩ := result
  simp only at htransition hspared ⊢
  cases htransition with
  | refused => exact Or.inl h
  | noted refusal => exact Or.inl (live_noteRefusal h _ refusal)
  | @committed _ _ publisher committed _ _ hadmitted =>
    cases hadmitted with
    | rackRetirement => exact Or.inr (closed_of_retirement _ _ now publisher)
    | _ =>
      refine Or.inl (live_advancePublication ?_ publisher)
      exact live_of_followed h rfl (Followed.refl stays_refl _)
  | @stopped _ publisher graph refusal _ _ =>
    have hgraph : { state with toRackGraph := graph }.Live boot :=
      live_of_followed h rfl (Followed.refl stays_refl _)
    exact Or.inl (live_noteRefusal hgraph _ refusal)
  | refreshed hadmitted hfound =>
    exact Or.inl (live_of_followed h rfl (Followed.insert stays_refl fun _ _ => Or.inr rfl))
  | registered hadmitted hnew =>
    exact Or.inl (live_of_followed h rfl (Followed.insert stays_refl fun _ _ => Or.inr rfl))
  | declared | redeclared =>
    exact Or.inl (live_of_followed h rfl (Followed.refl stays_refl _))
  | beat hauthority =>
    exact Or.inl (live_of_followed h rfl (Followed.modify stays_refl fun _ _ => Or.inr rfl))
  | @fenced request named publisher hadmitted =>
    refine Or.inl (live_commitFence h ?_ publisher request.reason now)
    rintro rfl
    exact hspared ⟨boot_of_admitFence hadmitted, rfl⟩
  | expired later => exact Or.inl (live_expirePublishers h hspared later)

/-- Every owner is live, as long as there is a live publisher. -/
def Tenured (state : RackState) : Prop :=
  state.Closed ∨ ∀ boot, state.Owner boot → state.Live boot

def SparesOwners (options : RackFabricOptions) (state : RackState) (input : Input) : Prop :=
  (∀ boot, state.Owner boot → ¬ state.Fences options input boot) ∧
    ((state.perform options input).2 = some .accepted →
      ∀ boot, input.mutation.namedOwner = some boot → state.Live boot)

theorem tenured_step (hkeyed : state.Keyed) {input : Input} (htenured : state.Tenured)
    (hspares : state.SparesOwners options input) : (step options state input).Tenured := by
  rcases htenured with hclosed | hlive
  · exact Or.inl (closed_step input hclosed)
  · by_cases hclosed : (step options state input).Closed
    · exact Or.inl hclosed
    refine Or.inr fun boot howner => ?_
    have hbefore : state.Live boot ∧ ¬ state.Fences options input boot := by
      rcases owner_step hkeyed input howner with hold | ⟨hspared, hpublishes | ⟨haccepted, hnamed⟩⟩
      · exact ⟨hlive boot hold, hspares.1 boot hold⟩
      · exact ⟨hpublishes, hspared⟩
      · exact ⟨hspares.2 haccepted boot hnamed, hspared⟩
    exact (live_step hbefore.1 hbefore.2).resolve_right hclosed

theorem tenured_loaded {now : Timestamp} {file : Option Bytes} {readable : Bool}
    {loaded : RackState} (h : loadState options now file readable = .ok loaded) :
    loaded.Tenured := by
  obtain ⟨candidate, epoch, -, -, -, rfl⟩ := loadState_ok h
  refine Or.inr fun boot howner => ?_
  cases howner with
  | member hfound howner =>
    rw [applyRecoveryPolicy, members_rebuildIndexes] at hfound
    obtain ⟨old, -, rfl⟩ := getElem?_map_cases hfound
    cases howner
  | relationship hfound howner =>
    rw [applyRecoveryPolicy, relationships_rebuildIndexes] at hfound
    obtain ⟨old, -, rfl⟩ := getElem?_map_cases hfound
    cases howner
  | failureDomain hfound howner =>
    rw [applyRecoveryPolicy, failureDomains_rebuildIndexes] at hfound
    obtain ⟨old, -, rfl⟩ := getElem?_map_cases hfound
    cases howner

/-! Who is refused because a record is owned by another process. -/

def ownershipCodes : List Str :=
  ["MEMBER_OWNED_BY_OTHER_PROCESS", "RELATIONSHIP_OWNED_BY_OTHER_PROCESS",
    "FAILURE_DOMAIN_OWNED_BY_OTHER_PROCESS"].map str

inductive TargetOwner (state : RackState) : Mutation → AgentBootId → Prop where
  | member {request : PublishMemberRequest} {record : MemberRecord} {owner : AgentBootId}
      (hfound : state.members[request.record.key]? = some record)
      (howner : record.ownerBoot = some owner) : TargetOwner state (.publishMember request) owner
  | relationship {request : PublishRelationshipRequest} {record : RelationshipRecord}
      {owner : AgentBootId}
      (hfound : state.relationships[request.record.key.canonical]? = some record)
      (howner : record.ownerBoot = some owner) :
      TargetOwner state (.publishRelationship request) owner
  | failureDomain {request : PublishFailureDomainRequest} {record : FailureDomainRecord}
      {owner : AgentBootId} (hfound : state.failureDomains[request.record.id]? = some record)
      (howner : record.ownerBoot = some owner) :
      TargetOwner state (.publishFailureDomain request) owner
  | health {request : PublishHealthRequest} {record : MemberRecord} {owner : AgentBootId}
      (hfound : state.members[request.member]? = some record)
      (howner : record.ownerBoot = some owner) : TargetOwner state (.publishHealth request) owner
  | capability {request : PublishCapabilityRequest} {record : MemberRecord} {owner : AgentBootId}
      (hfound : state.members[request.member]? = some record)
      (howner : record.ownerBoot = some owner) :
      TargetOwner state (.publishCapability request) owner
  | evidence {request : WithdrawEvidenceRequest} {record : MemberRecord} {owner : AgentBootId}
      (hfound : state.members[request.member]? = some record)
      (howner : record.ownerBoot = some owner) :
      TargetOwner state (.withdrawEvidence request) owner
  | withdrawn {request : WithdrawRelationshipRequest} {record : RelationshipRecord}
      {owner : AgentBootId} (hfound : state.relationships[request.key.canonical]? = some record)
      (howner : record.ownerBoot = some owner) :
      TargetOwner state (.withdrawRelationship request) owner
  | unavailable {request : MarkUnavailableRequest} {record : MemberRecord} {owner : AgentBootId}
      (hfound : state.members[request.member]? = some record)
      (howner : record.ownerBoot = some owner) :
      TargetOwner state (.markUnavailable request) owner
  | revalidated {request : RevalidateMembersRequest} {key : MemberKey} {record : MemberRecord}
      {owner : AgentBootId} (htarget : key ∈ state.revalidationTargets request)
      (hfound : state.members[key]? = some record) (howner : record.ownerBoot = some owner) :
      TargetOwner state (.revalidateMembers request) owner

theorem TargetOwner.owner {mutation : Mutation} {owner : AgentBootId}
    (h : state.TargetOwner mutation owner) : state.Owner owner := by
  cases h with
  | member hfound howner | health hfound howner | capability hfound howner
  | evidence hfound howner | unavailable hfound howner | revalidated _ hfound howner =>
    exact .member hfound howner
  | relationship hfound howner | withdrawn hfound howner => exact .relationship hfound howner
  | failureDomain hfound howner => exact .failureDomain hfound howner

/-- A registered boot that is refused for the ownership of a record is refused for the
sake of a publisher that is neither fenced nor lost. -/
def BlocksForLiving (options : RackFabricOptions) (state : RackState) : Prop :=
  ∀ (now : Timestamp) (mutation : Mutation) (boot owner : AgentBootId) (result : MutationResult),
    mutation.submittedBy = some boot → boot ∈ state.publishers → boot ∉ state.fencedBoots →
    (state.submit options now mutation).2 = some result →
    result.explanation.code ∈ ownershipCodes →
    state.TargetOwner mutation owner → owner ≠ boot → state.Live owner

def Unblocking {α : Type} (check : Except Refusal α) : Prop :=
  ∀ refusal, check = .error refusal → refusal.code ∉ ownershipCodes

theorem because_unblocking {outcome : MutationOutcome} {code : String} {subject : Str}
    {detail : String} {h : outcome.isAccepted = false} (hcode : str code ∉ ownershipCodes) :
    (Refusal.because outcome code subject detail h).code ∉ ownershipCodes := hcode

theorem generation_unblocking {tag : GenerationTag} {outcome : MutationOutcome} {code : String}
    {subject : Str} {detail name : String} {expected current : Generation tag}
    {h : outcome.isAccepted = false} (hcode : str code ∉ ownershipCodes) :
    (Refusal.generation outcome code subject detail name expected current h).code ∉
      ownershipCodes := hcode

theorem unblocking_ok {α : Type} (value : α) : Unblocking (.ok value) := by
  intro refusal h
  cases h

theorem Unblocking.bind {α β : Type} {check : Except Refusal α} {rest : α → Except Refusal β}
    (hcheck : Unblocking check) (hrest : ∀ value, Unblocking (rest value)) :
    Unblocking (check >>= rest) := by
  cases check with
  | error refusal =>
    intro other h
    cases h
    exact hcheck refusal rfl
  | ok value => exact hrest value

theorem unblocking_refuseIf {check : Bool} {refusal : Refusal}
    (h : refusal.code ∉ ownershipCodes) : Unblocking (refuseIf check refusal) := by
  intro other hrefused
  cases check <;> cases hrefused
  exact h

theorem unblocking_require {α : Type} {value : Option α} {refusal : Refusal}
    (h : refusal.code ∉ ownershipCodes) : Unblocking (require value refusal) := by
  intro other hrefused
  cases value <;> cases hrefused
  exact h

theorem unblocking_checkPublisher (token : AuthorityToken) (boot : AgentBootId) :
    Unblocking (state.checkPublisher token boot) := by
  unfold checkPublisher checkSequence
  refine (unblocking_refuseIf (because_unblocking (by decide))).bind fun _ => ?_
  refine (unblocking_require (because_unblocking (by decide))).bind fun record => ?_
  refine (unblocking_refuseIf (because_unblocking (by decide))).bind fun _ => ?_
  refine (unblocking_refuseIf (generation_unblocking (by decide))).bind fun _ => ?_
  refine Unblocking.bind ?_ fun _ => unblocking_ok _
  cases token.publicationGeneration with
  | none => exact unblocking_ok _
  | some expected =>
    refine (unblocking_refuseIf (generation_unblocking (by decide))).bind fun _ => ?_
    exact unblocking_refuseIf (generation_unblocking (by decide))

theorem unblocking_checkRack (token : AuthorityToken) : Unblocking (state.checkRack token) := by
  unfold checkRack
  refine (unblocking_require (because_unblocking (by decide))).bind fun rack => ?_
  refine (unblocking_require (because_unblocking (by decide))).bind fun named => ?_
  exact unblocking_refuseIf (because_unblocking (by decide))

theorem unblocking_checkAuthority (token : AuthorityToken) (rackScoped : Bool) :
    Unblocking (state.checkAuthority token rackScoped) := by
  unfold checkAuthority
  refine (unblocking_refuseIf (generation_unblocking (by decide))).bind fun _ => ?_
  refine Unblocking.bind ?_ fun _ => ?_
  · cases rackScoped with
    | false => exact unblocking_ok _
    | true => exact unblocking_checkRack token
  · refine (unblocking_refuseIf (because_unblocking (by decide))).bind fun _ => ?_
    cases token.boot with
    | none => exact unblocking_ok _
    | some boot => exact (unblocking_checkPublisher token boot).bind fun _ => unblocking_ok _

theorem underAuthority_blocked {token : AuthorityToken}
    {body : Option PublisherRef → Except Refusal (RackState × String × Str)}
    (h : (state.underAuthority token body).2.explanation.code ∈ ownershipCodes) :
    ∃ publisher, state.checkAuthority token true = .ok publisher := by
  unfold underAuthority at h
  cases hauthority : state.checkAuthority token true with
  | ok publisher => exact ⟨publisher, rfl⟩
  | error refusal =>
    rw [hauthority] at h
    exact absurd h (unblocking_checkAuthority token true refusal hauthority)

theorem revalidateMembers_blocked {request : RevalidateMembersRequest}
    (h : (state.revalidateMembers request).2.explanation.code ∈ ownershipCodes) :
    ∃ publisher, state.checkAuthority request.authority true = .ok publisher := by
  unfold revalidateMembers at h
  cases hauthority : state.checkAuthority request.authority true with
  | ok publisher => exact ⟨publisher, rfl⟩
  | error refusal =>
    rw [hauthority] at h
    exact absurd h (unblocking_checkAuthority request.authority true refusal hauthority)

/-- Whoever asks for a record that another process owns has passed the authority check. -/
theorem live_of_blocked {now : Timestamp} {mutation : Mutation} {boot owner : AgentBootId}
    {result : MutationResult} (hsubmitted : mutation.submittedBy = some boot)
    (hresult : (state.submit options now mutation).2 = some result)
    (hcode : result.explanation.code ∈ ownershipCodes)
    (htarget : state.TargetOwner mutation owner) : state.Live boot := by
  have hauthority : ∃ token publisher, token.boot = some boot ∧
      state.checkAuthority token true = .ok publisher := by
    cases htarget with
    | revalidated =>
      obtain rfl := Option.some.inj hresult
      obtain ⟨publisher, hauthority⟩ := revalidateMembers_blocked hcode
      exact ⟨_, publisher, hsubmitted, hauthority⟩
    | _ =>
      obtain rfl := Option.some.inj hresult
      obtain ⟨publisher, hauthority⟩ := underAuthority_blocked hcode
      exact ⟨_, publisher, hsubmitted, hauthority⟩
  obtain ⟨token, publisher, hboot, hauthority⟩ := hauthority
  rcases checkAuthority_ok hauthority with ⟨hnone, -⟩ | ⟨found, rfl, hsome, -⟩
  · rw [hnone] at hboot
    cases hboot
  · rw [hsome] at hboot
    obtain rfl := Option.some.inj hboot
    exact live_of_authorized (authorized_of_ok hauthority)

theorem blocksForLiving_of_tenured (h : state.Tenured) : state.BlocksForLiving options := by
  intro now mutation boot owner result hsubmitted _ _ hresult hcode htarget _
  rcases h with hclosed | hlive
  · exact absurd (live_of_blocked hsubmitted hresult hcode htarget) (hclosed.2 boot)
  · exact hlive owner htarget.owner

end RackState

namespace Deployment

def SparesOwners (deployment : Deployment) : Operation → Prop
  | .mutate input => deployment.live.SparesOwners deployment.options input
  | _ => True

theorem tenured_start (file : Option Bytes) (options : RackFabricOptions) :
    (start file options).live.Tenured := by
  refine Or.inr fun boot howner => ?_
  cases howner with
  | member hfound _ => simp [start, fresh] at hfound
  | relationship hfound _ => simp [start, fresh] at hfound
  | failureDomain hfound _ => simp [start, fresh] at hfound

theorem tenured_step (deployment : Deployment) (operation : Operation)
    (hkeyed : deployment.live.Keyed) (htenured : deployment.live.Tenured)
    (hspares : deployment.SparesOwners operation) :
    (step deployment operation).live.Tenured := by
  cases operation with
  | restart options => exact tenured_start deployment.file options
  | mutate input => exact RackState.tenured_step hkeyed htenured hspares
  | save options outcome =>
    simp only [step]
    split <;> exact htenured
  | load now readable =>
    simp only [step]
    split
    · exact htenured
    · rename_i hloaded
      exact tenured_loaded hloaded

theorem tenured_run {deployment : Deployment} (horderly : deployment.live.Orderly)
    (htenured : deployment.live.Tenured) (operations : List Operation)
    (hspares : Execution.EachStep step SparesOwners deployment operations) :
    (Execution.run step deployment operations).live.Tenured := by
  induction operations generalizing deployment with
  | nil => exact htenured
  | cons operation operations ih =>
    rw [Execution.eachStep_cons] at hspares
    exact ih (orderly_step deployment operation horderly)
      (tenured_step deployment operation horderly.toKeyed htenured hspares.1) hspares.2

/-- As long as no owner is fenced, and none named that is not live, ownership blocks a
registered boot only on behalf of a live owner. -/
theorem blocks_for_living_of_spared (file : Option Bytes) (options : RackFabricOptions)
    (operations : List Operation)
    (hspares : Execution.EachStep step SparesOwners (start file options) operations) :
    Execution.Always step (fun deployment => deployment.live.BlocksForLiving deployment.options)
      (start file options) operations := by
  intro before hinitial
  apply blocksForLiving_of_tenured
  refine tenured_run Orderly.empty (tenured_start file options) before ?_
  exact fun earlier operation hearlier => hspares earlier operation (hearlier.trans hinitial)

def sharedNode : List Operation :=
  [.mutate Scenario.declareRack, .mutate (Scenario.registerPublisher Scenario.bootA),
    .mutate (Scenario.publishMember (Scenario.process Scenario.bootA)
      { key := Scenario.node "a" }),
    .mutate (Scenario.registerPublisher Scenario.bootB)]

theorem shared_node_blocks_for_living :
    Execution.Always step (fun deployment => deployment.live.BlocksForLiving deployment.options)
      (start none Scenario.defaults) sharedNode := by
  apply blocks_for_living_of_spared
  simp only [sharedNode, Execution.eachStep_cons, Execution.eachStep_nil, SparesOwners,
    RackState.SparesOwners, Fences, Scenario.declareRack, Scenario.registerPublisher,
    Scenario.publishMember, Scenario.process, Mutation.namedOwner, Option.isNone_some]
  simp

def orphanedNode : List Operation :=
  sharedNode ++ [.mutate
    { mutation := .fencePublisher
        { coordinatorEpoch := .first, boot := some Scenario.bootA } }]

/-- The successor of a fenced process cannot publish what the process has left behind. -/
theorem fenced_owner_blocks_successor :
    ¬ Execution.Always step (fun deployment => deployment.live.BlocksForLiving deployment.options)
      (start none Scenario.defaults) orphanedNode := by
  intro h
  have hblocks := h orphanedNode (List.prefix_refl _)
  let left := Execution.run step (start none Scenario.defaults) orphanedNode
  let request : PublishMemberRequest :=
    { authority := Scenario.process Scenario.bootB, record := { key := Scenario.node "a" } }
  have howned : (left.live.members[Scenario.node "a"]?.bind (·.ownerBoot)) =
      some Scenario.bootA := by decide +kernel
  obtain ⟨record, hfound, hboot⟩ := Option.bind_eq_some_iff.mp howned
  have hresult : ((left.live.submit left.options ⟨1000⟩ (.publishMember request)).2.map
      (·.explanation.code)) = some (str "MEMBER_OWNED_BY_OTHER_PROCESS") := by decide +kernel
  obtain ⟨result, hsubmitted, hcode⟩ := Option.map_eq_some_iff.mp hresult
  have hlive := hblocks ⟨1000⟩ (.publishMember request) Scenario.bootB Scenario.bootA result rfl
    (by decide +kernel) (by decide +kernel) hsubmitted (by rw [hcode]; decide) (.member hfound hboot)
    (by decide +kernel)
  have hfenced : Scenario.bootA ∈ left.live.fencedBoots := by decide +kernel
  exact hlive.1 hfenced

end Deployment

end RackFabric
