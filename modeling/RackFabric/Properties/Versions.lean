import RackFabric.Properties.Atomicity
import RackFabric.Properties.Ownership

/-! A member's generation identifies its content, except after the mutations that
rewrite the records of other members. -/
namespace RackFabric
open Std Tables RackGraph RackState SecondaryIndex

def MemberRecord.Advances (record successor : MemberRecord) : Prop :=
  successor = record ∨ record.generation < successor.generation ∨
    (successor.generation = record.generation ∧ record.generation.next = none)

namespace MemberRecord.Advances

theorem refl (record : MemberRecord) : record.Advances record :=
  Or.inl rfl

theorem trans (first second third : MemberRecord) (hfirst : first.Advances second)
    (hsecond : second.Advances third) : first.Advances third := by
  rcases hfirst with rfl | hlt | ⟨hsame, hnone⟩
  · exact hsecond
  · rcases hsecond with rfl | hlater | ⟨hsame, -⟩
    · exact Or.inr (Or.inl hlt)
    · exact Or.inr (Or.inl (Generation.lt_trans hlt hlater))
    · rw [← hsame] at hlt
      exact Or.inr (Or.inl hlt)
  · rcases hsecond with rfl | hlater | ⟨hsame', -⟩
    · exact Or.inr (Or.inr ⟨hsame, hnone⟩)
    · rw [hsame] at hlater
      exact absurd hlater (Generation.not_lt_of_next hnone)
    · exact Or.inr (Or.inr ⟨hsame'.trans hsame, hnone⟩)

theorem of_next {record successor : MemberRecord}
    (h : record.generation.next = some successor.generation) : record.Advances successor :=
  Or.inr (Or.inl (Generation.lt_of_next h))

end MemberRecord.Advances

def MemberRecord.Dated (record successor : MemberRecord) : Prop :=
  record.generation ≤ successor.generation

theorem MemberRecord.Dated.refl (record : MemberRecord) : record.Dated record :=
  Generation.le_refl _

theorem MemberRecord.Dated.trans (first second third : MemberRecord) (hfirst : first.Dated second)
    (hsecond : second.Dated third) : first.Dated third :=
  Generation.le_trans hfirst hsecond

theorem MemberRecord.Advances.dated {record successor : MemberRecord}
    (h : record.Advances successor) : record.Dated successor := by
  rcases h with rfl | hlt | ⟨hsame, -⟩
  · exact Dated.refl _
  · exact Generation.le_of_lt hlt
  · unfold Dated
    rw [hsame]
    exact Generation.le_refl _

namespace RackState
variable {options : RackFabricOptions} {state : RackState} {publisher : Option PublisherRef}

/-! Every admitted revision of a member carries the next generation of its record. -/

theorem nextRecord_generation {record next : MemberRecord} {subject : Str}
    (h : nextRecord publisher record subject = .ok next) :
    record.generation.next = some next.generation := by
  unfold nextRecord at h
  simp only [bind_eq_ok, require_eq_ok, pure_eq_ok] at h
  obtain ⟨generation, hnext, rfl⟩ := h
  exact hnext

structure Succeeds (state : RackState) (member : MemberKey) (existing record : MemberRecord) :
    Prop where
  found : state.members[member]? = some existing
  key : record.key = existing.key
  next : existing.generation.next = some record.generation

theorem succeeds_health {request : PublishHealthRequest} {existing record : MemberRecord}
    (h : admitHealth state publisher request = .ok (existing, record)) :
    state.Succeeds request.member existing record := by
  obtain ⟨hfound, -, hrecord⟩ := admitHealth_ok h
  refine ⟨hfound, by rw [hrecord, withHealth], ?_⟩
  unfold admitHealth at h
  simp only [bind_eq_ok, pure_eq_ok, Prod.mk.injEq] at h
  obtain ⟨found, -, _, -, _, -, _, -, next, hnext, rfl, rfl⟩ := h
  have hgeneration := nextRecord_generation hnext
  exact hgeneration

theorem succeeds_capability {request : PublishCapabilityRequest} {existing record : MemberRecord}
    (h : admitCapability options state publisher request = .ok (existing, record)) :
    state.Succeeds request.member existing record := by
  obtain ⟨hfound, -, requested, -, hrecord⟩ := admitCapability_ok h
  refine ⟨hfound, by rw [hrecord], ?_⟩
  unfold admitCapability at h
  simp only [bind_eq_ok, refuseIf_eq_ok, refuseSome_eq_ok, require_eq_ok, exists_and_left,
    exists_const, pure_eq_ok, Prod.mk.injEq] at h
  obtain ⟨found, -, requested, -, -, -, -, -, -, next, hnext, rfl, rfl⟩ := h
  have hgeneration := nextRecord_generation hnext
  exact hgeneration

theorem withdrawn_key (record : MemberRecord) (scope : WithdrawScope) :
    (withdrawn record scope).key = record.key := by
  cases scope <;> rfl

theorem withdrawn_generation (record : MemberRecord) (scope : WithdrawScope) :
    (withdrawn record scope).generation = record.generation := by
  cases scope <;> rfl

theorem succeeds_withdrawal {request : WithdrawEvidenceRequest} {existing record : MemberRecord}
    (h : admitWithdrawal state publisher request = .ok (existing, record)) :
    state.Succeeds request.member existing record := by
  obtain ⟨hfound, -, hrecord⟩ := admitWithdrawal_ok h
  refine ⟨hfound, by rw [hrecord, withdrawn_key], ?_⟩
  unfold admitWithdrawal at h
  simp only [bind_eq_ok, pure_eq_ok, Prod.mk.injEq] at h
  obtain ⟨found, -, next, hnext, rfl, rfl⟩ := h
  rw [← withdrawn_generation _ request.scope]
  exact nextRecord_generation hnext

theorem succeeds_unavailable {request : MarkUnavailableRequest} {existing record : MemberRecord}
    (h : admitUnavailable state request = .ok (existing, record)) :
    state.Succeeds request.member existing record := by
  obtain ⟨hfound, -, -, hrecord⟩ := admitUnavailable_ok h
  refine ⟨hfound, by rw [hrecord], ?_⟩
  unfold admitUnavailable at h
  simp only [bind_eq_ok, refuseIf_eq_ok, require_eq_ok, exists_and_left, exists_const, pure_eq_ok,
    Prod.mk.injEq] at h
  obtain ⟨found, -, -, -, next, hnext, rfl, rfl⟩ := h
  exact hnext

theorem succeeds_retirement {request : RetireMemberRequest} {record : MemberRecord}
    (h : admitRetirement state request = .ok record) :
    ∃ existing, state.Succeeds request.member existing record := by
  obtain ⟨existing, hfound, -, hnext, hrecord⟩ := admitRetirement_ok h
  exact ⟨existing, hfound, by rw [hrecord, retiredRecord], hnext⟩

theorem target_of_admitMember {request : PublishMemberRequest} {record : MemberRecord}
    (h : admitMember options state publisher request = .ok record) :
    targetGeneration ((state.members[request.record.key]?.map (·.generation)).getD {})
      (clearRetired request.record) = some record.generation := by
  unfold admitMember at h
  simp only [bind_eq_ok, refuseIf_eq_ok, refuseSome_eq_ok, require_eq_ok, exists_and_left,
    exists_const, pure_eq_ok] at h
  obtain ⟨-, -, -, ⟨⟩, -, ⟨⟩, -, target, htarget, rfl⟩ := h
  exact htarget

theorem generation_admitMember {request : PublishMemberRequest} {existing record : MemberRecord}
    (h : admitMember options state publisher request = .ok record)
    (hfound : state.members[request.record.key]? = some existing) :
    existing.generation < record.generation := by
  have htarget := target_of_admitMember h
  rw [hfound] at htarget
  unfold targetGeneration at htarget
  split at htarget
  · rename_i hahead
    rw [← Option.some.inj htarget]
    exact hahead.2
  · exact Generation.lt_of_next htarget

/-! How each mutation changes the table of members. -/

theorem Succeeds.followed {member : MemberKey} {existing record : MemberRecord}
    (h : state.Succeeds member existing record) (hkeyed : Keyed state.toRackGraph) :
    Followed MemberRecord.Advances state.members (state.reviseMember existing record).members := by
  have hkey : record.key = member := h.key.trans (hkeyed.members h.found)
  rw [show (state.reviseMember existing record).members = state.members.insert record.key record
    from members_storeMember ..]
  refine Followed.insert MemberRecord.Advances.refl fun found hfound => ?_
  rw [hkey, h.found] at hfound
  cases hfound
  exact .of_next h.next

theorem commitMember_followed {request : PublishMemberRequest} {record : MemberRecord}
    (h : admitMember options state publisher request = .ok record) :
    Followed MemberRecord.Advances state.members (state.commitMember record).members := by
  rw [show (state.commitMember record).members = state.members.insert record.key record
    from members_storeMember ..]
  refine Followed.insert MemberRecord.Advances.refl fun existing hfound => ?_
  rw [(memberAdmission h).key] at hfound
  exact Or.inr (Or.inl (generation_admitMember h hfound))

theorem fencedMember_advances (record : MemberRecord) (reason : RevalidationReason) :
    record.Advances (fencedMember record reason) := by
  unfold fencedMember
  cases hnext : record.generation.next with
  | none => exact Or.inr (Or.inr ⟨by simp, hnext⟩)
  | some next => exact .of_next (by simp [hnext])

theorem fenceMembers_followed (reason : RevalidationReason) (keys : List MemberKey)
    (graph : RackGraph) :
    Followed MemberRecord.Advances graph.members
      (keys.foldl (fenceMember reason) graph).members := by
  induction keys generalizing graph with
  | nil => exact Followed.refl MemberRecord.Advances.refl _
  | cons key keys ih =>
    refine Followed.trans MemberRecord.Advances.trans ?_ (ih (fenceMember reason graph key))
    unfold fenceMember
    split
    · exact Followed.refl MemberRecord.Advances.refl _
    · rename_i existing hfound
      rw [members_storeMember]
      refine Followed.insert MemberRecord.Advances.refl fun found hexisting => ?_
      rw [hfound] at hexisting
      cases hexisting
      exact fencedMember_advances ..

theorem fencePublisher_followed (now : Timestamp) (request : FencePublisherRequest) :
    Followed MemberRecord.Advances state.members (state.fencePublisher now request).1.members := by
  unfold fencePublisher
  split
  · exact Followed.refl MemberRecord.Advances.refl _
  · exact fenceMembers_followed request.reason _ state.toRackGraph

theorem revalidateTargets_followed (token : AuthorityToken) (targets : List MemberKey)
    (graph : RackGraph) (revalidated : Nat) :
    Followed MemberRecord.Advances graph.members
      (revalidateTargets token targets graph revalidated).1.members := by
  induction targets generalizing graph revalidated with
  | nil => exact Followed.refl MemberRecord.Advances.refl _
  | cons key targets ih =>
    rcases revalidateTargets_cons graph token key targets revalidated with
      ⟨-, refusal, hstop, -⟩ | ⟨-, -, hskip⟩ | ⟨-, existing, next, hfound, -, hnext, hgo⟩
    · rw [hstop]
      exact Followed.refl MemberRecord.Advances.refl _
    · rw [hskip]
      exact ih graph revalidated
    · rw [hgo]
      refine Followed.trans MemberRecord.Advances.trans ?_ (ih _ _)
      rw [members_storeMember]
      refine Followed.insert MemberRecord.Advances.refl fun found hexisting => ?_
      rw [hfound] at hexisting
      cases hexisting
      exact .of_next hnext

/-- The mutation rewrites members that keep their generation: the children of a
retired member, the present members of a retired rack, and the members of a
redeclared rack. -/
def RewritesSilently (state : RackState) : Mutation → Prop
  | .retireMember request =>
      state.Admits request.authority (fun _ => admitRetirement state request) ∧
      ∃ child, state.ParentEdge child request.member
  | .retireRack request =>
      (∃ admitted, admitRackRetirement state request = .ok admitted) ∧
      ∃ (key : MemberKey) (record : MemberRecord), state.members[key]? = some record ∧
        record.lifecycle = .present
  | .declareRack request =>
      (∃ named epoch rack generation, admitDeclaration state request = .ok (named, epoch) ∧
        state.rack = some rack ∧ admitOverRack rack named epoch request = .ok generation) ∧
      ∃ (key : MemberKey) (record : MemberRecord), state.members[key]? = some record ∧
        ¬ (record.revalidationRequired = true ∧ record.revalidationReason = .superseded)
  | _ => False

theorem commitRetirement_followed {request : RetireMemberRequest} {record : MemberRecord}
    (hadmitted : admitRetirement state request = .ok record) (hkeyed : Keyed state.toRackGraph)
    {follows : MemberRecord → MemberRecord → Prop}
    (hadvance : ∀ {existing : MemberRecord}, existing.Advances record → follows existing record)
    (hother : ∀ (key : MemberKey) (other : MemberRecord), state.members[key]? = some other →
      follows other (detached request.member other)) :
    Followed follows state.members (state.commitRetirement request.member record).members := by
  obtain ⟨existing, hsucceeds⟩ := succeeds_retirement hadmitted
  have hkey : record.key = request.member :=
    hsucceeds.key.trans (hkeyed.members hsucceeds.found)
  intro key other hfound
  rw [members_retirement hkey]
  by_cases hsame : key = request.member
  · subst hsame
    rw [hsucceeds.found] at hfound
    cases hfound
    exact ⟨record, by simp, hadvance (.of_next hsucceeds.next)⟩
  · exact ⟨detached request.member other, by simp [hsame, hfound], hother key other hfound⟩

theorem admitted_followed {now : Timestamp} {mutation : Mutation} {committed : RackState}
    {token : AuthorityToken} (hkeyed : Keyed state.toRackGraph)
    (htoken : mutation.token = some token)
    (hauthority : state.checkAuthority token true = .ok publisher)
    (h : Admitted options state now publisher mutation committed) :
    Followed MemberRecord.Advances state.members committed.members ∨
      (state.RewritesSilently mutation ∧
        Followed MemberRecord.Dated state.members committed.members) := by
  cases h with
  | member hadmitted => exact Or.inl (commitMember_followed hadmitted)
  | health hadmitted => exact Or.inl ((succeeds_health hadmitted).followed hkeyed)
  | capability hadmitted => exact Or.inl ((succeeds_capability hadmitted).followed hkeyed)
  | withdrawal hadmitted => exact Or.inl ((succeeds_withdrawal hadmitted).followed hkeyed)
  | unavailable hadmitted => exact Or.inl ((succeeds_unavailable hadmitted).followed hkeyed)
  | @retirement request record hadmitted =>
    by_cases hchild : ∃ child, state.ParentEdge child request.member
    · cases htoken
      refine Or.inr ⟨⟨⟨_, _, hauthority, hadmitted⟩, hchild⟩, ?_⟩
      refine commitRetirement_followed hadmitted hkeyed MemberRecord.Advances.dated ?_
      intro key other _
      unfold detached
      split <;> exact Generation.le_refl _
    · refine Or.inl (commitRetirement_followed hadmitted hkeyed id fun key other hfound => ?_)
      refine Or.inl (detached_of_other fun hparent => hchild ⟨key, ?_⟩)
      exact parentEdge_iff.mpr ⟨other, hfound, hparent⟩
  | @rackRetirement request rack next hadmitted =>
    by_cases hpresent : ∃ (key : MemberKey) (record : MemberRecord),
        state.members[key]? = some record ∧ record.lifecycle = .present
    · refine Or.inr ⟨⟨⟨_, hadmitted⟩, hpresent⟩, Followed.map fun key record _ => ?_⟩
      split <;> exact Generation.le_refl _
    · refine Or.inl (Followed.map fun key record hfound => Or.inl ?_)
      exact if_neg fun hlife => hpresent ⟨key, record, hfound, hlife⟩
  | @revalidation request graph count hrevalidated =>
    have hfollowed := revalidateTargets_followed request.authority
      (state.revalidationTargets request) state.toRackGraph 0
    rw [hrevalidated] at hfollowed
    exact Or.inl hfollowed
  | relationship =>
    rw [show (state.commitRelationship _).members = state.members from
      members_storeRelationship ..]
    exact Or.inl (Followed.refl .refl _)
  | failureDomain =>
    rw [show (state.commitFailureDomain _).members = state.members from
      members_storeFailureDomain ..]
    exact Or.inl (Followed.refl .refl _)
  | powerEnvelope => exact Or.inl (Followed.refl .refl _)
  | coolingEnvelope => exact Or.inl (Followed.refl .refl _)
  | relationshipWithdrawal =>
    rw [show (state.commitRelationshipWithdrawal _).members = state.members from
      members_dropRelationship ..]
    exact Or.inl (Followed.refl .refl _)
  | snapshot => exact Or.inl (Followed.refl .refl _)

theorem redeclared_followed {request : DeclareRackRequest} {named : RackId} {epoch : RackEpochId}
    {rack : RackRecord} {generation : RackGeneration} {now : Timestamp}
    (hadmitted : admitDeclaration state request = .ok (named, epoch))
    (hsome : state.rack = some rack)
    (hover : admitOverRack rack named epoch request = .ok generation) :
    let after := state.commitRedeclaration rack epoch generation request.label now
    Followed MemberRecord.Advances state.members after.members ∨
      (state.RewritesSilently (.declareRack request) ∧
        Followed MemberRecord.Dated state.members after.members) := by
  by_cases hrewritten : ∃ (key : MemberKey) (record : MemberRecord),
      state.members[key]? = some record ∧
        ¬ (record.revalidationRequired = true ∧ record.revalidationReason = .superseded)
  · refine Or.inr ⟨⟨⟨_, _, _, _, hadmitted, hsome, hover⟩, hrewritten⟩, ?_⟩
    exact Followed.map fun key record _ => Generation.le_refl _
  · refine Or.inl (Followed.map fun key record hfound => Or.inl ?_)
    obtain ⟨hrequired, hreason⟩ : record.revalidationRequired = true ∧
        record.revalidationReason = .superseded :=
      Classical.not_not.mp fun hnot => hrewritten ⟨key, record, hfound, hnot⟩
    rw [← hrequired, ← hreason]

theorem members_followed {now : Timestamp} {mutation : Mutation} {after : RackState}
    {outcome : Option MutationOutcome} (hkeyed : Keyed state.toRackGraph)
    (h : Transition options state now mutation after outcome) :
    Followed MemberRecord.Advances state.members after.members ∨
      (state.RewritesSilently mutation ∧
        Followed MemberRecord.Dated state.members after.members) := by
  have hsame : Followed MemberRecord.Advances state.members state.members := Followed.refl .refl _
  cases h with
  | noted =>
    rw [members_noteRefusal]
    exact Or.inl hsame
  | committed htoken hauthority hadmitted =>
    rw [toRackGraph_advancePublication]
    exact admitted_followed hkeyed htoken hauthority hadmitted
  | @stopped request _ graph refusal hauthority hstopped =>
    have hfollowed := revalidateTargets_followed request.authority
      (state.revalidationTargets request) state.toRackGraph 0
    rw [hstopped] at hfollowed
    rw [members_noteRefusal]
    exact Or.inl hfollowed
  | redeclared hadmitted hsome hover => exact redeclared_followed hadmitted hsome hover
  | fenced => exact Or.inl (fenceMembers_followed _ _ state.toRackGraph)
  | expired later =>
    have hfence : ∀ (between : RackState) now request,
        Followed MemberRecord.Advances state.members between.members →
          Followed MemberRecord.Advances state.members
            (between.fencePublisher now request).1.members :=
      fun between now request hbetween =>
        hbetween.trans .trans (fencePublisher_followed now request)
    exact Or.inl (expirePublishers_induction hfence hsame later)
  | _ => exact Or.inl hsame

/-- After a silent rewrite some record differs under the same generation. -/
theorem members_rewritten (hwell : WellFormed state.toRackGraph) {input : Input}
    (h : state.RewritesSilently input.mutation) :
    ∃ (key : MemberKey) (record later : MemberRecord), state.members[key]? = some record ∧
      (state.step options input).members[key]? = some later ∧ later ≠ record ∧
        later.generation = record.generation := by
  obtain ⟨now, mutation⟩ := input
  cases mutation with
  | retireMember request =>
    obtain ⟨⟨publisher, record, hauthority, hadmitted⟩, child, hedge⟩ := h
    obtain ⟨existing, hsucceeds⟩ := succeeds_retirement hadmitted
    have hkey : record.key = request.member :=
      hsucceeds.key.trans (hwell.toKeyed.members hsucceeds.found)
    have hne : child ≠ request.member := by
      rintro rfl
      obtain ⟨old, hfound, hparent⟩ := parentEdge_iff.mp hedge
      exact hwell.not_own_parent hfound hparent
    obtain ⟨old, hfound, hparent⟩ := parentEdge_iff.mp hedge
    have hstep : (state.step options ⟨now, .retireMember request⟩).members =
        (state.commitRetirement request.member record).members := by
      simp only [step, perform, retireMember, underAuthority, hauthority, hadmitted, bind,
        Except.bind, pure, Except.pure, accept, toRackGraph_advancePublication]
    refine ⟨child, old, { old with parent := none }, hfound, ?_, fun hsame => ?_, rfl⟩
    · rw [hstep, members_retirement hkey]
      simp [hne, hfound, detached_of_child hparent]
    · rw [← hsame] at hparent
      cases hparent
  | retireRack request =>
    obtain ⟨⟨⟨rack, publisher, next⟩, hadmitted⟩, key, record, hfound, hpresent⟩ := h
    have hstep : (state.step options ⟨now, .retireRack request⟩).members =
        (state.commitRackRetirement rack next now).members := by
      simp only [step, perform, retireRack, hadmitted, accept, toRackGraph_advancePublication]
    refine ⟨key, record, { record with
      lifecycle := .unavailable, revalidationRequired := true
      revalidationReason := .superseded }, hfound, ?_, fun hsame => ?_, rfl⟩
    · rw [hstep]
      simp [commitRackRetirement, ExtTreeMap.getElem?_map, hfound, hpresent]
    · rw [← hsame] at hpresent
      cases hpresent
  | declareRack request =>
    obtain ⟨⟨named, epoch, rack, generation, hadmitted, hsome, hover⟩, key, record, hfound,
      hrewritten⟩ := h
    have hstep : (state.step options ⟨now, .declareRack request⟩).members =
        (state.commitRedeclaration rack epoch generation request.label now).members := by
      simp only [step, perform, declareRack, hadmitted, hsome, hover, accept]
    refine ⟨key, record, { record with
      revalidationRequired := true, revalidationReason := .superseded }, hfound, ?_,
      fun hsame => hrewritten ?_, rfl⟩
    · rw [hstep]
      simp [commitRedeclaration, ExtTreeMap.getElem?_map, hfound]
    · rw [← hsame]
      exact ⟨rfl, rfl⟩
  | _ => cases h

def Identified (before after : RackState) : Prop :=
  ∀ (key : MemberKey) (record later : MemberRecord), before.members[key]? = some record →
    after.members[key]? = some later → later ≠ record → record.generation < later.generation

def BelowMaximum (state : RackState) : Prop :=
  ∀ (key : MemberKey) (record : MemberRecord), state.members[key]? = some record →
    record.generation.next ≠ none

instance (state : RackState) : Decidable state.BelowMaximum :=
  decidable_of_iff (∀ entry ∈ state.members.toList, entry.2.generation.next ≠ none)
    ⟨fun h key record hfound =>
      h (key, record) (ExtTreeMap.mem_toList_iff_getElem?_eq_some.mpr hfound),
    fun h _ hentry => h _ _ (ExtTreeMap.mem_toList_iff_getElem?_eq_some.mp hentry)⟩

def Versioned (record successor : MemberRecord) : Prop :=
  successor = record ∨ record.generation < successor.generation

theorem Versioned.trans (first second third : MemberRecord) (hfirst : Versioned first second)
    (hsecond : Versioned second third) : Versioned first third := by
  rcases hfirst with rfl | hlt
  · exact hsecond
  · rcases hsecond with rfl | hlater
    · exact Or.inr hlt
    · exact Or.inr (Generation.lt_trans hlt hlater)

theorem followed_of_identified {before after : RackState} (h : Identified before after)
    (hdated : Followed MemberRecord.Dated before.members after.members) :
    Followed Versioned before.members after.members := by
  intro key record hfound
  obtain ⟨later, hlater, -⟩ := hdated key record hfound
  refine ⟨later, hlater, ?_⟩
  by_cases hsame : later = record
  · exact Or.inl hsame
  · exact Or.inr (h key record later hfound hlater hsame)

theorem identified_of_followed {before after : RackState}
    (h : Followed Versioned before.members after.members) : Identified before after := by
  intro key record later hfound hlater hdiffers
  obtain ⟨successor, hsuccessor, hfollows⟩ := h key record hfound
  obtain rfl := Option.some.inj (hsuccessor.symm.trans hlater)
  exact hfollows.resolve_left hdiffers

theorem members_dated {input : Input} (hkeyed : Keyed state.toRackGraph) :
    Followed MemberRecord.Dated state.members (state.step options input).members := by
  rcases members_followed hkeyed (perform_transition state input) with hadvance | ⟨-, hdated⟩
  · exact hadvance.mono MemberRecord.Advances.dated
  · exact hdated

theorem members_versioned_iff (hwell : WellFormed state.toRackGraph) (hbelow : state.BelowMaximum)
    (input : Input) :
    Followed Versioned state.members (state.step options input).members ↔
      ¬ state.RewritesSilently input.mutation := by
  constructor
  · intro hversioned hsilent
    obtain ⟨key, record, later, hfound, hlater, hdiffers, hsame⟩ :=
      members_rewritten hwell hsilent
    have hlt := identified_of_followed hversioned key record later hfound hlater hdiffers
    rw [hsame] at hlt
    exact Generation.lt_irrefl _ hlt
  · intro hloud
    rcases members_followed hwell.toKeyed (perform_transition state input) with
      hadvance | ⟨hsilent, -⟩
    · intro key record hfound
      obtain ⟨successor, hsuccessor, hfollows⟩ := hadvance key record hfound
      refine ⟨successor, hsuccessor, ?_⟩
      rcases hfollows with hsame | hlt | ⟨-, hnone⟩
      · exact Or.inl hsame
      · exact Or.inr hlt
      · exact absurd hnone (hbelow key record hfound)
    · exact absurd hsilent hloud

/-- Over a run it is enough to compare the tables of each state and the next one. -/
theorem members_ordered_iff {follows : MemberRecord → MemberRecord → Prop}
    (hrefl : ∀ record, follows record record)
    (htrans : ∀ first second third, follows first second → follows second third →
      follows first third)
    (options : RackFabricOptions) (inputs : List Input) :
    Execution.Ordered (step options)
        (fun before after => Followed follows before.members after.members)
        (fresh options) inputs ↔
      Execution.EachStep (step options)
        (fun state input => Followed follows state.members (state.step options input).members)
        (fresh options) inputs :=
  Execution.ordered_iff_eachStep (step options)
    (fun before after => Followed follows before.members after.members)
    (fun state => Followed.refl hrefl state.members)
    (fun hfirst hsecond => hfirst.trans htrans hsecond) (fresh options) inputs

theorem dated_run (options : RackFabricOptions) (inputs : List Input) :
    Execution.Ordered (step options)
      (fun before after => Followed MemberRecord.Dated before.members after.members)
      (fresh options) inputs :=
  (members_ordered_iff MemberRecord.Dated.refl MemberRecord.Dated.trans options inputs).mpr
    fun before _ _ => members_dated (wellFormed_run options before).toKeyed

theorem generation_identifies_member_iff (options : RackFabricOptions) (inputs : List Input)
    (hbelow : Execution.Always (step options) BelowMaximum (fresh options) inputs) :
    Execution.Ordered (step options) Identified (fresh options) inputs ↔
      Execution.EachStep (step options)
        (fun state input => ¬ state.RewritesSilently input.mutation) (fresh options) inputs := by
  have hordered : Execution.Ordered (step options) Identified (fresh options) inputs ↔
      Execution.Ordered (step options)
        (fun before after => Followed Versioned before.members after.members)
        (fresh options) inputs := by
    constructor
    · intro h before between hbefore
      exact followed_of_identified (h before between hbefore)
        (dated_run options inputs before between hbefore)
    · intro h before between hbefore
      exact identified_of_followed (h before between hbefore)
  rw [hordered, members_ordered_iff (fun _ => Or.inl rfl) Versioned.trans]
  refine Execution.eachStep_congr _ fun before input hbefore => ?_
  exact members_versioned_iff (wellFormed_run options before)
    (hbelow before ((List.prefix_append _ _).trans hbefore)) input

def republishingInputs : List Input :=
  Scenario.equippedRack ++
    [Scenario.publishMember (Scenario.process Scenario.bootA) { key := Scenario.node "b" }]

theorem republished_members_identified :
    Execution.Ordered (step Scenario.defaults) Identified (fresh Scenario.defaults)
        republishingInputs ↔
      Execution.EachStep (step Scenario.defaults)
        (fun state input => ¬ state.RewritesSilently input.mutation) (fresh Scenario.defaults)
        republishingInputs :=
  generation_identifies_member_iff Scenario.defaults republishingInputs (by decide +kernel)

/-- The child of the retired member. -/
def detachingInputs : List Input :=
  [Scenario.declareRack,
    Scenario.publishMember Scenario.operator { key := Scenario.node "a" },
    Scenario.publishMember Scenario.operator
      { key := Scenario.node "b", parent := some (Scenario.node "a") },
    { mutation := .retireMember { authority := Scenario.operator, member := Scenario.node "a" } }]

/-- The child is detached under the generation it had. -/
theorem detached_child_keeps_generation :
    ¬ (Execution.Always (step Scenario.defaults) BelowMaximum (fresh Scenario.defaults)
        detachingInputs →
      Execution.Ordered (step Scenario.defaults) Identified (fresh Scenario.defaults)
        detachingInputs) := by
  intro hidentifies
  have hbelow : Execution.Always (step Scenario.defaults) BelowMaximum (fresh Scenario.defaults)
      detachingInputs := by
    decide +kernel
  have h := hidentifies hbelow
  have hdiffers : (Scenario.run detachingInputs).members[Scenario.node "b"]? ≠
      (Scenario.run (detachingInputs.take 3)).members[Scenario.node "b"]? := by
    decide +kernel
  have hsame : (Scenario.run detachingInputs).members[Scenario.node "b"]?.map (·.generation) =
      (Scenario.run (detachingInputs.take 3)).members[Scenario.node "b"]?.map (·.generation) := by
    decide +kernel
  have hidentified : Identified (Scenario.run (detachingInputs.take 3))
      (Scenario.run detachingInputs) :=
    h (detachingInputs.take 3) (detachingInputs.drop 3) (List.prefix_refl _)
  generalize Scenario.run detachingInputs = after at hdiffers hsame hidentified
  generalize Scenario.run (detachingInputs.take 3) = before at hdiffers hsame hidentified
  cases hbefore : before.members[Scenario.node "b"]? with
  | none => simp_all
  | some record =>
    cases hafter : after.members[Scenario.node "b"]? with
    | none => simp_all
    | some later =>
      rw [hbefore, hafter] at hdiffers hsame
      have hlt := hidentified _ record later hbefore hafter (by simpa using hdiffers)
      simp only [Option.map_some, Option.some.injEq] at hsame
      rw [hsame] at hlt
      exact Generation.lt_irrefl _ hlt

end RackState

end RackFabric
