import RackFabric.Properties.Fencing

/-! Whether a mutation of one process leaves the records of the others alone. -/
namespace RackFabric
open Std SecondaryIndex Reachability Relation RackGraph RackState

def OwnedByOther (boot : AgentBootId) (owner : Option AgentBootId) : Prop :=
  ∃ other, owner = some other ∧ other ≠ boot

def OthersKept {κ ρ : Type} [Ord κ] [TransOrd κ] (ownerOf : ρ → Option AgentBootId)
    (boot : AgentBootId) (before after : ExtTreeMap κ ρ) : Prop :=
  ∀ (key : κ) (record : ρ), before[key]? = some record → OwnedByOther boot (ownerOf record) →
    after[key]? = some record

section OthersKept
variable {κ ρ : Type} [Ord κ] [TransOrd κ] {ownerOf : ρ → Option AgentBootId}
  {boot : AgentBootId} {before : ExtTreeMap κ ρ}

theorem OthersKept.refl (table : ExtTreeMap κ ρ) : OthersKept ownerOf boot table table :=
  fun _ _ hfound _ => hfound

theorem OthersKept.trans {middle after : ExtTreeMap κ ρ}
    (hfirst : OthersKept ownerOf boot before middle)
    (hsecond : OthersKept ownerOf boot middle after) : OthersKept ownerOf boot before after :=
  fun key record hfound howned => hsecond key record (hfirst key record hfound howned) howned

variable [LawfulEqOrd κ]

theorem OthersKept.insert {key : κ} (record : ρ)
    (h : ∀ {existing}, before[key]? = some existing → ¬ OwnedByOther boot (ownerOf existing)) :
    OthersKept ownerOf boot before (before.insert key record) := by
  intro other found hfound howned
  rw [ExtTreeMap.getElem?_insert]
  split
  · rename_i heq
    obtain rfl := LawfulEqCmp.compare_eq_iff_eq.mp heq
    exact absurd howned (h hfound)
  · exact hfound

theorem OthersKept.erase {key : κ}
    (h : ∀ {existing}, before[key]? = some existing → ¬ OwnedByOther boot (ownerOf existing)) :
    OthersKept ownerOf boot before (before.erase key) := by
  intro other found hfound howned
  rw [ExtTreeMap.getElem?_erase]
  split
  · rename_i heq
    obtain rfl := LawfulEqCmp.compare_eq_iff_eq.mp heq
    exact absurd howned (h hfound)
  · exact hfound

end OthersKept

namespace RackState
variable {options : RackFabricOptions} {state : RackState} {boot : AgentBootId}

structure Isolated (boot : AgentBootId) (before after : RackState) : Prop where
  members : OthersKept MemberRecord.ownerBoot boot before.members after.members
  relationships :
    OthersKept RelationshipRecord.ownerBoot boot before.relationships after.relationships
  failureDomains :
    OthersKept FailureDomainRecord.ownerBoot boot before.failureDomains after.failureDomains
  power : ∀ envelope, before.power = some envelope → OwnedByOther boot envelope.ownerBoot →
    after.power = some envelope
  cooling : ∀ envelope, before.cooling = some envelope → OwnedByOther boot envelope.ownerBoot →
    after.cooling = some envelope

theorem Isolated.refl (boot : AgentBootId) (state : RackState) : Isolated boot state state :=
  ⟨.refl _, .refl _, .refl _, fun _ h _ => h, fun _ h _ => h⟩

theorem Isolated.trans {before middle after : RackState} (hfirst : Isolated boot before middle)
    (hsecond : Isolated boot middle after) : Isolated boot before after where
  members := hfirst.members.trans hsecond.members
  relationships := hfirst.relationships.trans hsecond.relationships
  failureDomains := hfirst.failureDomains.trans hsecond.failureDomains
  power envelope hsome howned :=
    hsecond.power envelope (hfirst.power envelope hsome howned) howned
  cooling envelope hsome howned :=
    hsecond.cooling envelope (hfirst.cooling envelope hsome howned) howned

theorem isolated_noteRefusal {publisher : Option PublisherRef} {refusal : Refusal} :
    Isolated boot state (state.noteRefusal publisher refusal) := by
  cases publisher with
  | none => exact .refl _ _
  | some found =>
    simp only [noteRefusal]
    split <;> exact ⟨.refl _, .refl _, .refl _, fun _ h _ => h, fun _ h _ => h⟩

theorem isolated_advancePublication {committed : RackState} {publisher : Option PublisherRef} :
    Isolated boot state (committed.advancePublication publisher) ↔
      Isolated boot state committed := by
  cases publisher <;>
    exact ⟨fun ⟨hm, hr, hd, hp, hc⟩ => ⟨hm, hr, hd, hp, hc⟩,
      fun ⟨hm, hr, hd, hp, hc⟩ => ⟨hm, hr, hd, hp, hc⟩⟩

/-- Under authority a mutation isolates exactly when what it commits does. -/
theorem underAuthority_isolated_iff {α : Type} {token : AuthorityToken}
    {check : Option PublisherRef → Except Refusal α} (commit : α → RackState)
    {rest : α → Except Refusal (RackState × String × Str)}
    (hrest : ∀ value, ∃ code subject, rest value = .ok (commit value, code, subject)) :
    Isolated boot state
        (state.underAuthority token fun publisher => check publisher >>= rest).1 ↔
      ∀ publisher value, state.checkAuthority token true = .ok publisher →
        check publisher = .ok value → Isolated boot state (commit value) := by
  rcases underAuthority_cases check commit hrest with
    ⟨hnot, -, hsame | ⟨publisher, refusal, -, hnoted⟩⟩ |
    ⟨publisher, value, hauthority, hvalue, -, hdone⟩
  · rw [hsame]
    exact iff_of_true (.refl _ _) fun _ _ hauthority hok => absurd ⟨_, _, hauthority, hok⟩ hnot
  · rw [hnoted]
    exact iff_of_true isolated_noteRefusal
      fun _ _ hauthority hok => absurd ⟨_, _, hauthority, hok⟩ hnot
  · rw [hdone, isolated_advancePublication]
    refine ⟨fun h found other hfound hother => ?_, fun h => h _ _ hauthority hvalue⟩
    obtain rfl : publisher = found := Except.ok.inj (hauthority.symm.trans hfound)
    obtain rfl : value = other := Except.ok.inj (hvalue.symm.trans hother)
    exact h

theorem not_ownedByOther {owner : Option AgentBootId} {token : AuthorityToken}
    (hconflict : ownerConflict owner token = false) (hboot : token.boot = some boot) :
    ¬ OwnedByOther boot owner := by
  rintro ⟨other, rfl, hne⟩
  simp [ownerConflict, hboot, hne] at hconflict

/-! The mutations that check the owner of the record they replace. -/

theorem isolated_member {after : RackState} {key : MemberKey} {record : MemberRecord}
    (hafter : after.members = state.members.insert key record)
    (hrelationships : after.relationships = state.relationships)
    (hdomains : after.failureDomains = state.failureDomains)
    (hpower : after.power = state.power) (hcooling : after.cooling = state.cooling)
    (h : ∀ {existing}, state.members[key]? = some existing →
      ¬ OwnedByOther boot existing.ownerBoot) : Isolated boot state after where
  members := hafter ▸ .insert record h
  relationships := hrelationships ▸ .refl _
  failureDomains := hdomains ▸ .refl _
  power _ hsome _ := hpower ▸ hsome
  cooling _ hsome _ := hcooling ▸ hsome

theorem publishMember_isolated (request : PublishMemberRequest)
    (hboot : request.authority.boot = some boot) :
    Isolated boot state (publishMember options state request).1 := by
  refine (underAuthority_isolated_iff state.commitMember (fun _ => ⟨_, _, rfl⟩)).mpr ?_
  intro publisher record _ hok
  have hchecked := memberAdmission hok
  refine isolated_member (members_storeMember ..) (relationships_storeMember ..)
    (failureDomains_storeMember ..) rfl rfl fun hfound => ?_
  exact not_ownedByOther (hchecked.not_conflicting (hchecked.key ▸ hfound)) hboot

theorem publishRelationship_isolated (request : PublishRelationshipRequest)
    (hboot : request.authority.boot = some boot) :
    Isolated boot state (publishRelationship options state request).1 := by
  refine (underAuthority_isolated_iff state.commitRelationship (fun _ => ⟨_, _, rfl⟩)).mpr ?_
  intro publisher record _ hok
  exact
    { members := members_storeRelationship .. ▸ .refl _
      relationships := relationships_storeRelationship .. ▸
        .insert record fun hfound =>
          not_ownedByOther ((relationshipAdmission hok).replaces hfound) hboot
      failureDomains := failureDomains_storeRelationship .. ▸ .refl _
      power := fun _ h _ => h
      cooling := fun _ h _ => h }

theorem publishFailureDomain_isolated (request : PublishFailureDomainRequest)
    (hboot : request.authority.boot = some boot) :
    Isolated boot state (publishFailureDomain options state request).1 := by
  refine (underAuthority_isolated_iff state.commitFailureDomain (fun _ => ⟨_, _, rfl⟩)).mpr ?_
  intro publisher record _ hok
  exact
    { members := members_storeFailureDomain .. ▸ .refl _
      relationships := relationships_storeFailureDomain .. ▸ .refl _
      failureDomains := failureDomains_storeFailureDomain .. ▸
        .insert record fun hfound =>
          not_ownedByOther ((failureDomainAdmission hok).replaces hfound) hboot
      power := fun _ h _ => h
      cooling := fun _ h _ => h }

/-- A revision of a member whose owner has been checked. -/
theorem isolated_reviseMember (hkeyed : state.Keyed) {key : MemberKey}
    {existing record : MemberRecord} (hfound : state.members[key]? = some existing)
    (hkey : record.key = existing.key) (howner : ¬ OwnedByOther boot existing.ownerBoot) :
    Isolated boot state (state.reviseMember existing record) := by
  have hat : record.key = key := hkey.trans (hkeyed.members hfound)
  refine isolated_member (members_storeMember ..) (relationships_storeMember ..)
    (failureDomains_storeMember ..) rfl rfl fun hother => ?_
  rw [hat, hfound] at hother
  exact Option.some.inj hother ▸ howner

/-- The mutations that revise a member check its owner and keep its key. -/
theorem underAuthority_revision_isolated (hkeyed : state.Keyed) {token : AuthorityToken}
    (hboot : token.boot = some boot)
    {check : Option PublisherRef → Except Refusal (MemberRecord × MemberRecord)}
    (commit : MemberRecord × MemberRecord → RackState)
    {rest : MemberRecord × MemberRecord → Except Refusal (RackState × String × Str)}
    (hrest : ∀ value, ∃ code subject, rest value = .ok (commit value, code, subject))
    (hcommit : ∀ existing record, Isolated boot state (state.reviseMember existing record) →
      Isolated boot state (commit (existing, record)))
    (hcheck : ∀ {publisher existing record}, check publisher = .ok (existing, record) →
      ∃ key : MemberKey, state.members[key]? = some existing ∧
        ownerConflict existing.ownerBoot token = false ∧ record.key = existing.key) :
    Isolated boot state
      (state.underAuthority token fun publisher => check publisher >>= rest).1 := by
  rw [underAuthority_isolated_iff commit hrest]
  rintro publisher ⟨existing, record⟩ _ hok
  obtain ⟨key, hfound, howner, hkey⟩ := hcheck hok
  exact hcommit existing record
    (isolated_reviseMember hkeyed hfound hkey (not_ownedByOther howner hboot))

theorem publishHealth_isolated (hkeyed : state.Keyed) (request : PublishHealthRequest)
    (hboot : request.authority.boot = some boot) :
    Isolated boot state (state.publishHealth request).1 := by
  unfold publishHealth
  apply underAuthority_revision_isolated hkeyed hboot
    fun revision => state.commitHealth revision.1 revision.2
  · exact fun ⟨_, _⟩ => ⟨_, _, rfl⟩
  · exact fun _ _ ⟨hm, hr, hd, hp, hc⟩ => ⟨hm, hr, hd, hp, hc⟩
  · intro publisher existing record hok
    obtain ⟨hfound, howner, hrecord⟩ := admitHealth_ok hok
    exact ⟨_, hfound, howner, by rw [hrecord]; rfl⟩

theorem publishCapability_isolated (hkeyed : state.Keyed) (request : PublishCapabilityRequest)
    (hboot : request.authority.boot = some boot) :
    Isolated boot state (publishCapability options state request).1 := by
  unfold publishCapability
  apply underAuthority_revision_isolated hkeyed hboot
    fun revision => state.commitCapability revision.1 revision.2
  · exact fun ⟨_, _⟩ => ⟨_, _, rfl⟩
  · exact fun _ _ ⟨hm, hr, hd, hp, hc⟩ => ⟨hm, hr, hd, hp, hc⟩
  · intro publisher existing record hok
    obtain ⟨hfound, howner, requested, -, hrecord⟩ := admitCapability_ok hok
    exact ⟨_, hfound, howner, by rw [hrecord]⟩

theorem withdrawEvidence_isolated (hkeyed : state.Keyed) (request : WithdrawEvidenceRequest)
    (hboot : request.authority.boot = some boot) :
    Isolated boot state (state.withdrawEvidence request).1 := by
  unfold withdrawEvidence
  apply underAuthority_revision_isolated hkeyed hboot
    fun revision => state.commitRevision revision.1 revision.2
  · exact fun ⟨_, _⟩ => ⟨_, _, rfl⟩
  · exact fun _ _ ⟨hm, hr, hd, hp, hc⟩ => ⟨hm, hr, hd, hp, hc⟩
  · intro publisher existing record hok
    obtain ⟨hfound, howner, -⟩ := admitWithdrawal_ok hok
    have hkey := (revision_of_withdrawal hkeyed hok).key
    exact ⟨_, hfound, howner, hkey.trans (hkeyed.members hfound).symm⟩

theorem markUnavailable_isolated (hkeyed : state.Keyed) (request : MarkUnavailableRequest)
    (hboot : request.authority.boot = some boot) :
    Isolated boot state (state.markUnavailable request).1 := by
  unfold markUnavailable
  apply underAuthority_revision_isolated hkeyed hboot
    fun revision => state.commitRevision revision.1 revision.2
  · exact fun ⟨_, _⟩ => ⟨_, _, rfl⟩
  · exact fun _ _ ⟨hm, hr, hd, hp, hc⟩ => ⟨hm, hr, hd, hp, hc⟩
  · intro publisher existing record hok
    obtain ⟨hfound, howner, -, hrecord⟩ := admitUnavailable_ok hok
    exact ⟨_, hfound, howner, by rw [hrecord]⟩

theorem withdrawRelationship_isolated (request : WithdrawRelationshipRequest)
    (hboot : request.authority.boot = some boot) :
    Isolated boot state (state.withdrawRelationship request).1 := by
  refine (underAuthority_isolated_iff
    (fun _ => state.commitRelationshipWithdrawal request.key.canonical)
    (fun _ => ⟨_, _, rfl⟩)).mpr ?_
  rintro publisher ⟨⟩ _ hok
  obtain ⟨existing, hfound, howner⟩ := admitRelationshipWithdrawal_ok hok
  exact
    { members := members_dropRelationship .. ▸ .refl _
      relationships := relationships_dropRelationship .. ▸ .erase fun hother =>
        Option.some.inj (hfound.symm.trans hother) ▸ not_ownedByOther howner hboot
      failureDomains := failureDomains_dropRelationship .. ▸ .refl _
      power := fun _ h _ => h
      cooling := fun _ h _ => h }

/-- The targets before a refused one have been checked too. -/
theorem revalidateTargets_kept {token : AuthorityToken} (hboot : token.boot = some boot)
    (targets : List MemberKey) (graph : RackGraph) (revalidated : Nat) :
    let after := (revalidateTargets token targets graph revalidated).1
    OthersKept MemberRecord.ownerBoot boot graph.members after.members ∧
      after.relationships = graph.relationships ∧ after.failureDomains = graph.failureDomains := by
  induction targets generalizing graph revalidated with
  | nil => exact ⟨.refl _, rfl, rfl⟩
  | cons key targets ih =>
    unfold revalidateTargets
    split
    · exact ⟨.refl _, rfl, rfl⟩
    · rename_i existing hfound
      split
      · exact ⟨.refl _, rfl, rfl⟩
      · rename_i howner
        split
        · exact ih graph revalidated
        · split
          · exact ⟨.refl _, rfl, rfl⟩
          · rename_i next _
            obtain ⟨hmembers, hrelationships, hdomains⟩ := ih (graph.storeMember key
              (some existing) { existing with
                revalidationRequired := false, revalidationReason := .none, generation := next })
              (revalidated + 1)
            rw [members_storeMember] at hmembers
            rw [relationships_storeMember] at hrelationships
            rw [failureDomains_storeMember] at hdomains
            refine ⟨OthersKept.trans (OthersKept.insert _ fun hother => ?_) hmembers,
              hrelationships, hdomains⟩
            obtain rfl := Option.some.inj (hfound.symm.trans hother)
            exact not_ownedByOther (by simpa using howner) hboot

theorem revalidateMembers_isolated (request : RevalidateMembersRequest)
    (hboot : request.authority.boot = some boot) :
    Isolated boot state (state.revalidateMembers request).1 := by
  obtain ⟨hmembers, hrelationships, hdomains⟩ := revalidateTargets_kept hboot
    (state.revalidationTargets request) state.toRackGraph 0
  have hrevised : Isolated boot state { state with
      toRackGraph := (revalidateTargets request.authority (state.revalidationTargets request)
        state.toRackGraph 0).1 } :=
    ⟨hmembers, hrelationships ▸ .refl _, hdomains ▸ .refl _, fun _ h _ => h, fun _ h _ => h⟩
  unfold revalidateMembers
  split
  · exact .refl _ _
  · dsimp only
    split
    · exact .refl _ _
    · split
      · exact hrevised.trans isolated_noteRefusal
      · exact hrevised
      · refine isolated_advancePublication.mpr ?_
        obtain ⟨hm, hr, hd, hp, hc⟩ := hrevised
        exact ⟨hm, hr, hd, hp, hc⟩

/-! The three mutations that do not ask for the owner of every record they change. -/

theorem admitPowerEnvelope_owner {publisher : Option PublisherRef}
    {request : PublishPowerEnvelopeRequest} {record : PowerEnvelopeRecord}
    (h : admitPowerEnvelope state publisher request = .ok record)
    (hboot : request.authority.boot = some boot) : record.ownerBoot = some boot := by
  obtain ⟨owner, rfl, hrecord⟩ := (powerEnvelopeAdmission h).stored
  rw [hrecord]
  simp [hboot]

theorem admitCoolingEnvelope_owner {publisher : Option PublisherRef}
    {request : PublishCoolingEnvelopeRequest} {record : CoolingEnvelopeRecord}
    (h : admitCoolingEnvelope state publisher request = .ok record)
    (hboot : request.authority.boot = some boot) : record.ownerBoot = some boot := by
  obtain ⟨owner, rfl, hrecord⟩ := (coolingEnvelopeAdmission h).stored
  rw [hrecord]
  simp [hboot]

theorem commitPowerEnvelope_isolated_iff {record : PowerEnvelopeRecord} {now : Timestamp}
    (howner : record.ownerBoot = some boot) :
    Isolated boot state (state.commitPowerEnvelope record now) ↔
      ∀ envelope, state.power = some envelope → ¬ OwnedByOther boot envelope.ownerBoot := by
  constructor
  · intro h envelope hsome howned
    have hsame := h.power envelope hsome howned
    obtain ⟨other, hother, hne⟩ := howned
    have hnew : envelope.ownerBoot = some boot := by
      rw [← Option.some.inj hsame]
      exact howner
    exact hne (Option.some.inj (hother.symm.trans hnew))
  · intro hown
    exact ⟨.refl _, .refl _, .refl _, fun envelope hsome howned =>
      absurd howned (hown envelope hsome), fun _ h _ => h⟩

theorem commitCoolingEnvelope_isolated_iff {record : CoolingEnvelopeRecord} {now : Timestamp}
    (howner : record.ownerBoot = some boot) :
    Isolated boot state (state.commitCoolingEnvelope record now) ↔
      ∀ envelope, state.cooling = some envelope → ¬ OwnedByOther boot envelope.ownerBoot := by
  constructor
  · intro h envelope hsome howned
    have hsame := h.cooling envelope hsome howned
    obtain ⟨other, hother, hne⟩ := howned
    have hnew : envelope.ownerBoot = some boot := by
      rw [← Option.some.inj hsame]
      exact howner
    exact hne (Option.some.inj (hother.symm.trans hnew))
  · intro hown
    exact ⟨.refl _, .refl _, .refl _, fun _ h _ => h, fun envelope hsome howned =>
      absurd howned (hown envelope hsome)⟩

/-- The member, its children and its relationships are nobody else's. -/
structure RetiresOwn (boot : AgentBootId) (state : RackState) (member : MemberKey) : Prop where
  itself : ∀ record, state.members[member]? = some record → ¬ OwnedByOther boot record.ownerBoot
  children : ∀ (child : MemberKey) (record : MemberRecord), state.members[child]? = some record →
    record.parent = some member → ¬ OwnedByOther boot record.ownerBoot
  relationships : ∀ (key : RelationshipKey) (record : RelationshipRecord),
    state.relationships[key]? = some record → key.source = member ∨ key.target = member →
    ¬ OwnedByOther boot record.ownerBoot

theorem members_retirement {member : MemberKey} {record : MemberRecord} (hkey : record.key = member)
    (key : MemberKey) :
    (state.commitRetirement member record).members[key]? =
      if key = member then some record else state.members[key]?.map (detached member) := by
  change (retireInGraph state.toRackGraph member record).members[key]? = _
  rw [retireInGraph_eq, members_storeMember, hkey, ExtTreeMap.getElem?_insert, members_trimmed]
  by_cases heq : member = key
  · simp [heq]
  · simp [heq, Ne.symm heq]

theorem relationships_retirement (member : MemberKey) (record : MemberRecord)
    (key : RelationshipKey) :
    (state.commitRetirement member record).relationships[key]? =
      if key ∈ touching state.toRackGraph member then none else state.relationships[key]? := by
  change (retireInGraph state.toRackGraph member record).relationships[key]? = _
  rw [retireInGraph_eq, relationships_storeMember, relationships_trimmed]

theorem failureDomains_retirement (member : MemberKey) (record : MemberRecord) :
    (state.commitRetirement member record).failureDomains = state.failureDomains := by
  change (retireInGraph state.toRackGraph member record).failureDomains = _
  rw [retireInGraph_eq, failureDomains_storeMember, failureDomains_trimmed]

/-- A child, a relationship or the member itself is never left as it was. -/
theorem commitRetirement_isolated_iff (h : state.WellFormed) {request : RetireMemberRequest}
    {record : MemberRecord} (hadmitted : admitRetirement state request = .ok record) :
    Isolated boot state (state.commitRetirement request.member record) ↔
      RetiresOwn boot state request.member := by
  obtain ⟨existing, hfound, hlive, -, hrecord⟩ := admitRetirement_ok hadmitted
  have hkey : record.key = request.member := by
    have hkey := h.members hfound
    rw [hrecord]
    exact hkey
  have hretired : record.lifecycle = .retired := by rw [hrecord]; rfl
  constructor
  · intro hisolated
    refine ⟨fun found hother howned => ?_, fun child found hother hparent howned => ?_,
      fun key found hother hend howned => ?_⟩
    · have hsame := hisolated.members _ found hother howned
      rw [members_retirement hkey, if_pos rfl] at hsame
      rw [hfound] at hother
      obtain rfl := Option.some.inj hother
      exact hlive (Option.some.inj hsame ▸ hretired)
    · have hsame := hisolated.members child found hother howned
      have hne : child ≠ request.member := fun heq =>
        h.not_own_parent (heq ▸ hother) hparent
      rw [members_retirement hkey, if_neg hne, hother] at hsame
      exact parent_detached request.member found
        ((congrArg MemberRecord.parent (Option.some.inj hsame)).trans hparent)
    · have hsame := hisolated.relationships key found hother howned
      have hmem : key ∈ touching state.toRackGraph request.member :=
        (mem_touching h).mpr ⟨ExtTreeMap.mem_iff_isSome_getElem?.mpr (by simp [hother]), hend⟩
      rw [relationships_retirement, if_pos hmem] at hsame
      cases hsame
  · intro hown
    refine ⟨fun key found hother howned => ?_, fun key found hother howned => ?_,
      failureDomains_retirement .. ▸ .refl _, fun _ h _ => h, fun _ h _ => h⟩
    · have hne : key ≠ request.member := fun heq => hown.itself found (heq ▸ hother) howned
      rw [members_retirement hkey, if_neg hne, hother, Option.map_some,
        detached_of_other fun hparent => hown.children key found hother hparent howned]
    · have hnot : key ∉ touching state.toRackGraph request.member := fun hmem =>
        hown.relationships key found hother ((mem_touching h).mp hmem).2 howned
      rw [relationships_retirement, if_neg hnot, hother]

end RackState

/-- The boot behind a mutation of a record; the other mutations are about the
whole rack or about a publisher. -/
def Mutation.recordsOf (mutation : Mutation) : Option AgentBootId :=
  match mutation with
  | .registerPublisher _ | .declareRack _ | .retireRack _ | .fencePublisher _ | .heartbeat _
  | .expirePublishers _ | .publishSnapshot _ => none
  | _ => mutation.submittedBy

namespace RackState
variable {options : RackFabricOptions} {state : RackState} {boot : AgentBootId}

def Isolates (options : RackFabricOptions) (state : RackState) (input : Input) : Prop :=
  ∀ boot, input.mutation.recordsOf = some boot → Isolated boot state (step options state input)

/-- What is retired or replaced without a question is the submitter's own. -/
def RespectsOwners (state : RackState) (input : Input) : Prop :=
  ∀ boot, input.mutation.recordsOf = some boot →
    match input.mutation with
    | .retireMember request =>
        state.Admits request.authority (fun _ => admitRetirement state request) →
          RetiresOwn boot state request.member
    | .publishPowerEnvelope request =>
        state.Admits request.authority
            (fun publisher => admitPowerEnvelope state publisher request) →
          ∀ envelope, state.power = some envelope → ¬ OwnedByOther boot envelope.ownerBoot
    | .publishCoolingEnvelope request =>
        state.Admits request.authority
            (fun publisher => admitCoolingEnvelope state publisher request) →
          ∀ envelope, state.cooling = some envelope → ¬ OwnedByOther boot envelope.ownerBoot
    | _ => True

theorem underAuthority_isolated_when {α : Type} {token : AuthorityToken}
    {check : Option PublisherRef → Except Refusal α} (commit : α → RackState)
    {rest : α → Except Refusal (RackState × String × Str)} {own : Prop}
    (hrest : ∀ value, ∃ code subject, rest value = .ok (commit value, code, subject))
    (hcommit : ∀ publisher value, check publisher = .ok value →
      (Isolated boot state (commit value) ↔ own)) :
    Isolated boot state
        (state.underAuthority token fun publisher => check publisher >>= rest).1 ↔
      (state.Admits token check → own) := by
  rw [underAuthority_isolated_iff commit hrest]
  constructor
  · rintro h ⟨publisher, value, hauthority, hok⟩
    exact (hcommit publisher value hok).mp (h publisher value hauthority hok)
  · intro hown publisher value hauthority hok
    exact (hcommit publisher value hok).mpr (hown ⟨publisher, value, hauthority, hok⟩)

theorem retireMember_isolated_iff (h : state.WellFormed) (request : RetireMemberRequest) :
    Isolated boot state (state.retireMember request).1 ↔
      (state.Admits request.authority (fun _ => admitRetirement state request) →
        RetiresOwn boot state request.member) :=
  underAuthority_isolated_when (state.commitRetirement request.member) (fun _ => ⟨_, _, rfl⟩)
    fun _ _ hok => commitRetirement_isolated_iff h hok

theorem publishPowerEnvelope_isolated_iff (now : Timestamp) (request : PublishPowerEnvelopeRequest)
    (hboot : request.authority.boot = some boot) :
    Isolated boot state (state.publishPowerEnvelope now request).1 ↔
      (state.Admits request.authority
          (fun publisher => admitPowerEnvelope state publisher request) →
        ∀ envelope, state.power = some envelope → ¬ OwnedByOther boot envelope.ownerBoot) :=
  underAuthority_isolated_when (fun record => state.commitPowerEnvelope record now)
    (fun _ => ⟨_, _, rfl⟩)
    fun _ _ hok => commitPowerEnvelope_isolated_iff (admitPowerEnvelope_owner hok hboot)

theorem publishCoolingEnvelope_isolated_iff (now : Timestamp)
    (request : PublishCoolingEnvelopeRequest) (hboot : request.authority.boot = some boot) :
    Isolated boot state (state.publishCoolingEnvelope now request).1 ↔
      (state.Admits request.authority
          (fun publisher => admitCoolingEnvelope state publisher request) →
        ∀ envelope, state.cooling = some envelope → ¬ OwnedByOther boot envelope.ownerBoot) :=
  underAuthority_isolated_when (fun record => state.commitCoolingEnvelope record now)
    (fun _ => ⟨_, _, rfl⟩)
    fun _ _ hok => commitCoolingEnvelope_isolated_iff (admitCoolingEnvelope_owner hok hboot)

theorem step_isolates_iff (h : state.WellFormed) (input : Input) :
    Isolates options state input ↔ RespectsOwners state input := by
  obtain ⟨now, mutation⟩ := input
  refine forall_congr' fun boot => forall_congr' fun hboot => ?_
  cases mutation with
  | registerPublisher | declareRack | retireRack | fencePublisher | heartbeat | expirePublishers
  | publishSnapshot => cases hboot
  | publishMember request => exact iff_of_true (publishMember_isolated request hboot) trivial
  | publishRelationship request =>
    exact iff_of_true (publishRelationship_isolated request hboot) trivial
  | publishFailureDomain request =>
    exact iff_of_true (publishFailureDomain_isolated request hboot) trivial
  | publishPowerEnvelope request => exact publishPowerEnvelope_isolated_iff now request hboot
  | publishCoolingEnvelope request => exact publishCoolingEnvelope_isolated_iff now request hboot
  | publishHealth request =>
    exact iff_of_true (publishHealth_isolated h.toKeyed request hboot) trivial
  | publishCapability request =>
    exact iff_of_true (publishCapability_isolated h.toKeyed request hboot) trivial
  | withdrawEvidence request =>
    exact iff_of_true (withdrawEvidence_isolated h.toKeyed request hboot) trivial
  | withdrawRelationship request =>
    exact iff_of_true (withdrawRelationship_isolated request hboot) trivial
  | markUnavailable request =>
    exact iff_of_true (markUnavailable_isolated h.toKeyed request hboot) trivial
  | retireMember request => exact retireMember_isolated_iff h request
  | revalidateMembers request =>
    exact iff_of_true (revalidateMembers_isolated request hboot) trivial

/-- After any run, a mutation of a process leaves the records of the others alone
exactly when what it retires or replaces is its own. -/
theorem ownership_isolated_iff (options : RackFabricOptions) (inputs : List Input)
    (input : Input) :
    Isolates options (Execution.run (step options) (fresh options) inputs) input ↔
      RespectsOwners (Execution.run (step options) (fresh options) inputs) input :=
  step_isolates_iff (wellFormed_run options inputs) input

def sharedRack : List Input :=
  [Scenario.declareRack, Scenario.registerPublisher Scenario.bootA,
    Scenario.registerPublisher Scenario.bootB,
    Scenario.publishMember (Scenario.process Scenario.bootA) { key := Scenario.node "a" }]

def foreignRetirement : Input where
  mutation := .retireMember
    { authority := Scenario.process Scenario.bootB, member := Scenario.node "a" }

/-- One process retires the member of another. -/
theorem retirement_changes_foreign_member :
    ¬ Isolates Scenario.defaults (Scenario.run sharedRack) foreignRetirement := by
  intro h
  have howned : ((Scenario.run sharedRack).members[Scenario.node "a"]?.bind (·.ownerBoot)) =
      some Scenario.bootA := by decide +kernel
  have hbefore : ((Scenario.run sharedRack).members[Scenario.node "a"]?.map (·.lifecycle)) ≠
      some .retired := by decide +kernel
  have hafter : ((step Scenario.defaults (Scenario.run sharedRack)
      foreignRetirement).members[Scenario.node "a"]?.map (·.lifecycle)) = some .retired := by
    decide +kernel
  obtain ⟨record, hfound, hboot⟩ := Option.bind_eq_some_iff.mp howned
  have hkept := (h Scenario.bootB rfl).members _ record hfound
    ⟨Scenario.bootA, hboot, by decide +kernel⟩
  exact hbefore (by rw [hfound, ← hkept, hafter])

end RackState

end RackFabric
