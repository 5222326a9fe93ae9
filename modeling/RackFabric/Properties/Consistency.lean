import RackFabric.Properties.Envelopes
import RackFabric.Properties.Leases
import RackFabric.Properties.Revisions
import RackFabric.Properties.Unchecked

/-! What the invariant gate asks of the records, besides the shape of the graph, and how
every mutation keeps it. -/
namespace RackFabric
open Std Tables RackGraph RackState

theorem Generation.isSet_of_lt {tag : GenerationTag} {first second : Generation tag}
    (h : first < second) : second.isSet = true := by
  have hlt : first.value < second.value := h
  have hne : second.value ≠ 0 := by
    intro hzero
    rw [hzero, UInt64.lt_iff_toNat_lt] at hlt
    exact Nat.not_lt_zero _ hlt
  simpa [isSet] using hne

theorem Generation.isSet_of_le {tag : GenerationTag} {first second : Generation tag}
    (h : first ≤ second) (hset : first.isSet = true) : second.isSet = true := by
  have hpositive : (⟨0⟩ : Generation tag) < first := by
    change (0 : UInt64) < first.value
    rw [UInt64.lt_iff_toNat_lt]
    have hne : first.value ≠ 0 := by simpa [isSet] using hset
    exact Nat.pos_of_ne_zero fun hzero => hne (UInt64.toNat_inj.mp hzero)
  exact isSet_of_lt (lt_of_lt_of_le hpositive h)

theorem Generation.isSet_of_next {tag : GenerationTag} {generation following : Generation tag}
    (h : generation.next = some following) : following.isSet = true :=
  isSet_of_lt (lt_of_next h)

theorem Generation.isSet_of_advance {tag : GenerationTag} {generation following : Generation tag}
    (h : generation.advance = some following) : following.isSet = true :=
  isSet_of_next (advance_eq_next generation ▸ h)

/-! Members. -/

/-- What the gate asks of one member, whatever the rest of the rack holds. -/
structure MemberRecord.Admissible (limits : ResourceLimits) (record : MemberRecord) : Prop where
  retired : record.lifecycle = .retired → record.observedAt = .unknown
  failureDomains : record.failureDomains.length ≤ limits.maxFailureDomainsPerMember
  capabilities : record.capabilities.length ≤ limits.maxCapabilitiesPerMember

namespace MemberRecord.Admissible
variable {options : RackFabricOptions} {limits : ResourceLimits} {record existing : MemberRecord}

theorem mono (h : existing.Admissible limits)
    (hretired : record.lifecycle = .retired → existing.lifecycle = .retired)
    (hobserved : record.observedAt = existing.observedAt)
    (hdomains : record.failureDomains = existing.failureDomains)
    (hcapabilities : record.capabilities.length ≤ existing.capabilities.length) :
    record.Admissible limits where
  retired hlater := hobserved.trans (h.retired (hretired hlater))
  failureDomains := hdomains ▸ h.failureDomains
  capabilities := Nat.le_trans hcapabilities h.capabilities

theorem rewrite (hrewrite : existing.Rewrite record) (h : existing.Admissible limits) :
    record.Admissible limits := by
  cases hrewrite with
  | withdrawn scope =>
    cases scope with
    | all =>
      refine ⟨fun hretired => ?_, h.failureDomains, Nat.zero_le _⟩
      simp [RackState.withdrawn] at hretired
    | capabilities => exact h.mono id rfl rfl (Nat.zero_le _)
    | _ => exact h.mono id rfl rfl (Nat.le_refl _)
  | unavailable =>
    refine ⟨fun hretired => ?_, h.failureDomains, h.capabilities⟩
    cases hretired
  | retired => exact ⟨fun _ => rfl, h.failureDomains, h.capabilities⟩
  | detached parent =>
    unfold RackGraph.detached
    split <;> exact h.mono id rfl rfl (Nat.le_refl _)
  | fenced => exact h.mono id rfl rfl (by simp [fencedMember])
  | _ => exact h.mono id rfl rfl (Nat.le_refl _)

theorem published {state : RackState} {publisher : Option PublisherRef}
    {request : PublishMemberRequest}
    (h : admitMember options state publisher request = .ok record) :
    record.Admissible options.limits := by
  obtain ⟨target, owner, -, hrecord⟩ := (memberAdmission h).stored
  have hvalid := (memberAdmission h).valid
  simp only [validateMemberRecord, firstError_cons, errorIf_eq_none, decide_eq_false_iff_not,
    Nat.not_lt] at hvalid
  obtain ⟨-, -, -, hdomains, hcapabilities, -⟩ := hvalid
  rw [hrecord]
  unfold clearRetired
  split
  · exact ⟨fun _ => rfl, hdomains, hcapabilities⟩
  · rename_i hlive
    exact ⟨fun hretired => absurd hretired hlive, hdomains, hcapabilities⟩

theorem enabled {state : RackState} {publisher : Option PublisherRef}
    {request : PublishCapabilityRequest}
    (h : admitCapability options state publisher request = .ok (existing, record))
    (hexisting : existing.Admissible options.limits) : record.Admissible options.limits := by
  obtain ⟨hfound, -, requested, hrequested, hrecord⟩ := admitCapability_ok h
  have hroom : (existing.capabilities.find? fun capability => capability.id = requested.id) = none →
      existing.capabilities.length < options.limits.maxCapabilitiesPerMember := by
    intro hnone
    unfold admitCapability at h
    simp only [bind_eq_ok, refuseIf_eq_ok, refuseSome_eq_ok, require_eq_ok, exists_and_left,
      exists_const, pure_eq_ok, Prod.mk.injEq] at h
    obtain ⟨owned, howned, found, hsame, -, -, -, -, hbound, -, -, rfl, -⟩ := h
    obtain rfl := Option.some.inj (hrequested.symm.trans hsame)
    simpa [hnone] using hbound
  refine ⟨?_, ?_, ?_⟩
  · rw [hrecord]
    exact hexisting.retired
  · rw [hrecord]
    exact hexisting.failureDomains
  · rw [hrecord]
    simp only [length_putCapability]
    split
    · exact hexisting.capabilities
    · rename_i habsent
      exact hroom (by simpa using habsent)

end MemberRecord.Admissible

/-! Envelopes. -/

/-- The envelope is numbered, and its headroom rests on a limit and a draw. -/
structure PowerEnvelopeRecord.Accounted (record : PowerEnvelopeRecord) : Prop where
  numbered : record.generation.isSet = true
  supported : record.rackHeadroom.isSome = true →
    record.rackLimit.isSome = true ∧ record.rackObservedDraw.isSome = true

def CoolingZoneRecord.Supported (zone : CoolingZoneRecord) : Prop :=
  zone.thermalHeadroom.isSome = true →
    zone.coolingCapacity.isSome = true ∧ zone.designThermalLimit.isSome = true

structure CoolingEnvelopeRecord.Accounted (record : CoolingEnvelopeRecord) : Prop where
  numbered : record.generation.isSet = true
  supported : ∀ zone ∈ record.zones, zone.Supported

theorem operands_of_headroom {limit load : Option Quantity} {now : Timestamp}
    (h : (deriveHeadroom limit load now).isSome = true) :
    limit.isSome = true ∧ load.isSome = true := by
  cases limit with
  | none => cases h
  | some limit =>
    cases load with
    | none => cases h
    | some load => exact ⟨rfl, rfl⟩

theorem PowerEnvelopeRecord.Accounted.derived {record : PowerEnvelopeRecord}
    (h : record.generation.isSet = true) (now : Timestamp) :
    (record.recomputeDerived now).Accounted :=
  ⟨h, fun hsome => operands_of_headroom hsome⟩

theorem CoolingEnvelopeRecord.Accounted.derived {record : CoolingEnvelopeRecord}
    (h : record.generation.isSet = true) (now : Timestamp) :
    (record.recomputeDerived now).Accounted := by
  refine ⟨h, fun zone hzone => ?_⟩
  obtain ⟨old, -, rfl⟩ := List.mem_map.mp hzone
  exact fun hsome => operands_of_headroom hsome

theorem PowerEnvelopeRecord.Accounted.cleared {record : PowerEnvelopeRecord}
    (h : record.Accounted) : (clearedPower record).Accounted :=
  ⟨h.numbered, fun hsome => by cases hsome⟩

theorem CoolingEnvelopeRecord.Accounted.cleared {record : CoolingEnvelopeRecord}
    (h : record.Accounted) : (clearedCooling record).Accounted := by
  refine ⟨h.numbered, fun zone hzone => ?_⟩
  obtain ⟨old, -, rfl⟩ := List.mem_map.mp hzone
  exact fun hsome => by cases hsome

namespace RackState
variable {options : RackFabricOptions} {state after : RackState} {now : Timestamp}
  {mutation : Mutation} {outcome : Option MutationOutcome}

/-! What a step does to the relationships. -/

def SameNumber (old later : RelationshipRecord) : Prop :=
  later.generation = old.generation

theorem SameNumber.refl (record : RelationshipRecord) : SameNumber record record := rfl

theorem SameNumber.trans {first second third : RelationshipRecord}
    (hfirst : SameNumber first second) (hsecond : SameNumber second third) :
    SameNumber first third :=
  Eq.trans hsecond hfirst

theorem descended_fenceRelationships (request : FencePublisherRequest) :
    Descended SameNumber state.relationships
      (state.fencePublisher now request).1.relationships := by
  unfold fencePublisher
  split
  · exact Descended.refl SameNumber.refl _
  · rw [accept, show (state.commitFence _ _ _ _).relationships = _ from
      relationships_fenceInGraph state.toRackGraph _ _]
    refine Descended.map fun old => ?_
    unfold fencedRelationship
    split <;> rfl

theorem descended_of_eq (h : after.relationships = state.relationships) :
    Descended SameNumber state.relationships after.relationships := by
  rw [h]
  exact Descended.refl SameNumber.refl _

theorem relationships_admitted {publisher : Option PublisherRef} {committed : RackState}
    (h : Admitted options state now publisher mutation committed) :
    Descended SameNumber state.relationships committed.relationships ∨
      ∃ request record, mutation = .publishRelationship request ∧
        admitRelationship options state publisher request = .ok record ∧
        committed.relationships = state.relationships.insert record.key record := by
  cases h with
  | relationship hadmitted =>
    exact Or.inr ⟨_, _, rfl, hadmitted, relationships_storeRelationship ..⟩
  | failureDomain => exact Or.inl (descended_of_eq (relationships_storeFailureDomain ..))
  | member | health | capability | withdrawal | unavailable =>
    exact Or.inl (descended_of_eq (relationships_storeMember ..))
  | relationshipWithdrawal =>
    left
    intro key record hfound
    rw [show (state.commitRelationshipWithdrawal _).relationships = _ from
      relationships_dropRelationship .., ExtTreeMap.getElem?_erase] at hfound
    split at hfound
    · cases hfound
    · exact ⟨record, hfound, rfl⟩
  | retirement =>
    left
    intro key record hfound
    rw [relationships_retirement] at hfound
    split at hfound
    · cases hfound
    · exact ⟨record, hfound, rfl⟩
  | @revalidation request graph count hrevalidated =>
    have htopology := revalidateTargets_topology request.authority
      (state.revalidationTargets request) state.toRackGraph 0
    rw [hrevalidated] at htopology
    exact Or.inl (descended_of_eq htopology.1)
  | _ => exact Or.inl (descended_of_eq rfl)

/-- A step publishes one relationship, or only drops and flags relationships. -/
theorem relationships_transition (h : Transition options state now mutation after outcome) :
    Descended SameNumber state.relationships after.relationships ∨
      ∃ request publisher record, mutation = .publishRelationship request ∧
        admitRelationship options state publisher request = .ok record ∧
        after.relationships = state.relationships.insert record.key record := by
  have hsame : Descended SameNumber state.relationships state.relationships :=
    Descended.refl SameNumber.refl _
  cases h with
  | noted =>
    rw [toRackGraph_noteRefusal]
    exact Or.inl hsame
  | committed htoken hauthority hadmitted =>
    rw [toRackGraph_advancePublication]
    rcases relationships_admitted hadmitted with hkept | ⟨request, record, hpublished⟩
    · exact Or.inl hkept
    · exact Or.inr ⟨request, _, record, hpublished⟩
  | @stopped request _ graph refusal hauthority hstopped =>
    have htopology := revalidateTargets_topology request.authority
      (state.revalidationTargets request) state.toRackGraph 0
    rw [hstopped] at htopology
    rw [toRackGraph_noteRefusal, htopology.1]
    exact Or.inl hsame
  | redeclared => exact Or.inl (Descended.map fun _ => rfl)
  | @fenced request boot publisher hadmitted =>
    have hfenced := @descended_fenceRelationships state now request
    rw [fencePublisher, hadmitted] at hfenced
    exact Or.inl hfenced
  | expired later =>
    have hfence : ∀ (between : RackState) now request,
        Descended SameNumber state.relationships between.relationships →
          Descended SameNumber state.relationships
            (between.fencePublisher now request).1.relationships :=
      fun between now request hbetween =>
        hbetween.trans (fun hfirst hsecond => hfirst.trans hsecond)
          (descended_fenceRelationships request)
    exact Or.inl (expirePublishers_induction hfence hsame later)
  | _ => exact Or.inl hsame

/-! The publishers that are not revoked. -/

def LiveUnderEpoch (state : RackState) : Prop :=
  ∀ (boot : AgentBootId) (record : PublisherRecord), state.publishers[boot]? = some record →
    ¬ record.Revoked → record.coordinatorEpoch = state.generations.coordinatorEpoch

namespace LiveUnderEpoch

theorem of_eq (h : state.LiveUnderEpoch) (hpublishers : after.publishers = state.publishers)
    (hepoch : after.generations.coordinatorEpoch = state.generations.coordinatorEpoch) :
    after.LiveUnderEpoch := by
  intro boot record hfound hlive
  rw [hepoch]
  exact h boot record (hpublishers ▸ hfound) hlive

theorem modify (h : state.LiveUnderEpoch) {boot : AgentBootId}
    {revise : PublisherRecord → PublisherRecord}
    (hepoch : ∀ record, state.publishers[boot]? = some record → ¬ (revise record).Revoked →
      (revise record).coordinatorEpoch = state.generations.coordinatorEpoch) :
    { state with publishers := state.publishers.modify boot revise }.LiveUnderEpoch := by
  intro other record hfound hlive
  rw [ExtTreeMap.getElem?_modify] at hfound
  split at hfound
  · rename_i heq
    obtain rfl := LawfulEqCmp.compare_eq_iff_eq.mp heq
    obtain ⟨old, hold, rfl⟩ := Option.map_eq_some_iff.mp hfound
    exact hepoch old hold hlive
  · exact h other record hfound hlive

theorem insert (h : state.LiveUnderEpoch) {boot : AgentBootId} {publisher : PublisherRecord}
    (hepoch : ¬ publisher.Revoked →
      publisher.coordinatorEpoch = state.generations.coordinatorEpoch) :
    { state with publishers := state.publishers.insert boot publisher }.LiveUnderEpoch := by
  intro other record hfound hlive
  rcases getElem?_insert_cases hfound with ⟨-, rfl⟩ | ⟨-, hold⟩
  · exact hepoch hlive
  · exact h other record hold hlive

theorem noteRefusal (h : state.LiveUnderEpoch) (publisher : Option PublisherRef)
    (refusal : Refusal) : (state.noteRefusal publisher refusal).LiveUnderEpoch := by
  cases publisher with
  | none => exact h
  | some found =>
    simp only [RackState.noteRefusal]
    split
    · exact h
    · exact h.modify fun record hfound hlive => h found.boot record hfound hlive

/-- Whoever is behind an accepted token is under the epoch in force. -/
theorem advancePublication {committed : RackState} {token : AuthorityToken} {rackScoped : Bool}
    {publisher : Option PublisherRef} (h : committed.LiveUnderEpoch)
    (hauthority : state.checkAuthority token rackScoped = .ok publisher)
    (hepochs : ∀ (boot : AgentBootId) (record : PublisherRecord),
      committed.publishers[boot]? = some record →
      ∃ old : PublisherRecord, state.publishers[boot]? = some old ∧
        record.coordinatorEpoch = old.coordinatorEpoch)
    (hepoch : committed.generations.coordinatorEpoch = state.generations.coordinatorEpoch) :
    (committed.advancePublication publisher).LiveUnderEpoch := by
  cases publisher with
  | none => exact h.of_eq rfl rfl
  | some found =>
    refine h.modify fun record hfound _ => ?_
    have hauthorized := authorized_of_ok hauthority
    obtain ⟨old, hold, hsame⟩ := hepochs _ _ hfound
    obtain rfl := Option.some.inj (hold.symm.trans hauthorized.recorded)
    exact (hsame.trans hauthorized.registered).trans hepoch.symm

theorem commitFence (h : state.LiveUnderEpoch) (boot : AgentBootId) (publisher : PublisherRecord)
    (reason : RevalidationReason) (now : Timestamp) :
    (state.commitFence boot publisher reason now).LiveUnderEpoch := by
  intro other record hfound hlive
  rcases getElem?_insert_cases hfound with ⟨-, rfl⟩ | ⟨-, hold⟩
  · exact absurd (Or.inr rfl) hlive
  · exact h other record hold hlive

theorem fencePublisher (h : state.LiveUnderEpoch) (now : Timestamp)
    (request : FencePublisherRequest) :
    (state.fencePublisher now request).1.LiveUnderEpoch := by
  unfold RackState.fencePublisher
  split
  · exact h
  · exact h.commitFence _ _ _ _

theorem committed (h : state.LiveUnderEpoch) {token : AuthorityToken}
    {publisher : Option PublisherRef} {committed : RackState}
    (hauthority : state.checkAuthority token true = .ok publisher)
    (hadmitted : Admitted options state now publisher mutation committed) :
    (committed.advancePublication publisher).LiveUnderEpoch := by
  have hkept : ∀ (boot : AgentBootId) (record : PublisherRecord),
      state.publishers[boot]? = some record →
      ∃ old : PublisherRecord, state.publishers[boot]? = some old ∧
        record.coordinatorEpoch = old.coordinatorEpoch :=
    fun boot record hfound => ⟨record, hfound, rfl⟩
  cases hadmitted with
  | rackRetirement =>
    refine advancePublication ?_ hauthority ?_ rfl
    · intro boot record hfound hlive
      obtain ⟨old, -, rfl⟩ := getElem?_map_cases hfound
      exact absurd (Or.inl rfl) hlive
    · intro boot record hfound
      obtain ⟨old, hold, rfl⟩ := getElem?_map_cases hfound
      exact ⟨old, hold, rfl⟩
  | _ => exact advancePublication (h.of_eq rfl rfl) hauthority hkept rfl

/-- Only a boot that is not revoked registers again. -/
theorem not_revoked_of_refreshed {request : RegisterPublisherRequest} {worker : WorkerId}
    {boot : AgentBootId} {existing : PublisherRecord}
    (hadmitted : admitRegistration options state request = .ok (worker, boot))
    (hfound : state.publishers[boot]? = some existing) : ¬ existing.Revoked := by
  unfold admitRegistration at hadmitted
  simp only [bind_eq_ok, refuseIf_eq_ok, require_eq_ok, exists_and_left, exists_const, pure_eq_ok,
    Prod.mk.injEq] at hadmitted
  obtain ⟨_, -, _, -, named, -, -, _, -, -, -, -, -, ⟨⟩, hregistered, -, rfl⟩ := hadmitted
  simp only [hfound, admitRegistered, refuseIf_bind_eq_ok, decide_eq_false_iff_not] at hregistered
  exact hregistered.1

theorem transition (h : state.LiveUnderEpoch)
    (htransition : Transition options state now mutation after outcome) :
    after.LiveUnderEpoch := by
  cases htransition with
  | refused => exact h
  | noted refusal => exact h.noteRefusal _ refusal
  | committed htoken hauthority hadmitted => exact h.committed hauthority hadmitted
  | @stopped _ _ graph refusal _ _ =>
    have hgraph : { state with toRackGraph := graph }.LiveUnderEpoch := h.of_eq rfl rfl
    exact hgraph.noteRefusal _ refusal
  | refreshed hadmitted hfound =>
    have hepoch := h _ _ hfound (not_revoked_of_refreshed hadmitted hfound)
    exact h.insert fun _ => hepoch
  | registered hadmitted => exact h.insert fun _ => rfl
  | declared | redeclared => exact h.of_eq rfl rfl
  | beat hauthority =>
    refine h.modify fun record hfound _ => ?_
    have hauthorized := authorized_of_ok hauthority
    obtain rfl := Option.some.inj (hfound.symm.trans hauthorized.recorded)
    exact hauthorized.registered
  | fenced hadmitted => exact h.commitFence _ _ _ _
  | expired later =>
    exact expirePublishers_induction (fun _ now request h => h.fencePublisher now request) h later

end LiveUnderEpoch

/-! All of it, in every state of a run. -/

/-- What the gate asks of a state, except for the two verdicts a run can bring about: a
failure domain reached by two paths, and an unpublished failure-domain membership. -/
structure Consistent (options : RackFabricOptions) (state : RackState) : Prop
    extends Reached options state where
  bounded : state.Bounded
  rackNumbered : ∀ rack, state.rack = some rack → rack.generation.isSet = true
  membersNumbered : ∀ (key : MemberKey) (record : MemberRecord),
    state.members[key]? = some record → record.generation.isSet = true
  membersAdmissible : ∀ (key : MemberKey) (record : MemberRecord),
    state.members[key]? = some record → record.Admissible options.limits
  membersFit : state.members.size ≤ options.limits.maxMembers
  relationshipsNumbered : ∀ (key : RelationshipKey) (record : RelationshipRecord),
    state.relationships[key]? = some record → record.generation.isSet = true
  power : ∀ power, state.power = some power → power.Accounted
  cooling : ∀ cooling, state.cooling = some cooling → cooling.Accounted
  publishers : state.LiveUnderEpoch
  cleared : state.Ended → ∀ (key : MemberKey) (record : MemberRecord),
    state.members[key]? = some record → record.lifecycle ≠ .present

theorem consistent_fresh (options : RackFabricOptions) : Consistent options (fresh options) where
  toReached := reached_fresh options
  bounded := by
    constructor
    · constructor <;> simp [fresh, BoundedBy]
    · simp [fresh]
  rackNumbered := by simp [fresh]
  membersNumbered := by simp [fresh]
  membersAdmissible := by simp [fresh]
  membersFit := by simp [fresh]
  relationshipsNumbered := by simp [fresh]
  power := by simp [fresh]
  cooling := by simp [fresh]
  publishers := by simp [LiveUnderEpoch, fresh]
  cleared := by simp [fresh]

/-! One step, field by field. -/

theorem rack_noteRefusal (publisher : Option PublisherRef) (refusal : Refusal) :
    (state.noteRefusal publisher refusal).rack = state.rack := by
  cases publisher with
  | none => rfl
  | some found =>
    simp only [noteRefusal]
    split <;> rfl

theorem rack_advancePublication (publisher : Option PublisherRef) :
    (state.advancePublication publisher).rack = state.rack := by
  cases publisher <;> rfl

/-- A step that writes the rack numbers it, and retires it with no member left present. -/
theorem rack_transition (h : Transition options state now mutation after outcome) :
    after.rack = state.rack ∨ ∃ rack, after.rack = some rack ∧ rack.generation.isSet = true ∧
      (rack.retired = true → state.Ended ∨
        ∀ (key : MemberKey) (record : MemberRecord), after.members[key]? = some record →
          record.lifecycle ≠ .present) := by
  cases h with
  | noted refusal => exact Or.inl (rack_noteRefusal _ refusal)
  | @stopped _ publisher graph refusal _ _ =>
    exact Or.inl (@rack_noteRefusal { state with toRackGraph := graph } publisher refusal)
  | @committed _ _ publisher committed htoken hauthority hadmitted =>
    rw [rack_advancePublication, toRackGraph_advancePublication]
    cases hadmitted with
    | rackRetirement hadmitted =>
      right
      refine ⟨_, rfl, Generation.isSet_of_next (admitRackRetirement_next hadmitted).2, ?_⟩
      intro _
      right
      intro key record hfound hpresent
      obtain ⟨old, -, rfl⟩ := getElem?_map_cases hfound
      split at hpresent
      · cases hpresent
      · contradiction
    | _ => exact Or.inl rfl
  | declared =>
    right
    refine ⟨_, rfl, rfl, ?_⟩
    intro hretired
    cases hretired
  | redeclared hadmitted hsome hover =>
    right
    refine ⟨_, rfl, Generation.isSet_of_next (admitOverRack_next hover), ?_⟩
    intro hretired
    left
    rw [Ended, hsome]
    exact hretired
  | expired later => exact Or.inl (sealed_expirePublishers now later).rack
  | _ => exact Or.inl rfl

theorem admissible_transition (hkeyed : Keyed state.toRackGraph)
    (h : ∀ (key : MemberKey) (record : MemberRecord),
      state.members[key]? = some record → record.Admissible options.limits)
    (htransition : Transition options state now mutation after outcome) :
    ∀ (key : MemberKey) (record : MemberRecord),
      after.members[key]? = some record → record.Admissible options.limits := by
  refine (membersChange hkeyed htransition).forall ?_ ?_ ?_ h
  · exact fun hrewrite hexisting => hexisting.rewrite hrewrite
  · exact fun _ _ hadmitted => .published hadmitted
  · exact fun _ hadmitted hexisting => .enabled hadmitted hexisting

/-- A member that a step brings in is the one it publishes. -/
theorem new_member_transition (hkeyed : Keyed state.toRackGraph)
    (h : Transition options state now mutation after outcome) {key : MemberKey}
    {record : MemberRecord} (hfound : after.members[key]? = some record)
    (hnew : state.members[key]? = none) :
    ∃ request publisher, admitMember options state publisher request = .ok record ∧
      after.members = state.members.insert record.key record ∧ record.key = key := by
  cases membersChange hkeyed h with
  | rewritten hdescended =>
    obtain ⟨existing, hexisting, -⟩ := hdescended key record hfound
    rw [hnew] at hexisting
    cases hexisting
  | published hauthority hadmitted hmembers =>
    rw [hmembers] at hfound
    rcases getElem?_insert_cases hfound with ⟨hsame, rfl⟩ | ⟨-, hkept⟩
    · exact ⟨_, _, hadmitted, hmembers, hsame.symm⟩
    · rw [hnew] at hkept
      cases hkept
  | @enabled request _ existing _ _ hadmitted hmembers =>
    obtain ⟨hexisting, -, _, -, hrecord⟩ := admitCapability_ok hadmitted
    rw [hmembers] at hfound
    rcases getElem?_insert_cases hfound with ⟨hsame, rfl⟩ | ⟨-, hkept⟩
    · have hstored : existing.key = request.member := hkeyed.members hexisting
      have hkey : record.key = request.member := (congrArg MemberRecord.key hrecord).trans hstored
      rw [hsame, hkey, hexisting] at hnew
      cases hnew
    · rw [hnew] at hkept
      cases hkept

theorem membersNumbered_transition (hkeyed : Keyed state.toRackGraph)
    (h : ∀ (key : MemberKey) (record : MemberRecord),
      state.members[key]? = some record → record.generation.isSet = true)
    (htransition : Transition options state now mutation after outcome) :
    ∀ (key : MemberKey) (record : MemberRecord),
      after.members[key]? = some record → record.generation.isSet = true := by
  intro key record hfound
  have hdated : Followed MemberRecord.Dated state.members after.members := by
    rcases members_followed hkeyed htransition with hadvances | ⟨-, hdated⟩
    · exact hadvances.mono MemberRecord.Advances.dated
    · exact hdated
  cases hold : state.members[key]? with
  | some existing =>
    obtain ⟨successor, hsuccessor, hle⟩ := hdated key existing hold
    obtain rfl := Option.some.inj (hfound.symm.trans hsuccessor)
    exact Generation.isSet_of_le hle (h key existing hold)
  | none =>
    obtain ⟨request, publisher, hadmitted, -⟩ :=
      new_member_transition hkeyed htransition hfound hold
    have htarget := target_of_admitMember hadmitted
    unfold targetGeneration at htarget
    split at htarget
    · rename_i hset
      rw [← Option.some.inj htarget]
      exact hset.1
    · exact Generation.isSet_of_next htarget

theorem membersFit_transition (hkeyed : Keyed state.toRackGraph)
    (h : state.members.size ≤ options.limits.maxMembers)
    (htransition : Transition options state now mutation after outcome) :
    after.members.size ≤ options.limits.maxMembers := by
  by_cases hnew : ∃ (key : MemberKey) (record : MemberRecord),
      after.members[key]? = some record ∧ state.members[key]? = none
  · obtain ⟨key, record, hfound, hnone⟩ := hnew
    obtain ⟨request, publisher, hadmitted, hmembers, hkey⟩ :=
      new_member_transition hkeyed htransition hfound hnone
    have hrequested : record.key = request.record.key := by
      obtain ⟨target, owner, -, hrecord⟩ := (memberAdmission hadmitted).stored
      exact (congrArg MemberRecord.key hrecord).trans (by unfold clearRetired; split <;> rfl)
    have habsent : request.record.key ∉ state.members := by
      rw [← hrequested, hkey, ExtTreeMap.mem_iff_isSome_getElem?, hnone]
      exact Bool.false_ne_true
    have hbelow := members_below hadmitted habsent
    rw [hmembers]
    exact Nat.le_trans ExtTreeMap.size_insert_le hbelow
  · have hsubset : ∀ key, key ∈ after.members → key ∈ state.members := by
      intro key hmem
      obtain ⟨record, hfound⟩ := mem_iff_exists.mp hmem
      rw [ExtTreeMap.mem_iff_isSome_getElem?]
      cases hold : state.members[key]? with
      | some existing => rfl
      | none => exact absurd ⟨key, record, hfound, hold⟩ hnew
    exact Nat.le_trans (size_le_of_mem hsubset) h

theorem relationshipsNumbered_transition
    (h : ∀ (key : RelationshipKey) (record : RelationshipRecord),
      state.relationships[key]? = some record → record.generation.isSet = true)
    (htransition : Transition options state now mutation after outcome) :
    ∀ (key : RelationshipKey) (record : RelationshipRecord),
      after.relationships[key]? = some record → record.generation.isSet = true := by
  intro key record hfound
  rcases relationships_transition htransition with
    hdescended | ⟨request, publisher, published, -, hadmitted, hinserted⟩
  · refine hdescended.forall (fun hsame hset => ?_) h key record hfound
    rw [SameNumber] at hsame
    rw [hsame]
    exact hset
  · rw [hinserted] at hfound
    rcases getElem?_insert_cases hfound with ⟨-, rfl⟩ | ⟨-, hkept⟩
    · obtain ⟨owner, -, hnext, -⟩ := (relationshipAdmission hadmitted).stored
      exact Generation.isSet_of_advance hnext
    · exact h key record hkept

theorem accounted_transition (hpower : ∀ power, state.power = some power → power.Accounted)
    (hcooling : ∀ cooling, state.cooling = some cooling → cooling.Accounted)
    (htransition : Transition options state now mutation after outcome) :
    (∀ power, after.power = some power → power.Accounted) ∧
      ∀ cooling, after.cooling = some cooling → cooling.Accounted := by
  cases envelopeChange htransition with
  | kept hsame hsame' =>
    rw [hsame, hsame']
    exact ⟨hpower, hcooling⟩
  | power hauthority hadmitted hnew hsame =>
    rw [hnew, hsame]
    refine ⟨fun power hsome => ?_, hcooling⟩
    rw [← Option.some.inj hsome]
    exact .derived (Generation.isSet_of_advance (powerEnvelopeAdmission hadmitted).next) now
  | cooling hauthority hadmitted hsame hnew =>
    rw [hnew, hsame]
    refine ⟨hpower, fun cooling hsome => ?_⟩
    rw [← Option.some.inj hsome]
    exact .derived (Generation.isSet_of_advance (coolingEnvelopeAdmission hadmitted).next) now
  | faded hsealed =>
    constructor
    · intro power hsome
      rcases hsealed.power with hsame | hcleared
      · exact hpower power (hsame ▸ hsome)
      · obtain ⟨old, hold, rfl⟩ := Option.map_eq_some_iff.mp (hcleared ▸ hsome)
        exact (hpower old hold).cleared
    · intro cooling hsome
      rcases hsealed.cooling with hsame | hcleared
      · exact hcooling cooling (hsame ▸ hsome)
      · obtain ⟨old, hold, rfl⟩ := Option.map_eq_some_iff.mp (hcleared ▸ hsome)
        exact (hcooling old hold).cleared

/-- Once the rack is retired no step makes a member present. -/
theorem cleared_step (h : state.Ended → ∀ (key : MemberKey) (record : MemberRecord),
      state.members[key]? = some record → record.lifecycle ≠ .present) (input : Input)
    (hended : (step options state input).Ended) :
    ∀ (key : MemberKey) (record : MemberRecord),
      (step options state input).members[key]? = some record → record.lifecycle ≠ .present := by
  by_cases hbefore : state.Ended
  · obtain ⟨rack, hrack, hretired⟩ : ∃ rack, state.rack = some rack ∧ rack.retired = true := by
      rw [Ended] at hbefore
      cases hrack : state.rack with
      | none => simp [hrack] at hbefore
      | some rack => exact ⟨rack, rfl, by simpa [hrack] using hbefore⟩
    have hsealed := @sealed_step options state rack hrack hretired input
    intro key record hfound hpresent
    have hsame := hsealed.members key
    rw [hfound, Option.map_some, hpresent] at hsame
    obtain ⟨old, hold, hlifecycle⟩ := Option.map_eq_some_iff.mp hsame.symm
    exact h hbefore key old hold hlifecycle
  · rcases rack_transition (@perform_transition options state input) with
      hsame | ⟨rack, hrack, -, hcleared⟩
    · rw [Ended, show (step options state input).rack = state.rack from hsame] at hended
      exact absurd hended hbefore
    · rw [Ended, show (step options state input).rack = some rack from hrack] at hended
      rcases hcleared hended with hearlier | hnone
      · exact absurd hearlier hbefore
      · exact hnone

theorem Consistent.step (h : Consistent options state) (input : Input) :
    Consistent options (state.step options input) where
  toReached := h.toReached.step input
  bounded := h.bounded.transition h.bound.dated (perform_transition state input)
  rackNumbered rack hrack := by
    rcases rack_transition (@perform_transition options state input) with
      hsame | ⟨later, hlater, hset, -⟩
    · exact h.rackNumbered rack (hsame ▸ hrack)
    · obtain rfl := Option.some.inj (hrack.symm.trans hlater)
      exact hset
  membersNumbered :=
    membersNumbered_transition h.wellFormed.toKeyed h.membersNumbered
      (perform_transition state input)
  membersAdmissible :=
    admissible_transition h.wellFormed.toKeyed h.membersAdmissible (perform_transition state input)
  membersFit :=
    membersFit_transition h.wellFormed.toKeyed h.membersFit (perform_transition state input)
  relationshipsNumbered :=
    relationshipsNumbered_transition h.relationshipsNumbered (perform_transition state input)
  power := (accounted_transition h.power h.cooling (perform_transition state input)).1
  cooling := (accounted_transition h.power h.cooling (perform_transition state input)).2
  publishers := h.publishers.transition (perform_transition state input)
  cleared := cleared_step h.cleared input

end RackState

end RackFabric
