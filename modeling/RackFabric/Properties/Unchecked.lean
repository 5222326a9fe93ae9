import RackFabric.Properties.Saveable

/-! What is left to check when the bounds of the admission are within those of the
writer. -/
namespace RackFabric
open Std Tables WriteOp RackState

/-- What the admission lets pass by its own bounds, the writer takes as well. -/
structure ResourceLimits.Coherent (limits : ResourceLimits) : Prop where
  texts : kMaxIdentityLength ≤ limits.maxStringBytes
  failureDomainsPerMember : limits.maxFailureDomainsPerMember ≤ limits.maxCollectionItems
  capabilitiesPerMember : limits.maxCapabilitiesPerMember ≤ limits.maxCollectionItems
  publishers : limits.maxConnections ≤ limits.maxMembers
  retained : limits.maxRetainedSnapshots ≠ 0
  collections : limits.maxCollectionItems < 2 ^ 32
  members : limits.maxMembers < 2 ^ 32
  relationships : limits.maxRelationships < 2 ^ 32
  failureDomains : limits.maxFailureDomains < 2 ^ 32
  snapshots : limits.maxRetainedSnapshots < 2 ^ 32

theorem coherent_default : ({} : ResourceLimits).Coherent := by
  constructor <;> decide

namespace ResourceLimits.Coherent
variable {limits : ResourceLimits} (h : limits.Coherent)
include h

theorem fits_id {tag : IdentityTag} (id : StrongId tag) : (string id.value).Fits limits :=
  id.length_value_le.trans h.texts

theorem allFit_optionalId {tag : IdentityTag} (id : Option (StrongId tag)) :
    AllFit limits (optionalId id) := by
  simp [optionalId, h.fits_id]

theorem fits_label {label : Str} (hlabel : (validateLabel label).ok = true) :
    (string label).Fits limits :=
  (length_le_of_validateLabel hlabel).trans h.texts

theorem allFit_optionalLabel {label : Option Str}
    (hlabel : (label.any fun text => !(validateLabel text).ok) = false) :
    AllFit limits (optionalString label) := by
  simp only [optionalString, allFit_optional, allFit_cons, allFit_nil, and_true]
  exact fun text htext => h.fits_label (forall_label_ok hlabel text htext)

theorem allFit_capability {capability : CapabilityRef}
    (hlabel : (capability.value.any fun text => !(validateLabel text).ok) = false) :
    AllFit limits (encodeCapability capability) := by
  simp [encodeCapability, h.fits_id, h.allFit_optionalLabel hlabel]

end ResourceLimits.Coherent

/-- A new record is only taken while the table is below its maximum. -/
theorem fits_sizeWith {κ ρ : Type} [Ord κ] [TransOrd κ] [LawfulEqOrd κ] [DecidableEq κ]
    {limits : ResourceLimits} {table : ExtTreeMap κ ρ} {key : κ} (record : ρ)
    {maximum : ResourceLimits → Nat} (hmaximum : maximum limits < 2 ^ 32)
    (hsize : table.size ≤ maximum limits)
    (hroom : key ∉ table → table.size < maximum limits) :
    (count (sizeWith table [key]) maximum).Fits limits := by
  rw [← size_insert_eq table key record, ExtTreeMap.size_insert]
  simp only [Fits]
  split
  · omega
  · rename_i hnew
    have hbelow := hroom (by simpa using hnew)
    omega

namespace RackState
variable {options : RackFabricOptions} {state : RackState} {publisher : Option PublisherRef}
  {now : Timestamp} {limits : ResourceLimits}

def uncheckedCalls (state : RackState) (now : Timestamp) : Mutation → List WriteOp
  | .publishMember request => encodeDetails request.record.details
  | .publishRelationship request => optionalString request.record.source
  | .publishFailureDomain request =>
      count (ExtTreeSet.ofList request.record.parents).toList.length (·.maxCollectionItems) ::
        optionalString request.record.source
  | .publishPowerEnvelope request =>
      count request.record.domainBudgets.length (·.maxCollectionItems) ::
        optionalString request.record.source
  | .publishCoolingEnvelope request =>
      count request.record.zones.length (·.maxCollectionItems) ::
        optionalString request.record.source
  | .retireRack _ =>
      [count (sizeWith state.fencedBoots state.publishers.keys) (·.maxFencedBoots)]
  | .fencePublisher request =>
      [count (sizeWith state.fencedBoots request.boot.toList) (·.maxFencedBoots)]
  | .expirePublishers _ =>
      [count (sizeWith state.fencedBoots (state.expiredBoots now)) (·.maxFencedBoots)]
  | _ => []

def UncheckedFit (options : RackFabricOptions) (state : RackState) (input : Input) : Prop :=
  TakesEffect (state.perform options input).2 →
    AllFit options.limits (uncheckedCalls state input.now input.mutation)

/-! The checks of the admission, kind by kind. -/

theorem members_below {request : PublishMemberRequest} {record : MemberRecord}
    (h : admitMember options state publisher request = .ok record) :
    request.record.key ∉ state.members → state.members.size < options.limits.maxMembers := by
  unfold admitMember at h
  simp only [bind_eq_ok, refuseIf_eq_ok, refuseSome_eq_ok, require_eq_ok, exists_and_left,
    exists_const, pure_eq_ok] at h
  obtain ⟨-, -, hbelow, -⟩ := h
  intro hnew
  simpa [ExtTreeMap.getElem?_eq_none hnew] using hbelow

theorem relationships_below {request : PublishRelationshipRequest} {record : RelationshipRecord}
    (h : admitRelationship options state publisher request = .ok record) :
    request.record.key.canonical ∉ state.relationships →
      state.relationships.size < options.limits.maxRelationships := by
  unfold admitRelationship at h
  simp only [bind_eq_ok, refuseIf_eq_ok, refuseSome_eq_ok, require_eq_ok, exists_and_left,
    exists_const, pure_eq_ok] at h
  obtain ⟨-, -, -, -, -, hbelow, -⟩ := h
  intro hnew
  simpa [ExtTreeMap.getElem?_eq_none hnew] using hbelow

theorem failureDomains_below {request : PublishFailureDomainRequest}
    {record : FailureDomainRecord}
    (h : admitFailureDomain options state publisher request = .ok record) :
    (request.record.label.any fun text => !(validateLabel text).ok) = false ∧
      (request.record.id ∉ state.failureDomains →
        state.failureDomains.size < options.limits.maxFailureDomains) := by
  unfold admitFailureDomain at h
  simp only [bind_eq_ok, refuseIf_eq_ok, refuseSome_eq_ok, require_eq_ok, exists_and_left,
    exists_const, pure_eq_ok] at h
  obtain ⟨-, hlabel, -, -, -, hbelow, -⟩ := h
  refine ⟨hlabel, fun hnew => ?_⟩
  simpa [ExtTreeMap.getElem?_eq_none hnew] using hbelow

/-- A text that names a member has been written before. -/
theorem allFit_stored_key (h : state.Encodable limits) (hkeyed : state.Keyed) {key : MemberKey}
    (hmem : key ∈ state.members) : AllFit limits (encodeMemberKey key) := by
  obtain ⟨record, hfound⟩ := mem_iff_exists.mp hmem
  have hfit := (allFit_encodeMember.mp (h.members.records key record hfound)).key
  rwa [hkeyed.members hfound] at hfit

section Coherent
variable (hlimits : options.limits.Coherent) (h : state.Writable options.limits)
  (hkeyed : state.Keyed)
include hlimits h hkeyed

theorem calls_publishMember_iff {request : PublishMemberRequest} {record : MemberRecord}
    (hadmitted : admitMember options state publisher request = .ok record) :
    AllFit options.limits (calls options state now (.publishMember request)) ↔
      AllFit options.limits (uncheckedCalls state now (.publishMember request)) := by
  have hvalid := (memberAdmission hadmitted).valid
  simp only [validateMemberRecord, firstError_cons, firstError_map_eq_none, validateCapability,
    errorIf_eq_none, Bool.not_eq_false', decide_eq_false_iff_not, Nat.not_lt] at hvalid
  obtain ⟨hidentity, -, hsource, hdomains, hcapabilities, -, -, -, -, -, hlabels, -⟩ := hvalid
  have hcount := fits_sizeWith record hlimits.members h.members.count.1 (members_below hadmitted)
  simp only [calls, uncheckedCalls, allFit_append, allFit_cons, allFit_nil, allFit_encodeMember,
    hcount, and_true]
  constructor
  · exact fun hfit => hfit.details
  · intro hdetails
    exact {
      key := by
        simp only [encodeMemberKey, allFit_cons, allFit_nil, fits_enum, and_true, true_and]
        exact (length_le_of_validateIdentity (by simpa using hidentity)).trans hlimits.texts
      ownerWorker := hlimits.allFit_optionalId _
      ownerBoot := hlimits.allFit_optionalId _
      parent := by
        rw [allFit_optional]
        intro parent hparent
        have hchecked := (memberAdmission hadmitted).parent_checked
          ((memberAdmission hadmitted).parent.trans hparent)
        exact allFit_stored_key h.toEncodable hkeyed hchecked.2.1
      failureDomains := by
        rw [allFit_many]
        refine ⟨⟨hdomains.trans hlimits.failureDomainsPerMember, ?_⟩, fun domain _ => ?_⟩
        · exact (hdomains.trans hlimits.failureDomainsPerMember).trans_lt hlimits.collections
        · simp [hlimits.fits_id]
      powerDomain := hlimits.allFit_optionalId _
      coolingDomain := hlimits.allFit_optionalId _
      switchDomain := hlimits.allFit_optionalId _
      capabilities := by
        rw [allFit_many]
        refine ⟨⟨hcapabilities.trans hlimits.capabilitiesPerMember, ?_⟩, fun capability hmem => ?_⟩
        · exact (hcapabilities.trans hlimits.capabilitiesPerMember).trans_lt hlimits.collections
        · exact hlimits.allFit_capability (hlabels capability hmem).2.1
      details := hdetails
      source := hlimits.allFit_optionalLabel hsource }

theorem calls_publishRelationship_iff {request : PublishRelationshipRequest}
    {record : RelationshipRecord}
    (hadmitted : admitRelationship options state publisher request = .ok record) :
    AllFit options.limits (calls options state now (.publishRelationship request)) ↔
      AllFit options.limits (uncheckedCalls state now (.publishRelationship request)) := by
  have hadmission := relationshipAdmission hadmitted
  have hends := hadmission.endpoint_mem
  rw [hadmission.key] at hends
  have hcount := fits_sizeWith record hlimits.relationships h.relationships.count.1
    (relationships_below hadmitted)
  simp [calls, uncheckedCalls, encodeRelationship, hlimits.allFit_optionalId, hcount,
    allFit_stored_key h.toEncodable hkeyed hends.1, allFit_stored_key h.toEncodable hkeyed hends.2]

omit hkeyed in
theorem calls_publishFailureDomain_iff {request : PublishFailureDomainRequest}
    {record : FailureDomainRecord}
    (hadmitted : admitFailureDomain options state publisher request = .ok record) :
    AllFit options.limits (calls options state now (.publishFailureDomain request)) ↔
      AllFit options.limits (uncheckedCalls state now (.publishFailureDomain request)) := by
  obtain ⟨hlabel, hbelow⟩ := failureDomains_below hadmitted
  have hcount := fits_sizeWith record hlimits.failureDomains h.failureDomains.count.1 hbelow
  simp [calls, uncheckedCalls, encodeFailureDomain, allFit_many, hlimits.allFit_optionalId,
    hlimits.fits_id, hlimits.allFit_optionalLabel hlabel, hcount]

omit h hkeyed in
theorem calls_publishPowerEnvelope_iff (request : PublishPowerEnvelopeRequest) :
    AllFit options.limits (calls options state now (.publishPowerEnvelope request)) ↔
      AllFit options.limits (uncheckedCalls state now (.publishPowerEnvelope request)) := by
  simp [calls, uncheckedCalls, encodePowerEnvelope, encodeBudget, allFit_many,
    hlimits.allFit_optionalId, hlimits.fits_id]

omit h hkeyed in
theorem calls_publishCoolingEnvelope_iff (request : PublishCoolingEnvelopeRequest) :
    AllFit options.limits (calls options state now (.publishCoolingEnvelope request)) ↔
      AllFit options.limits (uncheckedCalls state now (.publishCoolingEnvelope request)) := by
  simp [calls, uncheckedCalls, encodeCoolingEnvelope, encodeZone, allFit_many,
    hlimits.allFit_optionalId, hlimits.fits_id]

omit h hkeyed in
theorem calls_declareRack {request : DeclareRackRequest} {named : RackId} {epoch : RackEpochId}
    (hadmitted : admitDeclaration state request = .ok (named, epoch)) :
    AllFit options.limits (calls options state now (.declareRack request)) := by
  unfold admitDeclaration at hadmitted
  simp only [bind_eq_ok, refuseIf_eq_ok, require_eq_ok, exists_and_left, exists_const] at hadmitted
  obtain ⟨_, -, -, hlabel, -⟩ := hadmitted
  simp [calls, hlimits.allFit_optionalId, hlimits.allFit_optionalLabel hlabel]

omit h hkeyed in
theorem calls_registerPublisher {request : RegisterPublisherRequest} {worker : WorkerId}
    {boot : AgentBootId} (hnew : state.publishers[boot]? = none)
    (hadmitted : admitRegistration options state request = .ok (worker, boot)) :
    AllFit options.limits (calls options state now (.registerPublisher request)) := by
  obtain ⟨-, hboot⟩ := admitRegistration_names hadmitted
  have habsent : state.publishers.contains boot = false := by
    rw [ExtTreeMap.contains_eq_isSome_getElem?, hnew]
    rfl
  unfold admitRegistration at hadmitted
  simp only [bind_eq_ok, refuseIf_eq_ok, require_eq_ok, exists_and_left, exists_const, pure_eq_ok,
    Prod.mk.injEq] at hadmitted
  obtain ⟨_, -, _, -, named, -, -, _, -, -, -, -, hroom, ⟨⟩, hlabel, -, rfl⟩ := hadmitted
  simp only [hnew, refuseIf_eq_ok] at hlabel
  simp only [habsent, Bool.not_false, and_true, decide_eq_false_iff_not, ge_iff_le,
    Nat.not_le] at hroom
  have hbelow := hroom.trans_le hlimits.publishers
  have hcount : (count (sizeWith state.publishers [named]) (·.maxMembers)).Fits options.limits :=
    fits_sizeWith {} hlimits.members hbelow.le fun _ => hbelow
  simp [calls, hlimits.allFit_optionalId, hlimits.allFit_optionalLabel hlabel, hboot, hcount]

omit h hkeyed in
theorem calls_publishSnapshot {request : SnapshotRequest} {snapshot : RackSnapshot}
    (hadmitted : admitSnapshot state publisher now = .ok snapshot) :
    AllFit options.limits (calls options state now (.publishSnapshot request)) := by
  obtain ⟨rack, hrack, htext⟩ := admitSnapshot_text hadmitted
  obtain ⟨_, _, -, hnext, -⟩ := admitSnapshot_ok hadmitted
  have hid := hlimits.fits_id snapshot.id
  have hretained := hlimits.retained
  have hbound := hlimits.snapshots
  rw [htext] at hid
  simp only [calls, snapshotCalls, hrack, hnext, allFit_cons, allFit_nil, hid, and_true, true_and]
  simp only [Fits, retainedCount]
  omega

omit hlimits h hkeyed in
theorem length_putCapability (candidate : CapabilityRef) (capabilities : List CapabilityRef) :
    (putCapability candidate capabilities).length =
      if (capabilities.find? fun capability => capability.id = candidate.id).isSome then
        capabilities.length
      else capabilities.length + 1 := by
  induction capabilities with
  | nil => rfl
  | cons first capabilities ih =>
    by_cases hsame : first.id = candidate.id
    · simp [putCapability, hsame]
    · simp only [putCapability, hsame, if_false, List.length_cons, ih, decide_false,
        List.find?_cons_of_neg, Bool.false_eq_true, not_false_eq_true]
      split <;> rfl

omit hkeyed in
theorem calls_publishCapability {request : PublishCapabilityRequest}
    {existing record : MemberRecord}
    (hadmitted : admitCapability options state publisher request = .ok (existing, record)) :
    AllFit options.limits (calls options state now (.publishCapability request)) := by
  have hfound := (admitCapability_ok hadmitted).1
  have hexisting := (allFit_encodeMember.mp (h.members.records _ _ hfound)).capabilities
  rw [allFit_many] at hexisting
  unfold admitCapability at hadmitted
  simp only [bind_eq_ok, refuseIf_eq_ok, refuseSome_eq_ok, require_eq_ok, exists_and_left,
    exists_const, pure_eq_ok, Prod.mk.injEq] at hadmitted
  obtain ⟨owned, howned, requested, hrequested, -, hlabel, -, -, hroom, -, -, rfl, -⟩ := hadmitted
  have hcapability : AllFit options.limits
      (encodeCapability { requested with revalidationRequired := false }) :=
    hlimits.allFit_capability hlabel
  have hitems := hlimits.collections
  have hbound := hlimits.capabilitiesPerMember
  simp only [calls, hrequested, hfound, Option.toList_some, List.flatMap_cons, List.flatMap_nil,
    allFit_append, allFit_cons, allFit_nil, hcapability, and_true, true_and, Option.map_some,
    Option.getD_some]
  have hcount := hexisting.1
  simp only [Fits, length_putCapability] at hcount ⊢
  split
  · exact hcount
  · rename_i hnew
    have hbelow : owned.capabilities.length < options.limits.maxCapabilitiesPerMember := by
      simpa [Option.not_isSome_iff_eq_none.mp hnew] using hroom
    omega

theorem calls_admitted_iff {mutation : Mutation} {committed : RackState}
    (hadmitted : Admitted options state now publisher mutation committed) :
    AllFit options.limits (calls options state now mutation) ↔
      AllFit options.limits (uncheckedCalls state now mutation) := by
  cases hadmitted with
  | member hmember => exact calls_publishMember_iff hlimits h hkeyed hmember
  | relationship hrelationship => exact calls_publishRelationship_iff hlimits h hkeyed hrelationship
  | failureDomain hdomain => exact calls_publishFailureDomain_iff hlimits h hdomain
  | powerEnvelope => exact calls_publishPowerEnvelope_iff hlimits _
  | coolingEnvelope => exact calls_publishCoolingEnvelope_iff hlimits _
  | capability hcapability =>
    exact iff_of_true (calls_publishCapability hlimits h hcapability) allFit_nil
  | snapshot hsnapshot => exact iff_of_true (calls_publishSnapshot hlimits hsnapshot) allFit_nil
  | _ => exact Iff.rfl

theorem calls_transition_iff {mutation : Mutation} {after : RackState}
    {outcome : Option MutationOutcome}
    (htransition : Transition options state now mutation after outcome)
    (heffect : TakesEffect outcome) :
    AllFit options.limits (calls options state now mutation) ↔
      AllFit options.limits (uncheckedCalls state now mutation) := by
  cases htransition with
  | refused hrefused => exact absurd (heffect _ rfl) hrefused
  | noted refusal => exact absurd (heffect _ rfl) refusal.not_accepted
  | @stopped _ _ _ refusal _ _ => exact absurd (heffect _ rfl) refusal.not_accepted
  | refreshed => exact absurd (heffect _ rfl) (by decide)
  | committed htoken hauthority hadmitted => exact calls_admitted_iff hlimits h hkeyed hadmitted
  | registered hadmitted hnew =>
    exact iff_of_true (calls_registerPublisher hlimits hnew hadmitted) allFit_nil
  | declared hadmitted | redeclared hadmitted =>
    exact iff_of_true (calls_declareRack hlimits hadmitted) allFit_nil
  | beat | fenced | expired => exact Iff.rfl

end Coherent

/-- Under coherent limits the states of a run can be saved exactly when what the admission does
not check meets the bounds of the writer. -/
theorem saveable_iff_uncheckedFit (hlimits : options.limits.Coherent) (inputs : List Input) :
    Execution.Always (step options) Saveable (fresh options) inputs ↔
      Execution.EachStep (step options) (UncheckedFit options) (fresh options) inputs := by
  apply Execution.always_iff_eachStep (step options) (Reached options)
  · exact fun state input h => h.step input
  · intro state input h hsaveable
    have hwritable := h.saveable_iff.mp hsaveable
    have htransition := @perform_transition options state input
    rw [(h.step input).saveable_iff]
    refine (writable_transition_iff hwritable h.wellFormed.toKeyed h.ledger htransition).trans ?_
    exact forall_congr' fun heffect =>
      calls_transition_iff hlimits hwritable h.wellFormed.toKeyed htransition heffect
  · exact reached_fresh options
  · exact (reached_fresh options).saveable_iff.mpr (writable_fresh options)

end RackState

end RackFabric
