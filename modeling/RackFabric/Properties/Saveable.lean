import RackFabric.Properties.Saving

/-! Every accepted mutation leaves a state that can be saved exactly when what it
brings into the state meets the bounds of the writer. -/
namespace RackFabric
open Std Tables WriteOp RackGraph RackState

/-! What an accepted mutation brings into the state. -/

/-- The owner that a request names is stored for the operator only. -/
def AuthorityToken.claimed {α : Type} (token : AuthorityToken) (owner : Option α) : Option α :=
  if token.boot.isSome then none else owner

namespace RackState

def retainedCount (options : RackFabricOptions) (state : RackState)
    (generation : SnapshotGeneration) : Nat :=
  max 1 (min (sizeWith state.snapshots [generation]) options.limits.maxRetainedSnapshots)

/-- The texts of the next snapshot that are not in the state yet, and how many are retained. -/
def snapshotCalls (options : RackFabricOptions) (state : RackState) : List WriteOp :=
  match state.rack, state.snapshotGeneration.advance with
  | some rack, some next =>
      [string (snapshotIdText rack next),
        count (retainedCount options state next) (·.maxRetainedSnapshots)]
  | _, _ => []

def calls (options : RackFabricOptions) (state : RackState) (now : Timestamp) :
    Mutation → List WriteOp
  | .registerPublisher request =>
      optionalId request.worker ++ optionalId request.boot ++ optionalString request.label ++
        [count (sizeWith state.publishers request.boot.toList) (·.maxMembers)]
  | .declareRack request =>
      optionalId request.authority.rack ++ optionalId request.epoch ++ optionalString request.label
  | .publishMember request =>
      encodeMember { request.record with
          ownerWorker := request.authority.claimed request.record.ownerWorker
          ownerBoot := request.authority.claimed request.record.ownerBoot } ++
        [count (sizeWith state.members [request.record.key]) (·.maxMembers)]
  | .publishRelationship request =>
      encodeRelationship { request.record with
          key := request.record.key.canonical
          ownerWorker := request.authority.claimed request.record.ownerWorker
          ownerBoot := request.authority.claimed request.record.ownerBoot } ++
        [count (sizeWith state.relationships [request.record.key.canonical]) (·.maxRelationships)]
  | .publishFailureDomain request =>
      encodeFailureDomain { request.record with
          parents := (ExtTreeSet.ofList request.record.parents).toList
          ownerWorker := request.authority.claimed request.record.ownerWorker
          ownerBoot := request.authority.claimed request.record.ownerBoot } ++
        [count (sizeWith state.failureDomains [request.record.id]) (·.maxFailureDomains)]
  | .publishPowerEnvelope request =>
      encodePowerEnvelope { request.record with
          ownerWorker := request.authority.claimed request.record.ownerWorker
          ownerBoot := request.authority.claimed request.record.ownerBoot }
  | .publishCoolingEnvelope request =>
      encodeCoolingEnvelope { request.record with
          ownerWorker := request.authority.claimed request.record.ownerWorker
          ownerBoot := request.authority.claimed request.record.ownerBoot }
  | .publishCapability request =>
      let stored := (state.members[request.member]?.map (·.capabilities)).getD []
      request.capability.toList.flatMap fun requested =>
        let candidate := { requested with revalidationRequired := false }
        encodeCapability candidate ++
          [count (putCapability candidate stored).length (·.maxCollectionItems)]
  | .retireRack _ =>
      [count (sizeWith state.fencedBoots state.publishers.keys) (·.maxFencedBoots)]
  | .fencePublisher request =>
      [count (sizeWith state.fencedBoots request.boot.toList) (·.maxFencedBoots)]
  | .expirePublishers _ =>
      [count (sizeWith state.fencedBoots (state.expiredBoots now)) (·.maxFencedBoots)]
  | .publishSnapshot _ => snapshotCalls options state
  | .publishHealth _ | .withdrawEvidence _ | .withdrawRelationship _ | .markUnavailable _
  | .retireMember _ | .revalidateMembers _ | .heartbeat _ => []

/-- The mutation is accepted, or it is an expiry, which has no outcome. -/
def TakesEffect (outcome : Option MutationOutcome) : Prop :=
  ∀ verdict ∈ outcome, verdict = .accepted

theorem takesEffect_accepted : TakesEffect (some .accepted) := by
  simp [TakesEffect]

def StaysWithin (options : RackFabricOptions) (state : RackState) (input : Input) : Prop :=
  TakesEffect (state.perform options input).2 →
    AllFit options.limits (calls options state input.now input.mutation)

/-- The state cannot be saved only because its payload is too large as a whole: every text and
every count in it is within the bounds of the writer. -/
def Saveable (state : RackState) : Prop :=
  (∀ error, encodeStatePayload state = .error error →
    state.limits.maxPersistedBytes.toNat < ((encodeState state).flatMap WriteOp.bytes).length) ∧
  ∀ op ∈ encodeState state, op.Fits state.limits

variable {options : RackFabricOptions} {state : RackState} {publisher : Option PublisherRef}
  {now : Timestamp} {limits : ResourceLimits}

theorem saveable_iff : state.Saveable ↔ state.Writable state.limits := by
  rw [← allFit_encodeState]
  constructor
  · exact fun h => h.2
  · intro hfits
    refine ⟨fun error herror => ?_, hfits⟩
    by_contra hroom
    have hwritten := @ByteWriter.writeAll_of_fits
      { limits := state.limits, maxBytes := state.limits.maxPersistedBytes.toNat }
      (encodeState state) hfits (by simpa using hroom)
    simp only [encodeStatePayload, hwritten] at herror
    cases herror

/-! Owners. -/

/-- The publisher behind a token is stored already, and so are its texts. -/
theorem allFit_owner_iff {token : AuthorityToken} (h : state.Encodable limits)
    (hledger : state.Ledger) (hauthority : state.checkAuthority token true = .ok publisher)
    (worker : Option WorkerId) (boot : Option AgentBootId) :
    let owner := ownerAfter token publisher worker boot
    (AllFit limits (optionalId owner.1) ↔ AllFit limits (optionalId (token.claimed worker))) ∧
      (AllFit limits (optionalId owner.2) ↔ AllFit limits (optionalId (token.claimed boot))) := by
  cases hboot : token.boot with
  | none => simp [ownerAfter, AuthorityToken.claimed, hboot]
  | some submitted =>
    obtain ⟨found, rfl, -, hfound⟩ := submitter_of_boot hauthority hboot
    have htexts := h.publishers.records submitted found.record hfound
    simp only [encodePublisher, allFit_append, allFit_cons] at htexts
    obtain ⟨⟨⟨hworker, hnamed, -⟩, -⟩, -⟩ := htexts
    rw [hledger.publishers hfound] at hnamed
    simp [ownerAfter, AuthorityToken.claimed, hboot, optionalId, hworker, hnamed]

/-! Records that are stored as they are submitted. -/

theorem allFit_admitMember_iff {request : PublishMemberRequest} {record : MemberRecord}
    (h : state.Encodable limits) (hledger : state.Ledger)
    (hauthority : state.checkAuthority request.authority true = .ok publisher)
    (hadmitted : admitMember options state publisher request = .ok record) :
    AllFit limits (encodeMember record) ↔
      AllFit limits (encodeMember { request.record with
        ownerWorker := request.authority.claimed request.record.ownerWorker
        ownerBoot := request.authority.claimed request.record.ownerBoot }) := by
  obtain ⟨target, owner, rfl, hrecord⟩ := (memberAdmission hadmitted).stored
  obtain ⟨hworker, hboot⟩ := allFit_owner_iff h hledger hauthority
    request.record.ownerWorker request.record.ownerBoot
  rw [hrecord, allFit_encodeMember, allFit_encodeMember]
  unfold clearRetired
  split <;> exact
    ⟨fun h => { h with ownerWorker := hworker.mp h.ownerWorker, ownerBoot := hboot.mp h.ownerBoot },
      fun h => { h with
        ownerWorker := hworker.mpr h.ownerWorker, ownerBoot := hboot.mpr h.ownerBoot }⟩

theorem allFit_admitRelationship_iff {request : PublishRelationshipRequest}
    {record : RelationshipRecord} (h : state.Encodable limits) (hledger : state.Ledger)
    (hauthority : state.checkAuthority request.authority true = .ok publisher)
    (hadmitted : admitRelationship options state publisher request = .ok record) :
    AllFit limits (encodeRelationship record) ↔
      AllFit limits (encodeRelationship { request.record with
        key := request.record.key.canonical
        ownerWorker := request.authority.claimed request.record.ownerWorker
        ownerBoot := request.authority.claimed request.record.ownerBoot }) := by
  obtain ⟨owner, rfl, -, hrecord⟩ := (relationshipAdmission hadmitted).stored
  obtain ⟨hworker, hboot⟩ := allFit_owner_iff h hledger hauthority
    request.record.ownerWorker request.record.ownerBoot
  rw [hrecord]
  simp only [encodeRelationship, allFit_cons, allFit_append, hworker, hboot, fits_generation]

theorem allFit_admitFailureDomain_iff {request : PublishFailureDomainRequest}
    {record : FailureDomainRecord} (h : state.Encodable limits) (hledger : state.Ledger)
    (hauthority : state.checkAuthority request.authority true = .ok publisher)
    (hadmitted : admitFailureDomain options state publisher request = .ok record) :
    AllFit limits (encodeFailureDomain record) ↔
      AllFit limits (encodeFailureDomain { request.record with
        parents := (ExtTreeSet.ofList request.record.parents).toList
        ownerWorker := request.authority.claimed request.record.ownerWorker
        ownerBoot := request.authority.claimed request.record.ownerBoot }) := by
  obtain ⟨owner, rfl, -, hrecord⟩ := (failureDomainAdmission hadmitted).stored
  obtain ⟨hworker, hboot⟩ := allFit_owner_iff h hledger hauthority
    request.record.ownerWorker request.record.ownerBoot
  rw [hrecord]
  simp only [encodeFailureDomain, allFit_cons, allFit_append, hworker, hboot, fits_generation]

/-- What is derived from the quantities of an envelope is no text. -/
theorem allFit_admitPowerEnvelope_iff {request : PublishPowerEnvelopeRequest}
    {record : PowerEnvelopeRecord} (h : state.Encodable limits) (hledger : state.Ledger)
    (hauthority : state.checkAuthority request.authority true = .ok publisher)
    (hadmitted : admitPowerEnvelope state publisher request = .ok record) :
    AllFit limits (encodePowerEnvelope (record.recomputeDerived now)) ↔
      AllFit limits (encodePowerEnvelope { request.record with
        ownerWorker := request.authority.claimed request.record.ownerWorker
        ownerBoot := request.authority.claimed request.record.ownerBoot }) := by
  obtain ⟨owner, rfl, hrecord⟩ := (powerEnvelopeAdmission hadmitted).stored
  obtain ⟨hworker, hboot⟩ := allFit_owner_iff h hledger hauthority
    request.record.ownerWorker request.record.ownerBoot
  rw [hrecord]
  simp [-ownerAfter_boot, encodePowerEnvelope, PowerEnvelopeRecord.recomputeDerived, allFit_many,
    encodeBudget, hworker, hboot]

theorem allFit_admitCoolingEnvelope_iff {request : PublishCoolingEnvelopeRequest}
    {record : CoolingEnvelopeRecord} (h : state.Encodable limits) (hledger : state.Ledger)
    (hauthority : state.checkAuthority request.authority true = .ok publisher)
    (hadmitted : admitCoolingEnvelope state publisher request = .ok record) :
    AllFit limits (encodeCoolingEnvelope (record.recomputeDerived now)) ↔
      AllFit limits (encodeCoolingEnvelope { request.record with
        ownerWorker := request.authority.claimed request.record.ownerWorker
        ownerBoot := request.authority.claimed request.record.ownerBoot }) := by
  have hzones := (coolingEnvelopeAdmission hadmitted).zones
  obtain ⟨owner, rfl, hrecord⟩ := (coolingEnvelopeAdmission hadmitted).stored
  obtain ⟨hworker, hboot⟩ := allFit_owner_iff h hledger hauthority
    request.record.ownerWorker request.record.ownerBoot
  rw [hrecord] at hzones ⊢
  dsimp only at hzones
  simp [-ownerAfter_boot, encodeCoolingEnvelope, CoolingEnvelopeRecord.recomputeDerived,
    allFit_many, encodeZone, hworker, hboot, hzones.length_eq, hzones.mem_iff]

/-! What is stored in the graph. -/

theorem Writable.withGraph_iff (h : state.Writable limits) (graph : RackGraph)
    (generations : GenerationSet) :
    { state with toRackGraph := graph, generations := generations }.Writable limits ↔
      TableFits limits (·.maxMembers) encodeMember graph.members ∧
        TableFits limits (·.maxRelationships) encodeRelationship graph.relationships ∧
        TableFits limits (·.maxFailureDomains) encodeFailureDomain graph.failureDomains := by
  constructor
  · intro hafter
    exact ⟨hafter.members, hafter.relationships, hafter.failureDomains⟩
  · rintro ⟨hmembers, hrelationships, hdomains⟩
    exact { h with
      members := hmembers, relationships := hrelationships, failureDomains := hdomains }

theorem writable_commitMember_iff (h : state.Writable limits) (record : MemberRecord) :
    (state.commitMember record).Writable limits ↔ AllFit limits (encodeMember record) ∧
      (count (sizeWith state.members [record.key]) (·.maxMembers)).Fits limits := by
  rw [← h.members.insert_iff]
  refine (h.withGraph_iff _ _).trans ?_
  rw [members_storeMember, relationships_storeMember, failureDomains_storeMember]
  exact ⟨fun hafter => hafter.1, fun hmembers => ⟨hmembers, h.relationships, h.failureDomains⟩⟩

theorem writable_commitRelationship_iff (h : state.Writable limits)
    (record : RelationshipRecord) :
    (state.commitRelationship record).Writable limits ↔
      AllFit limits (encodeRelationship record) ∧
        (count (sizeWith state.relationships [record.key]) (·.maxRelationships)).Fits limits := by
  rw [← h.relationships.insert_iff]
  refine (h.withGraph_iff _ _).trans ?_
  rw [members_storeRelationship, relationships_storeRelationship, failureDomains_storeRelationship]
  exact ⟨fun hafter => hafter.2.1, fun hstored => ⟨h.members, hstored, h.failureDomains⟩⟩

theorem writable_commitFailureDomain_iff (h : state.Writable limits)
    (record : FailureDomainRecord) :
    (state.commitFailureDomain record).Writable limits ↔
      AllFit limits (encodeFailureDomain record) ∧
        (count (sizeWith state.failureDomains [record.id]) (·.maxFailureDomains)).Fits limits := by
  rw [← h.failureDomains.insert_iff]
  refine (h.withGraph_iff _ _).trans ?_
  rw [members_storeFailureDomain, relationships_storeFailureDomain,
    failureDomains_storeFailureDomain]
  exact ⟨fun hafter => hafter.2.2, fun hstored => ⟨h.members, h.relationships, hstored⟩⟩

/-! Capabilities. -/

theorem mem_putCapability_self (candidate : CapabilityRef) (capabilities : List CapabilityRef) :
    candidate ∈ putCapability candidate capabilities := by
  induction capabilities with
  | nil => simp [putCapability]
  | cons first capabilities ih =>
    unfold putCapability
    split
    · exact List.mem_cons_self ..
    · exact List.mem_cons_of_mem _ ih

theorem mem_putCapability {candidate capability : CapabilityRef}
    {capabilities : List CapabilityRef} (h : capability ∈ putCapability candidate capabilities) :
    capability = candidate ∨ capability ∈ capabilities := by
  induction capabilities with
  | nil => simpa [putCapability] using h
  | cons first capabilities ih =>
    unfold putCapability at h
    split at h
    · exact (List.mem_cons.mp h).imp_right (List.mem_cons_of_mem _)
    · rcases List.mem_cons.mp h with hfirst | hrest
      · exact Or.inr (hfirst ▸ List.mem_cons_self ..)
      · exact (ih hrest).imp_right (List.mem_cons_of_mem _)

theorem allFit_putCapability_iff {candidate : CapabilityRef} {capabilities : List CapabilityRef}
    (h : AllFit limits (many (·.maxCollectionItems) encodeCapability capabilities)) :
    AllFit limits (many (·.maxCollectionItems) encodeCapability
        (putCapability candidate capabilities)) ↔
      AllFit limits (encodeCapability candidate) ∧
        (count (putCapability candidate capabilities).length
          (·.maxCollectionItems)).Fits limits := by
  rw [allFit_many] at h ⊢
  constructor
  · rintro ⟨hcount, hfit⟩
    exact ⟨hfit candidate (mem_putCapability_self ..), hcount⟩
  · rintro ⟨hcandidate, hcount⟩
    refine ⟨hcount, fun capability hmem => ?_⟩
    rcases mem_putCapability hmem with rfl | hold
    · exact hcandidate
    · exact h.2 capability hold

theorem writable_commitCapability_iff (h : state.Writable limits) (hkeyed : state.Keyed)
    {request : PublishCapabilityRequest} {existing record : MemberRecord}
    (hadmitted : admitCapability options state publisher request = .ok (existing, record)) :
    (state.commitCapability existing record).Writable limits ↔
      AllFit limits (calls options state now (.publishCapability request)) := by
  obtain ⟨hfound, -, requested, hrequested, hrecord⟩ := admitCapability_ok hadmitted
  have hexisting := allFit_encodeMember.mp (h.members.records _ _ hfound)
  have hkey : record.key = request.member := by
    have hsame := hkeyed.members hfound
    rw [hrecord]
    exact hsame
  have hcalls : AllFit limits (calls options state now (.publishCapability request)) ↔
      AllFit limits (many (·.maxCollectionItems) encodeCapability record.capabilities) := by
    rw [hrecord, allFit_putCapability_iff hexisting.capabilities]
    simp [calls, hrequested, hfound]
  rw [hcalls]
  refine (h.withGraph_iff _ _).trans ?_
  rw [show (state.reviseMember existing record).toRackGraph =
    state.storeMember record.key (some existing) record from rfl, members_storeMember,
    relationships_storeMember, failureDomains_storeMember, hkey]
  constructor
  · intro hafter
    exact (allFit_encodeMember.mp (hafter.1.records request.member record (by simp))).capabilities
  · intro hcapabilities
    refine ⟨h.members.replace hfound (allFit_encodeMember.mpr ?_), h.relationships,
      h.failureDomains⟩
    rw [hrecord] at hcapabilities ⊢
    exact { hexisting with capabilities := hcapabilities }

/-! The rack, its publishers and its snapshots. -/

theorem admitRegistration_names {request : RegisterPublisherRequest} {worker : WorkerId}
    {boot : AgentBootId} (h : admitRegistration options state request = .ok (worker, boot)) :
    request.worker = some worker ∧ request.boot = some boot := by
  unfold admitRegistration at h
  simp only [bind_eq_ok, refuseIf_eq_ok, require_eq_ok, exists_and_left, exists_const, pure_eq_ok,
    Prod.mk.injEq] at h
  obtain ⟨_, -, _, hworker, _, hboot, -, _, -, -, -, -, -, -, -, rfl, rfl⟩ := h
  exact ⟨hworker, hboot⟩

theorem admitDeclaration_names {request : DeclareRackRequest} {named : RackId}
    {epoch : RackEpochId} (h : admitDeclaration state request = .ok (named, epoch)) :
    request.authority.rack = some named ∧ request.epoch = some epoch := by
  unfold admitDeclaration at h
  simp only [bind_eq_ok, refuseIf_eq_ok, require_eq_ok, exists_and_left, exists_const, pure_eq_ok,
    Prod.mk.injEq] at h
  obtain ⟨_, hepoch, -, -, _, hnamed, _, -, rfl, rfl⟩ := h
  exact ⟨hnamed, hepoch⟩

theorem admitOverRack_names {rack : RackRecord} {named : RackId} {epoch : RackEpochId}
    {request : DeclareRackRequest} {generation : RackGeneration}
    (h : admitOverRack rack named epoch request = .ok generation) : rack.id = named := by
  unfold admitOverRack at h
  simp only [refuseIf_bind_eq_ok, decide_eq_false_iff_not, ne_eq, not_not] at h
  exact h.1

theorem writable_registered_iff (h : state.Writable limits) {request : RegisterPublisherRequest}
    {boot : AgentBootId} {publisher : PublisherRecord} (hboot : publisher.boot = boot)
    (hadmitted : admitRegistration options state request = .ok (publisher.worker, boot))
    (hlabel : publisher.label = request.label) :
    { state with publishers := state.publishers.insert boot publisher }.Writable limits ↔
      AllFit limits (calls options state now (.registerPublisher request)) := by
  obtain ⟨hworker, hnamed⟩ := admitRegistration_names hadmitted
  have hcalls : AllFit limits (calls options state now (.registerPublisher request)) ↔
      AllFit limits (encodePublisher publisher) ∧
        (count (sizeWith state.publishers [boot]) (·.maxMembers)).Fits limits := by
    simp [calls, encodePublisher, optionalId, hworker, hboot, hnamed, hlabel, and_assoc]
  rw [hcalls, ← h.publishers.insert_iff]
  exact ⟨fun hafter => hafter.publishers, fun hpublishers => { h with publishers := hpublishers }⟩

theorem writable_commitDeclaration_iff (h : state.Writable limits) {request : DeclareRackRequest}
    {named : RackId} {epoch : RackEpochId}
    (hadmitted : admitDeclaration state request = .ok (named, epoch)) :
    (state.commitDeclaration named epoch request.label now).Writable limits ↔
      AllFit limits (calls options state now (.declareRack request)) := by
  obtain ⟨hnamed, hepoch⟩ := admitDeclaration_names hadmitted
  have hcalls : AllFit limits (calls options state now (.declareRack request)) ↔
      AllFit limits (optional encodeRackRecord
        (state.commitDeclaration named epoch request.label now).rack) := by
    simp [calls, commitDeclaration, encodeRackRecord, optionalId, hnamed, hepoch]
  rw [hcalls]
  exact ⟨fun hafter => hafter.rack, fun hrack => { h with rack := hrack }⟩

theorem writable_commitRedeclaration_iff (h : state.Writable limits)
    {request : DeclareRackRequest} {named : RackId} {epoch : RackEpochId} {rack : RackRecord}
    {generation : RackGeneration}
    (hadmitted : admitDeclaration state request = .ok (named, epoch))
    (hover : admitOverRack rack named epoch request = .ok generation) :
    (state.commitRedeclaration rack epoch generation request.label now).Writable limits ↔
      AllFit limits (calls options state now (.declareRack request)) := by
  obtain ⟨hnamed, hepoch⟩ := admitDeclaration_names hadmitted
  obtain rfl := admitOverRack_names hover
  have hcalls : AllFit limits (calls options state now (.declareRack request)) ↔
      AllFit limits (optional encodeRackRecord
        (state.commitRedeclaration rack epoch generation request.label now).rack) := by
    simp [calls, commitRedeclaration, encodeRackRecord, optionalId, hnamed, hepoch]
  have hgraph := h.carried (@carries_redeclaration state now rack epoch generation request.label)
  rw [hcalls]
  exact ⟨fun hafter => hafter.rack, fun hrack => { hgraph with rack := hrack }⟩

/-- Fencing a whole table of publishers. -/
theorem recordsFit_fenced_fold {entries : List (AgentBootId × PublisherRecord)}
    {fenced : ExtTreeMap AgentBootId FencedBootRecord}
    (hentries : ∀ entry ∈ entries,
      entry.2.boot = entry.1 ∧ AllFit limits (encodePublisher entry.2))
    (h : RecordsFit limits encodeFencedBoot fenced) :
    RecordsFit limits encodeFencedBoot
      (entries.foldl (fun fenced entry =>
        fenced.insert entry.1 (state.fencedRecord entry.1 entry.2 now .superseded)) fenced) := by
  induction entries generalizing fenced with
  | nil => exact h
  | cons entry entries ih =>
    obtain ⟨⟨hboot, hfit⟩, hrest⟩ := List.forall_mem_cons.mp hentries
    exact ih hrest (h.insert (allFit_fencedRecord hboot hfit .superseded))

theorem writable_commitRackRetirement_iff (h : state.Writable limits) (hledger : state.Ledger)
    {rack : RackRecord} (hrack : state.rack = some rack) (next : RackGeneration) :
    (state.commitRackRetirement rack next now).Writable limits ↔
      (count (sizeWith state.fencedBoots state.publishers.keys)
        (·.maxFencedBoots)).Fits limits := by
  have hsize : (state.commitRackRetirement rack next now).fencedBoots.size =
      sizeWith state.fencedBoots state.publishers.keys := by
    apply size_eq_sizeWith
    intro boot
    rw [fenced_of_retirement, ExtTreeMap.mem_keys]
  have hgraph := h.carried (@carries_rackRetirement state now rack next)
  have hentries : ∀ entry ∈ state.publishers.toList,
      entry.2.boot = entry.1 ∧ AllFit limits (encodePublisher entry.2) := by
    intro entry hmem
    have hfound := ExtTreeMap.mem_toList_iff_getElem?_eq_some.mp hmem
    exact ⟨hledger.publishers hfound, h.publishers.records _ _ hfound⟩
  rw [← hsize]
  constructor
  · exact fun hafter => hafter.fencedCount
  · intro hcount
    exact { hgraph with
      rack := by
        have hfit := h.rack
        rw [hrack] at hfit
        simpa [commitRackRetirement, encodeRackRecord] using hfit
      publishers := h.publishers.map fun _ hfit => allFit_publisher_of_same hfit rfl rfl rfl
      fencedBoots := recordsFit_fenced_fold hentries h.fencedBoots
      fencedCount := hcount }

theorem admitSnapshot_text {snapshot : RackSnapshot}
    (h : admitSnapshot state publisher now = .ok snapshot) :
    ∃ rack, state.rack = some rack ∧
      snapshot.id.value = snapshotIdText rack snapshot.generation := by
  unfold admitSnapshot at h
  simp only [bind_eq_ok, require_eq_ok, pure_eq_ok] at h
  obtain ⟨rack, hrack, next, -, id, hid, rfl⟩ := h
  exact ⟨rack, hrack, (StrongId.eq_of_parse hid).1⟩

/-- All that a snapshot adds to the texts of the state is its own identity. -/
theorem allFit_snapshot_iff (h : state.Encodable limits) {snapshot : RackSnapshot}
    (hadmitted : admitSnapshot state publisher now = .ok snapshot) :
    AllFit limits (encodeSnapshot snapshot) ↔ (string snapshot.id.value).Fits limits := by
  obtain ⟨rack, id, hrack, -, hbuilt⟩ := admitSnapshot_ok hadmitted
  have hdeclared := h.rack
  rw [hrack] at hdeclared
  simp only [WriteOp.optional, encodeRackRecord, allFit_cons, allFit_append] at hdeclared
  obtain ⟨-, ⟨⟨hid, hepoch, -⟩, -⟩, -⟩ := hdeclared
  have hmembers := allFit_encodeTable.mpr h.members
  have hrelationships := allFit_encodeTable.mpr h.relationships
  have hdomains := allFit_encodeTable.mpr h.failureDomains
  have hpower := h.power
  have hcooling := h.cooling
  unfold encodeTable at hmembers hrelationships hdomains
  rw [hbuilt]
  simp only [encodeSnapshot, buildSnapshot, memberRecords, relationshipRecords,
    failureDomainRecords, allFit_append, allFit_cons, allFit_nil, fits_generation, fits_timestamp,
    fits_enum, allFit_generationSet, hid, hepoch, hmembers, hrelationships, hdomains, hpower,
    hcooling, and_true]

/-- A full table gives up its oldest snapshot. -/
theorem size_retainSnapshot_le (snapshot : RackSnapshot)
    (hfull : options.limits.maxRetainedSnapshots ≤ state.snapshots.size)
    (hsome : state.snapshots.size ≠ 0) :
    (retainSnapshot options state snapshot).snapshots.size ≤ state.snapshots.size := by
  cases holdest : state.snapshots.minKey? with
  | none =>
    rw [ExtTreeMap.minKey?_eq_none_iff] at holdest
    simp [holdest] at hsome
  | some oldest =>
    have hmem := ExtTreeMap.contains_iff_mem.mpr (ExtTreeMap.minKey?_mem holdest)
    have hkept : (retainSnapshot options state snapshot).snapshots =
        (state.snapshots.erase oldest).insert snapshot.generation snapshot := by
      simp [retainSnapshot, hfull, holdest]
    have herased := @ExtTreeMap.size_erase _ _ _ state.snapshots _ oldest
    rw [if_pos hmem] at herased
    have hinserted := @ExtTreeMap.size_insert_le _ _ _ (state.snapshots.erase oldest) _
      snapshot.generation snapshot
    rw [hkept]
    omega

/-- Whether the retained snapshots are within their number is known before one is published. -/
theorem fits_retained_iff (snapshot : RackSnapshot)
    (h : (count state.snapshots.size (·.maxRetainedSnapshots)).Fits options.limits) :
    (count (retainSnapshot options state snapshot).snapshots.size
        (·.maxRetainedSnapshots)).Fits options.limits ↔
      (count (retainedCount options state snapshot.generation)
        (·.maxRetainedSnapshots)).Fits options.limits := by
  have hstored : (retainSnapshot options state snapshot).snapshots.size ≠ 0 := by
    intro hzero
    have hempty : (retainSnapshot options state snapshot).snapshots.isEmpty = true := by
      rw [ExtTreeMap.isEmpty_eq_size_beq_zero, hzero]
      rfl
    simp [retainSnapshot] at hempty
  have hinsert := size_insert_eq state.snapshots snapshot.generation snapshot
  have hbelow := size_le_sizeWith state.snapshots [snapshot.generation]
  have hgrown : sizeWith state.snapshots [snapshot.generation] ≤ state.snapshots.size + 1 :=
    hinsert ▸ ExtTreeMap.size_insert_le
  simp only [Fits, retainedCount] at h ⊢
  by_cases hroom : state.snapshots.size < options.limits.maxRetainedSnapshots
  · have hkept : (retainSnapshot options state snapshot).snapshots =
        state.snapshots.insert snapshot.generation snapshot := by
      simp [retainSnapshot, Nat.not_le.mpr hroom]
    rw [hkept, hinsert] at hstored ⊢
    omega
  · by_cases hnone : options.limits.maxRetainedSnapshots = 0
    · omega
    · have hsize := size_retainSnapshot_le snapshot (Nat.not_lt.mp hroom) (by omega)
      omega

theorem writable_retainSnapshot_iff (h : state.Writable options.limits) {snapshot : RackSnapshot} :
    (retainSnapshot options state snapshot).Writable options.limits ↔
      AllFit options.limits (encodeSnapshot snapshot) ∧
        (count (retainedCount options state snapshot.generation)
          (·.maxRetainedSnapshots)).Fits options.limits := by
  rw [← fits_retained_iff snapshot h.snapshots.count]
  constructor
  · intro hafter
    exact ⟨hafter.snapshots.records snapshot.generation snapshot (by simp [retainSnapshot]),
      hafter.snapshots.count⟩
  · rintro ⟨hfit, hcount⟩
    refine { h with snapshots := ⟨hcount, fun generation found hfound => ?_⟩ }
    rcases getElem?_retainSnapshot hfound with ⟨-, rfl⟩ | hold
    · exact hfit
    · exact h.snapshots.records generation found hold

/-! One step, and a whole run. -/

theorem publishers_fit_admitted {mutation : Mutation} {committed : RackState}
    (h : state.Encodable limits)
    (hadmitted : Admitted options state now publisher mutation committed) :
    TableFits limits (·.maxMembers) encodePublisher committed.publishers := by
  cases hadmitted with
  | rackRetirement => exact h.publishers.map fun _ hfit => allFit_publisher_of_same hfit rfl rfl rfl
  | _ => exact h.publishers

/-- What an admitted mutation stores can be written exactly when what it brings can be. -/
theorem writable_admitted_iff {mutation : Mutation} {token : AuthorityToken}
    {committed : RackState} (h : state.Writable options.limits) (hkeyed : state.Keyed)
    (hledger : state.Ledger) (htoken : mutation.token = some token)
    (hauthority : state.checkAuthority token true = .ok publisher)
    (hadmitted : Admitted options state now publisher mutation committed) :
    committed.Writable options.limits ↔
      AllFit options.limits (calls options state now mutation) := by
  cases hadmitted with
  | member hmember =>
    cases htoken
    rw [writable_commitMember_iff h, (memberAdmission hmember).key,
      allFit_admitMember_iff h.toEncodable hledger hauthority hmember]
    simp [calls]
  | relationship hrelationship =>
    cases htoken
    rw [writable_commitRelationship_iff h, (relationshipAdmission hrelationship).key,
      allFit_admitRelationship_iff h.toEncodable hledger hauthority hrelationship]
    simp [calls]
  | failureDomain hdomain =>
    cases htoken
    rw [writable_commitFailureDomain_iff h, (failureDomainAdmission hdomain).id,
      allFit_admitFailureDomain_iff h.toEncodable hledger hauthority hdomain]
    simp [calls]
  | powerEnvelope henvelope =>
    cases htoken
    rw [calls, ← allFit_admitPowerEnvelope_iff h.toEncodable hledger hauthority henvelope]
    constructor
    · intro hafter
      exact allFit_optional.mp hafter.power _ rfl
    · intro hfit
      exact { h with power := allFit_optional.mpr fun _ hsome => Option.some.inj hsome ▸ hfit }
  | coolingEnvelope henvelope =>
    cases htoken
    rw [calls, ← allFit_admitCoolingEnvelope_iff h.toEncodable hledger hauthority henvelope]
    constructor
    · intro hafter
      exact allFit_optional.mp hafter.cooling _ rfl
    · intro hfit
      exact { h with cooling := allFit_optional.mpr fun _ hsome => Option.some.inj hsome ▸ hfit }
  | capability hcapability => exact writable_commitCapability_iff h hkeyed hcapability
  | rackRetirement hretirement =>
    rw [writable_commitRackRetirement_iff h hledger (admitRackRetirement_next hretirement).1]
    simp [calls]
  | snapshot hsnapshot =>
    obtain ⟨rack, hrack, htext⟩ := admitSnapshot_text hsnapshot
    obtain ⟨_, _, -, hnext, -⟩ := admitSnapshot_ok hsnapshot
    rw [writable_retainSnapshot_iff h, allFit_snapshot_iff h.toEncodable hsnapshot, htext]
    simp [calls, snapshotCalls, hrack, hnext]
  | health hhealth =>
    obtain ⟨-, -, hrecord⟩ := admitHealth_ok hhealth
    have hcarries := carries_revision (succeeds_health hhealth) hkeyed (hrecord ▸ .observed ..)
    exact iff_of_true { h.carried hcarries with } allFit_nil
  | withdrawal hwithdrawal =>
    obtain ⟨-, -, hrecord⟩ := admitWithdrawal_ok hwithdrawal
    have hcarries :=
      carries_revision (succeeds_withdrawal hwithdrawal) hkeyed (hrecord ▸ .withdrawn ..)
    exact iff_of_true { h.carried hcarries with } allFit_nil
  | unavailable hunavailable =>
    obtain ⟨-, -, -, hrecord⟩ := admitUnavailable_ok hunavailable
    have hcarries :=
      carries_revision (succeeds_unavailable hunavailable) hkeyed (hrecord ▸ .unavailable ..)
    exact iff_of_true { h.carried hcarries with } allFit_nil
  | relationshipWithdrawal =>
    exact iff_of_true { h.carried (carries_dropRelationship _ _) with } allFit_nil
  | retirement hretirement =>
    exact iff_of_true { h.carried (carries_retirement hretirement hkeyed) with } allFit_nil
  | @revalidation request graph count hrevalidated =>
    have hcarries := carries_revalidateTargets request.authority
      (state.revalidationTargets request) state.toRackGraph 0
    rw [hrevalidated] at hcarries
    exact iff_of_true { h.carried hcarries with } allFit_nil

/-- A step leaves a state that can be written exactly when what it brings can be. -/
theorem writable_transition_iff {mutation : Mutation} {after : RackState}
    {outcome : Option MutationOutcome} (h : state.Writable options.limits) (hkeyed : state.Keyed)
    (hledger : state.Ledger) (htransition : Transition options state now mutation after outcome) :
    after.Writable options.limits ↔
      (TakesEffect outcome → AllFit options.limits (calls options state now mutation)) := by
  cases htransition with
  | refused hrefused => exact iff_of_true h fun hall => absurd (hall _ rfl) hrefused
  | noted refusal =>
    exact iff_of_true (h.noteRefusal _ refusal)
      fun hall => absurd (hall _ rfl) refusal.not_accepted
  | committed htoken hauthority hadmitted =>
    rw [writable_advancePublication_iff (publishers_fit_admitted h.toEncodable hadmitted),
      writable_admitted_iff h hkeyed hledger htoken hauthority hadmitted,
      imp_iff_right takesEffect_accepted]
  | @stopped request _ graph refusal hauthority hstopped =>
    have hcarries := carries_revalidateTargets request.authority
      (state.revalidationTargets request) state.toRackGraph 0
    rw [hstopped] at hcarries
    exact iff_of_true ((h.carried hcarries).noteRefusal _ refusal)
      fun hall => absurd (hall _ rfl) refusal.not_accepted
  | refreshed hadmitted hfound =>
    have htexts := h.publishers.records _ _ hfound
    refine iff_of_true { h with
      publishers := h.publishers.replace hfound
        (allFit_publisher_of_same htexts rfl rfl rfl) } fun hall => ?_
    exact absurd (hall _ rfl) (by decide)
  | registered hadmitted hnew =>
    rw [imp_iff_right takesEffect_accepted]
    apply writable_registered_iff h
    · rfl
    · exact hadmitted
    · rfl
  | declared hadmitted hnone =>
    rw [imp_iff_right takesEffect_accepted]
    exact writable_commitDeclaration_iff h hadmitted
  | redeclared hadmitted hsome hover =>
    rw [imp_iff_right takesEffect_accepted]
    exact writable_commitRedeclaration_iff h hadmitted hover
  | beat hauthority =>
    refine iff_of_true { h with
      publishers := h.publishers.modify _ fun _ hfit =>
        allFit_publisher_of_same hfit rfl rfl rfl } fun _ => allFit_nil
  | fenced hadmitted =>
    rw [writable_commitFence_iff h hledger (admitFence_ok hadmitted),
      imp_iff_right takesEffect_accepted]
    simp [calls, boot_of_admitFence hadmitted]
  | expired later =>
    rw [writable_expirePublishers_iff h hledger]
    simp [calls, TakesEffect]

theorem writable_fresh (options : RackFabricOptions) :
    (fresh options).Writable options.limits := by
  rw [← allFit_encodeState]
  simp [fresh, encodeState, encodeTable, many]

structure Reached (options : RackFabricOptions) (state : RackState) : Prop where
  wellFormed : state.WellFormed
  bound : Bound options state
  ledger : state.Ledger

theorem reached_fresh (options : RackFabricOptions) : Reached options (fresh options) where
  wellFormed := WellFormed.empty
  bound := ⟨rfl, rfl⟩
  ledger := by constructor <;> simp [fresh]

theorem Reached.step (h : Reached options state) (input : Input) :
    Reached options (state.step options input) where
  wellFormed := wellFormed_step state input h.wellFormed
  bound := h.bound.transition (perform_transition state input)
  ledger := h.ledger.transition (perform_transition state input)

theorem Reached.saveable_iff (h : Reached options state) :
    state.Saveable ↔ state.Writable options.limits := by
  rw [RackState.saveable_iff, h.bound.limits]

/-- Every state of a run can be saved exactly when whatever an accepted mutation brings meets
the bounds of the writer. -/
theorem saveable_iff_staysWithin (options : RackFabricOptions) (inputs : List Input) :
    Execution.Always (step options) Saveable (fresh options) inputs ↔
      Execution.EachStep (step options) (StaysWithin options) (fresh options) inputs := by
  apply Execution.always_iff_eachStep (step options) (Reached options)
  · exact fun state input h => h.step input
  · intro state input h hsaveable
    rw [(h.step input).saveable_iff]
    exact writable_transition_iff (h.saveable_iff.mp hsaveable) h.wellFormed.toKeyed h.ledger
      (perform_transition state input)
  · exact reached_fresh options
  · exact (reached_fresh options).saveable_iff.mpr (writable_fresh options)

end RackState

namespace Scenario

def longNamed : MemberRecord where
  key := node "node-1"
  details := .node { hostName := some (List.replicate 257 0x61) }

end Scenario

namespace RackState

/-- The node is accepted, and from then on no state can be saved, whatever its size. -/
theorem long_host_name_unsaveable :
    ¬ Execution.Always (step Scenario.defaults) Saveable (fresh Scenario.defaults)
      [Scenario.declareRack, Scenario.publishMember Scenario.operator Scenario.longNamed] := by
  intro h
  obtain ⟨hroom, -⟩ := h _ (List.prefix_refl _)
  have hfails : encodeStatePayload (Scenario.run [Scenario.declareRack,
      Scenario.publishMember Scenario.operator Scenario.longNamed]) = .error .lengthTooLarge := by
    decide +kernel
  have hlarge := hroom _ hfails
  revert hlarge
  decide +kernel

end RackState

end RackFabric
