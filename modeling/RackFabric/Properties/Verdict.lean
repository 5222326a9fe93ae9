import RackFabric.Properties.Durability
import RackFabric.Properties.Gate
import RackFabric.Properties.Indexes
import RackFabric.Properties.Fencing
import RackFabric.Properties.Lineage

/-! What the invariant gate says of the states that a rack comes to, and which restarts it
lets through. -/
namespace RackFabric
open Std SecondaryIndex Reachability Relation RackGraph

@[simp] theorem violationIf_eq_nil {failed : Bool} {code : String} {detail : Str} :
    violationIf failed code detail = [] ↔ failed = false := by
  cases failed <;> simp [violationIf]

theorem Observation.not_isCurrentAt_unknown {evidence : Observation}
    (h : evidence.observedAt = .unknown) (now : Timestamp) :
    evidence.isCurrentAt now = false := by
  simp only [isCurrentAt, freshnessAt, h]
  split
  · rfl
  · simp [Timestamp.known, Timestamp.unknown]

theorem Generation.not_lt_of_le {tag : GenerationTag} {first second : Generation tag}
    (h : first ≤ second) : ¬ second < first :=
  fun hlt => lt_irrefl first (lt_of_le_of_lt h hlt)

theorem Generation.isUnset_eq_false {tag : GenerationTag} {generation : Generation tag}
    (h : generation.isSet = true) : generation.isUnset = false := by
  simpa [isSet, isUnset] using h

namespace RackGraph

/-- The only index that can differ from the rebuilt one lists the members of the failure
domains. -/
theorem WellFormed.rebuildIndexes_eq {graph : RackGraph}
    (h : graph.WellFormed) : graph.rebuildIndexes =
      { graph with membersByFailureDomain := graph.rebuildIndexes.membersByFailureDomain } := by
  have hrebuilt := domainMembers_rebuilt h.toDomainsKeyed
  unfold DomainMembersMirrored MemberIndex.Mirrored at hrebuilt
  rw [members_rebuildIndexes, failureDomains_rebuildIndexes] at hrebuilt
  have hwell : WellFormed { graph with
      membersByFailureDomain := graph.rebuildIndexes.membersByFailureDomain } :=
    ⟨⟨⟨⟨h.members, h.failureDomains⟩, h.relationships⟩, h.parent_mem, h.domain_mem,
      h.domainParent_mem, h.canonical, h.distinct, h.source_mem, h.target_mem, h.parents_acyclic,
      h.domains_acyclic, h.contains_acyclic⟩, h.kinds, h.powerDomains, h.coolingDomains, h.owners,
      h.children, h.touching, h.domainChildren⟩
  exact hwell.rebuildIndexes_eq_self_iff.mpr hrebuilt

end RackGraph

namespace RackState
variable {options : RackFabricOptions} {state : RackState}

/-! The checks that a consistent state passes. -/

theorem Consistent.rackViolations_eq (h : Consistent options state) :
    state.rackViolations = [] := by
  simp only [rackViolations, violationIf_eq_nil]
  cases hrack : state.rack with
  | none => rfl
  | some rack => exact Generation.isUnset_eq_false (h.rackNumbered rack hrack)

theorem Consistent.identityViolations_eq (h : Consistent options state) {key : MemberKey}
    {record : MemberRecord} (hfound : state.members[key]? = some record) (now : Timestamp) :
    identityViolations key record now = [] := by
  have hkey : record.key = key := h.wellFormed.members hfound
  have hset := Generation.isUnset_eq_false (h.membersNumbered key record hfound)
  simp only [identityViolations, List.append_eq_nil_iff, violationIf_eq_nil]
  refine ⟨⟨by simp [hkey], hset⟩, ?_⟩
  rw [decide_eq_false_iff_not]
  rintro ⟨hretired, -, hcurrent⟩
  have hunknown := (h.membersAdmissible key record hfound).retired hretired
  rw [Observation.not_isCurrentAt_unknown hunknown] at hcurrent
  cases hcurrent

theorem Consistent.referenceViolations_eq (h : Consistent options state) {key : MemberKey}
    {record : MemberRecord} (hfound : state.members[key]? = some record) :
    state.referenceViolations key record = [] := by
  have hadmissible := h.membersAdmissible key record hfound
  have hlimits := h.bound.limits
  simp only [referenceViolations, List.append_eq_nil_iff, violationIf_eq_nil, hlimits,
    List.flatMap_eq_nil_iff]
  refine ⟨⟨⟨⟨?_, ?_⟩, ?_⟩, ?_⟩, ?_⟩
  · rw [decide_eq_false_iff_not]
    exact h.wellFormed.not_own_parent hfound
  · cases hparent : record.parent with
    | none => rfl
    | some parent =>
      have hmem := h.wellFormed.parent_mem hfound hparent
      simpa using hmem
  · rw [decide_eq_false_iff_not, gt_iff_lt, Nat.not_lt]
    exact hadmissible.failureDomains
  · rw [decide_eq_false_iff_not, gt_iff_lt, Nat.not_lt]
    exact hadmissible.capabilities
  · intro domain hdomain
    have hmem := h.wellFormed.domain_mem hfound hdomain
    simpa using hmem

theorem Consistent.memberViolations_eq (h : Consistent options state) (now : Timestamp) :
    state.memberViolations now state.members.toList = [] := by
  have hentries : ∀ entry ∈ state.members.toList, state.members[entry.1]? = some entry.2 :=
    fun entry hmem => ExtTreeMap.mem_toList_iff_getElem?_eq_some.mp hmem
  have hfit : ¬ state.members.size > state.limits.maxMembers := by
    rw [h.bound.limits]
    exact Nat.not_lt.mpr h.membersFit
  revert hentries
  generalize state.members.toList = entries
  intro hentries
  induction entries with
  | nil => rfl
  | cons entry entries ih =>
    have hfound := hentries entry List.mem_cons_self
    rw [memberViolations, if_neg hfit, h.identityViolations_eq hfound,
      h.referenceViolations_eq hfound, ih fun other hother =>
        hentries other (List.mem_cons_of_mem entry hother)]
    rfl

theorem Consistent.containmentViolations_eq (h : Consistent options state) :
    state.containmentViolations = [] := by
  simp only [containmentViolations, List.flatMap_eq_nil_iff, violationIf_eq_nil]
  intro key _
  have hedge : Edge (fun member => (state.parentOf member).toList) = state.ParentEdge := by
    funext child parent
    simp [Edge, ParentEdge]
  have hacyclic := h.wellFormed.parents_acyclic
  rw [← hedge] at hacyclic
  have hchain : ∀ member, (state.parentOf member).toList.length ≤ 1 := by
    intro member
    cases state.parentOf member <;> simp
  have hkeys : ∀ member, (state.parentOf member).toList ≠ [] → member ∈ state.members.keys := by
    intro member hne
    rw [ExtTreeMap.mem_keys, ExtTreeMap.mem_iff_isSome_getElem?]
    cases hfound : state.members[member]? with
    | none => simp [parentOf, hfound] at hne
    | some record => rfl
  rw [← Bool.not_eq_true, repeatsFrom_iff ExtTreeMap.nodup_keys hkeys, not_or]
  exact ⟨hacyclic key, not_joins_of_chain hchain hacyclic key⟩

theorem Consistent.relationshipViolations_eq (h : Consistent options state)
    {key : RelationshipKey} {record : RelationshipRecord}
    (hfound : state.relationships[key]? = some record) :
    state.relationshipViolations key record = [] := by
  have hmem : key ∈ state.relationships := Tables.mem_iff_exists.mpr ⟨record, hfound⟩
  have hset := Generation.isUnset_eq_false (h.relationshipsNumbered key record hfound)
  have hbounded := h.bounded.relationships key record hfound
  simp only [relationshipViolations, List.append_eq_nil_iff, violationIf_eq_nil]
  refine ⟨⟨⟨⟨?_, ?_⟩, ?_⟩, hset⟩, ?_⟩
  · rw [decide_eq_false_iff_not]
    exact h.wellFormed.distinct hmem
  · simpa using h.wellFormed.source_mem hmem
  · simpa using h.wellFormed.target_mem hmem
  · rw [decide_eq_false_iff_not]
    exact Generation.not_lt_of_le hbounded

theorem Consistent.domainViolations_eq (h : Consistent options state) {id : FailureDomainId}
    {record : FailureDomainRecord} (hfound : state.failureDomains[id]? = some record) :
    state.domainViolations id record = [] := by
  have hid : record.id = id := h.wellFormed.failureDomains hfound
  have hbounded := h.bounded.failureDomains id record hfound
  simp only [domainViolations, List.append_eq_nil_iff, violationIf_eq_nil,
    List.flatMap_eq_nil_iff]
  refine ⟨⟨by simp [hid], fun parent hparent => ⟨?_, ?_⟩⟩, ?_⟩
  · simpa using h.wellFormed.domainParent_mem hfound hparent
  · rw [decide_eq_false_iff_not]
    rintro rfl
    exact h.wellFormed.domains_acyclic _ (.single (domainEdge_iff.mpr ⟨record, hfound, hparent⟩))
  · rw [decide_eq_false_iff_not]
    exact Generation.not_lt_of_le hbounded

theorem Consistent.rackRetirementViolations_eq (h : Consistent options state) :
    state.rackRetirementViolations = [] := by
  unfold rackRetirementViolations
  split
  · rename_i hended
    have hnone : state.members.toList.find? (fun entry => entry.2.lifecycle = .present) = none := by
      rw [List.find?_eq_none]
      intro entry hmem
      have hfound := ExtTreeMap.mem_toList_iff_getElem?_eq_some.mp hmem
      simpa using h.cleared hended entry.1 entry.2 hfound
    rw [firstViolation, hnone]
  · rfl

theorem Consistent.powerViolations_eq (h : Consistent options state)
    {power : PowerEnvelopeRecord} (hsome : state.power = some power) :
    state.powerViolations power = [] := by
  have haccounted := h.power power hsome
  simp only [powerViolations, List.append_eq_nil_iff, violationIf_eq_nil]
  refine ⟨⟨?_, Generation.isUnset_eq_false haccounted.numbered⟩, ?_⟩
  · rw [decide_eq_false_iff_not]
    rintro ⟨hheadroom, hunsupported⟩
    exact hunsupported (haccounted.supported hheadroom)
  · rw [decide_eq_false_iff_not]
    exact Generation.not_lt_of_le (h.bounded.power power hsome)

theorem Consistent.coolingViolations_eq (h : Consistent options state)
    {cooling : CoolingEnvelopeRecord} (hsome : state.cooling = some cooling) :
    state.coolingViolations cooling = [] := by
  have haccounted := h.cooling cooling hsome
  simp only [coolingViolations, List.append_eq_nil_iff, violationIf_eq_nil,
    List.flatMap_eq_nil_iff]
  refine ⟨⟨Generation.isUnset_eq_false haccounted.numbered, ?_⟩, fun zone hzone => ?_⟩
  · rw [decide_eq_false_iff_not]
    exact Generation.not_lt_of_le (h.bounded.cooling cooling hsome)
  · rw [decide_eq_false_iff_not]
    rintro ⟨hheadroom, hunsupported⟩
    exact hunsupported (haccounted.supported zone hzone hheadroom)

theorem Consistent.snapshotViolations_eq (h : Consistent options state)
    {generation : SnapshotGeneration} {snapshot : RackSnapshot}
    (hfound : state.snapshots[generation]? = some snapshot) :
    state.snapshotViolations generation snapshot = [] := by
  have hgeneration := h.ledger.snapshots hfound
  have hbounds := (h.bounded.snapshots generation snapshot hfound).generations
  simp only [snapshotViolations, List.append_eq_nil_iff, violationIf_eq_nil]
  refine ⟨⟨by simp [hgeneration], ?_⟩, ?_⟩
  · rw [decide_eq_false_iff_not]
    exact Generation.not_lt_of_le (le_of_toNat (hbounds .rack))
  · rw [decide_eq_false_iff_not]
    exact Generation.not_lt_of_le (le_of_toNat (hbounds .membership))

theorem Consistent.publisherViolations_eq (h : Consistent options state) {boot : AgentBootId}
    {publisher : PublisherRecord} (hfound : state.publishers[boot]? = some publisher) :
    state.publisherViolations boot publisher =
      violationIf (state.fencedBoots.contains boot ∧
          (publisher.state = .active ∨ publisher.state = .registered)) "FENCED_PUBLISHER_ACTIVE"
        (str "publisher " ++ boot.value ++ str " is fenced but still holds authority") := by
  have hnone : violationIf (publisher.state = .active ∧
      publisher.coordinatorEpoch ≠ state.generations.coordinatorEpoch) "PUBLISHER_STALE_EPOCH"
      (str "active publisher " ++ boot.value ++ str " carries a stale coordinator epoch") = [] := by
    rw [violationIf_eq_nil, decide_eq_false_iff_not]
    rintro ⟨hactive, hstale⟩
    apply hstale
    apply h.publishers boot publisher hfound
    simp [PublisherRecord.Revoked, hactive]
  rw [publisherViolations, hnone, List.append_nil]

theorem Consistent.indexViolations_eq (h : Consistent options state) :
    state.indexViolations =
      indexMismatch
        (state.membersByFailureDomain ≠ state.rebuildIndexes.membersByFailureDomain)
        "members_by_failure_domain" := by
  have heq := h.wellFormed.rebuildIndexes_eq
  unfold indexViolations
  simp only
  rw [heq]
  simp [indexMismatch, violationIf]

/-! The verdict. -/

/-- All that the gate can find in a consistent state. -/
theorem Consistent.violations_eq (h : Consistent options state) (now : Timestamp) :
    (state.checkInvariants now).violations =
      state.domainCycleViolations ++
        (state.publishers.toList.flatMap fun entry => state.publisherViolations entry.1 entry.2) ++
        state.indexViolations := by
  have hrelationships : (state.relationships.toList.flatMap fun entry =>
      state.relationshipViolations entry.1 entry.2) = [] := by
    rw [List.flatMap_eq_nil_iff]
    exact fun entry hmem =>
      h.relationshipViolations_eq (ExtTreeMap.mem_toList_iff_getElem?_eq_some.mp hmem)
  have hdomains : (state.failureDomains.toList.flatMap fun entry =>
      state.domainViolations entry.1 entry.2) = [] := by
    rw [List.flatMap_eq_nil_iff]
    exact fun entry hmem =>
      h.domainViolations_eq (ExtTreeMap.mem_toList_iff_getElem?_eq_some.mp hmem)
  have hpower : (state.power.toList.flatMap fun power => state.powerViolations power) = [] := by
    rw [List.flatMap_eq_nil_iff]
    exact fun power hmem => h.powerViolations_eq (Option.mem_toList.mp hmem)
  have hcooling : (state.cooling.toList.flatMap fun cooling =>
      state.coolingViolations cooling) = [] := by
    rw [List.flatMap_eq_nil_iff]
    exact fun cooling hmem => h.coolingViolations_eq (Option.mem_toList.mp hmem)
  have hsnapshots : (state.snapshots.toList.flatMap fun entry =>
      state.snapshotViolations entry.1 entry.2) = [] := by
    rw [List.flatMap_eq_nil_iff]
    exact fun entry hmem =>
      h.snapshotViolations_eq (ExtTreeMap.mem_toList_iff_getElem?_eq_some.mp hmem)
  simp only [checkInvariants, h.rackViolations_eq, h.memberViolations_eq,
    h.containmentViolations_eq, hrelationships, hdomains, h.rackRetirementViolations_eq, hpower,
    hcooling, hsnapshots, List.append_nil, List.nil_append]

theorem domainCycleViolations_eq_nil_iff (hacyclic : Acyclic state.DomainEdge) :
    state.domainCycleViolations = [] ↔ ¬ Rejoined state.toRackGraph := by
  have hwalk : ∀ id, repeatsFrom state.parentsOf state.failureDomains.keys id = true ↔
      TransGen state.DomainEdge id id ∨ Joins state.parentsOf id := fun id =>
    repeatsFrom_iff ExtTreeMap.nodup_keys mem_keys_of_parentsOf
  simp only [domainCycleViolations, List.flatMap_eq_nil_iff, violationIf_eq_nil, Rejoined,
    not_exists]
  constructor
  · intro hnone id hjoins
    have hkey : id ∈ state.failureDomains.keys :=
      mem_keys_of_parentsOf id (ne_nil_of_repeats (Or.inr hjoins))
    have hrepeats := (hwalk id).mpr (Or.inr hjoins)
    rw [hnone id hkey] at hrepeats
    cases hrepeats
  · intro hnone id _
    rw [← Bool.not_eq_true, hwalk, not_or]
    exact ⟨hacyclic id, hnone id⟩

theorem Consistent.publisherViolations_eq_nil_iff (h : Consistent options state) :
    (state.publishers.toList.flatMap fun entry => state.publisherViolations entry.1 entry.2) = [] ↔
      state.NoLiveFenced := by
  rw [List.flatMap_eq_nil_iff]
  constructor
  · intro hnone boot record hfenced hfound hlive
    have hclear := hnone (boot, record) (ExtTreeMap.mem_toList_iff_getElem?_eq_some.mpr hfound)
    rw [h.publisherViolations_eq hfound, violationIf_eq_nil, decide_eq_false_iff_not] at hclear
    exact hclear ⟨ExtTreeMap.contains_iff_mem.mpr hfenced, hlive.symm⟩
  · intro hnone entry hmem
    have hfound := ExtTreeMap.mem_toList_iff_getElem?_eq_some.mp hmem
    rw [h.publisherViolations_eq hfound, violationIf_eq_nil, decide_eq_false_iff_not]
    rintro ⟨hfenced, hlive⟩
    exact hnone entry.1 entry.2 (ExtTreeMap.contains_iff_mem.mp hfenced) hfound hlive.symm

theorem Consistent.indexViolations_eq_nil_iff (h : Consistent options state) :
    state.indexViolations = [] ↔ state.rebuildIndexes = state.toRackGraph := by
  rw [h.indexViolations_eq, indexMismatch, violationIf_eq_nil, decide_eq_false_iff_not, ne_eq,
    Classical.not_not]
  constructor
  · intro hsame
    rw [h.wellFormed.rebuildIndexes_eq, ← hsame]
  · intro hsame
    rw [hsame]

/-- The gate passes a consistent state unless two ways up from a failure domain meet, the
members of a failure domain are misfiled, or a fenced boot still holds authority. -/
theorem Consistent.gate_iff (h : Consistent options state) (now : Timestamp) :
    (state.checkInvariants now).ok = true ↔ ¬ Rejoined state.toRackGraph ∧
      state.rebuildIndexes = state.toRackGraph ∧ state.NoLiveFenced := by
  rw [InvariantReport.ok, List.isEmpty_iff, h.violations_eq, List.append_eq_nil_iff,
    List.append_eq_nil_iff, domainCycleViolations_eq_nil_iff h.wellFormed.domains_acyclic,
    h.publisherViolations_eq_nil_iff, h.indexViolations_eq_nil_iff, and_assoc,
    and_comm (b := state.rebuildIndexes = _)]

def Residual (violation : InvariantViolation) : Prop :=
  violation.code = str "FAILURE_DOMAIN_CYCLE" ∨ violation.code = str "FENCED_PUBLISHER_ACTIVE" ∨
    violation = ⟨str "INDEX_MISMATCH",
      str "derived index does not match canonical records: members_by_failure_domain"⟩

theorem mem_violationIf {failed : Bool} {code : String} {detail : Str}
    {violation : InvariantViolation} (h : violation ∈ violationIf failed code detail) :
    violation = ⟨str code, detail⟩ := by
  unfold violationIf at h
  split at h
  · exact List.mem_singleton.mp h
  · cases h

theorem Consistent.residual (h : Consistent options state) (now : Timestamp) :
    ∀ violation ∈ (state.checkInvariants now).violations, Residual violation := by
  intro violation hmem
  rw [h.violations_eq, List.mem_append, List.mem_append] at hmem
  rcases hmem with (hcycle | hpublisher) | hindex
  · obtain ⟨id, -, hviolation⟩ := List.mem_flatMap.mp hcycle
    exact Or.inl (congrArg InvariantViolation.code (mem_violationIf hviolation))
  · obtain ⟨entry, hentry, hviolation⟩ := List.mem_flatMap.mp hpublisher
    rw [h.publisherViolations_eq (ExtTreeMap.mem_toList_iff_getElem?_eq_some.mp hentry)]
      at hviolation
    exact Or.inr (Or.inl (congrArg InvariantViolation.code (mem_violationIf hviolation)))
  · rw [h.indexViolations_eq] at hindex
    right
    right
    rw [mem_violationIf hindex]
    rfl

/-! Restarts from the own file. -/

theorem rejoined_congr {graph after : RackGraph}
    (hsame : ∀ id, after.parentsOf id = graph.parentsOf id) : Rejoined after ↔ Rejoined graph := by
  have hparents : after.parentsOf = graph.parentsOf := funext hsame
  rw [Rejoined, Rejoined, hparents]

theorem parentsOf_adopted (id : FailureDomainId) :
    (adoptCandidate options state.persisted).parentsOf id = state.parentsOf id := by
  simp [parentsOf, adoptCandidate, persisted]

/-- The gate passes the own candidate unless domains rejoin or a fenced boot is live. -/
theorem Consistent.adopted_gate_iff (h : Consistent options state) (now : Timestamp) :
    ((adoptCandidate options state.persisted).checkInvariants now).ok = true ↔
      ¬ Rejoined state.toRackGraph ∧ state.NoLiveFenced := by
  have hadopted := h.adopted
  have hindexes : (adoptCandidate options state.persisted).rebuildIndexes =
      (adoptCandidate options state.persisted).toRackGraph := by
    rw [hadopted.wellFormed.rebuildIndexes_eq_self_iff]
    have hkeyed := h.wellFormed.toKeyed
    exact domainMembers_rebuilt ⟨hkeyed.members, hkeyed.failureDomains⟩
  have hrejoined : Rejoined (adoptCandidate options state.persisted).toRackGraph ↔
      Rejoined state.toRackGraph := rejoined_congr parentsOf_adopted
  rw [hadopted.gate_iff, hrejoined]
  exact ⟨fun hgate => ⟨hgate.1, hgate.2.2⟩, fun hgate => ⟨hgate.1, hindexes, hgate.2⟩⟩

/-- A recovered rack passes the gate at all times. -/
theorem Consistent.recovered_gate {epoch : CoordinatorEpoch} (h : Consistent options state)
    (hnext : state.generations.coordinatorEpoch.advance = some epoch)
    (hrejoined : ¬ Rejoined state.toRackGraph) (now : Timestamp) :
    ((applyRecoveryPolicy state epoch).checkInvariants now).ok = true := by
  have hrecovered := h.recovered hnext
  rw [hrecovered.gate_iff]
  have hparents : ∀ id, (applyRecoveryPolicy state epoch).parentsOf id = state.parentsOf id := by
    intro id
    rw [parentsOf, failureDomains_recovered, ExtTreeMap.getElem?_map, parentsOf]
    cases state.failureDomains[id]? <;> rfl
  refine ⟨fun hlater => hrejoined ((rejoined_congr hparents).mp hlater), ?_, ?_⟩
  · rw [hrecovered.wellFormed.rebuildIndexes_eq_self_iff]
    exact domainMembers_rebuilt (keyed_recovered h.wellFormed.toKeyed).toDomainsKeyed
  · intro boot record _ hfound hlive
    rw [publishers_recovered] at hfound
    obtain ⟨old, -, rfl⟩ := Tables.getElem?_map_cases hfound
    simp [PublisherState.Live] at hlive

/-- A coordinator restarts from the file it saved exactly when no two ways up from a failure
domain meet, no fenced boot is live, its epoch can advance and the whole file fits. -/
theorem Consistent.restart_iff (h : Consistent options state) (hdecodable : state.Decodable)
    {payload : Bytes} (hpayload : encodeStatePayload state = .ok payload)
    (hlength : payload.length < 2 ^ 64) (now : Timestamp) :
    (∃ loaded, loadState options now (some (encodeFile payload)) true = .ok loaded) ↔
      ¬ Rejoined state.toRackGraph ∧ state.NoLiveFenced ∧
        (∃ epoch, state.generations.coordinatorEpoch.advance = some epoch) ∧
        kHeaderBytes + payload.length + kTrailerBytes ≤ options.limits.maxPersistedBytes.toNat := by
  constructor
  · rintro ⟨loaded, hloaded⟩
    obtain ⟨candidate, epoch, hcandidate, hgate, hnext, -⟩ := loadState_ok hloaded
    obtain ⟨-, hfits, rfl⟩ :=
      readCandidate_own h hdecodable hpayload hlength (List.prefix_refl _) hcandidate
    obtain ⟨hrejoined, hlive⟩ := (h.adopted_gate_iff now).mp hgate
    exact ⟨hrejoined, hlive, ⟨epoch, hnext⟩, hfits⟩
  · have hdecoded := decode_encode h.wellFormed.toKeyed h.ledger hdecodable hpayload
    rw [h.bound.limits] at hdecoded
    rintro ⟨hrejoined, hlive, ⟨epoch, hnext⟩, hfits⟩
    simp only [kHeaderBytes, kTrailerBytes] at hfits
    exact ⟨_, loadState_encodeFile (by omega) hdecoded
      ((h.adopted_gate_iff now).mpr ⟨hrejoined, hlive⟩) hnext⟩

end RackState

namespace Deployment
open RackState
variable (options : RackFabricOptions) (operations : List Operation)

/-- Whatever incarnations that share a file do, save and load, the gate objects only to rejoined
failure domains, misfiled members of a failure domain and live fenced boots. -/
theorem gate_verdict
    (hproper : Execution.EachStep step (Proper options) (start none options) operations)
    (now : Timestamp) :
    let state := (after none options operations).live
    ((state.checkInvariants now).ok = true ↔ ¬ Rejoined state.toRackGraph ∧
      state.rebuildIndexes = state.toRackGraph ∧ state.NoLiveFenced) ∧
    ∀ violation ∈ (state.checkInvariants now).violations, Residual violation := by
  intro state
  have hlive := (lineage_after options operations hproper).live
  exact ⟨hlive.gate_iff now, hlive.residual now⟩

/-- The next incarnation comes up from the file of this one exactly when the conditions hold,
goes on from its generations, and then passes the gate at all times. -/
theorem restart_verdict
    (hproper : Execution.EachStep step (Proper options) (start none options) operations)
    (hdecodable : (after none options operations).live.Decodable)
    {persistence : PersistenceOptions} {bytes : Bytes}
    (hsaved : saveState (after none options operations).live options.limits persistence = .ok bytes)
    (now : Timestamp) :
    let state := (after none options operations).live
    ((∃ loaded, loadState options now (some bytes) true = .ok loaded) ↔
      ¬ Rejoined state.toRackGraph ∧ state.NoLiveFenced ∧
        (∃ epoch, state.generations.coordinatorEpoch.advance = some epoch) ∧
        bytes.length ≤ options.limits.maxPersistedBytes.toNat) ∧
    ∀ loaded, loadState options now (some bytes) true = .ok loaded →
      Grown state loaded ∧ ∀ later, (loaded.checkInvariants later).ok = true := by
  intro state
  have hlive : Consistent options state := (lineage_after options operations hproper).live
  obtain ⟨payload, hpayload, rfl, hbound⟩ := saveState_eq_ok hsaved
  have hlength : payload.length < 2 ^ 64 :=
    Nat.lt_of_le_of_lt hbound (min persistence.maxBytes options.limits.maxPersistedBytes).toNat_lt
  have hrestart := hlive.restart_iff hdecodable hpayload hlength now
  rw [length_encodeFile]
  refine ⟨hrestart, fun loaded hloaded => ?_⟩
  obtain ⟨hrejoined, -⟩ := hrestart.mp ⟨loaded, hloaded⟩
  have hown : SavedFrom options state (encodeFile payload) :=
    ⟨hlive, hdecodable, persistence, _, hsaved, List.prefix_refl _⟩
  obtain ⟨epoch, hnext, rfl⟩ := hown.loaded hloaded
  refine ⟨?_, fun later => ?_⟩
  · obtain ⟨hgenerations, hsnapshot, hoperator, hpublishers⟩ :=
      @grown_recovered (adoptCandidate options state.persisted) epoch hnext
    exact ⟨hgenerations, hsnapshot, hoperator, hpublishers⟩
  · refine hlive.adopted.recovered_gate hnext ?_ later
    exact fun hlater => hrejoined ((rejoined_congr parentsOf_adopted).mp hlater)

theorem takenOver_gate :
    let state := (after none Scenario.defaults takenOver).live
    ((state.checkInvariants ⟨3000⟩).ok = true ↔ ¬ Rejoined state.toRackGraph ∧
      state.rebuildIndexes = state.toRackGraph ∧ state.NoLiveFenced) ∧
    ∀ violation ∈ (state.checkInvariants ⟨3000⟩).violations, Residual violation :=
  gate_verdict Scenario.defaults takenOver takenOver_proper ⟨3000⟩

theorem equipped_rack_restarts :
    ∃ bytes, saveState (Scenario.run Scenario.equippedRack) Scenario.defaults.limits {} =
        .ok bytes ∧
      ((∃ loaded, loadState Scenario.defaults ⟨2000⟩ (some bytes) true = .ok loaded) ↔
        ¬ Rejoined (Scenario.run Scenario.equippedRack).toRackGraph ∧
          (Scenario.run Scenario.equippedRack).NoLiveFenced ∧
          (∃ epoch, (Scenario.run Scenario.equippedRack).generations.coordinatorEpoch.advance =
            some epoch) ∧
          bytes.length ≤ Scenario.defaults.limits.maxPersistedBytes.toNat) ∧
      ∀ loaded, loadState Scenario.defaults ⟨2000⟩ (some bytes) true = .ok loaded →
        Grown (Scenario.run Scenario.equippedRack) loaded ∧
          ∀ later, (loaded.checkInvariants later).ok = true := by
  have hsaves : (saveState (Scenario.run Scenario.equippedRack) Scenario.defaults.limits
      {}).toOption.isSome = true := by
    decide +kernel
  cases hsaved : saveState (Scenario.run Scenario.equippedRack) Scenario.defaults.limits {} with
  | error failure =>
    rw [hsaved] at hsaves
    cases hsaves
  | ok bytes =>
    exact ⟨bytes, rfl, restart_verdict Scenario.defaults equipped equipped_proper
      decodable_equipped hsaved ⟨2000⟩⟩

end Deployment

end RackFabric
