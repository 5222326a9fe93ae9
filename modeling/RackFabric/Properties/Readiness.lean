import RackFabric.Properties.Indexes
import RackFabric.Properties.Integrity

/-! What the readiness contract demands of a state, and which of its demands look at
the provenance of the evidence that meets them. -/
namespace RackFabric
open Std

namespace RackState

def qualifying (state : RackState) (now : Timestamp) (kind : MemberKind) :
    List (MemberKey × MemberRecord) :=
  (state.members.toList.filter fun entry =>
    hasCurrentEvidence entry.2 now state.contract).filter fun entry => entry.1.kind = kind

def coveredDomains (state : RackState) (graph : RackGraph) (now : Timestamp) :
    ExtTreeSet FailureDomainId :=
  (state.qualifying now .node).foldl (fun covered entry =>
    (graph.failureDomainsOf entry.1).foldl ExtTreeSet.insert covered) ∅

structure Meets (state : RackState) (now : Timestamp) : Prop where
  declared : ∃ rack, state.rack = some rack ∧ rack.retired = false
  nodes : state.contract.minNodes ≤ (state.qualifying now .node).length
  accelerators : state.contract.minAccelerators ≤ (state.qualifying now .accelerator).length
  covered : state.contract.minDistinctFailureDomains ≤
    (state.coveredDomains state.toRackGraph now).size
  current : state.contract.requireAllMembersCurrent = true →
    ∀ record ∈ state.memberRecords, isCurrentMember record.lifecycle = true →
      record.freshnessAt now = .fresh
  health : state.contract.requireMemberHealth = true →
    ∀ record ∈ state.memberRecords, isCurrentMember record.lifecycle = true →
      record.health.hasEvidence = true ∧ record.health.freshnessAt now = .fresh
  topology : state.contract.requireTopology = true → state.relationships.isEmpty = false
  failureDomains : state.contract.requireFailureDomains = true →
    state.failureDomains.isEmpty = false
  power : state.contract.requirePowerEnvelope = true →
    ∃ power, state.power = some power ∧ power.freshnessAt now = .fresh
  cooling : state.contract.requireCoolingEnvelope = true →
    ∃ cooling, state.cooling = some cooling ∧ cooling.freshnessAt now = .fresh
  publisher : state.contract.requireActivePublisher = true →
    ∃ entry ∈ state.publishers.toList, entry.2.state = .active

@[simp] theorem deficit_eq_nil {unmet : Bool} {code detail : String} {required observed : Nat} :
    deficit unmet code detail required observed = [] ↔ unmet = false := by
  cases unmet <;> simp [deficit]

theorem envelopeDeficits_eq_nil {required : Bool} {freshness : Option Freshness}
    {missing missingDetail stale staleDetail : String} :
    envelopeDeficits required freshness missing missingDetail stale staleDetail = [] ↔
      (required = true → freshness = some .fresh) := by
  cases freshness with
  | none => cases required <;> simp [envelopeDeficits]
  | some freshness => cases required <;> simp [envelopeDeficits]

theorem and_eq_false_iff {required check : Bool} :
    (required && check) = false ↔ (required = true → check = false) := by
  cases required <;> simp

theorem countP_current_eq_zero {records : List MemberRecord} {check : MemberRecord → Bool} :
    (records.filter fun record => isCurrentMember record.lifecycle).countP check = 0 ↔
      ∀ record ∈ records, isCurrentMember record.lifecycle = true → check record = false := by
  simp only [List.countP_eq_zero, List.mem_filter, and_imp, Bool.not_eq_true]

theorem satisfied_iff_meets (state : RackState) (now : Timestamp) :
    (state.evaluateReadiness now).satisfied = true ↔ state.Meets now := by
  unfold evaluateReadiness
  cases hrack : state.rack with
  | none =>
    refine ⟨fun h => by simp at h, fun h => ?_⟩
    obtain ⟨rack, hsome, -⟩ := h.declared
    rw [hrack] at hsome
    cases hsome
  | some rack =>
    cases hretired : rack.retired with
    | true =>
      refine ⟨fun h => by simp [hretired] at h, fun h => ?_⟩
      obtain ⟨declared, hsome, hgoing⟩ := h.declared
      obtain rfl := Option.some.inj (hrack.symm.trans hsome)
      rw [hretired] at hgoing
      cases hgoing
    | false =>
      simp only [hretired, Bool.false_eq_true, if_false, List.isEmpty_iff,
        List.append_eq_nil_iff, deficit_eq_nil, envelopeDeficits_eq_nil, and_eq_false_iff,
        decide_eq_false_iff_not, Nat.not_lt, Nat.le_zero, countP_current_eq_zero,
        Option.map_eq_some_iff, Bool.or_eq_false_iff, Bool.not_eq_false', not_not]
      constructor
      · rintro ⟨⟨⟨⟨⟨⟨⟨⟨⟨hnodes, haccelerators⟩, hcovered⟩, hcurrent⟩, hhealth⟩, htopology⟩, hdomains⟩,
          hpower⟩, hcooling⟩, hpublisher⟩
        refine ⟨⟨rack, hrack, hretired⟩, hnodes, haccelerators, hcovered, hcurrent, hhealth,
          htopology, hdomains, hpower, hcooling, fun hrequired => ?_⟩
        simpa using hpublisher hrequired
      · intro h
        refine ⟨⟨⟨⟨⟨⟨⟨⟨⟨h.nodes, h.accelerators⟩, h.covered⟩, h.current⟩, h.health⟩, h.topology⟩,
          h.failureDomains⟩, h.power⟩, h.cooling⟩, fun hrequired => ?_⟩
        simpa using h.publisher hrequired

end RackState

/-! What is left of a state without the evidence that is not physical. -/

def MemberRecord.physicalHealth (record : MemberRecord) : MemberRecord :=
  if isPhysicalProvenance record.health.provenance then record else { record with health := {} }

namespace MemberRecord

@[simp] theorem toObservation_physicalHealth (record : MemberRecord) :
    record.physicalHealth.toObservation = record.toObservation := by
  unfold physicalHealth
  split <;> rfl

@[simp] theorem lifecycle_physicalHealth (record : MemberRecord) :
    record.physicalHealth.lifecycle = record.lifecycle := by
  unfold physicalHealth
  split <;> rfl

theorem hasEvidence_physicalHealth {record : MemberRecord} (h : record.health.hasEvidence = true) :
    record.physicalHealth.health.hasEvidence = true ↔
      isPhysicalProvenance record.health.provenance = true := by
  unfold physicalHealth
  split
  · rename_i hphysical
    exact iff_of_true h hphysical
  · rename_i hother
    have hnone : ({} : EvidenceValue HealthState).hasEvidence = false := rfl
    exact iff_of_false (by simp [hnone]) hother

theorem health_physicalHealth {record : MemberRecord}
    (h : isPhysicalProvenance record.health.provenance = true) :
    record.physicalHealth = record := by
  rw [physicalHealth, if_pos h]

end MemberRecord

namespace RackState

def physicalGraph (graph : RackGraph) : RackGraph where
  members := (graph.members.filter fun _ record => isPhysicalProvenance record.provenance).map
    fun _ record => record.physicalHealth
  relationships := graph.relationships.filter fun _ record =>
    isPhysicalProvenance record.provenance
  failureDomains := graph.failureDomains.filter fun _ record =>
    isPhysicalProvenance record.provenance

/-- The state without every record, and every health of a member, that is not physical. -/
def physicalOnly (state : RackState) : RackState :=
  { state with
    toRackGraph := (physicalGraph state.toRackGraph).rebuildIndexes
    power := state.power.filter fun envelope => isPhysicalProvenance envelope.provenance
    cooling := state.cooling.filter fun envelope => isPhysicalProvenance envelope.provenance }

variable {state : RackState} {now : Timestamp}

theorem members_physicalOnly (state : RackState) :
    state.physicalOnly.members.toList =
      (state.members.toList.filter fun entry => isPhysicalProvenance entry.2.provenance).map
        fun entry => (entry.1, entry.2.physicalHealth) := by
  simp [physicalOnly, physicalGraph, ExtTreeMap.toList_map, ExtTreeMap.toList_filter]

theorem hasCurrentEvidence_physicalHealth (record : MemberRecord) (now : Timestamp)
    (contract : ReadinessContract) :
    hasCurrentEvidence record.physicalHealth now contract =
      hasCurrentEvidence record now contract := by
  simp [hasCurrentEvidence]

/-- The members that count are physical, and stay. -/
theorem qualifying_physicalOnly (hphysical : state.contract.requirePhysicalProvenance = true)
    (now : Timestamp) (kind : MemberKind) :
    state.physicalOnly.qualifying now kind =
      (state.qualifying now kind).map fun entry => (entry.1, entry.2.physicalHealth) := by
  have hcontract : state.physicalOnly.contract = state.contract := rfl
  unfold qualifying
  rw [members_physicalOnly, List.filter_map, List.filter_map, List.filter_filter,
    List.filter_filter, List.filter_filter, hcontract]
  congr 1
  refine List.filter_congr fun entry _ => ?_
  simp only [Function.comp_apply, hasCurrentEvidence_physicalHealth]
  simp only [hasCurrentEvidence, hphysical, Bool.not_true, Bool.false_or]
  cases isPhysicalProvenance entry.2.provenance <;> simp

theorem coveredDomains_physicalOnly
    (hphysical : state.contract.requirePhysicalProvenance = true) (graph : RackGraph)
    (now : Timestamp) :
    state.physicalOnly.coveredDomains graph now = state.coveredDomains graph now := by
  rw [coveredDomains, qualifying_physicalOnly hphysical, List.foldl_map]
  rfl

theorem mem_members_physicalOnly {record : MemberRecord} :
    record ∈ state.physicalOnly.memberRecords ↔
      ∃ existing ∈ state.memberRecords, isPhysicalProvenance existing.provenance = true ∧
        existing.physicalHealth = record := by
  simp only [memberRecords, members_physicalOnly, List.map_map, List.mem_map, List.mem_filter,
    Function.comp_apply]
  constructor
  · rintro ⟨entry, ⟨hmem, hprovenance⟩, rfl⟩
    exact ⟨entry.2, ⟨entry, hmem, rfl⟩, hprovenance, rfl⟩
  · rintro ⟨existing, ⟨entry, hmem, rfl⟩, hprovenance, rfl⟩
    exact ⟨entry, ⟨hmem, hprovenance⟩, rfl⟩

/-- Whatever the contract demands beside the members is met by physical evidence, and
so is the health of the physical members. -/
structure Grounded (state : RackState) (now : Timestamp) : Prop where
  /-- The domains that are reached through physical domains alone are enough. -/
  covered : state.contract.minDistinctFailureDomains ≤
    (state.coveredDomains state.physicalOnly.toRackGraph now).size
  health : state.contract.requireMemberHealth = true →
    ∀ record ∈ state.memberRecords, isPhysicalProvenance record.provenance = true →
      isCurrentMember record.lifecycle = true →
        isPhysicalProvenance record.health.provenance = true
  topology : state.contract.requireTopology = true →
    ∃ entry ∈ state.relationships.toList, isPhysicalProvenance entry.2.provenance = true
  failureDomains : state.contract.requireFailureDomains = true →
    ∃ entry ∈ state.failureDomains.toList, isPhysicalProvenance entry.2.provenance = true
  power : state.contract.requirePowerEnvelope = true →
    ∃ power, state.power = some power ∧ isPhysicalProvenance power.provenance = true
  cooling : state.contract.requireCoolingEnvelope = true →
    ∃ cooling, state.cooling = some cooling ∧ isPhysicalProvenance cooling.provenance = true

theorem isEmpty_filter_eq_false_iff {K R : Type} {compare : K → K → Ordering}
    [TransCmp compare] {table : ExtTreeMap K R compare} {keep : R → Bool} :
    (table.filter fun _ record => keep record).isEmpty = false ↔
      ∃ entry ∈ table.toList, keep entry.2 = true := by
  rw [← ExtTreeMap.isEmpty_toList, ExtTreeMap.toList_filter, List.isEmpty_eq_false_iff_exists_mem]
  simp only [List.mem_filter]

theorem filter_eq_some_iff {R : Type} {stored : Option R} {keep : R → Bool} {fresh : R → Prop}
    (hstored : ∃ record, stored = some record ∧ fresh record) :
    (∃ record, stored.filter keep = some record ∧ fresh record) ↔
      ∃ record, stored = some record ∧ keep record = true := by
  obtain ⟨record, rfl, hfresh⟩ := hstored
  by_cases hkeep : keep record
  · simp [Option.filter, hkeep, hfresh]
  · simp [Option.filter, hkeep]

/-- When physical provenance is required, a state that satisfies the contract still
does without the evidence that is not physical exactly when it is grounded. -/
theorem readiness_physical_iff (state : RackState) (now : Timestamp)
    (hphysical : state.contract.requirePhysicalProvenance = true)
    (hsatisfied : (state.evaluateReadiness now).satisfied = true) :
    (state.physicalOnly.evaluateReadiness now).satisfied = true ↔ state.Grounded now := by
  rw [satisfied_iff_meets] at hsatisfied ⊢
  constructor
  · intro h
    refine ⟨?_, ?_, ?_, ?_, ?_, ?_⟩
    · rw [← coveredDomains_physicalOnly hphysical]
      exact h.covered
    · intro hrequired record hmem hprovenance hcurrent
      have hhealth := (hsatisfied.health hrequired record hmem hcurrent).1
      rw [← MemberRecord.hasEvidence_physicalHealth hhealth]
      exact (h.health hrequired record.physicalHealth
        (mem_members_physicalOnly.mpr ⟨record, hmem, hprovenance, rfl⟩) (by simpa using hcurrent)).1
    · intro hrequired
      have htopology := h.topology hrequired
      simp only [physicalOnly, RackGraph.relationships_rebuildIndexes, physicalGraph] at htopology
      exact isEmpty_filter_eq_false_iff.mp htopology
    · intro hrequired
      have hdomains := h.failureDomains hrequired
      simp only [physicalOnly, RackGraph.failureDomains_rebuildIndexes, physicalGraph] at hdomains
      exact isEmpty_filter_eq_false_iff.mp hdomains
    · intro hrequired
      exact (filter_eq_some_iff (hsatisfied.power hrequired)).mp (h.power hrequired)
    · intro hrequired
      exact (filter_eq_some_iff (hsatisfied.cooling hrequired)).mp (h.cooling hrequired)
  · intro h
    refine ⟨hsatisfied.declared, ?_, ?_, ?_, ?_, ?_, ?_, ?_, ?_, ?_, hsatisfied.publisher⟩
    · rw [qualifying_physicalOnly hphysical, List.length_map]
      exact hsatisfied.nodes
    · rw [qualifying_physicalOnly hphysical, List.length_map]
      exact hsatisfied.accelerators
    · rw [coveredDomains_physicalOnly hphysical]
      exact h.covered
    · intro hrequired record hmem hcurrent
      obtain ⟨existing, hexisting, -, rfl⟩ := mem_members_physicalOnly.mp hmem
      rw [MemberRecord.lifecycle_physicalHealth] at hcurrent
      rw [MemberRecord.toObservation_physicalHealth]
      exact hsatisfied.current hrequired existing hexisting hcurrent
    · intro hrequired record hmem hcurrent
      obtain ⟨existing, hexisting, hprovenance, rfl⟩ := mem_members_physicalOnly.mp hmem
      rw [MemberRecord.lifecycle_physicalHealth] at hcurrent
      rw [MemberRecord.health_physicalHealth
        (h.health hrequired existing hexisting hprovenance hcurrent)]
      exact hsatisfied.health hrequired existing hexisting hcurrent
    · intro hrequired
      simp only [physicalOnly, RackGraph.relationships_rebuildIndexes, physicalGraph]
      exact isEmpty_filter_eq_false_iff.mpr (h.topology hrequired)
    · intro hrequired
      simp only [physicalOnly, RackGraph.failureDomains_rebuildIndexes, physicalGraph]
      exact isEmpty_filter_eq_false_iff.mpr (h.failureDomains hrequired)
    · intro hrequired
      exact (filter_eq_some_iff (hsatisfied.power hrequired)).mpr (h.power hrequired)
    · intro hrequired
      exact (filter_eq_some_iff (hsatisfied.cooling hrequired)).mpr (h.cooling hrequired)

def healthOptions : RackFabricOptions where
  readiness := { requireMemberHealth := true }

def publishedHealth (provenance : EvidenceProvenance) : RackState :=
  Execution.run (step healthOptions) (fresh healthOptions)
    [Scenario.declareRack,
      Scenario.publishMember Scenario.operator
        { key := Scenario.node "n1", lifecycle := .present, provenance := .reported
          observedAt := ⟨900⟩, ttl := 60000
          health := { value := .healthy, provenance, observedAt := ⟨900⟩, ttl := 60000 } }]

theorem reported_health_grounded :
    ((publishedHealth .reported).physicalOnly.evaluateReadiness ⟨1000⟩).satisfied = true ↔
      (publishedHealth .reported).Grounded ⟨1000⟩ :=
  readiness_physical_iff _ _ (by decide +kernel) (by decide +kernel)

/-- The health of the reported node is made up, and the rack is ready all the same. -/
theorem synthetic_health_satisfies :
    (publishedHealth .synthetic).contract.requirePhysicalProvenance = true ∧
      ((publishedHealth .synthetic).evaluateReadiness ⟨1000⟩).satisfied = true ∧
      ((publishedHealth .synthetic).physicalOnly.evaluateReadiness ⟨1000⟩).satisfied = false := by
  decide +kernel

end RackState

end RackFabric
