import RackFabric.Properties.Freshness
import RackFabric.Properties.Readiness

/-! What the passing of time alone does to the lifecycle of a rack. -/
namespace RackFabric
open Std Tables

def MemberRecord.observations (record : MemberRecord) : List Observation :=
  record.toObservation :: record.health.toObservation :: record.readiness.toObservation ::
    record.reachability.toObservation :: record.capabilities.map (·.toObservation)

def RelationshipRecord.observations (record : RelationshipRecord) : List Observation :=
  record.toObservation :: record.capacity.toList.map (·.toObservation)

def PowerEnvelopeRecord.observations (record : PowerEnvelopeRecord) : List Observation :=
  let quantities := record.rackLimit.toList ++ record.rackObservedDraw.toList ++
    record.rackHeadroom.toList ++ record.domainBudgets.flatMap fun budget =>
      budget.limit.toList ++ budget.observedDraw.toList ++ budget.headroom.toList
  record.toObservation :: quantities.map (·.toObservation)

def CoolingEnvelopeRecord.observations (record : CoolingEnvelopeRecord) : List Observation :=
  record.toObservation :: record.zones.flatMap fun zone =>
    (zone.designThermalLimit.toList ++ zone.observedTemperature.toList ++
      zone.coolingCapacity.toList ++ zone.thermalHeadroom.toList).map (·.toObservation) ++
        zone.throttling.toList.map (·.toObservation)

/-- A ready rack meets its contract, and so does a degraded one, with bad news about a member. -/
def RackLifecycle.standing : RackLifecycle → Nat
  | .ready => 2
  | .degraded => 1
  | _ => 0

def RackLifecycle.NoBetter (lifecycle other : RackLifecycle) : Prop :=
  lifecycle = other ∨ lifecycle.standing < other.standing

/-- The member is known to be unhealthy or not ready, by evidence that is still current. -/
def MemberRecord.isAdverse (record : MemberRecord) (now : Timestamp) : Bool :=
  (record.health.hasEvidence && record.health.isCurrentAt now &&
      !isPositiveHealth record.health.value) ||
    (record.readiness.hasEvidence && record.readiness.isCurrentAt now &&
      record.readiness.value = .notReady)

namespace RackState
variable {state : RackState} {earlier later : Timestamp}

def observations (state : RackState) : List Observation :=
  state.memberRecords.flatMap (·.observations) ++
    state.relationshipRecords.flatMap (·.observations) ++
    state.failureDomainRecords.map (·.toObservation) ++
    state.power.toList.flatMap (·.observations) ++ state.cooling.toList.flatMap (·.observations)

def ObservedBy (state : RackState) (time : Timestamp) : Prop :=
  ∀ observation ∈ state.observations, observation.observedAt.unixMillis ≤ time.unixMillis

theorem observedBy_member (h : state.ObservedBy earlier) {record : MemberRecord}
    (hmem : record ∈ state.memberRecords) {observation : Observation}
    (hobservation : observation ∈ record.observations) :
    observation.observedAt.unixMillis ≤ earlier.unixMillis := by
  apply h
  simp only [observations, List.mem_append, List.mem_flatMap]
  exact Or.inl (Or.inl (Or.inl (Or.inl ⟨record, hmem, hobservation⟩)))

theorem observedBy_power (h : state.ObservedBy earlier) {envelope : PowerEnvelopeRecord}
    (hsome : state.power = some envelope) :
    envelope.observedAt.unixMillis ≤ earlier.unixMillis := by
  apply h envelope.toObservation
  simp only [observations, List.mem_append, List.mem_flatMap, Option.mem_toList]
  exact Or.inl (Or.inr ⟨envelope, hsome, List.mem_cons_self ..⟩)

theorem observedBy_cooling (h : state.ObservedBy earlier) {envelope : CoolingEnvelopeRecord}
    (hsome : state.cooling = some envelope) :
    envelope.observedAt.unixMillis ≤ earlier.unixMillis := by
  apply h envelope.toObservation
  simp only [observations, List.mem_append, List.mem_flatMap, Option.mem_toList]
  exact Or.inr ⟨envelope, hsome, List.mem_cons_self ..⟩

/-! What satisfies the contract has satisfied it since it was observed. -/

theorem hasCurrentEvidence_earlier (h : state.ObservedBy earlier)
    (hlater : earlier.unixMillis ≤ later.unixMillis) {record : MemberRecord}
    (hmem : record ∈ state.memberRecords)
    (hcurrent : hasCurrentEvidence record later state.contract = true) :
    hasCurrentEvidence record earlier state.contract = true := by
  simp only [hasCurrentEvidence, Bool.and_eq_true, decide_eq_true_eq] at hcurrent ⊢
  have hobserved := observedBy_member h hmem (List.mem_cons_self ..)
  exact ⟨⟨hcurrent.1.1, Observation.fresh_earlier hcurrent.1.2 hobserved hlater⟩, hcurrent.2⟩

/-- Members only stop to count as time passes. -/
theorem qualifying_later (h : state.ObservedBy earlier)
    (hlater : earlier.unixMillis ≤ later.unixMillis) (kind : MemberKind) :
    (state.qualifying later kind).Sublist (state.qualifying earlier kind) := by
  have hfilter : (state.members.toList.filter fun entry =>
      hasCurrentEvidence entry.2 later state.contract) =
        (state.members.toList.filter fun entry =>
          hasCurrentEvidence entry.2 earlier state.contract).filter fun entry =>
            hasCurrentEvidence entry.2 later state.contract := by
    rw [List.filter_filter]
    refine List.filter_congr fun entry hentry => ?_
    cases hcurrent : hasCurrentEvidence entry.2 later state.contract with
    | false => rfl
    | true =>
      have hmem : entry.2 ∈ state.memberRecords := List.mem_map_of_mem hentry
      rw [hasCurrentEvidence_earlier h hlater hmem hcurrent]
      rfl
  unfold qualifying
  rw [hfilter]
  exact (List.filter_sublist ..).filter _

theorem coveredDomains_later (h : state.ObservedBy earlier)
    (hlater : earlier.unixMillis ≤ later.unixMillis) (graph : RackGraph) :
    (state.coveredDomains graph later).size ≤ (state.coveredDomains graph earlier).size := by
  refine set_size_le fun domain hdomain => ?_
  unfold coveredDomains at hdomain ⊢
  rw [mem_fillFrom] at hdomain ⊢
  refine hdomain.imp_right fun ⟨entry, hentry, hcovered⟩ => ?_
  exact ⟨entry, (qualifying_later h hlater .node).subset hentry, hcovered⟩

theorem Meets.before (hmeets : state.Meets later) (h : state.ObservedBy earlier)
    (hlater : earlier.unixMillis ≤ later.unixMillis) : state.Meets earlier where
  declared := hmeets.declared
  nodes := hmeets.nodes.trans (qualifying_later h hlater .node).length_le
  accelerators := hmeets.accelerators.trans (qualifying_later h hlater .accelerator).length_le
  covered := hmeets.covered.trans (coveredDomains_later h hlater _)
  current hrequired record hmem hcurrent :=
    Observation.fresh_earlier (hmeets.current hrequired record hmem hcurrent)
      (observedBy_member h hmem (List.mem_cons_self ..)) hlater
  health hrequired record hmem hcurrent := by
    obtain ⟨hasserted, hfresh⟩ := hmeets.health hrequired record hmem hcurrent
    have hobserved := observedBy_member h hmem
      (List.mem_cons_of_mem _ (List.mem_cons_self ..))
    exact ⟨hasserted, Observation.fresh_earlier hfresh hobserved hlater⟩
  topology := hmeets.topology
  failureDomains := hmeets.failureDomains
  power hrequired := by
    obtain ⟨envelope, hsome, hfresh⟩ := hmeets.power hrequired
    exact ⟨envelope, hsome, Observation.fresh_earlier hfresh (observedBy_power h hsome) hlater⟩
  cooling hrequired := by
    obtain ⟨envelope, hsome, hfresh⟩ := hmeets.cooling hrequired
    exact ⟨envelope, hsome, Observation.fresh_earlier hfresh (observedBy_cooling h hsome) hlater⟩
  publisher := hmeets.publisher

/-! The lifecycle. -/

/-- Nothing that time does not change keeps the rack from being ready. -/
def Revalidated (state : RackState) : Prop :=
  (state.memberRecords.any (·.revalidationRequired) ||
    state.relationshipRecords.any (·.revalidationRequired) ||
    state.failureDomainRecords.any (·.revalidationRequired)) = false

theorem deriveLifecycle_of_meets {now : Timestamp} (hmeets : state.Meets now)
    (hrevalidated : state.Revalidated) :
    state.deriveLifecycle now =
      if state.memberRecords.any (isDegraded · now) then .degraded else .ready := by
  have hsatisfied := (satisfied_iff_meets state now).mpr hmeets
  obtain ⟨rack, hsome, hgoing⟩ := hmeets.declared
  unfold Revalidated at hrevalidated
  simp only [deriveLifecycle, hsome, hgoing, hrevalidated, hsatisfied, Bool.false_eq_true,
    if_false, if_true]

theorem deriveLifecycle_ready {now : Timestamp} (h : state.deriveLifecycle now = .ready) :
    state.Meets now ∧ state.Revalidated ∧ state.memberRecords.any (isDegraded · now) = false := by
  unfold deriveLifecycle at h
  split at h
  · cases h
  · split at h
    · cases h
    · split at h
      · cases h
      · rename_i hrevalidated
        split at h
        · rename_i hsatisfied
          refine ⟨(satisfied_iff_meets state now).mp hsatisfied, Bool.eq_false_iff.mpr hrevalidated,
            ?_⟩
          split at h
          · cases h
          · rename_i hsound
            exact Bool.eq_false_iff.mpr hsound
        · split at h
          · cases h
          · split at h <;> cases h

/-- An available member is degraded only by what is current about it. -/
theorem isDegraded_of_available {record : MemberRecord} {now : Timestamp}
    (havailable : record.lifecycle ≠ .unavailable) :
    isDegraded record now = (isCurrentMember record.lifecycle && record.isAdverse now) := by
  simp [isDegraded, MemberRecord.isAdverse, havailable]

theorem available_of_not_degraded {record : MemberRecord} {now : Timestamp}
    (h : isDegraded record now = false) : record.lifecycle ≠ .unavailable := by
  intro hunavailable
  simp [isDegraded, hunavailable, isCurrentMember] at h

/-- A rack that is ready at some time was ready at every earlier time since its last
observation, unless a member was known to be in trouble then: bad news is not news any
more when it is stale. -/
theorem deriveLifecycle_before_ready (hobserved : state.ObservedBy earlier)
    (hlater : earlier.unixMillis ≤ later.unixMillis)
    (hready : state.deriveLifecycle later = .ready) :
    state.deriveLifecycle earlier =
      if state.memberRecords.any fun record =>
          isCurrentMember record.lifecycle && record.isAdverse earlier then .degraded
      else .ready := by
  obtain ⟨hmeets, hrevalidated, hsound⟩ := deriveLifecycle_ready hready
  have hsame : state.memberRecords.any (isDegraded · earlier) =
      state.memberRecords.any fun record =>
        isCurrentMember record.lifecycle && record.isAdverse earlier := by
    rw [Bool.eq_iff_iff, List.any_eq_true, List.any_eq_true]
    refine exists_congr fun record => and_congr_right fun hmem => ?_
    have hnot : isDegraded record later = false :=
      Bool.eq_false_iff.mpr (List.any_eq_false.mp hsound record hmem)
    rw [isDegraded_of_available (available_of_not_degraded hnot)]
  rw [deriveLifecycle_of_meets (hmeets.before hobserved hlater) hrevalidated, hsame]

/-- Only a rack that meets its contract has a lifecycle that time can change. -/
theorem deriveLifecycle_of_unmet {now : Timestamp} (hunmet : ¬ state.Meets now) :
    (state.deriveLifecycle now).standing = 0 ∧
      ∀ time, ¬ state.Meets time → state.deriveLifecycle time = state.deriveLifecycle now := by
  have hunsatisfied {time : Timestamp} (h : ¬ state.Meets time) :
      (state.evaluateReadiness time).satisfied = false :=
    Bool.eq_false_iff.mpr fun hsatisfied => h ((satisfied_iff_meets state time).mp hsatisfied)
  constructor
  · simp only [deriveLifecycle, hunsatisfied hunmet, Bool.false_eq_true, if_false]
    cases state.rack with
    | none => rfl
    | some rack =>
      dsimp only
      split
      · rfl
      · split
        · rfl
        · split
          · rfl
          · split <;> rfl
  · intro time htime
    simp only [deriveLifecycle, hunsatisfied hunmet, hunsatisfied htime, Bool.false_eq_true,
      if_false]

theorem deriveLifecycle_of_not_revalidated (h : ¬ state.Revalidated) (time now : Timestamp) :
    state.deriveLifecycle time = state.deriveLifecycle now := by
  have hrequired := Bool.not_eq_false _ ▸ h
  unfold deriveLifecycle
  cases state.rack with
  | none => rfl
  | some rack => simp only [hrequired, if_true]

theorem deriveLifecycle_later (hobserved : state.ObservedBy earlier)
    (hlater : earlier.unixMillis ≤ later.unixMillis) :
    (state.deriveLifecycle later).NoBetter (state.deriveLifecycle earlier) ∨
      (state.deriveLifecycle earlier = .degraded ∧ state.deriveLifecycle later = .ready) := by
  by_cases hrevalidated : state.Revalidated
  · by_cases hmeets : state.Meets later
    · rw [deriveLifecycle_of_meets hmeets hrevalidated,
        deriveLifecycle_of_meets (hmeets.before hobserved hlater) hrevalidated]
      cases state.memberRecords.any (isDegraded · later) <;>
        cases state.memberRecords.any (isDegraded · earlier) <;>
        simp [RackLifecycle.NoBetter, RackLifecycle.standing]
    · obtain ⟨hzero, hsame⟩ := deriveLifecycle_of_unmet hmeets
      by_cases hbefore : state.Meets earlier
      · rw [deriveLifecycle_of_meets hbefore hrevalidated]
        refine Or.inl (Or.inr ?_)
        rw [hzero]
        split <;> simp [RackLifecycle.standing]
      · exact Or.inl (Or.inl (hsame earlier hbefore).symm)
  · exact Or.inl (Or.inl (deriveLifecycle_of_not_revalidated hrevalidated later earlier))

/-- As time passes the lifecycle only gets worse, except that a degraded rack may become
ready: the bad news of a member counts only while it is current. -/
theorem lifecycle_before_ready (state : RackState) {earlier later : Timestamp}
    (hobserved : state.ObservedBy earlier) (hlater : earlier.unixMillis ≤ later.unixMillis) :
    (state.deriveLifecycle later = .ready → state.deriveLifecycle earlier =
      if state.memberRecords.any fun record =>
          isCurrentMember record.lifecycle && record.isAdverse earlier then .degraded
      else .ready) ∧
    ((state.deriveLifecycle later).NoBetter (state.deriveLifecycle earlier) ∨
      (state.deriveLifecycle earlier = .degraded ∧ state.deriveLifecycle later = .ready)) :=
  ⟨deriveLifecycle_before_ready hobserved hlater, deriveLifecycle_later hobserved hlater⟩

end RackState

namespace Scenario

def measuredHealth (health : HealthState) : RackState :=
  run [declareRack,
    publishMember operator
      { key := node "n1", lifecycle := .present, provenance := .reported, observedAt := ⟨1000⟩
        health := { value := health, provenance := .measured, observedAt := ⟨1000⟩, ttl := 1000
                    durability := .ephemeral } }]

end Scenario

namespace RackState

theorem healthy_node_ready_before :
    ((Scenario.measuredHealth .healthy).deriveLifecycle ⟨3000⟩ = .ready →
      (Scenario.measuredHealth .healthy).deriveLifecycle ⟨1500⟩ =
        if (Scenario.measuredHealth .healthy).memberRecords.any fun record =>
            isCurrentMember record.lifecycle && record.isAdverse ⟨1500⟩ then .degraded
        else .ready) ∧
    (((Scenario.measuredHealth .healthy).deriveLifecycle ⟨3000⟩).NoBetter
        ((Scenario.measuredHealth .healthy).deriveLifecycle ⟨1500⟩) ∨
      ((Scenario.measuredHealth .healthy).deriveLifecycle ⟨1500⟩ = .degraded ∧
        (Scenario.measuredHealth .healthy).deriveLifecycle ⟨3000⟩ = .ready)) :=
  @lifecycle_before_ready _ ⟨1500⟩ ⟨3000⟩ (by unfold ObservedBy; decide +kernel)
    (by decide +kernel)

/-- The unhealthy node makes the rack ready when nobody looks at it for a while. -/
theorem unhealthy_node_ages_to_ready :
    ∃ (state : RackState) (earlier later : Timestamp), state.ObservedBy earlier ∧
      earlier.unixMillis ≤ later.unixMillis ∧ state.deriveLifecycle later = .ready ∧
        state.deriveLifecycle earlier ≠ .ready := by
  refine ⟨Scenario.measuredHealth .unhealthy, ⟨1500⟩, ⟨3000⟩, ?_, by decide +kernel,
    by decide +kernel, by decide +kernel⟩
  unfold ObservedBy
  decide +kernel

end RackState

end RackFabric
