import RackFabric.Properties.Indexes
import RackFabric.Properties.Integrity
import RackFabric.Properties.Recovery

/-! Which observations are still current after a recovery. -/
namespace RackFabric
open Std Tables RackState

def NotCurrent (now : Timestamp) (evidence : Observation) : Prop :=
  evidence.durability = .ephemeral → evidence.freshnessAt now ≠ .fresh

theorem notCurrent_of_flagged {now : Timestamp} {evidence : Observation}
    (h : evidence.durability = .ephemeral → evidence.revalidationRequired = true) :
    NotCurrent now evidence := by
  intro hephemeral
  simp [Observation.freshnessAt, h hephemeral]

/-! Where each kind of record has its evidence. -/

def quantityEvidence (quantities : List (Option Quantity)) : List Observation :=
  quantities.filterMap fun quantity => quantity.map (·.toObservation)

def MemberDetails.quantities : MemberDetails → List (Option Quantity)
  | .memoryDomain details => [details.bandwidth]
  | .nic details => [details.linkSpeed]
  | .switch details => [details.linkSpeed]
  | _ => []

namespace PowerEnvelopeRecord

def declared (record : PowerEnvelopeRecord) : List (Option Quantity) :=
  record.rackLimit :: record.domainBudgets.map (·.limit)

def observed (record : PowerEnvelopeRecord) : List (Option Quantity) :=
  record.rackObservedDraw :: record.rackHeadroom ::
    record.domainBudgets.flatMap fun budget => [budget.observedDraw, budget.headroom]

end PowerEnvelopeRecord

namespace CoolingEnvelopeRecord

def declared (record : CoolingEnvelopeRecord) : List (Option Quantity) :=
  record.zones.flatMap fun zone => [zone.designThermalLimit, zone.coolingCapacity]

def observed (record : CoolingEnvelopeRecord) : List Observation :=
  quantityEvidence
      (record.zones.flatMap fun zone => [zone.observedTemperature, zone.thermalHeadroom]) ++
    record.zones.filterMap fun zone => zone.throttling.map (·.toObservation)

end CoolingEnvelopeRecord

structure EvidencePlaces where
  member : MemberRecord → List Observation
  relationship : RelationshipRecord → List Observation
  failureDomain : FailureDomainRecord → List Observation
  power : PowerEnvelopeRecord → List Observation
  cooling : CoolingEnvelopeRecord → List Observation

def everyPlace : EvidencePlaces where
  member record :=
    [record.toObservation, record.health.toObservation, record.readiness.toObservation,
      record.reachability.toObservation] ++ record.capabilities.map (·.toObservation) ++
      quantityEvidence record.details.quantities
  relationship record := record.toObservation :: quantityEvidence [record.capacity]
  failureDomain record := [record.toObservation]
  power record := record.toObservation :: quantityEvidence (record.declared ++ record.observed)
  cooling record :=
    record.toObservation :: (quantityEvidence record.declared ++ record.observed)

/-- The evidence that the recovery policy passes over. What an envelope declares is never
visited, and what it has observed only when the envelope itself is ephemeral. -/
def unvisitedPlaces : EvidencePlaces where
  member record := quantityEvidence record.details.quantities
  relationship record := quantityEvidence [record.capacity]
  failureDomain _ := []
  power record :=
    quantityEvidence record.declared ++
      if record.durability = .ephemeral then [] else quantityEvidence record.observed
  cooling record :=
    quantityEvidence record.declared ++
      if record.durability = .ephemeral then [] else record.observed

/-- None of the evidence in these places is ephemeral and fresh. -/
@[mk_iff] structure RackState.Demoted (places : EvidencePlaces) (now : Timestamp) (state : RackState) :
    Prop where
  members : ∀ (key : MemberKey) (record : MemberRecord), state.members[key]? = some record →
    ∀ evidence ∈ places.member record, NotCurrent now evidence
  relationships : ∀ (key : RelationshipKey) (record : RelationshipRecord),
    state.relationships[key]? = some record →
      ∀ evidence ∈ places.relationship record, NotCurrent now evidence
  failureDomains : ∀ (id : FailureDomainId) (record : FailureDomainRecord),
    state.failureDomains[id]? = some record →
      ∀ evidence ∈ places.failureDomain record, NotCurrent now evidence
  power : ∀ record, state.power = some record →
    ∀ evidence ∈ places.power record, NotCurrent now evidence
  cooling : ∀ record, state.cooling = some record →
    ∀ evidence ∈ places.cooling record, NotCurrent now evidence

/-! What the policy does to the evidence of one record. -/

section Recovered
variable {now : Timestamp}

theorem quantityEvidence_append (left right : List (Option Quantity)) :
    quantityEvidence (left ++ right) = quantityEvidence left ++ quantityEvidence right :=
  List.filterMap_append

theorem notCurrent_recoverEvidence {α : Type} [Inhabited α] (evidence : EvidenceValue α) :
    NotCurrent now (recoverEvidence evidence).toObservation := by
  unfold recoverEvidence
  intro hephemeral
  split at hephemeral
  · cases hephemeral
  · contradiction

@[simp] theorem recoverMember_details (record : MemberRecord) :
    (recoverMember record).details = record.details := by
  unfold recoverMember
  split <;> rfl

theorem notCurrent_recoverMember (record : MemberRecord) :
    NotCurrent now (recoverMember record).toObservation := by
  apply notCurrent_of_flagged
  unfold recoverMember
  split
  · exact fun _ => rfl
  · rename_i hearned
    intro hephemeral
    exact absurd (by simp [mustBeEarned, show record.durability = .ephemeral from hephemeral])
      hearned

theorem recoverMember_demoted_iff (record : MemberRecord) :
    (∀ evidence ∈ everyPlace.member (recoverMember record), NotCurrent now evidence) ↔
      ∀ evidence ∈ unvisitedPlaces.member record, NotCurrent now evidence := by
  have hcapabilities : ∀ evidence ∈ (recoverMember record).capabilities.map (·.toObservation),
      NotCurrent now evidence := by
    simp only [recoverMember, List.map_map, List.mem_map]
    rintro _ ⟨capability, -, rfl⟩
    apply notCurrent_of_flagged
    intro hephemeral
    simp only [Function.comp_apply] at hephemeral ⊢
    split at hephemeral <;> simp_all
  simp only [everyPlace, unvisitedPlaces, List.forall_mem_append, List.forall_mem_cons,
    recoverMember_details]
  constructor
  · exact fun h => h.2
  · refine fun h => ⟨⟨⟨notCurrent_recoverMember record, ?_, ?_, ?_, by simp⟩, hcapabilities⟩, h⟩
    all_goals exact notCurrent_recoverEvidence _

theorem notCurrent_mustBeEarned {evidence : Observation} {owner : Option AgentBootId}
    {flag : Bool} (hflag : evidence.revalidationRequired =
      (mustBeEarned evidence.durability owner || flag)) : NotCurrent now evidence := by
  apply notCurrent_of_flagged
  intro hephemeral
  simp [hflag, mustBeEarned, hephemeral]

theorem recoverRelationship_demoted_iff (record : RelationshipRecord) :
    (∀ evidence ∈ everyPlace.relationship (recoverRelationship record),
        NotCurrent now evidence) ↔
      ∀ evidence ∈ unvisitedPlaces.relationship record, NotCurrent now evidence := by
  simp only [everyPlace, unvisitedPlaces, List.forall_mem_cons]
  exact and_iff_right (notCurrent_mustBeEarned rfl)

theorem recoverFailureDomain_demoted_iff (record : FailureDomainRecord) :
    (∀ evidence ∈ everyPlace.failureDomain (recoverFailureDomain record),
        NotCurrent now evidence) ↔
      ∀ evidence ∈ unvisitedPlaces.failureDomain record, NotCurrent now evidence := by
  simp only [everyPlace, unvisitedPlaces, List.forall_mem_singleton]
  exact iff_of_true (notCurrent_mustBeEarned rfl) (by simp)

theorem recoverPower_demoted_iff (record : PowerEnvelopeRecord) :
    (∀ evidence ∈ everyPlace.power (recoverPower record), NotCurrent now evidence) ↔
      ∀ evidence ∈ unvisitedPlaces.power record, NotCurrent now evidence := by
  have hself : NotCurrent now (recoverPower record).toObservation := by
    unfold recoverPower
    split <;> exact notCurrent_mustBeEarned rfl
  have hdeclared : (recoverPower record).declared = record.declared := by
    unfold recoverPower
    split
    · simp [PowerEnvelopeRecord.declared]
    · rfl
  have hobserved : quantityEvidence (recoverPower record).observed =
      if record.durability = .ephemeral then [] else quantityEvidence record.observed := by
    unfold recoverPower
    split
    · simp [PowerEnvelopeRecord.observed, quantityEvidence, List.flatMap_map]
    · rfl
  simp only [everyPlace, unvisitedPlaces, List.forall_mem_cons, quantityEvidence_append, hdeclared,
    hobserved]
  exact and_iff_right hself

theorem recoverCooling_demoted_iff (record : CoolingEnvelopeRecord) :
    (∀ evidence ∈ everyPlace.cooling (recoverCooling record), NotCurrent now evidence) ↔
      ∀ evidence ∈ unvisitedPlaces.cooling record, NotCurrent now evidence := by
  have hself : NotCurrent now (recoverCooling record).toObservation := by
    unfold recoverCooling
    split <;> exact notCurrent_mustBeEarned rfl
  have hdeclared : (recoverCooling record).declared = record.declared := by
    unfold recoverCooling
    split
    · simp [CoolingEnvelopeRecord.declared, List.flatMap_map]
    · rfl
  have hobserved : (recoverCooling record).observed =
      if record.durability = .ephemeral then [] else record.observed := by
    unfold recoverCooling
    split
    · simp [CoolingEnvelopeRecord.observed, quantityEvidence, List.flatMap_map]
    · rfl
  simp only [everyPlace, unvisitedPlaces, List.forall_mem_cons, hdeclared, hobserved]
  exact and_iff_right hself

/-- What holds of each record of a revised table. -/
theorem forall_map_iff {κ ρ : Type} [Ord κ] [TransOrd κ] [LawfulEqOrd κ] {table : ExtTreeMap κ ρ}
    {revise : ρ → ρ} {holds kept : ρ → Prop} (h : ∀ record, holds (revise record) ↔ kept record) :
    (∀ (key : κ) (record : ρ), (table.map fun _ => revise)[key]? = some record → holds record) ↔
      ∀ (key : κ) (record : ρ), table[key]? = some record → kept record := by
  constructor
  · intro hall key record hfound
    exact (h record).mp (hall key (revise record) (by simp [ExtTreeMap.getElem?_map, hfound]))
  · intro hall key record hfound
    obtain ⟨old, hold, rfl⟩ := getElem?_map_cases hfound
    exact (h old).mpr (hall key old hold)

theorem forall_option_map_iff {α : Type} {value : Option α} {revise : α → α}
    {holds kept : α → Prop} (h : ∀ record, holds (revise record) ↔ kept record) :
    (∀ record, value.map revise = some record → holds record) ↔
      ∀ record, value = some record → kept record := by
  cases value with
  | none => simp
  | some found => simpa using h found

end Recovered

namespace RackState
variable {now : Timestamp}

theorem applyRecoveryPolicy_demoted_iff (state : RackState) (epoch : CoordinatorEpoch) :
    (applyRecoveryPolicy state epoch).Demoted everyPlace now ↔
      state.Demoted unvisitedPlaces now := by
  have hmembers : (applyRecoveryPolicy state epoch).members =
      state.members.map fun _ => recoverMember := RackGraph.members_rebuildIndexes
  have hrelationships : (applyRecoveryPolicy state epoch).relationships =
      state.relationships.map fun _ => recoverRelationship :=
    RackGraph.relationships_rebuildIndexes
  have hdomains : (applyRecoveryPolicy state epoch).failureDomains =
      state.failureDomains.map fun _ => recoverFailureDomain :=
    RackGraph.failureDomains_rebuildIndexes
  have hpower : (applyRecoveryPolicy state epoch).power = state.power.map recoverPower := rfl
  have hcooling : (applyRecoveryPolicy state epoch).cooling = state.cooling.map recoverCooling :=
    rfl
  rw [demoted_iff, demoted_iff, hmembers, hrelationships, hdomains, hpower, hcooling]
  refine and_congr (forall_map_iff recoverMember_demoted_iff) ?_
  refine and_congr (forall_map_iff recoverRelationship_demoted_iff) ?_
  refine and_congr (forall_map_iff recoverFailureDomain_demoted_iff) ?_
  exact and_congr (forall_option_map_iff recoverPower_demoted_iff)
    (forall_option_map_iff recoverCooling_demoted_iff)

/-- No ephemeral evidence is fresh after a load exactly when none is in the file in a place
that the recovery policy passes over. -/
theorem recovery_demotes_iff {options : RackFabricOptions} {file : Option Bytes} {readable : Bool}
    {candidate loaded : RackState}
    (hcandidate : readCandidate options file readable = .ok candidate)
    (hloaded : loadState options now file readable = .ok loaded) :
    loaded.Demoted everyPlace now ↔ candidate.Demoted unvisitedPlaces now := by
  obtain ⟨found, epoch, hfound, -, -, rfl⟩ := loadState_ok hloaded
  obtain rfl := Except.ok.inj (hcandidate.symm.trans hfound)
  exact applyRecoveryPolicy_demoted_iff candidate epoch

end RackState

namespace Scenario

def savedFile (inputs : List Input) : Option Bytes :=
  (saveState (run inputs) defaults.limits {}).toOption

def loadableAt (now : Timestamp) (check : RackState → Bool) (inputs : List Input) : Bool :=
  match encodeStatePayload (run inputs) with
  | .error _ => false
  | .ok payload =>
      payload.length ≤ 4096 &&
        match decodeStatePayload payload defaults.limits with
        | .error _ => false
        | .ok decoded =>
            ((adoptCandidate defaults decoded).checkInvariants now).ok &&
              decoded.generations.coordinatorEpoch = .first &&
              check (adoptCandidate defaults decoded)

theorem loaded_of_loadable {now : Timestamp} {check : RackState → Bool} {inputs : List Input}
    (h : loadableAt now check inputs = true) :
    ∃ candidate loaded, readCandidate defaults (savedFile inputs) true = .ok candidate ∧
      loadState defaults now (savedFile inputs) true = .ok loaded ∧ check candidate = true := by
  unfold loadableAt at h
  cases hpayload : encodeStatePayload (run inputs) with
  | error error => simp [hpayload] at h
  | ok payload =>
    cases hdecoded : decodeStatePayload payload defaults.limits with
    | error error => simp [hpayload, hdecoded] at h
    | ok decoded =>
      simp only [hpayload, hdecoded, Bool.and_eq_true, decide_eq_true_eq] at h
      obtain ⟨hlength, ⟨hgate, hepoch⟩, hcheck⟩ := h
      have hmaximum : defaults.limits.maxPersistedBytes.toNat = 536870912 := by decide
      have hminimum : (min ({} : PersistenceOptions).maxBytes
          defaults.limits.maxPersistedBytes).toNat = 536870912 := by decide
      have hfits : ¬ (min ({} : PersistenceOptions).maxBytes
          defaults.limits.maxPersistedBytes).toNat < payload.length := by omega
      have hfile : savedFile inputs = some (encodeFile payload) := by
        simp only [savedFile, saveState, hpayload, gt_iff_lt, hfits, if_false, Except.toOption]
      have hsize : payload.length + 80 ≤ defaults.limits.maxPersistedBytes.toNat := by omega
      rw [hfile]
      exact ⟨_, _, readCandidate_encodeFile hsize hdecoded,
        loadState_encodeFile hsize hdecoded hgate (by rw [hepoch]; rfl), hcheck⟩

theorem equipped_rack_demoted :
    ∃ candidate loaded,
      readCandidate defaults (savedFile equippedRack) true = .ok candidate ∧
        loadState defaults ⟨2000⟩ (savedFile equippedRack) true = .ok loaded ∧
        (loaded.Demoted everyPlace ⟨2000⟩ ↔ candidate.Demoted unvisitedPlaces ⟨2000⟩) := by
  have hloadable : loadableAt ⟨2000⟩ (fun _ => true) equippedRack = true := by decide +kernel
  obtain ⟨candidate, loaded, hcandidate, hloaded, -⟩ := loaded_of_loadable hloadable
  exact ⟨candidate, loaded, hcandidate, hloaded, recovery_demotes_iff hcandidate hloaded⟩

def uplink : RelationshipKey := ⟨.connectedTo, node "a", node "b"⟩

/-- A minute of measured capacity, in a relationship that is itself declared for good. -/
def measuredUplink : RelationshipRecord where
  key := uplink
  capacity := some
    { provenance := .measured, observedAt := ⟨900⟩, ttl := 60000, durability := .ephemeral
      unit := .gigabitsPerSecond }

def measuredRack : List Input :=
  [declareRack, publishMember operator { key := node "a" },
    publishMember operator { key := node "b" },
    { mutation := .publishRelationship { authority := operator, record := measuredUplink } }]

/-- The capacity that was measured before the restart is still fresh after it. -/
theorem measured_capacity_stays_fresh :
    ¬ ∀ loaded, loadState defaults ⟨2000⟩ (savedFile measuredRack) true = .ok loaded →
      loaded.Demoted everyPlace ⟨2000⟩ := by
  intro h
  have hloadable : loadableAt ⟨2000⟩ (fun candidate =>
      candidate.relationships[uplink.canonical]?.map (·.capacity) =
        some measuredUplink.capacity) measuredRack = true := by
    decide +kernel
  obtain ⟨candidate, loaded, hcandidate, hloaded, hcheck⟩ := loaded_of_loadable hloadable
  obtain ⟨_, epoch, hfound, -, -, rfl⟩ := loadState_ok hloaded
  obtain rfl := Except.ok.inj (hcandidate.symm.trans hfound)
  have hdemoted := (applyRecoveryPolicy_demoted_iff candidate epoch).mp (h _ hloaded)
  obtain ⟨record, hrecord, hcapacity⟩ := Option.map_eq_some_iff.mp (of_decide_eq_true hcheck)
  have hevidence := hdemoted.relationships _ record hrecord
  simp only [unvisitedPlaces, hcapacity] at hevidence
  exact hevidence _ (List.mem_singleton_self _) rfl (by decide)

end Scenario

end RackFabric
