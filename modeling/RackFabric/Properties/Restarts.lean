import RackFabric.Properties.Contents
import RackFabric.Properties.Verdict
import RackFabric.Properties.Writable

/-! One restart after another: what the first one leaves, every later one leaves as it is. -/
namespace RackFabric
open Std Tables Enumeration RackGraph RackState

/-! A recovered state takes no more room in the file. -/

namespace WriteOp
variable {limits : ResourceLimits} {α : Type}

/-- Where the calls fit, the others fit, and they write no more. -/
structure Shrinks (limits : ResourceLimits) (calls others : List WriteOp) : Prop where
  fits : AllFit limits calls → AllFit limits others
  length : (others.flatMap bytes).length ≤ (calls.flatMap bytes).length

theorem Shrinks.refl (calls : List WriteOp) : Shrinks limits calls calls :=
  ⟨id, Nat.le_refl _⟩

theorem Shrinks.append {calls others calls' others' : List WriteOp}
    (h : Shrinks limits calls others) (h' : Shrinks limits calls' others') :
    Shrinks limits (calls ++ calls') (others ++ others') where
  fits hfits := allFit_append.mpr
    ⟨h.fits (allFit_append.mp hfits).1, h'.fits (allFit_append.mp hfits).2⟩
  length := by
    simp only [List.flatMap_append, List.length_append]
    exact Nat.add_le_add h.length h'.length

theorem Shrinks.cons {call other : WriteOp} {calls others : List WriteOp}
    (hcall : Shrinks limits [call] [other]) (h : Shrinks limits calls others) :
    Shrinks limits (call :: calls) (other :: others) :=
  hcall.append h

theorem Shrinks.byte (value other : UInt8) : Shrinks limits [u8 value] [u8 other] :=
  ⟨fun _ => allFit_cons.mpr ⟨trivial, allFit_nil⟩, Nat.le_refl _⟩

theorem Shrinks.word (value other : UInt64) : Shrinks limits [u64 value] [u64 other] :=
  ⟨fun _ => allFit_cons.mpr ⟨trivial, allFit_nil⟩, by simp [u64, bytes]⟩

theorem Shrinks.none {write : α → List WriteOp} (value : Option α) :
    Shrinks limits (optional write value) (optional write none) := by
  cases value with
  | none => exact .refl _
  | some value => exact ⟨fun _ => allFit_cons.mpr ⟨trivial, allFit_nil⟩, by simp [optional, bytes]⟩

theorem Shrinks.optional {write : α → List WriteOp} {revise : α → α}
    (h : ∀ value, Shrinks limits (write value) (write (revise value))) (value : Option α) :
    Shrinks limits (optional write value) (optional write (value.map revise)) := by
  cases value with
  | none => exact .refl _
  | some value => exact Shrinks.cons (.refl _) (h value)

theorem Shrinks.flatMap {write : α → List WriteOp} {revise : α → α}
    (h : ∀ value, Shrinks limits (write value) (write (revise value))) (values : List α) :
    Shrinks limits (values.flatMap write) ((values.map revise).flatMap write) := by
  induction values with
  | nil => exact .refl _
  | cons value values ih =>
    rw [List.map_cons, List.flatMap_cons, List.flatMap_cons]
    exact (h value).append ih

theorem Shrinks.many {maximum : ResourceLimits → Nat} {write : α → List WriteOp} {revise : α → α}
    (h : ∀ value, Shrinks limits (write value) (write (revise value))) (values : List α) :
    Shrinks limits (many maximum write values) (many maximum write (values.map revise)) := by
  unfold WriteOp.many
  rw [List.length_map]
  exact Shrinks.cons (.refl _) (Shrinks.flatMap h values)

theorem Shrinks.table {κ ρ : Type} [Ord κ] [TransOrd κ] {maximum : ResourceLimits → Nat}
    {write : ρ → List WriteOp} {revise : ρ → ρ}
    (h : ∀ record, Shrinks limits (write record) (write (revise record))) (table : ExtTreeMap κ ρ) :
    Shrinks limits (encodeTable maximum write table)
      (encodeTable maximum write (table.map fun _ => revise)) := by
  have hvalues : (table.map fun _ => revise).toList.map Prod.snd =
      (table.toList.map Prod.snd).map revise := by
    rw [ExtTreeMap.toList_map, List.map_map, List.map_map]
    rfl
  unfold encodeTable
  rw [hvalues]
  exact Shrinks.many h _

end WriteOp

section Records
open WriteOp
variable {limits : ResourceLimits}

theorem shrinks_observation (evidence other : Observation) :
    Shrinks limits (encodeObservation evidence) (encodeObservation other) :=
  .cons (.byte _ _) <| .cons (.word _ _) <| .cons (.word _ _) <| .cons (.byte _ _) (.byte _ _)

theorem shrinks_evidence {α : Type} [Inhabited α] [DecidableEq α] [Enum8 α]
    (evidence other : EvidenceValue α) :
    Shrinks limits (encodeEvidence evidence) (encodeEvidence other) :=
  .cons ⟨fun _ => allFit_cons.mpr ⟨trivial, allFit_nil⟩, Nat.le_refl _⟩ (shrinks_observation _ _)

theorem shrinks_recoverMember (record : MemberRecord) :
    Shrinks limits (encodeMember record) (encodeMember (recoverMember record)) := by
  have hcapabilities : Shrinks limits
      (many (·.maxCollectionItems) encodeCapability record.capabilities)
      (many (·.maxCollectionItems) encodeCapability
        (record.capabilities.map fun capability =>
          if capability.durability = .ephemeral then
            { capability with revalidationRequired := true }
          else capability)) := by
    refine Shrinks.many (fun capability => ?_) _
    split
    · exact .cons (.refl _) ((shrinks_observation _ _).append (.refl _))
    · exact .refl _
  unfold encodeMember recoverMember
  split <;> repeat' apply Shrinks.append
  all_goals first
    | exact .refl _
    | exact .none _
    | exact .byte _ _
    | exact shrinks_observation _ _
    | exact shrinks_evidence _ _
    | exact hcapabilities

theorem shrinks_recoverRelationship (record : RelationshipRecord) :
    Shrinks limits (encodeRelationship record)
      (encodeRelationship (recoverRelationship record)) := by
  unfold encodeRelationship recoverRelationship
  refine .cons (.refl _) ?_
  repeat' apply Shrinks.append
  all_goals first
    | exact .refl _
    | exact .none _
    | exact shrinks_observation _ _

theorem shrinks_recoverFailureDomain (record : FailureDomainRecord) :
    Shrinks limits (encodeFailureDomain record)
      (encodeFailureDomain (recoverFailureDomain record)) := by
  unfold encodeFailureDomain recoverFailureDomain
  repeat' apply Shrinks.append
  all_goals first
    | exact .refl _
    | exact .none _
    | exact shrinks_observation _ _

theorem shrinks_recoverPower (record : PowerEnvelopeRecord) :
    Shrinks limits (encodePowerEnvelope record) (encodePowerEnvelope (recoverPower record)) := by
  have hbudgets : Shrinks limits (many (·.maxCollectionItems) encodeBudget record.domainBudgets)
      (many (·.maxCollectionItems) encodeBudget (record.domainBudgets.map fun budget =>
        { budget with observedDraw := none, headroom := none })) := by
    refine Shrinks.many (fun budget => ?_) _
    exact .cons (.refl _) (((Shrinks.refl _).append (.none _)).append (.none _))
  unfold encodePowerEnvelope recoverPower
  split <;> refine .cons (.refl _) ?_ <;> repeat' apply Shrinks.append
  all_goals first
    | exact .refl _
    | exact .none _
    | exact shrinks_observation _ _
    | exact hbudgets

theorem shrinks_recoverCooling (record : CoolingEnvelopeRecord) :
    Shrinks limits (encodeCoolingEnvelope record)
      (encodeCoolingEnvelope (recoverCooling record)) := by
  have hzones : Shrinks limits (many (·.maxCollectionItems) encodeZone record.zones)
      (many (·.maxCollectionItems) encodeZone (record.zones.map fun zone =>
        { zone with
          observedTemperature := none, thermalHeadroom := none, throttling := none })) := by
    refine Shrinks.many (fun zone => ?_) _
    exact .cons (.refl _) (((((Shrinks.refl _).append (.none _)).append
      (.refl _)).append (.none _)).append (.none _))
  unfold encodeCoolingEnvelope recoverCooling
  split <;> refine .cons (.refl _) ?_ <;> repeat' apply Shrinks.append
  all_goals first
    | exact .refl _
    | exact .none _
    | exact shrinks_observation _ _
    | exact hzones

theorem shrinks_lost (publisher : PublisherRecord) :
    Shrinks limits (encodePublisher publisher)
      (encodePublisher { publisher with state := .lost }) :=
  ((Shrinks.append (.refl [_, _, _, _]) (.cons (.byte _ _) (.refl [_, _, _]))).append
    (.refl _)).append (.refl _)

theorem shrinks_coordinatorEpoch (generations : GenerationSet) (epoch : CoordinatorEpoch) :
    Shrinks limits (encodeGenerationSet generations)
      (encodeGenerationSet { generations with coordinatorEpoch := epoch }) :=
  Shrinks.append (.refl [_, _, _, _, _, _, _, _, _]) (.word _ _)

end Records

namespace RackState
open WriteOp
variable {state : RackState} {options : RackFabricOptions} {epoch : CoordinatorEpoch}

theorem shrinks_recovered (state : RackState) (epoch : CoordinatorEpoch) :
    Shrinks state.limits (encodeState state) (encodeState (applyRecoveryPolicy state epoch)) := by
  unfold encodeState
  rw [members_recovered, relationships_recovered, failureDomains_recovered, publishers_recovered]
  repeat' apply Shrinks.append
  · exact .refl _
  · exact shrinks_coordinatorEpoch _ _
  · exact .refl _
  · exact .table shrinks_recoverMember _
  · exact .table shrinks_recoverRelationship _
  · exact .table shrinks_recoverFailureDomain _
  · exact .optional shrinks_recoverPower _
  · exact .optional shrinks_recoverCooling _
  · exact .table shrinks_lost _
  · exact .refl _
  · exact .refl _

def atEpoch (state : RackState) (epoch : CoordinatorEpoch) : RackState :=
  { state with generations := { state.generations with coordinatorEpoch := epoch } }

theorem shrinks_atEpoch (state : RackState) (epoch : CoordinatorEpoch) :
    Shrinks state.limits (encodeState state) (encodeState (state.atEpoch epoch)) := by
  unfold encodeState
  repeat' apply Shrinks.append
  all_goals first
    | exact .refl _
    | exact shrinks_coordinatorEpoch _ _

end RackState

/-! What has been recovered once is recovered for good. -/

theorem recoverEvidence_twice {α : Type} [Inhabited α] (evidence : EvidenceValue α) :
    recoverEvidence (recoverEvidence evidence) = recoverEvidence evidence := by
  unfold recoverEvidence
  split
  · split <;> rfl
  · rfl

/-- Without an owner, nothing more has to be earned. -/
theorem earned_twice (durability : Durability) (owner : Option AgentBootId) (flagged : Bool) :
    (mustBeEarned durability none || (mustBeEarned durability owner || flagged)) =
      (mustBeEarned durability owner || flagged) := by
  cases durability <;> simp [mustBeEarned]

theorem recoverMember_twice (record : MemberRecord) :
    recoverMember (recoverMember record) = recoverMember record := by
  have hcapabilities : ((record.capabilities.map fun capability =>
      if capability.durability = .ephemeral then { capability with revalidationRequired := true }
      else capability).map fun capability =>
      if capability.durability = .ephemeral then { capability with revalidationRequired := true }
      else capability) = record.capabilities.map fun capability =>
      if capability.durability = .ephemeral then { capability with revalidationRequired := true }
      else capability := by
    rw [List.map_map]
    apply List.map_congr_left
    intro capability _
    simp only [Function.comp_apply]
    split <;> rfl
  unfold recoverMember
  by_cases hearned : mustBeEarned record.durability record.ownerBoot = true
  · simp only [hearned, if_true, recoverEvidence_twice, hcapabilities]
    split <;> rfl
  · have hlasting : mustBeEarned record.durability none = false := by
      cases hdurability : record.durability with
      | ephemeral => simp [hdurability, mustBeEarned] at hearned
      | durable => rfl
    simp only [hearned, hlasting, Bool.false_eq_true, if_false, recoverEvidence_twice,
      hcapabilities]

theorem recoverRelationship_twice (record : RelationshipRecord) :
    recoverRelationship (recoverRelationship record) = recoverRelationship record := by
  simp only [recoverRelationship, earned_twice]

theorem recoverFailureDomain_twice (record : FailureDomainRecord) :
    recoverFailureDomain (recoverFailureDomain record) = recoverFailureDomain record := by
  simp only [recoverFailureDomain, earned_twice]

theorem recoverPower_twice (record : PowerEnvelopeRecord) :
    recoverPower (recoverPower record) = recoverPower record := by
  unfold recoverPower
  by_cases hephemeral : record.durability = .ephemeral
  · simp [hephemeral, mustBeEarned]
  · simp only [hephemeral, if_false, earned_twice]

theorem recoverCooling_twice (record : CoolingEnvelopeRecord) :
    recoverCooling (recoverCooling record) = recoverCooling record := by
  unfold recoverCooling
  by_cases hephemeral : record.durability = .ephemeral
  · simp [hephemeral, mustBeEarned]
  · simp only [hephemeral, if_false, earned_twice]

theorem rebuildIndexes_congr {graph other : RackGraph}
    (h : other.clearIndexes = graph.clearIndexes) :
    other.rebuildIndexes = graph.rebuildIndexes := by
  have hmembers := congrArg RackGraph.members h
  have hrelationships := congrArg RackGraph.relationships h
  have hdomains := congrArg RackGraph.failureDomains h
  simp only [clearIndexes] at hmembers hrelationships hdomains
  unfold rebuildIndexes
  rw [h, hmembers, hrelationships, hdomains]

namespace RackState
variable {state : RackState} {options : RackFabricOptions} {epoch : CoordinatorEpoch}

/-- A recovered state that is saved and recovered again is the same under another epoch. -/
theorem recovered_again (hlimits : state.limits = options.limits)
    (hcontract : state.contract = options.readiness) (later : CoordinatorEpoch) :
    applyRecoveryPolicy (adoptCandidate options (applyRecoveryPolicy state epoch).persisted) later =
      (applyRecoveryPolicy state epoch).atEpoch later := by
  have hgraph : (applyRecoveryPolicy (adoptCandidate options
      (applyRecoveryPolicy state epoch).persisted) later).toRackGraph =
        (applyRecoveryPolicy state epoch).toRackGraph := by
    apply rebuildIndexes_congr
    simp [clearIndexes, adoptCandidate, persisted, ExtTreeMap.map_map, recoverMember_twice,
      recoverRelationship_twice, recoverFailureDomain_twice]
  have hpublishers : (state.publishers.map fun _ publisher => { publisher with state := .lost }).map
      (fun _ publisher => { publisher with state := .lost }) =
        state.publishers.map fun _ publisher => { publisher with state := .lost } := by
    rw [ExtTreeMap.map_map]
  have hpower : (state.power.map recoverPower).map recoverPower = state.power.map recoverPower := by
    rw [Option.map_map]
    exact congrArg (state.power.map ·) (funext recoverPower_twice)
  have hcooling : (state.cooling.map recoverCooling).map recoverCooling =
      state.cooling.map recoverCooling := by
    rw [Option.map_map]
    exact congrArg (state.cooling.map ·) (funext recoverCooling_twice)
  unfold atEpoch
  rw [← hgraph]
  simp only [applyRecoveryPolicy, adoptCandidate, persisted, hpublishers, hpower, hcooling,
    hlimits, hcontract]

end RackState

/-! What is restored can be saved and restored again. -/

theorem decodable_recoverEvidence {α : Type} [Inhabited α] {evidence : EvidenceValue α}
    (h : evidence.toObservation.Decodable) :
    (recoverEvidence evidence).toObservation.Decodable := by
  unfold recoverEvidence
  split
  · change ttlIsValid 0 = true
    decide
  · exact h

theorem idDecodable_none {tag : IdentityTag} : IdDecodable (none : Option (StrongId tag)) := by
  intro id hid
  cases hid

theorem quantityDecodable_none : QuantityDecodable none := by
  intro quantity hquantity
  cases hquantity

theorem decodable_recoverMember {record : MemberRecord} (h : record.Decodable) :
    (recoverMember record).Decodable := by
  have hcapabilities : ∀ capability ∈ (recoverMember record).capabilities,
      capability.Decodable := by
    intro capability hmem
    obtain ⟨old, hold, rfl⟩ := List.mem_map.mp hmem
    obtain ⟨hid, hobservation, hvalue⟩ := h.capabilities old hold
    split <;> exact ⟨hid, hobservation, hvalue⟩
  have hhealth := decodable_recoverEvidence h.health
  have hreadiness := decodable_recoverEvidence h.readiness
  have hreachability := decodable_recoverEvidence h.reachability
  revert hcapabilities
  unfold recoverMember
  split <;> intro hcapabilities <;> exact
    { h with
      observation := h.observation
      ownerWorker := idDecodable_none
      ownerBoot := idDecodable_none
      health := hhealth
      readiness := hreadiness
      reachability := hreachability
      capabilities := hcapabilities }

theorem decodable_recoverPower {record : PowerEnvelopeRecord} (h : record.Decodable) :
    (recoverPower record).Decodable := by
  unfold recoverPower
  split
  · exact
      { h with
        rackObservedDraw := quantityDecodable_none
        rackHeadroom := quantityDecodable_none
        domainBudgets := by
          intro budget hmem
          obtain ⟨old, hold, rfl⟩ := List.mem_map.mp hmem
          exact
            { h.domainBudgets old hold with
              observedDraw := quantityDecodable_none
              headroom := quantityDecodable_none }
        observation := h.observation
        ownerWorker := idDecodable_none
        ownerBoot := idDecodable_none }
  · exact
      { h with
        observation := h.observation
        ownerWorker := idDecodable_none
        ownerBoot := idDecodable_none }

theorem decodable_recoverCooling {record : CoolingEnvelopeRecord} (h : record.Decodable) :
    (recoverCooling record).Decodable := by
  unfold recoverCooling
  split
  · exact
      { h with
        zones := by
          intro zone hmem
          obtain ⟨old, hold, rfl⟩ := List.mem_map.mp hmem
          exact
            { h.zones old hold with
              observedTemperature := quantityDecodable_none
              thermalHeadroom := quantityDecodable_none
              throttling := fun _ hnone => by cases hnone }
        observation := h.observation
        ownerWorker := idDecodable_none
        ownerBoot := idDecodable_none }
  · exact
      { h with
        observation := h.observation
        ownerWorker := idDecodable_none
        ownerBoot := idDecodable_none }

theorem EachRecord.revised {κ ρ : Type} [Ord κ] [TransOrd κ] [LawfulEqOrd κ] {property : ρ → Prop}
    {table : ExtTreeMap κ ρ} {revise : ρ → ρ} (h : EachRecord property table)
    (hrevise : ∀ {record}, property record → property (revise record)) :
    EachRecord property (table.map fun _ => revise) := by
  intro key record hfound
  obtain ⟨old, hold, rfl⟩ := getElem?_map_cases hfound
  exact hrevise (h key old hold)

namespace RackState
variable {state : RackState} {options : RackFabricOptions} {epoch : CoordinatorEpoch}

theorem Decodable.recovered (h : state.Decodable) (epoch : CoordinatorEpoch) :
    (applyRecoveryPolicy state epoch).Decodable where
  rack := h.rack
  members := by
    rw [members_recovered]
    exact h.members.revised decodable_recoverMember
  relationships := by
    rw [relationships_recovered]
    exact h.relationships.revised fun hrecord =>
      { hrecord with
        observation := hrecord.observation
        ownerWorker := idDecodable_none
        ownerBoot := idDecodable_none }
  failureDomains := by
    rw [failureDomains_recovered]
    exact h.failureDomains.revised fun hrecord =>
      { hrecord with
        observation := hrecord.observation
        ownerWorker := idDecodable_none
        ownerBoot := idDecodable_none }
  power record hsome := by
    obtain ⟨old, hold, rfl⟩ := Option.map_eq_some_iff.mp hsome
    exact decodable_recoverPower (h.power old hold)
  cooling record hsome := by
    obtain ⟨old, hold, rfl⟩ := Option.map_eq_some_iff.mp hsome
    exact decodable_recoverCooling (h.cooling old hold)
  publishers := by
    rw [publishers_recovered]
    exact h.publishers.revised fun hpublisher => { hpublisher with }
  publisherCount := by
    rw [publishers_recovered, ExtTreeMap.size_map]
    exact h.publisherCount
  fencedBoots := h.fencedBoots
  snapshots := h.snapshots

theorem Decodable.adopted (h : state.Decodable) (hlimits : state.limits = options.limits) :
    (adoptCandidate options state.persisted).Decodable := by
  refine h.of_restores ⟨rfl, rfl, ?_, ?_, ?_, rfl, rfl, rfl, rfl, rfl⟩ hlimits
  · exact members_rebuildIndexes.symm
  · exact relationships_rebuildIndexes.symm
  · exact failureDomains_rebuildIndexes.symm

/-- What fits in the file still fits when it has shrunk. -/
theorem saveState_shrunk {other : RackState} {limits : ResourceLimits}
    {persistence : PersistenceOptions} {bytes : Bytes} (hstate : state.limits = limits)
    (hother : other.limits = limits)
    (hshrinks : WriteOp.Shrinks limits (encodeState state) (encodeState other))
    (h : saveState state limits persistence = .ok bytes) :
    ∃ after, saveState other limits persistence = .ok after ∧ after.length ≤ bytes.length := by
  obtain ⟨payload, hpayload, rfl, hbound⟩ := saveState_eq_ok h
  obtain ⟨rfl, hfits⟩ := encodeStatePayload_ok hpayload
  rw [hstate] at hfits
  have hlength := hshrinks.length
  have hmin : min persistence.maxBytes limits.maxPersistedBytes ≤ limits.maxPersistedBytes := by
    change (if _ then _ else _) ≤ _
    split
    · assumption
    · exact UInt64.le_refl _
  have hroom := Nat.le_trans hbound (UInt64.le_iff_toNat_le.mp hmin)
  have hwritten := @ByteWriter.writeAll_of_fits
    { limits := limits, maxBytes := limits.maxPersistedBytes.toNat } (encodeState other)
    (hshrinks.fits hfits) (by simpa using Nat.le_trans hlength hroom)
  have hpayload : encodeStatePayload other = .ok ((encodeState other).flatMap WriteOp.bytes) := by
    simp [encodeStatePayload, hother, hwritten]
  refine ⟨encodeFile ((encodeState other).flatMap WriteOp.bytes), ?_, ?_⟩
  · simp only [saveState, hpayload]
    rw [if_neg (Nat.not_lt.mpr (Nat.le_trans hlength hbound))]
  · rw [length_encodeFile, length_encodeFile]
    omega

structure Restarted (options : RackFabricOptions) (persistence : PersistenceOptions)
    (base state : RackState) : Prop where
  recovered : ∃ epoch, state = applyRecoveryPolicy base epoch
  consistent : Consistent options state
  decodable : state.Decodable
  settled : ¬ Rejoined state.toRackGraph
  saved : ∃ bytes, saveState state options.limits persistence = .ok bytes ∧
    bytes.length ≤ options.limits.maxPersistedBytes.toNat

variable {persistence : PersistenceOptions} {base : RackState}

theorem noLiveFenced_recovered (state : RackState) (epoch : CoordinatorEpoch) :
    (applyRecoveryPolicy state epoch).NoLiveFenced := by
  intro boot record _ hfound hlive
  rw [publishers_recovered] at hfound
  obtain ⟨old, -, rfl⟩ := getElem?_map_cases hfound
  simp [PublisherState.Live] at hlive

theorem rejoined_recovered (state : RackState) (epoch : CoordinatorEpoch) :
    Rejoined (applyRecoveryPolicy state epoch).toRackGraph ↔ Rejoined state.toRackGraph := by
  refine rejoined_congr fun id => ?_
  rw [parentsOf, failureDomains_recovered, ExtTreeMap.getElem?_map, parentsOf]
  cases state.failureDomains[id]? <;> rfl

/-- The rack comes up again from its own file, under the next epoch. -/
theorem Restarted.again (h : Restarted options persistence base state)
    (hlimits : base.limits = options.limits) (hcontract : base.contract = options.readiness)
    {next : CoordinatorEpoch} (hnext : state.generations.coordinatorEpoch.advance = some next)
    (now : Timestamp) :
    ∃ bytes, saveState state options.limits persistence = .ok bytes ∧
      loadState options now (some bytes) true = .ok (state.atEpoch next) ∧
        Restarted options persistence base (state.atEpoch next) := by
  obtain ⟨bytes, hsaved, hfits⟩ := h.saved
  obtain ⟨epoch, hrecovered⟩ := h.recovered
  have hagain : applyRecoveryPolicy (adoptCandidate options state.persisted) next =
      state.atEpoch next := by
    rw [hrecovered]
    exact recovered_again hlimits hcontract next
  have hloaded : loadState options now (some bytes) true = .ok (state.atEpoch next) := by
    obtain ⟨payload, hpayload, rfl, hbound⟩ := saveState_eq_ok hsaved
    have hlength : payload.length < 2 ^ 64 := Nat.lt_of_le_of_lt hbound
      (min persistence.maxBytes options.limits.maxPersistedBytes).toNat_lt
    rw [length_encodeFile] at hfits
    have hlive : state.NoLiveFenced := hrecovered ▸ noLiveFenced_recovered base epoch
    obtain ⟨loaded, hloaded⟩ := (h.consistent.restart_iff h.decodable hpayload hlength now).mpr
      ⟨h.settled, hlive, ⟨next, hnext⟩, hfits⟩
    have hown : SavedFrom options state (encodeFile payload) :=
      ⟨h.consistent, h.decodable, persistence, _, hsaved, List.prefix_refl _⟩
    obtain ⟨following, hfollowing, rfl⟩ := hown.loaded hloaded
    obtain rfl := Option.some.inj (hnext.symm.trans hfollowing)
    rw [hloaded, hagain]
  refine ⟨bytes, hsaved, hloaded, ⟨next, by rw [hrecovered]; rfl⟩, ?_, ?_, h.settled, ?_⟩
  · rw [← hagain]
    exact h.consistent.adopted.recovered hnext
  · exact
      { h.decodable with
        rack := h.decodable.rack
        publisherCount := h.decodable.publisherCount }
  · have hlimits := h.consistent.bound.limits
    have hshrinks := shrinks_atEpoch state next
    rw [hlimits] at hshrinks
    have hother : (state.atEpoch next).limits = options.limits := hlimits
    obtain ⟨after, hafter, hshorter⟩ := saveState_shrunk hlimits hother hshrinks hsaved
    exact ⟨after, hafter, Nat.le_trans hshorter hfits⟩

/-- A rack that has come up from its own file. -/
theorem Consistent.restarted (h : Consistent options state) (hdecodable : state.Decodable)
    {bytes : Bytes} (hsaved : saveState state options.limits persistence = .ok bytes)
    {now : Timestamp} {loaded : RackState}
    (hloaded : loadState options now (some bytes) true = .ok loaded) :
    Restarted options persistence (adoptCandidate options state.persisted) loaded := by
  have hlimits := h.bound.limits
  have hown : SavedFrom options state bytes :=
    ⟨h, hdecodable, persistence, bytes, hsaved, List.prefix_refl _⟩
  obtain ⟨epoch, hnext, rfl⟩ := hown.loaded hloaded
  obtain ⟨payload, hpayload, rfl, hbound⟩ := saveState_eq_ok hsaved
  have hlength : payload.length < 2 ^ 64 := Nat.lt_of_le_of_lt hbound
    (min persistence.maxBytes options.limits.maxPersistedBytes).toNat_lt
  obtain ⟨hrejoined, -, -, hfits⟩ :=
    (h.restart_iff hdecodable hpayload hlength now).mp ⟨_, hloaded⟩
  have hshrinks : WriteOp.Shrinks options.limits (encodeState state)
      (encodeState (applyRecoveryPolicy (adoptCandidate options state.persisted) epoch)) := by
    have hshrinks := shrinks_recovered (adoptCandidate options state.persisted) epoch
    have hsame : encodeState (adoptCandidate options state.persisted) = encodeState state := by
      simp [encodeState, adoptCandidate, persisted]
    rwa [hsame] at hshrinks
  obtain ⟨after, hafter, hshorter⟩ := saveState_shrunk hlimits rfl hshrinks hsaved
  refine ⟨⟨epoch, rfl⟩, h.adopted.recovered hnext, (hdecodable.adopted hlimits).recovered epoch, ?_,
    after, hafter, Nat.le_trans hshorter ?_⟩
  · rw [rejoined_recovered, rejoined_congr parentsOf_adopted]
    exact hrejoined
  · rw [length_encodeFile]
    exact hfits

end RackState

namespace Deployment
open RackState
variable {options : RackFabricOptions} {persistence : PersistenceOptions}

/-- The coordinator saves its state, stops, and comes up again. -/
def round (options : RackFabricOptions) (persistence : PersistenceOptions) (now : Timestamp) :
    List Operation :=
  [.save persistence .completed, .restart options, .load now true]

theorem run_round {base state : RackState} {file : Option Bytes}
    (h : Restarted options persistence base state) (hlimits : base.limits = options.limits)
    (hcontract : base.contract = options.readiness) {next : CoordinatorEpoch}
    (hnext : state.generations.coordinatorEpoch.advance = some next) (now : Timestamp) :
    ∃ bytes, Execution.run step ⟨file, options, state⟩ (round options persistence now) =
        ⟨some bytes, options, state.atEpoch next⟩ ∧
      Restarted options persistence base (state.atEpoch next) := by
  obtain ⟨bytes, hsaved, hloaded, hagain⟩ := h.again hlimits hcontract hnext now
  refine ⟨bytes, ?_, hagain⟩
  simp only [round, Execution.run, List.foldl_cons, List.foldl_nil, step, hsaved, start, writeFile,
    hloaded]

theorem run_rounds {base : RackState} (hlimits : base.limits = options.limits)
    (hcontract : base.contract = options.readiness) (times : List Timestamp) :
    ∀ {state : RackState} {file : Option Bytes}, Restarted options persistence base state →
      state.generations.coordinatorEpoch.value.toNat + times.length < 2 ^ 64 →
        ∃ file', Execution.run step ⟨file, options, state⟩
            (times.flatMap (round options persistence)) =
          ⟨file', options, state.atEpoch
            ⟨state.generations.coordinatorEpoch.value + .ofNat times.length⟩⟩ := by
  induction times with
  | nil =>
    intro state file _ _
    exact ⟨file, by simp [Execution.run, atEpoch]⟩
  | cons now times ih =>
    intro state file h hepochs
    rw [List.length_cons] at hepochs
    obtain ⟨next, hnext, hvalue⟩ :=
      @RackState.advance_of_lt _ state.generations.coordinatorEpoch (by omega)
    obtain ⟨bytes, hround, hagain⟩ := @run_round options persistence base state file h hlimits
      hcontract next hnext now
    obtain ⟨file', hrest⟩ := @ih (state.atEpoch next) (some bytes) hagain (by
      change next.value.toNat + times.length < 2 ^ 64
      omega)
    refine ⟨file', ?_⟩
    rw [List.flatMap_cons, Execution.run_append, hround, hrest]
    have hsum : next.value + .ofNat times.length =
        state.generations.coordinatorEpoch.value + .ofNat (times.length + 1) := by
      apply UInt64.toNat_inj.mp
      simp only [UInt64.toNat_add, UInt64.toNat_ofNat']
      omega
    simp only [atEpoch, List.length_cons, hsum]

variable (options : RackFabricOptions) (operations : List Operation)

/-- A coordinator that has come up from a file it saved comes up from it again and again, with the
same rack each time: what a restart takes away, it takes away once. -/
theorem restarts_stable
    (hproper : Execution.EachStep step (Proper options) (start none options) operations)
    (hdecodable : (after none options operations).live.Decodable) {bytes : Bytes}
    (hsaved : saveState (after none options operations).live options.limits persistence = .ok bytes)
    {now : Timestamp} {first : RackState}
    (hloaded : loadState options now (some bytes) true = .ok first) (times : List Timestamp)
    (hepochs : first.generations.coordinatorEpoch.value.toNat + times.length < 2 ^ 64) :
    let last := Execution.run step ⟨some bytes, options, first⟩
      (times.flatMap (round options persistence))
    last.live = first.atEpoch
      ⟨first.generations.coordinatorEpoch.value + .ofNat times.length⟩ := by
  have hlive := (lineage_after options operations hproper).live
  obtain ⟨file, hrun⟩ := @run_rounds options persistence _ rfl rfl times first (some bytes)
    (hlive.restarted hdecodable hsaved hloaded) hepochs
  simp only [hrun]

/-- The equipped rack comes up twice more after its first restart. -/
theorem equipped_rack_stable :
    ∃ bytes first, saveState (Scenario.run Scenario.equippedRack) Scenario.defaults.limits {} =
        .ok bytes ∧
      loadState Scenario.defaults ⟨2000⟩ (some bytes) true = .ok first ∧
        (Execution.run step ⟨some bytes, Scenario.defaults, first⟩
          ([⟨3000⟩, ⟨4000⟩].flatMap (round Scenario.defaults {}))).live =
            first.atEpoch ⟨first.generations.coordinatorEpoch.value + 2⟩ := by
  have hlive : Consistent Scenario.defaults (Scenario.run Scenario.equippedRack) :=
    (lineage_after Scenario.defaults equipped equipped_proper).live
  have hgate : ((Scenario.run Scenario.equippedRack).checkInvariants ⟨2000⟩).ok = true := by
    decide +kernel
  have hepoch : (Scenario.run Scenario.equippedRack).generations.coordinatorEpoch = ⟨1⟩ := by
    decide +kernel
  have hsaves : (encodeStatePayload (Scenario.run Scenario.equippedRack)).toOption.any
      (fun payload => payload.length < 1000) = true := by
    decide +kernel
  cases hpayload : encodeStatePayload (Scenario.run Scenario.equippedRack) with
  | error failure => simp [hpayload, Except.toOption] at hsaves
  | ok payload =>
    have hshort : payload.length < 1000 := by simpa [hpayload, Except.toOption] using hsaves
    have hsaved : saveState (Scenario.run Scenario.equippedRack) Scenario.defaults.limits {} =
        .ok (encodeFile payload) := by
      have hbound : 1000 ≤ (min ({} : PersistenceOptions).maxBytes
          Scenario.defaults.limits.maxPersistedBytes).toNat := by decide +kernel
      simp only [saveState, hpayload]
      exact if_neg (Nat.not_lt.mpr (Nat.le_of_lt (Nat.lt_of_lt_of_le hshort hbound)))
    have hfits : 2000 ≤ Scenario.defaults.limits.maxPersistedBytes.toNat := by decide +kernel
    have hsound := (hlive.gate_iff ⟨2000⟩).mp hgate
    obtain ⟨first, hloaded⟩ := (hlive.restart_iff decodable_equipped hpayload (by omega)
      ⟨2000⟩).mpr ⟨hsound.1, hsound.2.2, ⟨⟨2⟩, by rw [hepoch]; rfl⟩, by
        simp only [kHeaderBytes, kTrailerBytes]
        omega⟩
    have hown : SavedFrom Scenario.defaults (Scenario.run Scenario.equippedRack)
        (encodeFile payload) :=
      ⟨hlive, decodable_equipped, {}, _, hsaved, List.prefix_refl _⟩
    obtain ⟨epoch, hnext, rfl⟩ := hown.loaded hloaded
    obtain rfl : (⟨2⟩ : CoordinatorEpoch) = epoch := by
      rw [hepoch] at hnext
      exact Option.some.inj hnext
    exact ⟨_, _, hsaved, hloaded, restarts_stable Scenario.defaults equipped equipped_proper
      decodable_equipped hsaved hloaded [⟨3000⟩, ⟨4000⟩] (by decide)⟩

end Deployment

end RackFabric
