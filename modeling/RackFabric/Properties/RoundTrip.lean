import RackFabric.Properties.Integrity
import RackFabric.Properties.Ledger

/-! Saving a rack and restoring it. The decoder checks more than the validators
do, so a saved rack is restored exactly when all that it holds is decodable. -/
namespace RackFabric
open Std Enumeration ByteReader RackState

namespace RackState

structure Decodable (state : RackState) : Prop where
  rack : ∀ rack ∈ state.rack, rack.Decodable
  members : EachRecord MemberRecord.Decodable state.members
  relationships : EachRecord RelationshipRecord.Decodable state.relationships
  failureDomains : EachRecord FailureDomainRecord.Decodable state.failureDomains
  power : ∀ record ∈ state.power, record.Decodable
  cooling : ∀ record ∈ state.cooling, record.Decodable
  publishers : EachRecord PublisherRecord.Decodable state.publishers
  publisherCount : state.publishers.size ≤ publisherBound state.limits
  fencedBoots : EachRecord FencedBootRecord.Decodable state.fencedBoots
  snapshots : EachRecord RackSnapshot.Decodable state.snapshots

structure Restores (restored state : RackState) : Prop where
  rack : restored.rack = state.rack
  generations : restored.generations = state.generations
  members : restored.members = state.members
  relationships : restored.relationships = state.relationships
  failureDomains : restored.failureDomains = state.failureDomains
  power : restored.power = state.power
  cooling : restored.cooling = state.cooling
  publishers : restored.publishers = state.publishers
  fencedBoots : restored.fencedBoots = state.fencedBoots
  snapshots : restored.snapshots = state.snapshots

/-- Decoding yields the canonical records alone. -/
def persisted (state : RackState) : RackState where
  members := state.members
  relationships := state.relationships
  failureDomains := state.failureDomains
  rack := state.rack
  power := state.power
  cooling := state.cooling
  publishers := state.publishers
  fencedBoots := state.fencedBoots
  snapshots := state.snapshots
  generations := state.generations
  snapshotGeneration := state.snapshotGeneration
  operatorPublicationGeneration := state.operatorPublicationGeneration
  limits := state.limits

theorem persisted_restores (state : RackState) : state.persisted.Restores state :=
  ⟨rfl, rfl, rfl, rfl, rfl, rfl, rfl, rfl, rfl, rfl⟩

variable {state : RackState}

theorem Decodable.of_restores {restored : RackState} (h : restored.Decodable)
    (hsame : restored.Restores state) (hlimits : restored.limits = state.limits) :
    state.Decodable where
  rack := hsame.rack ▸ h.rack
  members := hsame.members ▸ h.members
  relationships := hsame.relationships ▸ h.relationships
  failureDomains := hsame.failureDomains ▸ h.failureDomains
  power := hsame.power ▸ h.power
  cooling := hsame.cooling ▸ h.cooling
  publishers := hsame.publishers ▸ h.publishers
  publisherCount := by
    rw [← hsame.publishers, ← hlimits]
    exact h.publisherCount
  fencedBoots := hsame.fencedBoots ▸ h.fencedBoots
  snapshots := hsame.snapshots ▸ h.snapshots

section Tables
variable {limits : ResourceLimits}

theorem readsBack_distinct {κ ρ : Type} [DecidableEq κ] [Ord κ] [TransOrd κ] [LawfulEqOrd κ]
    {read : Decoder ρ} {write : ρ → List WriteOp} {keyOf : ρ → κ}
    {maximum : ResourceLimits → Nat} {exceeded duplicate : String} {table : ExtTreeMap κ ρ}
    (hoccupies : ∀ record, Occupies (write record))
    (hkey : ∀ {key : κ} {record : ρ}, table[key]? = some record → keyOf record = key)
    (hread : ∀ {key : κ} {record : ρ}, table[key]? = some record →
      ReadsBack limits read (write record) record) :
    ReadsBack limits (decodeTable maximum maximum exceeded (decodeDistinct read keyOf duplicate))
      (encodeTable maximum write table) table := by
  refine readsBack_table (fun table => ?_) ?_ hkey hread hoccupies id
  · exact .pure table
  · exact reads_decodeDistinct

theorem readsBack_first {κ ρ : Type} [DecidableEq κ] [Ord κ] [TransOrd κ] [LawfulEqOrd κ]
    {read : Decoder ρ} {write : ρ → List WriteOp} {keyOf : ρ → κ}
    {maximum bound : ResourceLimits → Nat} {exceeded : String} {table : ExtTreeMap κ ρ}
    (hoccupies : ∀ record, Occupies (write record))
    (hkey : ∀ {key : κ} {record : ρ}, table[key]? = some record → keyOf record = key)
    (hread : ∀ {key : κ} {record : ρ}, table[key]? = some record →
      ReadsBack limits read (write record) record)
    (hbound : table.size ≤ maximum limits → table.size ≤ bound limits) :
    ReadsBack limits (decodeTable maximum bound exceeded (decodeFirst read keyOf))
      (encodeTable maximum write table) table := by
  refine readsBack_table (fun table => ?_) ?_ hkey hread hoccupies hbound
  · exact .pure table
  · exact reads_decodeFirst

theorem ensures_distinct {κ ρ : Type} [DecidableEq κ] [Ord κ] [TransOrd κ] [LawfulEqOrd κ]
    {read : Decoder ρ} {keyOf : ρ → κ} {maximum : ResourceLimits → Nat}
    {exceeded duplicate : String} {property : ρ → Prop} (h : Ensures limits read property) :
    Ensures limits
      (decodeTable maximum maximum exceeded (decodeDistinct read keyOf duplicate))
      (EachRecord property) :=
  ensures_table fun count _ => ensures_decodeDistinct h count .empty

theorem ensures_first {κ ρ : Type} [DecidableEq κ] [Ord κ] [TransOrd κ] [LawfulEqOrd κ]
    {read : Decoder ρ} {keyOf : ρ → κ} {maximum bound : ResourceLimits → Nat}
    {exceeded : String} {property : ρ → Prop} (h : Ensures limits read property) :
    Ensures limits (decodeTable maximum bound exceeded (decodeFirst read keyOf))
      fun table => EachRecord property table ∧ table.size ≤ bound limits := by
  refine ensures_table fun count hcount => ?_
  refine (ensures_decodeFirst h count .empty).mono fun table htable => ⟨htable.1, ?_⟩
  have hsize := htable.2
  rw [ExtTreeMap.size_empty] at hsize
  omega

end Tables

theorem readsBack_state (hgraph : state.Keyed) (hledger : state.Ledger) (h : state.Decodable) :
    ReadsBack state.limits decodeState (encodeState state) state.persisted := by
  refine readsBack_limits ?_
  simp only [encodeState, List.append_assoc, List.cons_append, List.nil_append]
  exact (readsBack_rack h.rack).append <| (readsBack_generationSet _).append <|
    (readsBack_generation _).cons <| (readsBack_generation _).cons <|
    (readsBack_distinct occupies_member hgraph.members fun hfound =>
      faithful_member.readsBack (h.members _ _ hfound)).append <|
    (readsBack_distinct occupies_relationship hgraph.relationships fun hfound =>
      faithful_relationship.readsBack (h.relationships _ _ hfound)).append <|
    (readsBack_distinct occupies_failureDomain hgraph.failureDomains fun hfound =>
      faithful_failureDomain.readsBack (h.failureDomains _ _ hfound)).append <|
    (faithful_powerEnvelope.optional.readsBack h.power).append <|
    (faithful_coolingEnvelope.optional.readsBack h.cooling).append <|
    (readsBack_first (fun _ => occupies_string _ _) hledger.publishers
      (fun hfound => faithful_publisher.readsBack (h.publishers _ _ hfound))
      fun _ => h.publisherCount).append <|
    (readsBack_first (fun _ => occupies_string _ _) hledger.fencedBoots
      (fun hfound => faithful_fencedBoot.readsBack (h.fencedBoots _ _ hfound)) id).append <|
    (readsBack_distinct occupies_snapshot hledger.snapshots fun hfound =>
      readsBack_snapshot (h.snapshots _ _ hfound) (hledger.digests hfound)).then <| .pure _

theorem ensures_state {limits : ResourceLimits} :
    Ensures limits decodeState fun restored => restored.Decodable ∧ restored.limits = limits := by
  refine Ensures.ofConfig.bind ?_
  rintro _ rfl
  exact ensures_decodeRack.bind fun _ rack => .skip fun _ => .skip fun _ => .skip fun _ =>
    (ensures_distinct faithful_member.ensures).bind fun _ members =>
    (ensures_distinct faithful_relationship.ensures).bind fun _ relationships =>
    (ensures_distinct faithful_failureDomain.ensures).bind fun _ failureDomains =>
    faithful_powerEnvelope.optional.ensures.bind fun _ power =>
    faithful_coolingEnvelope.optional.ensures.bind fun _ cooling =>
    (ensures_first faithful_publisher.ensures).bind fun _ publishers =>
    (ensures_first faithful_fencedBoot.ensures).bind fun _ fencedBoots =>
    (ensures_distinct ensures_snapshot).bind fun _ snapshots =>
    .pure ⟨⟨rack, members, relationships, failureDomains, power, cooling, publishers.1,
      publishers.2, fencedBoots.1, snapshots⟩, rfl⟩

theorem decodeStatePayload_ok {data : Bytes} {limits : ResourceLimits} {restored : RackState}
    (h : decodeStatePayload data limits = .ok restored) :
    restored.Decodable ∧ restored.limits = limits := by
  unfold decodeStatePayload at h
  split at h
  · cases h
  · rename_i hread
    cases h
    exact ensures_state _ _ _ hread
  · cases h

theorem encodeStatePayload_ok {data : Bytes} (h : encodeStatePayload state = .ok data) :
    data = (encodeState state).flatMap WriteOp.bytes ∧
      ∀ op ∈ encodeState state, op.Fits state.limits := by
  unfold encodeStatePayload at h
  simp only at h
  split at h
  · rename_i hok
    cases h
    obtain ⟨hbuffer, hfits⟩ := ByteWriter.writeAll_ok _ hok
    exact ⟨by rw [hbuffer]; rfl, hfits⟩
  · cases h

theorem decode_encode (hgraph : state.Keyed) (hledger : state.Ledger) (hdecodable : state.Decodable)
    {data : Bytes} (h : encodeStatePayload state = .ok data) :
    decodeStatePayload data state.limits = .ok state.persisted := by
  obtain ⟨rfl, hfits⟩ := encodeStatePayload_ok h
  have hread := readsBack_state hgraph hledger hdecodable hfits []
  rw [List.append_nil] at hread
  simp only [decodeStatePayload, hread]

def isReadBack (state : RackState) : Bool :=
  (encodeStatePayload state).toOption.any fun payload =>
    (decodeStatePayload payload state.limits).toOption.any fun restored =>
      restored.rack = state.rack && restored.generations = state.generations &&
        restored.members.toList = state.members.toList &&
        restored.relationships.toList = state.relationships.toList &&
        restored.failureDomains.toList = state.failureDomains.toList &&
        restored.power = state.power && restored.cooling = state.cooling &&
        restored.publishers.toList = state.publishers.toList &&
        restored.fencedBoots.toList = state.fencedBoots.toList &&
        restored.snapshots.toList = state.snapshots.toList

theorem decodable_of_isReadBack (h : state.isReadBack = true) : state.Decodable := by
  unfold isReadBack at h
  cases hpayload : encodeStatePayload state with
  | error error => simp [hpayload, Except.toOption] at h
  | ok payload =>
    cases hdecoded : decodeStatePayload payload state.limits with
    | error error => simp [hpayload, hdecoded, Except.toOption] at h
    | ok restored =>
      obtain ⟨hdecodable, hlimits⟩ := decodeStatePayload_ok hdecoded
      simp only [hpayload, hdecoded, Except.toOption, Option.any_some, Bool.and_eq_true,
        decide_eq_true_eq, ExtTreeMap.toList_inj] at h
      obtain ⟨⟨⟨⟨⟨⟨⟨⟨⟨hrack, hgenerations⟩, hmembers⟩, hrelationships⟩, hdomains⟩, hpower⟩,
        hcooling⟩, hpublishers⟩, hfenced⟩, hsnapshots⟩ := h
      exact hdecodable.of_restores ⟨hrack, hgenerations, hmembers, hrelationships, hdomains, hpower,
        hcooling, hpublishers, hfenced, hsnapshots⟩ hlimits

/-- A rack that a run has built and that can be saved is restored exactly when
everything it holds is decodable. -/
theorem restored_iff_decodable (options : RackFabricOptions) (inputs : List Input) (data : Bytes) :
    let state := Execution.run (step options) (fresh options) inputs
    encodeStatePayload state = .ok data →
      ((∃ restored, decodeStatePayload data state.limits = .ok restored ∧
        restored.Restores state) ↔ state.Decodable) := by
  intro state h
  constructor
  · rintro ⟨restored, hdecoded, hsame⟩
    obtain ⟨hdecodable, hlimits⟩ := decodeStatePayload_ok hdecoded
    exact hdecodable.of_restores hsame hlimits
  · intro hdecodable
    exact ⟨state.persisted, decode_encode (wellFormed_run options inputs).toKeyed
      (ledger_run options inputs) hdecodable h, persisted_restores state⟩

theorem equipped_rack_restored_iff :
    ∃ data, encodeStatePayload (Scenario.run Scenario.equippedRack) = .ok data ∧
      ((∃ restored,
          decodeStatePayload data (Scenario.run Scenario.equippedRack).limits = .ok restored ∧
            restored.Restores (Scenario.run Scenario.equippedRack)) ↔
        (Scenario.run Scenario.equippedRack).Decodable) := by
  have hencoded :
      (encodeStatePayload (Scenario.run Scenario.equippedRack)).toOption.isSome = true := by
    decide +kernel
  cases h : encodeStatePayload (Scenario.run Scenario.equippedRack) with
  | error error => simp [h, Except.toOption] at hencoded
  | ok data => exact ⟨data, rfl, restored_iff_decodable Scenario.defaults _ data h⟩

/-- The lifetime of health that asserts nothing is not validated. -/
def unvalidatedInputs : List Input :=
  [Scenario.declareRack,
    Scenario.publishMember Scenario.operator
      { key := Scenario.node "node-a", health := { ttl := -1 } }]

theorem unvalidated_lifetime_not_restored :
    ¬ ∀ data, encodeStatePayload (Scenario.run unvalidatedInputs) = .ok data →
      ∃ restored,
        decodeStatePayload data (Scenario.run unvalidatedInputs).limits = .ok restored ∧
          restored.Restores (Scenario.run unvalidatedInputs) := by
  intro h
  have hencoded : (encodeStatePayload (Scenario.run unvalidatedInputs)).toOption.isSome = true := by
    decide +kernel
  have hrefused : ((encodeStatePayload (Scenario.run unvalidatedInputs)).toOption.bind fun data =>
      (decodeStatePayload data (Scenario.run unvalidatedInputs).limits).toOption).isNone = true := by
    decide +kernel
  cases hdata : encodeStatePayload (Scenario.run unvalidatedInputs) with
  | error error => simp [hdata, Except.toOption] at hencoded
  | ok data =>
    obtain ⟨restored, hdecoded, -⟩ := h data hdata
    simp [hdata, hdecoded, Except.toOption] at hrefused

end RackState

end RackFabric
