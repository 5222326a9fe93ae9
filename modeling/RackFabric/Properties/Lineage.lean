import RackFabric.Properties.Consistency
import RackFabric.Properties.Corruption
import RackFabric.Properties.Restored

/-! Coordinator incarnations under one configuration: whatever is saved, torn, loaded and
restarted, the state in force stays consistent. -/
namespace RackFabric
open Std Tables RackGraph RackState

namespace RackGraph
variable {graph after : RackGraph}

structure SameReferences (graph after : RackGraph) : Prop where
  members : ∀ key : MemberKey,
    after.members[key]?.map (fun record => (record.parent, record.failureDomains)) =
      graph.members[key]?.map fun record => (record.parent, record.failureDomains)
  relationships : ∀ key : RelationshipKey, key ∈ after.relationships ↔ key ∈ graph.relationships
  failureDomains : ∀ id : FailureDomainId,
    after.failureDomains[id]?.map (·.parents) = graph.failureDomains[id]?.map (·.parents)

namespace SameReferences
variable (h : SameReferences graph after)
include h

theorem found {key : MemberKey} {record : MemberRecord}
    (hfound : after.members[key]? = some record) :
    ∃ old, graph.members[key]? = some old ∧ old.parent = record.parent ∧
      old.failureDomains = record.failureDomains := by
  have hsame := h.members key
  rw [hfound, Option.map_some] at hsame
  obtain ⟨old, hold, hreferences⟩ := Option.map_eq_some_iff.mp hsame.symm
  rw [Prod.mk.injEq] at hreferences
  exact ⟨old, hold, hreferences.1, hreferences.2⟩

theorem mem_members {key : MemberKey} : key ∈ after.members ↔ key ∈ graph.members := by
  have hsame := congrArg Option.isSome (h.members key)
  rw [Option.isSome_map, Option.isSome_map] at hsame
  rw [ExtTreeMap.mem_iff_isSome_getElem?, ExtTreeMap.mem_iff_isSome_getElem?, hsame]

theorem mem_failureDomains {id : FailureDomainId} :
    id ∈ after.failureDomains ↔ id ∈ graph.failureDomains := by
  have hsame := congrArg Option.isSome (h.failureDomains id)
  rw [Option.isSome_map, Option.isSome_map] at hsame
  rw [ExtTreeMap.mem_iff_isSome_getElem?, ExtTreeMap.mem_iff_isSome_getElem?, hsame]

theorem domainFound {id : FailureDomainId} {record : FailureDomainRecord}
    (hfound : after.failureDomains[id]? = some record) :
    ∃ old, graph.failureDomains[id]? = some old ∧ old.parents = record.parents := by
  have hsame := h.failureDomains id
  rw [hfound, Option.map_some] at hsame
  obtain ⟨old, hold, hparents⟩ := Option.map_eq_some_iff.mp hsame.symm
  exact ⟨old, hold, hparents⟩

theorem parentOf_eq (key : MemberKey) : after.parentOf key = graph.parentOf key := by
  have hsame := congrArg (·.bind Prod.fst) (h.members key)
  simpa [parentOf, Option.bind_map, Function.comp_def] using hsame

theorem parentsOf_eq (id : FailureDomainId) : after.parentsOf id = graph.parentsOf id := by
  have hsame := h.failureDomains id
  unfold parentsOf
  cases hafter : after.failureDomains[id]? <;> cases hgraph : graph.failureDomains[id]? <;>
    simp_all

theorem integrity (hintegrity : graph.Integrity) (hkeyed : after.Keyed) : after.Integrity where
  toKeyed := hkeyed
  parent_mem hfound hparent := by
    obtain ⟨old, hold, hsame, -⟩ := h.found hfound
    exact h.mem_members.mpr (hintegrity.parent_mem hold (hsame.trans hparent))
  domain_mem hfound hdomain := by
    obtain ⟨old, hold, -, hsame⟩ := h.found hfound
    exact h.mem_failureDomains.mpr (hintegrity.domain_mem hold (hsame ▸ hdomain))
  domainParent_mem hfound hparent := by
    obtain ⟨old, hold, hsame⟩ := h.domainFound hfound
    exact h.mem_failureDomains.mpr (hintegrity.domainParent_mem hold (hsame ▸ hparent))
  canonical hmem := hintegrity.canonical ((h.relationships _).mp hmem)
  distinct hmem := hintegrity.distinct ((h.relationships _).mp hmem)
  source_mem hmem := h.mem_members.mpr (hintegrity.source_mem ((h.relationships _).mp hmem))
  target_mem hmem := h.mem_members.mpr (hintegrity.target_mem ((h.relationships _).mp hmem))
  parents_acyclic := by
    have hedge : after.ParentEdge = graph.ParentEdge := by
      funext child parent
      rw [ParentEdge, ParentEdge, h.parentOf_eq]
    exact hedge ▸ hintegrity.parents_acyclic
  domains_acyclic := by
    have hedge : after.DomainEdge = graph.DomainEdge := by
      funext domain parent
      rw [DomainEdge, DomainEdge, h.parentsOf_eq]
    exact hedge ▸ hintegrity.domains_acyclic
  contains_acyclic := by
    have hedge : after.ContainsEdge = graph.ContainsEdge := by
      funext content container
      exact propext (h.relationships _)
    exact hedge ▸ hintegrity.contains_acyclic

end SameReferences

/-- Rebuilt indexes mirror the tables they are rebuilt from. -/
theorem WellFormed.rebuilt (h : graph.Integrity) : graph.rebuildIndexes.WellFormed where
  toIntegrity := by
    refine SameReferences.integrity ⟨fun key => ?_, fun key => ?_, fun id => ?_⟩ h
      (Orderly.rebuilt h.toKeyed).toKeyed
    · rw [members_rebuildIndexes]
    · rw [relationships_rebuildIndexes]
    · rw [failureDomains_rebuildIndexes]
  kinds := byKind.rebuilt h.toKeyed fun _ _ => rfl
  powerDomains := byPowerDomain.rebuilt h.toKeyed fun _ _ => rfl
  coolingDomains := byCoolingDomain.rebuilt h.toKeyed fun _ _ => rfl
  owners := byOwnerBoot.rebuilt h.toKeyed fun _ _ => rfl
  children := byParent.rebuilt h.toKeyed fun _ _ => rfl
  touching := relationships_rebuilt h.toKeyed
  domainChildren := domainChildren_rebuilt h.toDomainsKeyed

end RackGraph

/-! What the recovery policy does to the records. -/

theorem recoverMember_kept (record : MemberRecord) :
    (recoverMember record).key = record.key ∧
      (recoverMember record).generation = record.generation ∧
      (recoverMember record).lifecycle = record.lifecycle ∧
      (recoverMember record).observedAt = record.observedAt ∧
      (recoverMember record).parent = record.parent ∧
      (recoverMember record).failureDomains = record.failureDomains ∧
      (recoverMember record).capabilities.length = record.capabilities.length := by
  unfold recoverMember
  split <;> simp

theorem MemberRecord.Admissible.recovered {limits : ResourceLimits} {record : MemberRecord}
    (h : record.Admissible limits) : (recoverMember record).Admissible limits := by
  obtain ⟨-, -, hlifecycle, hobserved, -, hdomains, hcapabilities⟩ := recoverMember_kept record
  exact h.mono (fun hretired => hlifecycle ▸ hretired) hobserved hdomains
    (Nat.le_of_eq hcapabilities)

theorem generation_recoverPower (record : PowerEnvelopeRecord) :
    (recoverPower record).generation = record.generation := by
  unfold recoverPower
  simp only
  split <;> rfl

theorem generation_recoverCooling (record : CoolingEnvelopeRecord) :
    (recoverCooling record).generation = record.generation := by
  unfold recoverCooling
  simp only
  split <;> rfl

theorem PowerEnvelopeRecord.Accounted.recovered {record : PowerEnvelopeRecord}
    (h : record.Accounted) : (recoverPower record).Accounted := by
  refine ⟨by rw [generation_recoverPower]; exact h.numbered, ?_⟩
  unfold recoverPower
  simp only
  split
  · intro hsome
    cases hsome
  · exact h.supported

theorem CoolingEnvelopeRecord.Accounted.recovered {record : CoolingEnvelopeRecord}
    (h : record.Accounted) : (recoverCooling record).Accounted := by
  refine ⟨by rw [generation_recoverCooling]; exact h.numbered, ?_⟩
  unfold recoverCooling
  simp only
  split
  · intro zone hzone
    obtain ⟨old, -, rfl⟩ := List.mem_map.mp hzone
    exact fun hsome => by cases hsome
  · exact h.supported

namespace RackGraph
variable {graph : RackGraph}

def recovered (graph : RackGraph) : RackGraph :=
  { graph with
    members := graph.members.map fun _ => recoverMember
    relationships := graph.relationships.map fun _ => recoverRelationship
    failureDomains := graph.failureDomains.map fun _ => recoverFailureDomain }

theorem sameReferences_recovered (graph : RackGraph) : SameReferences graph graph.recovered where
  members key := by
    rw [recovered, ExtTreeMap.getElem?_map, Option.map_map]
    congr 1
    funext record
    obtain ⟨-, -, -, -, hparent, hdomains, -⟩ := recoverMember_kept record
    simp [hparent, hdomains]
  relationships key := by rw [recovered, ExtTreeMap.mem_map]
  failureDomains id := by
    rw [recovered, ExtTreeMap.getElem?_map, Option.map_map]
    rfl

theorem keyed_recovered (h : graph.Keyed) : graph.recovered.Keyed where
  members hfound := by
    obtain ⟨old, hold, rfl⟩ := getElem?_map_cases hfound
    rw [(recoverMember_kept old).1, h.members hold]
  relationships hfound := by
    obtain ⟨old, hold, rfl⟩ := getElem?_map_cases hfound
    have hkey : old.key = _ := h.relationships hold
    exact hkey
  failureDomains hfound := by
    obtain ⟨old, hold, rfl⟩ := getElem?_map_cases hfound
    have hkey : old.id = _ := h.failureDomains hold
    exact hkey

end RackGraph

namespace RackState
variable {options : RackFabricOptions} {state : RackState} {epoch : CoordinatorEpoch}

/-- Saving a state and decoding it leaves it consistent. -/
theorem Consistent.adopted (h : Consistent options state) :
    Consistent options (adoptCandidate options state.persisted) where
  wellFormed := by
    have hsame : SameReferences state.toRackGraph state.persisted.toRackGraph :=
      ⟨fun _ => rfl, fun _ => Iff.rfl, fun _ => rfl⟩
    have hkeyed := h.wellFormed.toKeyed
    exact .rebuilt (hsame.integrity h.wellFormed.toIntegrity
      ⟨⟨hkeyed.members, hkeyed.failureDomains⟩, hkeyed.relationships⟩)
  bound := ⟨h.bound.dated, rfl⟩
  ledger := by
    refine ⟨h.ledger.publishers, h.ledger.fencedBoots, h.ledger.snapshots, fun hfound => ?_⟩
    have hdigest := h.ledger.digests hfound
    rwa [h.bound.limits] at hdigest
  bounded := by
    refine ⟨⟨?_, ?_, h.bounded.power, h.bounded.cooling⟩, fun _ _ hfound => ?_⟩
    · simp only [adoptCandidate, relationships_rebuildIndexes]
      exact h.bounded.relationships
    · simp only [adoptCandidate, failureDomains_rebuildIndexes]
      exact h.bounded.failureDomains
    · obtain ⟨hgenerations, hgeneration, hpublication⟩ := h.bounded.snapshots _ _ hfound
      exact ⟨hgenerations, hgeneration, hpublication⟩
  rackNumbered := h.rackNumbered
  membersNumbered := by
    simp only [adoptCandidate, members_rebuildIndexes]
    exact h.membersNumbered
  membersAdmissible := by
    simp only [adoptCandidate, members_rebuildIndexes]
    exact h.membersAdmissible
  membersFit := by
    simp only [adoptCandidate, members_rebuildIndexes]
    exact h.membersFit
  relationshipsNumbered := by
    simp only [adoptCandidate, relationships_rebuildIndexes]
    exact h.relationshipsNumbered
  power := h.power
  cooling := h.cooling
  publishers := h.publishers
  cleared := by
    simp only [adoptCandidate, members_rebuildIndexes]
    exact h.cleared

@[simp] theorem members_recovered : (applyRecoveryPolicy state epoch).members =
    state.members.map fun _ => recoverMember :=
  members_rebuildIndexes

@[simp] theorem relationships_recovered : (applyRecoveryPolicy state epoch).relationships =
    state.relationships.map fun _ => recoverRelationship :=
  relationships_rebuildIndexes

@[simp] theorem failureDomains_recovered : (applyRecoveryPolicy state epoch).failureDomains =
    state.failureDomains.map fun _ => recoverFailureDomain :=
  failureDomains_rebuildIndexes

theorem publishers_recovered : (applyRecoveryPolicy state epoch).publishers =
    state.publishers.map fun _ publisher => { publisher with state := .lost } := rfl

/-- The recovery takes no generation back. -/
theorem grown_recovered (hnext : state.generations.coordinatorEpoch.advance = some epoch) :
    Grown state (applyRecoveryPolicy state epoch) where
  generations tag := by
    cases tag with
    | coordinatorEpoch => exact Nat.le_of_lt (UInt64.lt_iff_toNat_lt.mp (lt_of_advance hnext))
    | _ => exact Nat.le_refl _
  snapshot := Generation.le_refl _
  operator := Generation.le_refl _
  publishers := Followed.map fun _ _ _ => ⟨Generation.le_refl _, rfl⟩

theorem bounded_recovered (h : state.Bounded)
    (hnext : state.generations.coordinatorEpoch.advance = some epoch) :
    (applyRecoveryPolicy state epoch).Bounded where
  relationships := by
    rw [relationships_recovered]
    exact h.relationships.map fun _ => rfl
  failureDomains := by
    rw [failureDomains_recovered]
    exact h.failureDomains.map fun _ => rfl
  power envelope hsome := by
    obtain ⟨old, hold, rfl⟩ := Option.map_eq_some_iff.mp hsome
    rw [generation_recoverPower]
    exact h.power old hold
  cooling envelope hsome := by
    obtain ⟨old, hold, rfl⟩ := Option.map_eq_some_iff.mp hsome
    rw [generation_recoverCooling]
    exact h.cooling old hold
  snapshots _ _ hfound := (grown_recovered hnext).boundsSnapshot (h.snapshots _ _ hfound)

theorem Ledger.recovered (h : state.Ledger) : (applyRecoveryPolicy state epoch).Ledger :=
  (h.withPublishers fun hfound => by
    obtain ⟨old, hold, rfl⟩ := getElem?_map_cases hfound
    have hboot := h.publishers hold
    exact hboot).of_eq rfl rfl rfl rfl

theorem Consistent.recovered (h : Consistent options state)
    (hnext : state.generations.coordinatorEpoch.advance = some epoch) :
    Consistent options (applyRecoveryPolicy state epoch) where
  wellFormed := .rebuilt ((sameReferences_recovered _).integrity h.wellFormed.toIntegrity
    (keyed_recovered h.wellFormed.toKeyed))
  bound := h.bound.of_eq rfl rfl rfl
  ledger := h.ledger.recovered
  bounded := bounded_recovered h.bounded hnext
  rackNumbered := h.rackNumbered
  membersNumbered key record hfound := by
    rw [members_recovered] at hfound
    obtain ⟨old, hold, rfl⟩ := getElem?_map_cases hfound
    rw [(recoverMember_kept old).2.1]
    exact h.membersNumbered key old hold
  membersAdmissible key record hfound := by
    rw [members_recovered] at hfound
    obtain ⟨old, hold, rfl⟩ := getElem?_map_cases hfound
    exact (h.membersAdmissible key old hold).recovered
  membersFit := by
    rw [members_recovered, ExtTreeMap.size_map]
    exact h.membersFit
  relationshipsNumbered key record hfound := by
    rw [relationships_recovered] at hfound
    obtain ⟨old, hold, rfl⟩ := getElem?_map_cases hfound
    exact h.relationshipsNumbered key old hold
  power power hsome := by
    obtain ⟨old, hold, rfl⟩ := Option.map_eq_some_iff.mp hsome
    exact (h.power old hold).recovered
  cooling cooling hsome := by
    obtain ⟨old, hold, rfl⟩ := Option.map_eq_some_iff.mp hsome
    exact (h.cooling old hold).recovered
  publishers boot record hfound hlive := by
    rw [publishers_recovered] at hfound
    obtain ⟨old, -, rfl⟩ := getElem?_map_cases hfound
    exact absurd (Or.inl rfl) hlive
  cleared hended key record hfound := by
    rw [members_recovered] at hfound
    obtain ⟨old, hold, rfl⟩ := getElem?_map_cases hfound
    rw [(recoverMember_kept old).2.2.1]
    exact h.cleared hended key old hold

end RackState

/-! Files that come from a save, whole or torn. -/

theorem loadU64_encodeFile {payload : Bytes} (h : payload.length < 2 ^ 64) :
    loadU64 (encodeFile payload) 16 = payload.length :=
  loadAt_field (kFileMagic ++ LittleEndian.encode 4 kPersistenceFormatVersion ++
    LittleEndian.encode 4 0) _ (by rw [encodeFile_eq, List.append_assoc, List.append_assoc])
    (by decide) (by omega)

/-- A torn file does not pass for a whole one. -/
theorem whole_of_parsed {payload file parsed : Bytes} {maxPersistedBytes : UInt64}
    (hwritten : file <+: encodeFile payload) (hpayload : payload.length < 2 ^ 64)
    (hsmall : file.length < 2 ^ 64) (hparsed : parseFile file maxPersistedBytes = .ok parsed) :
    file = encodeFile payload := by
  have hsealed := (sealedFile_of_parseFile hsmall hparsed).size
  simp only [kHeaderBytes, kTrailerBytes] at hsealed
  have hfield : loadU64 file 16 = payload.length := by
    rw [← loadU64_encodeFile hpayload]
    exact (loadAt_of_initial hwritten (by omega)).symm
  apply hwritten.eq_of_length
  rw [hsealed, hfield, length_encodeFile]
  rfl

/-- The file is what a save of the state wrote, or a part of it. -/
structure SavedFrom (options : RackFabricOptions) (state : RackState) (file : Bytes) : Prop where
  consistent : Consistent options state
  decodable : state.Decodable
  written : ∃ (persistence : PersistenceOptions) (bytes : Bytes),
    saveState state options.limits persistence = .ok bytes ∧ file <+: bytes

theorem readCandidate_eq_ok {options : RackFabricOptions} {file : Option Bytes} {readable : Bool}
    {candidate : RackState} (h : readCandidate options file readable = .ok candidate) :
    ∃ data payload decoded, file = some data ∧
      data.length ≤ options.limits.maxPersistedBytes.toNat ∧
      parseFile data options.limits.maxPersistedBytes = .ok payload ∧
      decodeStatePayload payload options.limits = .ok decoded ∧
      candidate = adoptCandidate options decoded := by
  unfold readCandidate at h
  cases hread : readFile file readable options.limits.maxPersistedBytes with
  | error failure => simp [hread, bind, Except.bind] at h
  | ok data =>
    obtain ⟨hfile, hsmall⟩ := readFile_eq_ok hread
    cases hparsed : parseFile data options.limits.maxPersistedBytes with
    | error failure => simp [hread, hparsed, bind, Except.bind] at h
    | ok payload =>
      cases hdecoded : decodeStatePayload payload options.limits with
      | error failure => simp [hread, hparsed, hdecoded, bind, Except.bind] at h
      | ok decoded =>
        simp only [hread, hparsed, hdecoded, bind, Except.bind, pure, Except.pure,
          Except.ok.injEq] at h
        exact ⟨data, payload, decoded, hfile, hsmall, hparsed, hdecoded, h.symm⟩

/-- The file of a state is read back whole as that state, or not at all. -/
theorem readCandidate_own {options : RackFabricOptions} {state candidate : RackState}
    (h : Consistent options state) (hdecodable : state.Decodable) {payload file : Bytes}
    (hpayload : encodeStatePayload state = .ok payload) (hlength : payload.length < 2 ^ 64)
    (hwritten : file <+: encodeFile payload) {readable : Bool}
    (hcandidate : readCandidate options (some file) readable = .ok candidate) :
    file = encodeFile payload ∧
      kHeaderBytes + payload.length + kTrailerBytes ≤ options.limits.maxPersistedBytes.toNat ∧
      candidate = adoptCandidate options state.persisted := by
  obtain ⟨data, parsed, decoded, hfile, hsmall, hparsed, hdecoded, rfl⟩ :=
    readCandidate_eq_ok hcandidate
  cases hfile
  have hmax := options.limits.maxPersistedBytes.toNat_lt
  obtain rfl := whole_of_parsed hwritten hlength (by omega) hparsed
  rw [length_encodeFile] at hsmall
  refine ⟨rfl, hsmall, ?_⟩
  simp only [kHeaderBytes, kTrailerBytes] at hsmall
  obtain rfl := Except.ok.inj (hparsed.symm.trans (parseFile_encodeFile (by omega) (by omega)))
  have hpersisted := decode_encode h.wellFormed.toKeyed h.ledger hdecodable hpayload
  rw [h.bound.limits] at hpersisted
  rw [Except.ok.inj (hdecoded.symm.trans hpersisted)]

/-- The file of a state takes effect as that state, or not at all. -/
theorem SavedFrom.loaded {options : RackFabricOptions} {state loaded : RackState} {file : Bytes}
    (h : SavedFrom options state file) {now : Timestamp} {readable : Bool}
    (hloaded : loadState options now (some file) readable = .ok loaded) :
    ∃ epoch, state.generations.coordinatorEpoch.advance = some epoch ∧
      loaded = applyRecoveryPolicy (adoptCandidate options state.persisted) epoch := by
  obtain ⟨candidate, epoch, hcandidate, -, hnext, rfl⟩ := loadState_ok hloaded
  obtain ⟨persistence, bytes, hsaved, hwritten⟩ := h.written
  obtain ⟨payload, hpayload, rfl, hbound⟩ := saveState_eq_ok hsaved
  have hlength : payload.length < 2 ^ 64 :=
    Nat.lt_of_le_of_lt hbound (min persistence.maxBytes options.limits.maxPersistedBytes).toNat_lt
  obtain ⟨-, -, rfl⟩ :=
    readCandidate_own h.consistent h.decodable hpayload hlength hwritten hcandidate
  exact ⟨epoch, hnext, rfl⟩

/-- Another incarnation of a rack goes on under the same options, and what a save writes can be
decoded. -/
def Deployment.Proper (options : RackFabricOptions) (deployment : Deployment) : Operation → Prop
  | .restart later => later = options
  | .save persistence _ => ∀ bytes,
      saveState deployment.live deployment.options.limits persistence = .ok bytes →
        deployment.live.Decodable
  | _ => True

namespace Deployment
variable {options : RackFabricOptions} {deployment : Deployment}

/-- The state in force is consistent, and so is the one that the file was saved from. -/
structure Lineage (options : RackFabricOptions) (deployment : Deployment) : Prop where
  configured : deployment.options = options
  live : Consistent options deployment.live
  file : ∀ file, deployment.file = some file → ∃ state, SavedFrom options state file

theorem Lineage.step (h : Lineage options deployment) {operation : Operation}
    (hproper : Proper options deployment operation) :
    Lineage options (deployment.step operation) := by
  obtain ⟨file, current, live⟩ := deployment
  obtain rfl : current = options := h.configured
  cases operation with
  | restart later =>
    obtain rfl : later = current := hproper
    exact ⟨rfl, consistent_fresh later, h.file⟩
  | mutate input => exact ⟨rfl, h.live.step input, h.file⟩
  | save persistence outcome =>
    simp only [Deployment.step]
    cases hsaved : saveState live current.limits persistence with
    | error failure => exact h
    | ok bytes =>
      have hwritten : ∀ part, part <+: bytes → SavedFrom current live part := fun part hpart =>
        ⟨h.live, hproper bytes hsaved, persistence, bytes, hsaved, hpart⟩
      refine ⟨rfl, h.live, fun part hpart => ?_⟩
      cases outcome with
      | completed =>
        obtain rfl := Option.some.inj hpart
        exact ⟨live, hwritten bytes (List.prefix_refl bytes)⟩
      | unopened => exact h.file part hpart
      | interrupted left =>
        simp only [writeFile] at hpart
        split at hpart
        · exact h.file part hpart
        · obtain ⟨count, -, rfl⟩ := Option.map_eq_some_iff.mp hpart
          exact ⟨live, hwritten _ (List.take_prefix count bytes)⟩
  | load now readable =>
    simp only [Deployment.step]
    cases hloaded : loadState current now file readable with
    | error failure => exact h
    | ok loaded =>
      cases file with
      | none =>
        obtain ⟨candidate, epoch, hcandidate, -⟩ := loadState_ok hloaded
        cases hcandidate
      | some file =>
        obtain ⟨state, hstate⟩ := h.file file rfl
        obtain ⟨epoch, hnext, rfl⟩ := hstate.loaded hloaded
        exact ⟨rfl, hstate.consistent.adopted.recovered hnext, h.file⟩

theorem lineage_start (options : RackFabricOptions) : Lineage options (start none options) :=
  ⟨rfl, consistent_fresh options, fun _ hfile => by cases hfile⟩

theorem lineage_after (options : RackFabricOptions) (operations : List Operation)
    (hproper : Execution.EachStep step (Proper options) (start none options) operations) :
    Lineage options (after none options operations) :=
  Execution.invariant_of_eachStep step (fun _ _ h hstep => h.step hstep) (lineage_start options)
    operations hproper

def equipped : List Operation := Scenario.equippedRack.map .mutate

theorem decodable_equipped : (Scenario.run Scenario.equippedRack).Decodable :=
  decodable_of_isReadBack (by decide +kernel)

theorem equipped_proper :
    Execution.EachStep step (Proper Scenario.defaults) (start none Scenario.defaults) equipped := by
  simp only [equipped, Scenario.equippedRack, List.map_cons, List.map_nil, Execution.eachStep_cons]
  exact ⟨trivial, trivial, trivial, trivial, trivial, trivial, trivial, trivial,
    Execution.eachStep_nil _ _ _⟩

def takenOver : List Operation :=
  equipped ++ [.save {} .completed, .restart Scenario.defaults, .load ⟨2000⟩ true,
    .mutate (Scenario.publishMember { Scenario.operator with coordinatorEpoch := ⟨2⟩ }
      { key := Scenario.node "c", parent := some (Scenario.node "a") })]

theorem takenOver_proper :
    Execution.EachStep step (Proper Scenario.defaults) (start none Scenario.defaults)
      takenOver := by
  simp only [takenOver, equipped, Scenario.equippedRack, List.map_cons, List.map_nil,
    List.cons_append, List.nil_append, Execution.eachStep_cons]
  exact ⟨trivial, trivial, trivial, trivial, trivial, trivial, trivial, trivial,
    fun _ _ => decodable_equipped, rfl, trivial, trivial, Execution.eachStep_nil _ _ _⟩

end Deployment

end RackFabric
