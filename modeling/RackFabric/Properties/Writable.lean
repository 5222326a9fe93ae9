import RackFabric.Properties.Codec
import RackFabric.Properties.Revisions

/-! Which bounds of the writer the records of a state must meet. -/
namespace RackFabric
open Std Tables Relation

namespace WriteOp

def AllFit (limits : ResourceLimits) (ops : List WriteOp) : Prop :=
  ∀ op ∈ ops, op.Fits limits

section
variable {limits : ResourceLimits}

@[simp] theorem allFit_nil : AllFit limits [] := fun _ hmem => by cases hmem

@[simp] theorem allFit_cons {op : WriteOp} {ops : List WriteOp} :
    AllFit limits (op :: ops) ↔ op.Fits limits ∧ AllFit limits ops :=
  List.forall_mem_cons

@[simp] theorem allFit_append {ops rest : List WriteOp} :
    AllFit limits (ops ++ rest) ↔ AllFit limits ops ∧ AllFit limits rest :=
  List.forall_mem_append

@[simp] theorem allFit_flatMap {α : Type} {write : α → List WriteOp} {values : List α} :
    AllFit limits (values.flatMap write) ↔ ∀ value ∈ values, AllFit limits (write value) := by
  simp only [AllFit, List.mem_flatMap]
  constructor
  · intro h value hvalue op hop
    exact h op ⟨value, hvalue, hop⟩
  · rintro h op ⟨value, hvalue, hop⟩
    exact h value hvalue op hop

/-! Only texts and counts are bounded. -/

@[simp] theorem fits_u8 (value : UInt8) : (u8 value).Fits limits := trivial

@[simp] theorem fits_raw (bytes : Bytes) : (raw bytes).Fits limits := trivial

@[simp] theorem fits_u32 (value : UInt32) : (u32 value).Fits limits := trivial

@[simp] theorem fits_u64 (value : UInt64) : (u64 value).Fits limits := trivial

@[simp] theorem fits_i64 (value : Int64) : (i64 value).Fits limits := trivial

@[simp] theorem fits_f64 (value : Double) : (f64 value).Fits limits := trivial

@[simp] theorem fits_boolean (value : Bool) : (boolean value).Fits limits := trivial

@[simp] theorem fits_enum {α : Type} [DecidableEq α] [Enumeration.Enum8 α] (value : α) :
    (enum value).Fits limits := trivial

@[simp] theorem fits_timestamp (value : Timestamp) : (timestamp value).Fits limits := trivial

@[simp] theorem fits_generation {tag : GenerationTag} (value : Generation tag) :
    (generation value).Fits limits := trivial

@[simp] theorem fits_count_zero (maximum : ResourceLimits → Nat) :
    (count 0 maximum).Fits limits := by
  simp [Fits]

@[simp] theorem allFit_optional {α : Type} {write : α → List WriteOp} {value : Option α} :
    AllFit limits (optional write value) ↔ ∀ found ∈ value, AllFit limits (write found) := by
  cases value <;> simp [optional]

theorem allFit_many {α : Type} {maximum : ResourceLimits → Nat} {write : α → List WriteOp}
    {values : List α} :
    AllFit limits (many maximum write values) ↔
      (count values.length maximum).Fits limits ∧
        ∀ value ∈ values, AllFit limits (write value) := by
  rw [many, allFit_cons, allFit_flatMap]

theorem Fits.count_mono {value smaller : Nat} {maximum : ResourceLimits → Nat}
    (h : (count value maximum).Fits limits) (hle : smaller ≤ value) :
    (count smaller maximum).Fits limits := by
  simp only [Fits] at h ⊢
  omega

@[simp] theorem allFit_optionalU32 (value : Option UInt32) : AllFit limits (optionalU32 value) := by
  simp [optionalU32]

@[simp] theorem allFit_optionalU64 (value : Option UInt64) : AllFit limits (optionalU64 value) := by
  simp [optionalU64]

@[simp] theorem allFit_optionalDouble (value : Option Double) :
    AllFit limits (optionalDouble value) := by
  simp [optionalDouble]

@[simp] theorem allFit_optionalEnum {α : Type} [DecidableEq α] [Enumeration.Enum8 α]
    (value : Option α) : AllFit limits (optionalEnum value) := by
  simp [optionalEnum]

@[simp] theorem allFit_observation (evidence : Observation) :
    AllFit limits (encodeObservation evidence) := by
  simp [encodeObservation]

@[simp] theorem allFit_quantity (quantity : Quantity) :
    AllFit limits (encodeQuantity quantity) := by
  simp [encodeQuantity]

@[simp] theorem allFit_evidence {α : Type} [Inhabited α] [DecidableEq α] [Enumeration.Enum8 α]
    (evidence : EvidenceValue α) : AllFit limits (encodeEvidence evidence) := by
  simp [encodeEvidence]

@[simp] theorem allFit_generationSet (generations : GenerationSet) :
    AllFit limits (encodeGenerationSet generations) := by
  simp [encodeGenerationSet]

end

end WriteOp

open WriteOp

/-! Records with the same texts. -/

section Records
variable {limits : ResourceLimits}

structure MemberRecord.Encodable (limits : ResourceLimits) (record : MemberRecord) : Prop where
  key : AllFit limits (encodeMemberKey record.key)
  ownerWorker : AllFit limits (optionalId record.ownerWorker)
  ownerBoot : AllFit limits (optionalId record.ownerBoot)
  parent : AllFit limits (optional encodeMemberKey record.parent)
  failureDomains : AllFit limits
    (many (·.maxCollectionItems) (fun domain => [string domain.value]) record.failureDomains)
  powerDomain : AllFit limits (optionalId record.powerDomain)
  coolingDomain : AllFit limits (optionalId record.coolingDomain)
  switchDomain : AllFit limits (optionalId record.switchDomain)
  capabilities : AllFit limits (many (·.maxCollectionItems) encodeCapability record.capabilities)
  details : AllFit limits (encodeDetails record.details)
  source : AllFit limits (optionalString record.source)

theorem allFit_encodeMember {record : MemberRecord} :
    AllFit limits (encodeMember record) ↔ record.Encodable limits := by
  simp only [encodeMember, allFit_append, allFit_cons, allFit_nil, fits_enum, fits_generation,
    allFit_observation, allFit_evidence, and_true]
  constructor
  · rintro ⟨⟨⟨⟨⟨⟨⟨⟨⟨⟨hkey, hworker⟩, hboot⟩, hparent⟩, hdomains⟩, hpower⟩, hcooling⟩, hswitch⟩,
      hcapabilities⟩, hdetails⟩, hsource⟩
    exact ⟨hkey, hworker, hboot, hparent, hdomains, hpower, hcooling, hswitch, hcapabilities,
      hdetails, hsource⟩
  · rintro ⟨hkey, hworker, hboot, hparent, hdomains, hpower, hcooling, hswitch, hcapabilities,
      hdetails, hsource⟩
    exact ⟨⟨⟨⟨⟨⟨⟨⟨⟨⟨hkey, hworker⟩, hboot⟩, hparent⟩, hdomains⟩, hpower⟩, hcooling⟩, hswitch⟩,
      hcapabilities⟩, hdetails⟩, hsource⟩

theorem allFit_capabilities_nil :
    AllFit limits (many (·.maxCollectionItems) encodeCapability []) := by
  simp [many]

/-- Evidence of a capability is no text. -/
theorem allFit_capabilities_map {capabilities : List CapabilityRef}
    {revise : CapabilityRef → CapabilityRef}
    (hrevise : ∀ capability, (revise capability).id = capability.id ∧
      (revise capability).value = capability.value)
    (h : AllFit limits (many (·.maxCollectionItems) encodeCapability capabilities)) :
    AllFit limits (many (·.maxCollectionItems) encodeCapability (capabilities.map revise)) := by
  rw [allFit_many] at h ⊢
  refine ⟨by simpa using h.1, List.forall_mem_map.mpr fun capability hmem => ?_⟩
  have hfit := h.2 capability hmem
  simpa [encodeCapability, hrevise capability] using hfit

/-- Rewriting brings no text into a member. -/
theorem MemberRecord.Encodable.rewrite {existing record : MemberRecord}
    (hrewrite : existing.Rewrite record) (h : existing.Encodable limits) :
    record.Encodable limits := by
  cases hrewrite with
  | withdrawn scope =>
    cases scope with
    | all | capabilities => exact { h with capabilities := allFit_capabilities_nil }
    | details => exact { h with details := by simp [RackState.withdrawn, encodeDetails] }
    | _ => exact { h with }
  | detached parent =>
    unfold RackGraph.detached
    split
    · exact { h with parent := by simp }
    · exact h
  | fenced reason =>
    refine { h with capabilities := allFit_capabilities_map (fun capability => ?_) h.capabilities }
    split <;> exact ⟨rfl, rfl⟩
  | _ => exact { h with }

end Records

section Tables
variable {κ ρ : Type} [Ord κ] [TransOrd κ] {limits : ResourceLimits}
  {maximum : ResourceLimits → Nat} {write : ρ → List WriteOp} {table later : ExtTreeMap κ ρ}

def RecordsFit (limits : ResourceLimits) (write : ρ → List WriteOp) (table : ExtTreeMap κ ρ) :
    Prop :=
  ∀ (key : κ) (record : ρ), table[key]? = some record → AllFit limits (write record)

structure TableFits (limits : ResourceLimits) (maximum : ResourceLimits → Nat)
    (write : ρ → List WriteOp) (table : ExtTreeMap κ ρ) : Prop where
  count : (count table.size maximum).Fits limits
  records : RecordsFit limits write table

theorem TableFits.modify (h : TableFits limits maximum write table) (key : κ) {mark : ρ → ρ}
    (hmark : ∀ record, AllFit limits (write record) → AllFit limits (write (mark record))) :
    TableFits limits maximum write (table.modify key mark) := by
  refine ⟨?_, fun other record hfound => ?_⟩
  · rw [ExtTreeMap.size_modify]
    exact h.count
  · rw [ExtTreeMap.getElem?_modify] at hfound
    split at hfound
    · obtain ⟨existing, hexisting, rfl⟩ := Option.map_eq_some_iff.mp hfound
      exact hmark existing (h.records _ existing hexisting)
    · exact h.records other record hfound

variable [LawfulEqOrd κ]

theorem recordsFit_iff :
    RecordsFit limits write table ↔
      ∀ record ∈ table.toList.map Prod.snd, AllFit limits (write record) := by
  rw [List.forall_mem_map]
  constructor
  · rintro h ⟨key, record⟩ hmem
    exact h key record (ExtTreeMap.mem_toList_iff_getElem?_eq_some.mp hmem)
  · intro h key record hfound
    exact h (key, record) (ExtTreeMap.mem_toList_iff_getElem?_eq_some.mpr hfound)

theorem allFit_encodeTable :
    AllFit limits (encodeTable maximum write table) ↔ TableFits limits maximum write table := by
  rw [encodeTable, allFit_many, List.length_map, ExtTreeMap.length_toList, ← recordsFit_iff]
  exact ⟨fun h => ⟨h.1, h.2⟩, fun h => ⟨h.count, h.records⟩⟩

theorem RecordsFit.insert (h : RecordsFit limits write table) {key : κ} {record : ρ}
    (hrecord : AllFit limits (write record)) :
    RecordsFit limits write (table.insert key record) := by
  intro other found hfound
  rcases getElem?_insert_cases hfound with ⟨-, rfl⟩ | ⟨-, hkept⟩
  · exact hrecord
  · exact h other found hkept

theorem TableFits.insert_iff [DecidableEq κ] (h : TableFits limits maximum write table) {key : κ}
    {record : ρ} :
    TableFits limits maximum write (table.insert key record) ↔
      AllFit limits (write record) ∧
        (WriteOp.count (sizeWith table [key]) maximum).Fits limits := by
  rw [← size_insert_eq table key record]
  constructor
  · intro hafter
    exact ⟨hafter.records key record (by simp), hafter.count⟩
  · rintro ⟨hrecord, hcount⟩
    exact ⟨hcount, h.records.insert hrecord⟩

/-- A record that takes the place of another one. -/
theorem TableFits.replace (h : TableFits limits maximum write table) {key : κ}
    {existing record : ρ} (hfound : table[key]? = some existing)
    (hrecord : AllFit limits (write record)) :
    TableFits limits maximum write (table.insert key record) := by
  refine ⟨?_, h.records.insert hrecord⟩
  have hmem : key ∈ table := mem_iff_exists.mpr ⟨existing, hfound⟩
  rw [ExtTreeMap.size_insert, if_pos (ExtTreeMap.contains_iff_mem.mpr hmem)]
  exact h.count

theorem TableFits.descended {comes : ρ → ρ → Prop} (h : TableFits limits maximum write table)
    (hdescended : Descended comes table later)
    (hkept : ∀ {existing record}, comes existing record →
      AllFit limits (write existing) → AllFit limits (write record)) :
    TableFits limits maximum write later :=
  ⟨h.count.count_mono hdescended.size_le, hdescended.forall hkept h.records⟩

/-- A table whose records are only marked. -/
theorem TableFits.map (h : TableFits limits maximum write table) {mark : ρ → ρ}
    (hmark : ∀ record, AllFit limits (write record) → AllFit limits (write (mark record))) :
    TableFits limits maximum write (table.map fun _ => mark) := by
  refine h.descended (Descended.map fun record => (rfl : mark record = mark record)) ?_
  rintro existing _ rfl hfit
  exact hmark existing hfit

end Tables

namespace RackState
variable {limits : ResourceLimits} {state : RackState}

structure Encodable (limits : ResourceLimits) (state : RackState) : Prop where
  rack : AllFit limits (optional encodeRackRecord state.rack)
  members : TableFits limits (·.maxMembers) encodeMember state.members
  relationships : TableFits limits (·.maxRelationships) encodeRelationship state.relationships
  failureDomains : TableFits limits (·.maxFailureDomains) encodeFailureDomain state.failureDomains
  power : AllFit limits (optional encodePowerEnvelope state.power)
  cooling : AllFit limits (optional encodeCoolingEnvelope state.cooling)
  publishers : TableFits limits (·.maxMembers) encodePublisher state.publishers
  fencedBoots : RecordsFit limits encodeFencedBoot state.fencedBoots
  snapshots : TableFits limits (·.maxRetainedSnapshots) encodeSnapshot state.snapshots

structure Writable (limits : ResourceLimits) (state : RackState) : Prop
    extends Encodable limits state where
  fencedCount : (count state.fencedBoots.size (·.maxFencedBoots)).Fits limits

theorem allFit_encodeState : AllFit limits (encodeState state) ↔ state.Writable limits := by
  simp only [encodeState, allFit_append, allFit_cons, allFit_nil, allFit_encodeTable,
    allFit_generationSet, fits_generation, and_true]
  constructor
  · rintro ⟨⟨⟨⟨⟨⟨⟨⟨hrack, hmembers⟩, hrelationships⟩, hdomains⟩, hpower⟩, hcooling⟩, hpublishers⟩,
      hfenced⟩, hsnapshots⟩
    exact ⟨⟨hrack, hmembers, hrelationships, hdomains, hpower, hcooling, hpublishers,
      hfenced.records, hsnapshots⟩, hfenced.count⟩
  · rintro ⟨⟨hrack, hmembers, hrelationships, hdomains, hpower, hcooling, hpublishers, hfenced,
      hsnapshots⟩, hcount⟩
    exact ⟨⟨⟨⟨⟨⟨⟨⟨hrack, hmembers⟩, hrelationships⟩, hdomains⟩, hpower⟩, hcooling⟩, hpublishers⟩,
      hcount, hfenced⟩, hsnapshots⟩

end RackState

end RackFabric
