import RackFabric.Library.Binary64
import RackFabric.Properties.Closure
import RackFabric.Properties.Headroom
import RackFabric.Properties.Validation
import RackFabric.Properties.Versions

/-! What a step does to the stored envelopes, and which publications store quantities or
references that no validator would let pass. -/
namespace RackFabric
open Std Tables RackGraph RackState

/-! The quantities that derivation takes and makes. -/

namespace Derivation

structure Valid (derivation : Derivation) : Prop where
  limit : ∀ quantity ∈ derivation.limit, quantity.Valid
  load : ∀ quantity ∈ derivation.load, quantity.Valid
  headroom : ∀ quantity ∈ derivation.headroom, quantity.Valid

/-- The headroom is derived from a quantity without a lifetime. -/
def Ageless (derivation : Derivation) (now : Timestamp) : Prop :=
  ∃ limit load : Quantity, derivation.limit = some limit ∧ derivation.load = some load ∧
    limit.unit = load.unit ∧ limit.isCurrentAt now = true ∧ load.isCurrentAt now = true ∧
    (limit.value.sub load.value).ge {} = true ∧ (limit.ttl = 0 ∨ load.ttl = 0)

end Derivation

theorem Double.isFinite_sub {x y : Double} (hx : x.isFinite = true) (hy : y.isFinite = true)
    (hxSign : x.lt {} = false) (hySign : y.lt {} = false) : (x.sub y).isFinite = true :=
  Binary64.isFinite_ofBits (Binary64.isFinite_sub hx hy hxSign hySign)

theorem Double.not_lt_of_ge {x : Double} (h : x.ge {} = true) : x.lt {} = false :=
  Binary64.not_lt_of_le h

theorem Timestamp.known_max {left right : Timestamp} (hleft : left.known = true)
    (hright : right.known = true) : (left.max right).known = true := by
  unfold Timestamp.max
  split
  · exact hright
  · exact hleft

theorem ttl_headroom (limit load : Observation) :
    (headroomEvidence limit load).ttl = limit.ttl ∨
      (headroomEvidence limit load).ttl = load.ttl := by
  unfold headroomEvidence
  split
  · exact Or.inr rfl
  · exact Or.inl rfl

theorem ttl_headroom_eq_zero {limit load : Observation} (hlimit : 0 ≤ limit.ttl)
    (hload : 0 ≤ load.ttl) (h : limit.ttl = 0 ∨ load.ttl = 0) :
    (headroomEvidence limit load).ttl = 0 := by
  unfold headroomEvidence
  cases h with
  | inl hzero => simp only [hzero, if_neg (Int64.not_lt.mpr hload)]
  | inr hzero =>
    simp only [hzero]
    split
    · rfl
    · rename_i hnot
      exact Int64.le_antisymm (Int64.not_lt.mp hnot) hlimit

/-- Headroom is valid like its operands, unless one of them has no lifetime. -/
theorem valid_headroom_iff {limit load : Quantity} {now : Timestamp} (hlimit : limit.Valid)
    (hload : load.Valid) (hcurrent : limit.isCurrentAt now = true)
    (hcurrent' : load.isCurrentAt now = true)
    (hvalue : (limit.value.sub load.value).ge {} = true) :
    Quantity.Valid { headroomEvidence limit.toObservation load.toObservation with
        value := limit.value.sub load.value, unit := limit.unit } ↔
      ¬ (limit.ttl = 0 ∨ load.ttl = 0) := by
  have hrange := hlimit.evidence.lifetime
  have hrange' := hload.evidence.lifetime
  constructor
  · intro hvalid hzero
    simp only [ttlIsValid, decide_eq_true_eq] at hrange hrange'
    exact hvalid.evidence.expires rfl (ttl_headroom_eq_zero hrange.1 hrange'.1 hzero)
  · intro hlasting
    have hstanding := Observation.standing_of_fresh (of_decide_eq_true hcurrent)
    have hstanding' := Observation.standing_of_fresh (of_decide_eq_true hcurrent')
    obtain ⟨hlimitTtl, hloadTtl⟩ := not_or.mp hlasting
    refine ⟨hlimit.measured, Double.isFinite_sub hlimit.finite hload.finite hlimit.nonnegative
      hload.nonnegative, Double.not_lt_of_ge hvalue, rfl, ?_, fun _ => ?_, fun _ => ?_, ?_⟩
    · rcases ttl_headroom limit.toObservation load.toObservation with hsame | hsame
      · exact hsame ▸ hrange
      · exact hsame ▸ hrange'
    · rcases ttl_headroom limit.toObservation load.toObservation with hsame | hsame
      · exact hsame ▸ hlimitTtl
      · exact hsame ▸ hloadTtl
    · exact Timestamp.known_max (Observation.known_iff.mpr hstanding.observed)
        (Observation.known_iff.mpr hstanding'.observed)
    · intro hunknown
      cases hunknown

theorem Derivation.valid_derive_iff {derivation : Derivation} {now : Timestamp} :
    (derivation.derive now).Valid ↔
      (∀ quantity ∈ derivation.limit, quantity.Valid) ∧
        (∀ quantity ∈ derivation.load, quantity.Valid) ∧ ¬ derivation.Ageless now := by
  constructor
  · intro h
    refine ⟨h.limit, h.load, ?_⟩
    rintro ⟨limit, load, hlimit, hload, hunit, hcurrent, hcurrent', hvalue, hzero⟩
    have hvalid := h.headroom _ (deriveHeadroom_of_comparable hlimit hload hunit hcurrent hcurrent'
      hvalue)
    exact (valid_headroom_iff (h.limit limit hlimit) (h.load load hload) hcurrent hcurrent'
      hvalue).mp hvalid hzero
  · rintro ⟨hlimits, hloads, hages⟩
    refine ⟨hlimits, hloads, fun headroom hheadroom => ?_⟩
    obtain ⟨limit, load, hlimit, hload, hunit, hcurrent, hcurrent', hvalue, rfl⟩ :=
      deriveHeadroom_eq_some hheadroom
    apply (valid_headroom_iff (hlimits limit hlimit) (hloads load hload) hcurrent hcurrent'
      hvalue).mpr
    exact fun hzero => hages ⟨limit, load, hlimit, hload, hunit, hcurrent, hcurrent', hvalue, hzero⟩

namespace RackState
variable {options : RackFabricOptions} {state after : RackState} {now : Timestamp}

/-! What a step does to the envelopes. -/

/-- The envelopes are kept, one of them is published, or a fence clears what is ephemeral. -/
inductive EnvelopeChange (options : RackFabricOptions) (state : RackState) (now : Timestamp) :
    Mutation → RackState → Prop
  | kept {mutation : Mutation} {after : RackState} (hpower : after.power = state.power)
      (hcooling : after.cooling = state.cooling) : EnvelopeChange options state now mutation after
  | power {request : PublishPowerEnvelopeRequest} {publisher : Option PublisherRef}
      {record : PowerEnvelopeRecord} {after : RackState}
      (hauthority : state.checkAuthority request.authority true = .ok publisher)
      (hadmitted : admitPowerEnvelope state publisher request = .ok record)
      (hpower : after.power = some (record.recomputeDerived now))
      (hcooling : after.cooling = state.cooling) :
      EnvelopeChange options state now (.publishPowerEnvelope request) after
  | cooling {request : PublishCoolingEnvelopeRequest} {publisher : Option PublisherRef}
      {record : CoolingEnvelopeRecord} {after : RackState}
      (hauthority : state.checkAuthority request.authority true = .ok publisher)
      (hadmitted : admitCoolingEnvelope state publisher request = .ok record)
      (hpower : after.power = state.power)
      (hcooling : after.cooling = some (record.recomputeDerived now)) :
      EnvelopeChange options state now (.publishCoolingEnvelope request) after
  | faded {mutation : Mutation} {after : RackState} (hsealed : Sealed state after) :
      EnvelopeChange options state now mutation after

theorem envelopes_noteRefusal (publisher : Option PublisherRef) (refusal : Refusal) :
    (state.noteRefusal publisher refusal).power = state.power ∧
      (state.noteRefusal publisher refusal).cooling = state.cooling := by
  cases publisher with
  | none => exact ⟨rfl, rfl⟩
  | some found =>
    simp only [noteRefusal]
    split <;> exact ⟨rfl, rfl⟩

theorem envelopes_advancePublication (publisher : Option PublisherRef) :
    (state.advancePublication publisher).power = state.power ∧
      (state.advancePublication publisher).cooling = state.cooling := by
  cases publisher <;> exact ⟨rfl, rfl⟩

theorem envelopeChange {mutation : Mutation} {outcome : Option MutationOutcome}
    (h : Transition options state now mutation after outcome) :
    EnvelopeChange options state now mutation after := by
  cases h with
  | refused | refreshed | registered | declared | redeclared | beat => exact .kept rfl rfl
  | noted refusal =>
    obtain ⟨hpower, hcooling⟩ := @envelopes_noteRefusal state _ refusal
    exact .kept hpower hcooling
  | @stopped request publisher graph refusal =>
    obtain ⟨hpower, hcooling⟩ :=
      @envelopes_noteRefusal { state with toRackGraph := graph } publisher refusal
    exact .kept hpower hcooling
  | @committed _ _ publisher committed htoken hauthority hadmitted =>
    obtain ⟨hpower, hcooling⟩ := @envelopes_advancePublication committed publisher
    cases hadmitted with
    | powerEnvelope hadmitted =>
      cases htoken
      exact .power hauthority hadmitted hpower hcooling
    | coolingEnvelope hadmitted =>
      cases htoken
      exact .cooling hauthority hadmitted hpower hcooling
    | _ => exact .kept hpower hcooling
  | fenced => exact .faded (sealed_commitFence ..)
  | expired later => exact .faded (sealed_expirePublishers now later)

end RackState

/-! Envelopes whose quantities and references are sound. -/

def Derivation.quantities (derivation : Derivation) : List Quantity :=
  derivation.limit.toList ++ derivation.load.toList ++ derivation.headroom.toList

def PowerEnvelopeRecord.quantities (record : PowerEnvelopeRecord) : List Quantity :=
  record.derivations.flatMap Derivation.quantities

def CoolingEnvelopeRecord.quantities (record : CoolingEnvelopeRecord) : List Quantity :=
  record.derivations.flatMap Derivation.quantities ++
    record.zones.filterMap (·.observedTemperature)

structure PowerEnvelopeRecord.Sound (record : PowerEnvelopeRecord) (graph : RackGraph) : Prop where
  quantities : ∀ quantity ∈ record.quantities, validateQuantity quantity quantity.unit = none
  domains : ∀ budget ∈ record.domainBudgets,
    MemberKey.ofId .powerDomain budget.domain ∈ graph.members

structure CoolingEnvelopeRecord.Sound (record : CoolingEnvelopeRecord) (graph : RackGraph) :
    Prop where
  quantities : ∀ quantity ∈ record.quantities, validateQuantity quantity quantity.unit = none
  zones : ∀ zone ∈ record.zones, MemberKey.ofId .coolingDomain zone.zone ∈ graph.members

theorem Derivation.valid_iff {derivation : Derivation} :
    derivation.Valid ↔ ∀ quantity ∈ derivation.quantities, quantity.Valid := by
  simp only [quantities, List.mem_append, Option.mem_toList]
  constructor
  · rintro h quantity ((hlimit | hload) | hheadroom)
    · exact h.limit quantity hlimit
    · exact h.load quantity hload
    · exact h.headroom quantity hheadroom
  · intro h
    exact ⟨fun quantity hlimit => h quantity (Or.inl (Or.inl hlimit)),
      fun quantity hload => h quantity (Or.inl (Or.inr hload)),
      fun quantity hheadroom => h quantity (Or.inr hheadroom)⟩

theorem valid_quantities_iff {derivations : List Derivation} :
    (∀ quantity ∈ derivations.flatMap Derivation.quantities,
      validateQuantity quantity quantity.unit = none) ↔
      ∀ derivation ∈ derivations, derivation.Valid := by
  simp only [List.mem_flatMap, validateQuantity_own, Derivation.valid_iff]
  constructor
  · exact fun h derivation hmem quantity hquantity => h quantity ⟨derivation, hmem, hquantity⟩
  · rintro h quantity ⟨derivation, hmem, hquantity⟩
    exact h derivation hmem quantity hquantity

theorem CoolingEnvelopeRecord.valid_iff {record : CoolingEnvelopeRecord} :
    (∀ quantity ∈ record.quantities, validateQuantity quantity quantity.unit = none) ↔
      (∀ derivation ∈ record.derivations, derivation.Valid) ∧
        ∀ zone ∈ record.zones, ∀ quantity ∈ zone.observedTemperature, quantity.Valid := by
  rw [quantities, List.forall_mem_append, valid_quantities_iff]
  simp only [List.mem_filterMap, validateQuantity_own, Option.mem_def]
  constructor
  · rintro ⟨hderivations, htemperatures⟩
    exact ⟨hderivations, fun zone hzone quantity hsome =>
      htemperatures quantity ⟨zone, hzone, hsome⟩⟩
  · rintro ⟨hderivations, htemperatures⟩
    refine ⟨hderivations, ?_⟩
    rintro quantity ⟨zone, hzone, hsome⟩
    exact htemperatures zone hzone quantity hsome

/-- The budgets are what a validator would let pass, and no headroom lacks a lifetime. -/
structure PowerEnvelopeRecord.Storable (record : PowerEnvelopeRecord) (graph : RackGraph)
    (now : Timestamp) : Prop where
  limits : ∀ budget ∈ record.domainBudgets, ∀ quantity ∈ budget.limit, quantity.Valid
  draws : ∀ budget ∈ record.domainBudgets, ∀ quantity ∈ budget.observedDraw, quantity.Valid
  domains : ∀ budget ∈ record.domainBudgets,
    MemberKey.ofId .powerDomain budget.domain ∈ graph.members
  lasting : ∀ derivation ∈ record.derivations, ¬ derivation.Ageless now

def CoolingEnvelopeRecord.Storable (record : CoolingEnvelopeRecord) (now : Timestamp) : Prop :=
  ∀ derivation ∈ record.derivations, ¬ derivation.Ageless now

namespace RackState
variable {options : RackFabricOptions} {state after : RackState} {now : Timestamp}
  {publisher : Option PublisherRef}

theorem valid_derived_iff {derivations : List Derivation} :
    (∀ derivation ∈ derivations.map (·.derive now), derivation.Valid) ↔
      (∀ derivation ∈ derivations, ∀ quantity ∈ derivation.limit, quantity.Valid) ∧
        (∀ derivation ∈ derivations, ∀ quantity ∈ derivation.load, quantity.Valid) ∧
        ∀ derivation ∈ derivations, ¬ derivation.Ageless now := by
  simp only [List.forall_mem_map, Derivation.valid_derive_iff]
  constructor
  · intro h
    exact ⟨fun derivation hmem => (h derivation hmem).1,
      fun derivation hmem => (h derivation hmem).2.1,
      fun derivation hmem => (h derivation hmem).2.2⟩
  · rintro ⟨hlimits, hloads, hages⟩ derivation hmem
    exact ⟨hlimits derivation hmem, hloads derivation hmem, hages derivation hmem⟩

/-- The budgets of a power envelope are stored as they are published. -/
theorem powerEnvelope_sound_iff {request : PublishPowerEnvelopeRequest}
    {record : PowerEnvelopeRecord}
    (h : PowerEnvelopeAdmission state publisher request record) (graph : RackGraph) :
    (record.recomputeDerived now).Sound graph ↔ request.record.Storable graph now := by
  obtain ⟨owner, -, hrecord⟩ := h.stored
  have hderivations : record.derivations = request.record.derivations := by
    rw [hrecord]
    rfl
  have hdomains : (∀ budget ∈ (record.recomputeDerived now).domainBudgets,
      MemberKey.ofId .powerDomain budget.domain ∈ graph.members) ↔
        ∀ budget ∈ request.record.domainBudgets,
          MemberKey.ofId .powerDomain budget.domain ∈ graph.members := by
    rw [hrecord]
    exact List.forall_mem_map
  have hlimit : ∀ quantity ∈ request.record.rackLimit, quantity.Valid :=
    fun quantity hsome => (validateQuantity_eq_none.mp (h.limit hsome)).2
  have hdraw : ∀ quantity ∈ request.record.rackObservedDraw, quantity.Valid :=
    fun quantity hsome => validateQuantity_own.mp (h.draw hsome)
  have hvalid := @valid_derived_iff now request.record.derivations
  rw [← hderivations, ← PowerEnvelopeRecord.derivations_recomputeDerived, hderivations,
    ← valid_quantities_iff] at hvalid
  constructor
  · intro hsound
    obtain ⟨hlimits, hloads, hages⟩ := hvalid.mp hsound.quantities
    rw [PowerEnvelopeRecord.derivations, List.forall_mem_cons, List.forall_mem_map]
      at hlimits hloads
    exact ⟨hlimits.2, hloads.2, hdomains.mp hsound.domains, hages⟩
  · intro hstorable
    refine ⟨hvalid.mpr ⟨?_, ?_, hstorable.lasting⟩, hdomains.mpr hstorable.domains⟩
    · rw [PowerEnvelopeRecord.derivations, List.forall_mem_cons, List.forall_mem_map]
      exact ⟨hlimit, hstorable.limits⟩
    · rw [PowerEnvelopeRecord.derivations, List.forall_mem_cons, List.forall_mem_map]
      exact ⟨hdraw, hstorable.draws⟩

theorem checkZoneQuantity_ok {zone : CoolingZoneRecord} {quantity : Option Quantity}
    {unit : QuantityUnit} (h : checkZoneQuantity zone quantity unit = .ok ()) :
    ∀ found ∈ quantity, found.Valid := by
  intro found hfound
  rw [checkZoneQuantity, refuseSome_eq_ok, Option.bind_eq_none_iff] at h
  exact (validateQuantity_eq_none.mp (h found hfound)).2

/-- What has been checked of a zone. -/
theorem checkZone_ok {graph : RackGraph} {zone : CoolingZoneRecord}
    (h : checkZone graph zone = .ok ()) :
    MemberKey.ofId .coolingDomain zone.zone ∈ graph.members ∧
      (∀ quantity ∈ zone.designThermalLimit, quantity.Valid) ∧
      (∀ quantity ∈ zone.coolingCapacity, quantity.Valid) ∧
      ∀ quantity ∈ zone.observedTemperature, quantity.Valid := by
  unfold checkZone at h
  simp only [bind_eq_ok, refuseIf_eq_ok] at h
  obtain ⟨⟨⟩, hknown, ⟨⟩, hlimit, ⟨⟩, hcapacity, ⟨⟩, htemperature, -⟩ := h
  exact ⟨by simpa using hknown, checkZoneQuantity_ok hlimit, checkZoneQuantity_ok hcapacity,
    checkZoneQuantity_ok htemperature⟩

/-- The zones of a cooling envelope have been checked. -/
theorem coolingEnvelope_sound_iff {request : PublishCoolingEnvelopeRequest}
    {record : CoolingEnvelopeRecord}
    (h : CoolingEnvelopeAdmission state publisher request record) :
    (record.recomputeDerived now).Sound state.toRackGraph ↔ request.record.Storable now := by
  have hchecked : ∀ zone ∈ record.zones, checkZone state.toRackGraph zone = .ok () :=
    fun zone hzone => h.zone_checked zone (h.zones.mem_iff.mp hzone)
  have hderivations : record.derivations.Perm request.record.derivations := h.zones.map _
  have hvalid := @valid_derived_iff now record.derivations
  rw [← CoolingEnvelopeRecord.derivations_recomputeDerived] at hvalid
  constructor
  · intro hsound derivation hmem
    have hages := (hvalid.mp (CoolingEnvelopeRecord.valid_iff.mp hsound.quantities).1).2.2
    exact hages derivation (hderivations.mem_iff.mpr hmem)
  · intro hstorable
    refine ⟨CoolingEnvelopeRecord.valid_iff.mpr ⟨hvalid.mpr ⟨?_, ?_, ?_⟩, ?_⟩, ?_⟩
    · rw [CoolingEnvelopeRecord.derivations, List.forall_mem_map]
      exact fun zone hzone => (checkZone_ok (hchecked zone hzone)).2.2.1
    · rw [CoolingEnvelopeRecord.derivations, List.forall_mem_map]
      exact fun zone hzone => (checkZone_ok (hchecked zone hzone)).2.1
    · exact fun derivation hmem => hstorable derivation (hderivations.mem_iff.mp hmem)
    · rw [CoolingEnvelopeRecord.recomputeDerived, List.forall_mem_map]
      exact fun zone hzone => (checkZone_ok (hchecked zone hzone)).2.2.2
    · rw [CoolingEnvelopeRecord.recomputeDerived, List.forall_mem_map]
      exact fun zone hzone => (checkZone_ok (hchecked zone hzone)).1

/-! Soundness over runs. -/

structure EnvelopesSound (state : RackState) : Prop where
  power : ∀ envelope, state.power = some envelope → envelope.Sound state.toRackGraph
  cooling : ∀ envelope, state.cooling = some envelope → envelope.Sound state.toRackGraph

/-- An envelope that passes its checks is sound when it is stored. -/
def StoresSoundly (state : RackState) (now : Timestamp) : Mutation → Prop
  | .publishPowerEnvelope request =>
      state.Admits request.authority (fun publisher => admitPowerEnvelope state publisher request) →
        request.record.Storable state.toRackGraph now
  | .publishCoolingEnvelope request =>
      state.Admits request.authority
          (fun publisher => admitCoolingEnvelope state publisher request) →
        request.record.Storable now
  | _ => True

end RackState

theorem PowerEnvelopeRecord.Sound.mono {record : PowerEnvelopeRecord} {graph later : RackGraph}
    (h : record.Sound graph) (hgrow : ∀ key ∈ graph.members, key ∈ later.members) :
    record.Sound later :=
  ⟨h.quantities, fun budget hbudget => hgrow _ (h.domains budget hbudget)⟩

theorem CoolingEnvelopeRecord.Sound.mono {record : CoolingEnvelopeRecord} {graph later : RackGraph}
    (h : record.Sound graph) (hgrow : ∀ key ∈ graph.members, key ∈ later.members) :
    record.Sound later :=
  ⟨h.quantities, fun zone hzone => hgrow _ (h.zones zone hzone)⟩

namespace RackState
variable {options : RackFabricOptions} {state after : RackState} {now : Timestamp}

theorem sound_clearedPower {envelope : PowerEnvelopeRecord} {graph : RackGraph}
    (h : envelope.Sound graph) : (clearedPower envelope).Sound graph := by
  have hvalid := valid_quantities_iff.mp h.quantities
  rw [PowerEnvelopeRecord.derivations, List.forall_mem_cons] at hvalid
  refine ⟨valid_quantities_iff.mpr ?_, h.domains⟩
  rw [PowerEnvelopeRecord.derivations, List.forall_mem_cons]
  refine ⟨⟨hvalid.1.limit, ?_, ?_⟩, hvalid.2⟩
  · simp [clearedPower]
  · simp [clearedPower]

theorem sound_clearedCooling {envelope : CoolingEnvelopeRecord} {graph : RackGraph}
    (h : envelope.Sound graph) : (clearedCooling envelope).Sound graph := by
  have hvalid := (CoolingEnvelopeRecord.valid_iff.mp h.quantities).1
  rw [CoolingEnvelopeRecord.derivations, List.forall_mem_map] at hvalid
  refine ⟨CoolingEnvelopeRecord.valid_iff.mpr ⟨?_, ?_⟩, ?_⟩
  · rw [CoolingEnvelopeRecord.derivations, clearedCooling, List.map_map, List.forall_mem_map]
    intro zone hzone
    exact ⟨(hvalid zone hzone).limit, (hvalid zone hzone).load, by simp⟩
  · simp [clearedCooling]
  · rw [clearedCooling, List.forall_mem_map]
    exact h.zones

theorem EnvelopesSound.change {mutation : Mutation} (hsound : state.EnvelopesSound)
    (hgrow : ∀ key ∈ state.members, key ∈ after.members)
    (hstores : state.StoresSoundly now mutation)
    (h : EnvelopeChange options state now mutation after) : after.EnvelopesSound := by
  cases h with
  | kept hpower hcooling =>
    exact ⟨fun envelope hsome => (hsound.power envelope (hpower ▸ hsome)).mono hgrow,
      fun envelope hsome => (hsound.cooling envelope (hcooling ▸ hsome)).mono hgrow⟩
  | power hauthority hadmitted hpower hcooling =>
    have hstorable := hstores ⟨_, _, hauthority, hadmitted⟩
    refine ⟨fun envelope hsome => ?_,
      fun envelope hsome => (hsound.cooling envelope (hcooling ▸ hsome)).mono hgrow⟩
    obtain rfl := Option.some.inj (hpower.symm.trans hsome)
    have hstored := (powerEnvelope_sound_iff (powerEnvelopeAdmission hadmitted) _).mpr hstorable
    exact hstored.mono hgrow
  | cooling hauthority hadmitted hpower hcooling =>
    have hstorable := hstores ⟨_, _, hauthority, hadmitted⟩
    refine ⟨fun envelope hsome => (hsound.power envelope (hpower ▸ hsome)).mono hgrow,
      fun envelope hsome => ?_⟩
    obtain rfl := Option.some.inj (hcooling.symm.trans hsome)
    have hstored := (coolingEnvelope_sound_iff (coolingEnvelopeAdmission hadmitted)).mpr hstorable
    exact hstored.mono hgrow
  | faded hsealed =>
    constructor
    · intro envelope hsome
      refine PowerEnvelopeRecord.Sound.mono ?_ hgrow
      rcases hsealed.power with hsame | hcleared
      · exact hsound.power envelope (hsame ▸ hsome)
      · obtain ⟨earlier, hearlier, rfl⟩ := Option.map_eq_some_iff.mp (hcleared ▸ hsome)
        exact sound_clearedPower (hsound.power earlier hearlier)
    · intro envelope hsome
      refine CoolingEnvelopeRecord.Sound.mono ?_ hgrow
      rcases hsealed.cooling with hsame | hcleared
      · exact hsound.cooling envelope (hsame ▸ hsome)
      · obtain ⟨earlier, hearlier, rfl⟩ := Option.map_eq_some_iff.mp (hcleared ▸ hsome)
        exact sound_clearedCooling (hsound.cooling earlier hearlier)

theorem envelopesSound_advancePublication (publisher : Option PublisherRef) :
    (state.advancePublication publisher).EnvelopesSound ↔ state.EnvelopesSound := by
  cases publisher <;> exact ⟨fun h => ⟨h.power, h.cooling⟩, fun h => ⟨h.power, h.cooling⟩⟩

theorem storesSoundly_of_sound {input : Input}
    (h : (state.step options input).EnvelopesSound) :
    state.StoresSoundly input.now input.mutation := by
  obtain ⟨now, mutation⟩ := input
  cases mutation with
  | publishPowerEnvelope request =>
    intro hadmits
    obtain ⟨publisher, record, -, hadmitted, hcommitted⟩ :=
      committed_of_admits (state.commitPowerEnvelope · now) (fun _ => ⟨_, _, rfl⟩) hadmits
    have hsound := (envelopesSound_advancePublication publisher).mp
      ((congrArg EnvelopesSound hcommitted).mp h)
    exact (powerEnvelope_sound_iff (powerEnvelopeAdmission hadmitted) _).mp (hsound.power _ rfl)
  | publishCoolingEnvelope request =>
    intro hadmits
    obtain ⟨publisher, record, -, hadmitted, hcommitted⟩ :=
      committed_of_admits (state.commitCoolingEnvelope · now) (fun _ => ⟨_, _, rfl⟩) hadmits
    have hsound := (envelopesSound_advancePublication publisher).mp
      ((congrArg EnvelopesSound hcommitted).mp h)
    exact (coolingEnvelope_sound_iff (coolingEnvelopeAdmission hadmitted)).mp (hsound.cooling _ rfl)
  | _ => trivial

theorem members_step_subset (h : state.WellFormed) (input : Input) :
    ∀ key ∈ state.members, key ∈ (state.step options input).members := by
  intro key hmem
  rw [ExtTreeMap.mem_iff_isSome_getElem?, Option.isSome_iff_exists] at hmem ⊢
  obtain ⟨record, hfound⟩ := hmem
  obtain ⟨successor, hsuccessor, -⟩ := members_dated h.toKeyed key record hfound
  exact ⟨successor, hsuccessor⟩

/-- The stored envelopes stay sound through a run exactly when each envelope that is
published is sound. -/
theorem envelopes_sound_iff (options : RackFabricOptions) (inputs : List Input) :
    Execution.Always (step options) EnvelopesSound (fresh options) inputs ↔
      Execution.EachStep (step options)
        (fun state input => state.StoresSoundly input.now input.mutation)
        (fresh options) inputs := by
  refine Execution.always_iff_eachStep (step options) (fun state => state.WellFormed)
    wellFormed_step (fun state input h hsound => ?_) WellFormed.empty ?_ inputs
  · refine ⟨storesSoundly_of_sound, fun hstores => ?_⟩
    exact hsound.change (members_step_subset h input) hstores
      (envelopeChange (perform_transition state input))
  · exact ⟨by simp [fresh], by simp [fresh]⟩

end RackState

namespace Scenario

/-- The budget is for a power domain that nobody has published. -/
def ghostBudgetInputs : List Input :=
  [declareRack,
    { mutation := .publishPowerEnvelope
        { authority := operator
          record := { domainBudgets := [{ domain := .ofText (str "ghost") }] } } }]

end Scenario

namespace RackState

theorem ghost_budget_stored :
    ¬ Execution.Always (step Scenario.defaults) EnvelopesSound (fresh Scenario.defaults)
      Scenario.ghostBudgetInputs := by
  intro h
  have hsound := h Scenario.ghostBudgetInputs (List.prefix_refl _)
  have hghost : (Scenario.run Scenario.ghostBudgetInputs).power.any (fun envelope =>
      envelope.domainBudgets.any fun budget =>
        !(Scenario.run Scenario.ghostBudgetInputs).members.contains
          (.ofId .powerDomain budget.domain)) = true := by
    decide +kernel
  obtain ⟨envelope, hpower, hghost⟩ := (Option.any_eq_true _ _).mp hghost
  obtain ⟨budget, hbudget, habsent⟩ := List.any_eq_true.mp hghost
  have hmem := (hsound.power envelope hpower).domains budget hbudget
  rw [Bool.not_eq_true', ← Bool.not_eq_true, ExtTreeMap.contains_iff_mem] at habsent
  exact habsent hmem

end RackState

end RackFabric
