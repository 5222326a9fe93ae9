import RackFabric.Properties.Freshness
import RackFabric.Properties.Effects
import RackFabric.Properties.Integrity

/-! For how long derived headroom is fresh, against the two quantities that it was
derived from. -/
namespace RackFabric
open Windows

def endOfTime : Int := 2 ^ 63 - 1

/-- The quantities do not expire together with what is derived from them: one of them has
no lifetime, or one is observed after the other and outlasts it. -/
def Skewed (limit load : Observation) : Prop :=
  limit.ttl = 0 ∨ load.ttl = 0 ∨ Window.Outlasts endOfTime limit.window load.window ∨
    Window.Outlasts endOfTime load.window limit.window

def FreshTogether (now : Timestamp) (limit load headroom : Observation) : Prop :=
  ∀ time : Timestamp, now.unixMillis ≤ time.unixMillis →
    (headroom.freshnessAt time = .fresh ↔
      limit.freshnessAt time = .fresh ∧ load.freshnessAt time = .fresh)

def headroomEvidence (limit load : Observation) : Observation where
  provenance := .derived
  observedAt := limit.observedAt.max load.observedAt
  ttl := if load.ttl < limit.ttl then load.ttl else limit.ttl
  durability := .ephemeral

section
variable {limit load : Observation} {now : Timestamp}

theorem window_headroom : (headroomEvidence limit load).window =
    limit.window.combine load.window := by
  simp only [headroomEvidence, Observation.window, Window.combine, Timestamp.max, Window.mk.injEq,
    Int64.lt_iff_toInt_lt]
  constructor
  · split <;> omega
  · split <;> omega

theorem standing_headroom (hlimit : limit.Standing) :
    (headroomEvidence limit load).Standing := by
  refine ⟨rfl, rfl, ?_⟩
  change 0 < (headroomEvidence limit load).window.start
  rw [window_headroom]
  exact lt_max_of_lt_left hlimit.observed

/-- Every time that is not after the last one is that of a timestamp. -/
theorem exists_timestamp {time : Int} (hnow : now.unixMillis.toInt ≤ time)
    (htop : time ≤ endOfTime) :
    ∃ timestamp : Timestamp, timestamp.unixMillis.toInt = time := by
  have hbelow := now.unixMillis.le_toInt
  refine ⟨⟨Int64.ofInt time⟩, Int64.toInt_ofInt_of_le ?_ ?_⟩
  · omega
  · unfold endOfTime at htop
    omega

/-- Without a lifetime the headroom is stale from the start. -/
theorem not_freshTogether (hlimit : limit.freshnessAt now = .fresh)
    (hload : load.freshnessAt now = .fresh) (hzero : limit.ttl = 0 ∨ load.ttl = 0) :
    ¬ FreshTogether now limit load (headroomEvidence limit load) := by
  intro h
  have hfresh := (h now (Int64.le_refl _)).mpr ⟨hlimit, hload⟩
  have hlength : 0 < (headroomEvidence limit load).window.length := by
    obtain ⟨-, hlasting | hwindow⟩ := Observation.fresh_iff.mp hfresh
    · cases hlasting.1
    · exact hwindow.1
  rw [window_headroom] at hlength
  have hboth := lt_min_iff.mp hlength
  cases hzero with
  | inl hlimitZero => simp [Observation.window, hlimitZero] at hboth
  | inr hloadZero => simp [Observation.window, hloadZero] at hboth

theorem freshTogether_iff (hlimit : limit.freshnessAt now = .fresh)
    (hload : load.freshnessAt now = .fresh) :
    FreshTogether now limit load (headroomEvidence limit load) ↔ ¬ Skewed limit load := by
  by_cases hzero : limit.ttl = 0 ∨ load.ttl = 0
  · refine iff_of_false (not_freshTogether hlimit hload hzero) fun hnot => hnot ?_
    cases hzero with
    | inl hlimitZero => exact Or.inl hlimitZero
    | inr hloadZero => exact Or.inr (Or.inl hloadZero)
  · obtain ⟨hlimitTtl, hloadTtl⟩ := not_or.mp hzero
    have hstanding := Observation.standing_of_fresh hlimit
    have hstanding' := Observation.standing_of_fresh hload
    have hlifetime := Observation.lifetime_of_fresh hlimit hlimitTtl
    have hlifetime' := Observation.lifetime_of_fresh hload hloadTtl
    have hcombined : 0 < (headroomEvidence limit load).window.length := by
      rw [window_headroom]
      exact lt_min hlifetime hlifetime'
    have hcovers := (Observation.fresh_iff_covers hstanding hlifetime).mp hlimit
    have hcovers' := (Observation.fresh_iff_covers hstanding' hlifetime').mp hload
    have hend : now.unixMillis.toInt ≤ endOfTime := by
      have hbelow := now.unixMillis.toInt_lt
      unfold endOfTime
      omega
    have hwindows := Window.combine_covers_iff hcovers hcovers' hend
    rw [Skewed, or_iff_right hlimitTtl, or_iff_right hloadTtl, not_or, ← hwindows]
    unfold FreshTogether
    simp only [Observation.fresh_iff_covers hstanding hlifetime,
      Observation.fresh_iff_covers hstanding' hlifetime',
      Observation.fresh_iff_covers (standing_headroom hstanding) hcombined,
      window_headroom, Int64.le_iff_toInt_le]
    constructor
    · intro h time hlater htop
      obtain ⟨timestamp, rfl⟩ := exists_timestamp hlater htop
      exact h timestamp hlater
    · intro h timestamp hlater
      have hbelow := timestamp.unixMillis.toInt_lt
      exact h _ hlater (by unfold endOfTime; omega)

end

/-! The quantities of an envelope. -/

structure Derivation where
  limit : Option Quantity
  load : Option Quantity
  headroom : Option Quantity

namespace Derivation

def Exact (derivation : Derivation) (now : Timestamp) : Prop :=
  ∀ headroom, derivation.headroom = some headroom →
    ∃ limit load, derivation.limit = some limit ∧ derivation.load = some load ∧
      FreshTogether now limit.toObservation load.toObservation headroom.toObservation

def Misdated (derivation : Derivation) (now : Timestamp) : Prop :=
  ∃ limit load : Quantity, derivation.limit = some limit ∧ derivation.load = some load ∧
    limit.unit = load.unit ∧ limit.isCurrentAt now = true ∧ load.isCurrentAt now = true ∧
    (limit.value.sub load.value).ge {} = true ∧ Skewed limit.toObservation load.toObservation

def derive (derivation : Derivation) (now : Timestamp) : Derivation :=
  { derivation with headroom := deriveHeadroom derivation.limit derivation.load now }

end Derivation

def PowerEnvelopeRecord.derivations (record : PowerEnvelopeRecord) : List Derivation :=
  ⟨record.rackLimit, record.rackObservedDraw, record.rackHeadroom⟩ ::
    record.domainBudgets.map fun budget => ⟨budget.limit, budget.observedDraw, budget.headroom⟩

def CoolingEnvelopeRecord.derivations (record : CoolingEnvelopeRecord) : List Derivation :=
  record.zones.map fun zone => ⟨zone.coolingCapacity, zone.designThermalLimit, zone.thermalHeadroom⟩

/-- What is derived from which quantities. -/
theorem deriveHeadroom_eq_some {limit load : Option Quantity} {now : Timestamp}
    {headroom : Quantity} (h : deriveHeadroom limit load now = some headroom) :
    ∃ declared observed : Quantity, limit = some declared ∧ load = some observed ∧
      declared.unit = observed.unit ∧ declared.isCurrentAt now = true ∧
      observed.isCurrentAt now = true ∧ (declared.value.sub observed.value).ge {} = true ∧
      headroom = { headroomEvidence declared.toObservation observed.toObservation with
        value := declared.value.sub observed.value, unit := declared.unit } := by
  unfold deriveHeadroom at h
  split at h
  · rename_i declared observed
    split at h
    · rename_i hcomparable
      obtain ⟨hunit, hdeclared, hobserved⟩ := hcomparable
      simp only [Option.ite_none_right_eq_some, Option.some.injEq] at h
      obtain ⟨hvalue, rfl⟩ := h
      exact ⟨declared, observed, rfl, rfl, hunit, hdeclared, hobserved, hvalue, rfl⟩
    · cases h
  · cases h

theorem deriveHeadroom_of_comparable {derivation : Derivation} {limit load : Quantity}
    {now : Timestamp} (hlimit : derivation.limit = some limit)
    (hload : derivation.load = some load) (hunit : limit.unit = load.unit)
    (hcurrent : limit.isCurrentAt now = true) (hcurrent' : load.isCurrentAt now = true)
    (hvalue : (limit.value.sub load.value).ge {} = true) :
    (derivation.derive now).headroom =
      some { headroomEvidence limit.toObservation load.toObservation with
        value := limit.value.sub load.value, unit := limit.unit } := by
  have hcomparable : limit.unit = load.unit ∧ limit.isCurrentAt now = true ∧
      load.isCurrentAt now = true := ⟨hunit, hcurrent, hcurrent'⟩
  simp only [Derivation.derive, hlimit, hload, deriveHeadroom]
  rw [if_pos hcomparable, if_pos hvalue]
  rfl

theorem Derivation.exact_derive_iff (derivation : Derivation) (now : Timestamp) :
    (derivation.derive now).Exact now ↔ ¬ derivation.Misdated now := by
  constructor
  · rintro hexact ⟨limit, load, hlimit, hload, hunit, hcurrent, hcurrent', hvalue, hskewed⟩
    have hderived := deriveHeadroom_of_comparable hlimit hload hunit hcurrent hcurrent' hvalue
    obtain ⟨declared, observed, hdeclared, hobserved, htogether⟩ := hexact _ hderived
    cases hlimit.symm.trans hdeclared
    cases hload.symm.trans hobserved
    exact (freshTogether_iff (of_decide_eq_true hcurrent) (of_decide_eq_true hcurrent')).mp
      htogether hskewed
  · intro hdated headroom hheadroom
    obtain ⟨limit, load, hlimit, hload, hunit, hcurrent, hcurrent', hvalue, rfl⟩ :=
      deriveHeadroom_eq_some hheadroom
    refine ⟨limit, load, hlimit, hload, ?_⟩
    apply (freshTogether_iff (of_decide_eq_true hcurrent) (of_decide_eq_true hcurrent')).mpr
    intro hskewed
    exact hdated ⟨limit, load, hlimit, hload, hunit, hcurrent, hcurrent', hvalue, hskewed⟩

theorem PowerEnvelopeRecord.derivations_recomputeDerived (record : PowerEnvelopeRecord)
    (now : Timestamp) :
    (record.recomputeDerived now).derivations = record.derivations.map (·.derive now) := by
  simp [derivations, recomputeDerived, Derivation.derive]

theorem CoolingEnvelopeRecord.derivations_recomputeDerived (record : CoolingEnvelopeRecord)
    (now : Timestamp) :
    (record.recomputeDerived now).derivations = record.derivations.map (·.derive now) := by
  simp [derivations, recomputeDerived, Derivation.derive]

theorem exact_derived_iff (derivations : List Derivation) (now : Timestamp) :
    (∀ derivation ∈ derivations.map (·.derive now), derivation.Exact now) ↔
      ¬ ∃ derivation ∈ derivations, derivation.Misdated now := by
  simp only [List.forall_mem_map, Derivation.exact_derive_iff, not_exists, not_and]

namespace RackState
variable {options : RackFabricOptions} {state : RackState} {publisher : Option PublisherRef}

def PowerExact (now : Timestamp) (state : RackState) : Prop :=
  ∀ envelope, state.power = some envelope →
    ∀ derivation ∈ envelope.derivations, derivation.Exact now

def CoolingExact (now : Timestamp) (state : RackState) : Prop :=
  ∀ envelope, state.cooling = some envelope →
    ∀ derivation ∈ envelope.derivations, derivation.Exact now

/-- Every headroom of an envelope is, from its publication on, fresh exactly while its
operands are. -/
def HeadroomExact (options : RackFabricOptions) (state : RackState) (input : Input) : Prop :=
  (state.perform options input).2 = some .accepted →
    match input.mutation with
    | .publishPowerEnvelope _ => PowerExact input.now (state.step options input)
    | .publishCoolingEnvelope _ => CoolingExact input.now (state.step options input)
    | _ => True

def MisdatesHeadroom (state : RackState) (now : Timestamp) : Mutation → Prop
  | .publishPowerEnvelope request =>
      state.Admits request.authority
          (fun publisher => admitPowerEnvelope state publisher request) ∧
        ∃ derivation ∈ request.record.derivations, derivation.Misdated now
  | .publishCoolingEnvelope request =>
      state.Admits request.authority
          (fun publisher => admitCoolingEnvelope state publisher request) ∧
        ∃ derivation ∈ request.record.derivations, derivation.Misdated now
  | _ => False

theorem derivations_commitPowerEnvelope {request : PublishPowerEnvelopeRequest}
    {record : PowerEnvelopeRecord} (h : admitPowerEnvelope state publisher request = .ok record)
    (now : Timestamp) :
    (∀ derivation ∈ (record.recomputeDerived now).derivations, derivation.Exact now) ↔
      ¬ ∃ derivation ∈ request.record.derivations, derivation.Misdated now := by
  obtain ⟨owner, -, hrecord⟩ := (powerEnvelopeAdmission h).stored
  have hsame : record.derivations = request.record.derivations := by
    rw [hrecord]
    rfl
  rw [PowerEnvelopeRecord.derivations_recomputeDerived, exact_derived_iff, hsame]

theorem derivations_commitCoolingEnvelope {request : PublishCoolingEnvelopeRequest}
    {record : CoolingEnvelopeRecord}
    (h : admitCoolingEnvelope state publisher request = .ok record) (now : Timestamp) :
    (∀ derivation ∈ (record.recomputeDerived now).derivations, derivation.Exact now) ↔
      ¬ ∃ derivation ∈ request.record.derivations, derivation.Misdated now := by
  have hsame : record.derivations.Perm request.record.derivations :=
    (coolingEnvelopeAdmission h).zones.map _
  rw [CoolingEnvelopeRecord.derivations_recomputeDerived, exact_derived_iff]
  simp only [hsame.mem_iff]

theorem headroomExact_iff (state : RackState) (input : Input) :
    HeadroomExact options state input ↔ ¬ MisdatesHeadroom state input.now input.mutation := by
  obtain ⟨now, mutation⟩ := input
  cases mutation with
  | publishPowerEnvelope request =>
    refine @accepted_imp_iff state _ request.authority
      (fun publisher => admitPowerEnvelope state publisher request)
      (state.commitPowerEnvelope · now) _ (fun _ => ⟨_, _, rfl⟩) (PowerExact now) _ ?_
    intro publisher record hok
    have hpower : ((state.commitPowerEnvelope record now).advancePublication publisher).power =
        some (record.recomputeDerived now) := by
      cases publisher <;> rfl
    rw [PowerExact, hpower, ← derivations_commitPowerEnvelope hok]
    simp only [Option.some.injEq, forall_eq']
  | publishCoolingEnvelope request =>
    refine @accepted_imp_iff state _ request.authority
      (fun publisher => admitCoolingEnvelope state publisher request)
      (state.commitCoolingEnvelope · now) _ (fun _ => ⟨_, _, rfl⟩) (CoolingExact now) _ ?_
    intro publisher record hok
    have hcooling :
        ((state.commitCoolingEnvelope record now).advancePublication publisher).cooling =
          some (record.recomputeDerived now) := by
      cases publisher <;> rfl
    rw [CoolingExact, hcooling, ← derivations_commitCoolingEnvelope hok]
    simp only [Option.some.injEq, forall_eq']
  | _ => exact iff_of_true (fun _ => trivial) id

theorem headroom_exact_iff_not_misdated (options : RackFabricOptions) (inputs : List Input) :
    Execution.EachStep (step options) (HeadroomExact options) (fresh options) inputs ↔
      Execution.EachStep (step options)
        (fun state input => ¬ MisdatesHeadroom state input.now input.mutation)
        (fresh options) inputs :=
  Execution.eachStep_congr _ fun _ input _ => headroomExact_iff _ input

end RackState

namespace Scenario

/-- The rack limit of 1000 watts is a durable declaration, and the draw of 400 watts is
measured for a minute. -/
def headroomInputs : List Input :=
  let limit : Quantity :=
    { value := ⟨0x408F400000000000⟩, unit := .watts, provenance := .reported, observedAt := ⟨1000⟩ }
  let draw : Quantity :=
    { value := ⟨0x4079000000000000⟩, unit := .watts, provenance := .measured, observedAt := ⟨1000⟩
      ttl := 60000, durability := .ephemeral }
  [declareRack,
    { now := ⟨1000⟩
      mutation := .publishPowerEnvelope
        { authority := operator
          record := { rackLimit := some limit, rackObservedDraw := some draw } } }]

/-- The headroom of the rack is stale at the time of its publication, and its operands are fresh. -/
def staleAtOnce (envelope : PowerEnvelopeRecord) : Bool :=
  match envelope.rackLimit, envelope.rackObservedDraw, envelope.rackHeadroom with
  | some limit, some draw, some headroom =>
      limit.isCurrentAt ⟨1000⟩ && draw.isCurrentAt ⟨1000⟩ && !headroom.isCurrentAt ⟨1000⟩
  | _, _, _ => false

end Scenario

namespace RackState

theorem durable_limit_headroom_stale :
    ¬ Execution.EachStep (step Scenario.defaults) (HeadroomExact Scenario.defaults)
      (fresh Scenario.defaults) Scenario.headroomInputs := by
  intro h
  have hexact : PowerExact ⟨1000⟩ (Scenario.run Scenario.headroomInputs) :=
    h (Scenario.headroomInputs.take 1) Scenario.headroomInputs[1] (List.prefix_refl _)
      (by decide +kernel)
  have hstale : (Scenario.run Scenario.headroomInputs).power.any Scenario.staleAtOnce = true := by
    decide +kernel
  obtain ⟨envelope, hpower, hstale⟩ := (Option.any_eq_true _ _).mp hstale
  unfold Scenario.staleAtOnce at hstale
  split at hstale
  · rename_i limit draw headroom hlimit hdraw hheadroom
    simp only [Bool.and_eq_true, Bool.not_eq_true', Observation.isCurrentAt, decide_eq_true_eq,
      decide_eq_false_iff_not] at hstale
    obtain ⟨⟨hlimitFresh, hdrawFresh⟩, hheadroomStale⟩ := hstale
    have hentry := hexact envelope hpower _ (List.mem_cons_self ..)
    obtain ⟨limit', draw', hlimit', hdraw', htogether⟩ := hentry headroom hheadroom
    cases hlimit.symm.trans hlimit'
    cases hdraw.symm.trans hdraw'
    exact hheadroomStale ((htogether ⟨1000⟩ (Int64.le_refl _)).mpr ⟨hlimitFresh, hdrawFresh⟩)
  · cases hstale

end RackState

end RackFabric
