import RackFabric.Properties.CompareAndSet

/-! The generation of a member goes up by one with every accepted publication of it,
except where an expected generation takes the place of the check against jumps. -/
namespace RackFabric
open Std RackGraph

namespace RackState
variable {options : RackFabricOptions} {state : RackState} {publisher : Option PublisherRef}

/-- An accepted publication of an existing member that does not ask to supersede it stores
the generation after the one it had. -/
def AdvancesByOne (options : RackFabricOptions) (state : RackState) (input : Input) : Prop :=
  ∀ request existing, input.mutation = .publishMember request → request.supersede = false →
    state.members[request.record.key]? = some existing →
    (state.perform options input).2 = some .accepted →
    ∃ stored, (state.step options input).members[request.record.key]? = some stored ∧
      stored.generation.value.toNat = existing.generation.value.toNat + 1

/-- A publication that expects the generation of the member passes its checks, and carries a
generation beyond the next one. -/
def Leaps (options : RackFabricOptions) (state : RackState) : Mutation → Prop
  | .publishMember request =>
      state.Admits request.authority (fun publisher => admitMember options state publisher request) ∧
        request.supersede = false ∧ request.expectedGeneration.isSome = true ∧
        ∃ existing, state.members[request.record.key]? = some existing ∧
          existing.generation.value.toNat + 1 < request.record.generation.value.toNat
  | _ => False

/-- The target is the next generation, unless the record is past it. -/
theorem target_next_iff {previous target : MemberGeneration} {record : MemberRecord}
    (h : targetGeneration previous record = some target) :
    target.value.toNat = previous.value.toNat + 1 ↔
      ¬ previous.value.toNat + 1 < record.generation.value.toNat := by
  unfold targetGeneration at h
  split at h
  · rename_i hahead
    cases h
    have hlt : previous.value.toNat < record.generation.value.toNat :=
      UInt64.lt_iff_toNat_lt.mp hahead.2
    omega
  · rename_i hbehind
    have hnext := Generation.toNat_of_next h
    have hle : ¬ previous.value.toNat < record.generation.value.toNat := by
      intro hlt
      apply hbehind
      refine ⟨?_, UInt64.lt_iff_toNat_lt.mpr hlt⟩
      simp only [Generation.isSet, decide_eq_true_eq]
      intro hzero
      simp [hzero] at hlt
    omega

/-- Without an expected generation, a record past the next generation is refused. -/
theorem not_past_of_admitted {existing : MemberRecord} {request : PublishMemberRequest}
    (h : admitOverMember existing request = .ok ()) (hsupersede : request.supersede = false)
    (hexpected : request.expectedGeneration = none) :
    ¬ existing.generation.value.toNat + 1 < request.record.generation.value.toNat := by
  intro hpast
  have hset : request.record.generation.isSet = true := by
    simp only [Generation.isSet, decide_eq_true_eq]
    intro hzero
    simp [hzero] at hpast
  have hjumps : jumpsAhead existing request.record = true := by
    unfold jumpsAhead
    split
    · rfl
    · rename_i maximum hmaximum
      have hnext := Generation.toNat_of_next hmaximum
      apply decide_eq_true
      apply UInt64.lt_iff_toNat_lt.mpr
      omega
  unfold admitOverMember at h
  rw [refuseIf_bind_eq_ok, refuseIf_bind_eq_ok, hexpected] at h
  simp only [hset, if_true, admitGenerationOf, refuseIf_bind_eq_ok, refuseIf_eq_ok, hjumps,
    hsupersede] at h
  simp at h

/-- What an accepted publication stores, against the record that it replaces. -/
theorem stored_next_iff {request : PublishMemberRequest} {existing record : MemberRecord}
    (h : admitMember options state publisher request = .ok record)
    (hfound : state.members[request.record.key]? = some existing) :
    record.generation.value.toNat = existing.generation.value.toNat + 1 ↔
      ¬ existing.generation.value.toNat + 1 < request.record.generation.value.toNat := by
  have htarget := target_of_admitMember h
  rw [hfound] at htarget
  have hnext := target_next_iff htarget
  rwa [clearRetired_generation] at hnext

theorem members_commitMember {request : PublishMemberRequest} {record : MemberRecord}
    (h : admitMember options state publisher request = .ok record) :
    (state.commitMember record).members[request.record.key]? = some record := by
  rw [show (state.commitMember record).members = state.members.insert record.key record
    from members_storeMember .., (memberAdmission h).key]
  simp

/-- An admitted publication is accepted and its record is stored. -/
theorem accepted_publication {request : PublishMemberRequest} (now : Timestamp)
    (h : state.Admits request.authority
      (fun publisher => admitMember options state publisher request)) :
    (state.perform options ⟨now, .publishMember request⟩).2 = some .accepted ∧
      ∃ publisher record, admitMember options state publisher request = .ok record ∧
        (state.step options ⟨now, .publishMember request⟩).members =
          (state.commitMember record).members := by
  refine ⟨(publishMember_accepted_iff request).mpr h, ?_⟩
  obtain ⟨publisher, record, -, hok, hcommitted⟩ :=
    committed_of_admits state.commitMember (fun _ => ⟨_, _, rfl⟩) h
  refine ⟨publisher, record, hok, ?_⟩
  change (publishMember options state request).1.members = _
  rw [show (publishMember options state request).1 = _ from hcommitted,
    toRackGraph_advancePublication]

theorem publishMember_advances_iff (now : Timestamp) (request : PublishMemberRequest) :
    AdvancesByOne options state ⟨now, .publishMember request⟩ ↔
      ¬ Leaps options state (.publishMember request) := by
  constructor
  · rintro hadvances ⟨hadmits, hsupersede, -, existing, hfound, hpast⟩
    obtain ⟨haccepted, publisher, record, hok, hstep⟩ := accepted_publication now hadmits
    obtain ⟨stored, hstored, hnext⟩ := hadvances request existing rfl hsupersede hfound haccepted
    rw [hstep, members_commitMember hok] at hstored
    cases hstored
    exact (stored_next_iff hok hfound).mp hnext hpast
  · intro hleaps request' existing hrequest hsupersede hfound haccepted
    cases hrequest
    have hadmits := (publishMember_accepted_iff request).mp haccepted
    obtain ⟨-, publisher, record, hok, hstep⟩ := accepted_publication now hadmits
    refine ⟨record, by rw [hstep, members_commitMember hok], ?_⟩
    apply (stored_next_iff hok hfound).mpr
    cases hexpected : request.expectedGeneration with
    | none => exact not_past_of_admitted ((memberAdmission hok).replaces hfound) hsupersede hexpected
    | some expected =>
      intro hpast
      exact hleaps ⟨hadmits, hsupersede, by simp [hexpected], existing, hfound, hpast⟩

theorem advancesByOne_iff (state : RackState) (input : Input) :
    AdvancesByOne options state input ↔ ¬ Leaps options state input.mutation := by
  obtain ⟨now, mutation⟩ := input
  cases mutation with
  | publishMember request => exact publishMember_advances_iff now request
  | _ =>
    refine iff_of_true ?_ id
    rintro request existing ⟨⟩

theorem generations_advance_by_one_iff (options : RackFabricOptions) (inputs : List Input) :
    Execution.EachStep (step options) (AdvancesByOne options) (fresh options) inputs ↔
      Execution.EachStep (step options) (fun state input => ¬ Leaps options state input.mutation)
        (fresh options) inputs :=
  Execution.eachStep_congr _ fun _ input _ => advancesByOne_iff _ input

/-- The record carries the hundredth generation and expects the first one. -/
def leapingInputs : List Input :=
  [Scenario.declareRack,
    Scenario.publishMember Scenario.operator { key := Scenario.node "a" },
    { mutation := .publishMember
        { authority := Scenario.operator
          record := { key := Scenario.node "a", generation := ⟨100⟩ }
          expectedGeneration := some .first } }]

theorem expected_publication_leaps :
    ¬ Execution.EachStep (step Scenario.defaults) (AdvancesByOne Scenario.defaults)
      (fresh Scenario.defaults) leapingInputs := by
  intro h
  have hadvances := h (leapingInputs.take 2) leapingInputs[2] (List.prefix_refl _)
  have hstored : (Scenario.run leapingInputs).members[Scenario.node "a"]?.map
      (·.generation.value.toNat) = some 100 := by decide +kernel
  have hfound : ((Scenario.run (leapingInputs.take 2)).members[Scenario.node "a"]?.map
      (·.generation.value.toNat)) = some 1 := by decide +kernel
  obtain ⟨existing, hexisting, hone⟩ := Option.map_eq_some_iff.mp hfound
  obtain ⟨stored, hlater, hnext⟩ := hadvances _ existing rfl rfl hexisting (by decide +kernel)
  have hlast : (Scenario.run leapingInputs).members[Scenario.node "a"]? = some stored := hlater
  rw [hlast] at hstored
  rw [hone] at hnext
  simp only [Option.map_some, Option.some.injEq] at hstored
  omega

end RackState

end RackFabric
