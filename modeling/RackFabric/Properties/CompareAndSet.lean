import RackFabric.Properties.Versions

/-! A request that carries an expected generation is accepted for no other one,
where the mutation compares it. -/
namespace RackFabric
open Std Tables RackGraph RackState

def Mutation.expectation : Mutation → Option (MemberKey × MemberGeneration)
  | .publishMember request => request.expectedGeneration.map (request.record.key, ·)
  | .publishHealth request => request.expectedGeneration.map (request.member, ·)
  | .publishCapability request => request.expectedGeneration.map (request.member, ·)
  | .withdrawEvidence request => request.expectedGeneration.map (request.member, ·)
  | .markUnavailable request => request.expectedGeneration.map (request.member, ·)
  | .retireMember request => request.expectedGeneration.map (request.member, ·)
  | _ => none

namespace RackState
variable {options : RackFabricOptions} {state : RackState}

def AcceptedAt (options : RackFabricOptions) (expectation : MemberKey × MemberGeneration)
    (state : RackState) (input : Input) : Prop :=
  input.mutation.expectation = some expectation ∧
    (state.perform options input).2 = some .accepted

def ComparesAndSets (options : RackFabricOptions) (state : RackState) (input : Input) : Prop :=
  ∀ member expected, AcceptedAt options (member, expected) state input →
    ∃ record, state.members[member]? = some record ∧ record.generation = expected

def Mismatches (state : RackState) (member : MemberKey) (expected : Option MemberGeneration) :
    Prop :=
  ∃ generation existing, expected = some generation ∧ state.members[member]? = some existing ∧
    existing.generation ≠ generation

/-- The mutation passes its checks although nothing compared its expectation: a
publication of a new member, health for a later generation, and the mutations
that never look at it. -/
def Unchecked (options : RackFabricOptions) (state : RackState) : Mutation → Prop
  | .publishMember request =>
      state.Admits request.authority (fun publisher => admitMember options state publisher request) ∧
        request.expectedGeneration.isSome = true ∧ request.record.key ∉ state.members
  | .publishHealth request =>
      state.Admits request.authority (fun publisher => admitHealth state publisher request) ∧
        ∃ expected existing, request.expectedGeneration = some expected ∧
          state.members[request.member]? = some existing ∧ existing.generation < expected
  | .publishCapability request =>
      state.Admits request.authority
          (fun publisher => admitCapability options state publisher request) ∧
        state.Mismatches request.member request.expectedGeneration
  | .withdrawEvidence request =>
      state.Admits request.authority (fun publisher => admitWithdrawal state publisher request) ∧
        state.Mismatches request.member request.expectedGeneration
  | .markUnavailable request =>
      state.Admits request.authority (fun _ => admitUnavailable state request) ∧
        state.Mismatches request.member request.expectedGeneration
  | .retireMember request =>
      state.Admits request.authority (fun _ => admitRetirement state request) ∧
        state.Mismatches request.member request.expectedGeneration
  | _ => False

theorem publishMember_accepted_iff (request : PublishMemberRequest) :
    some (publishMember options state request).2.outcome = some MutationOutcome.accepted ↔
      state.Admits request.authority
        (fun publisher => admitMember options state publisher request) := by
  unfold publishMember
  apply underAuthority_accepted_iff state.commitMember
  exact fun _ => ⟨_, _, rfl⟩

theorem publishHealth_accepted_iff (request : PublishHealthRequest) :
    some (state.publishHealth request).2.outcome = some MutationOutcome.accepted ↔
      state.Admits request.authority (fun publisher => admitHealth state publisher request) := by
  unfold publishHealth
  apply underAuthority_accepted_iff fun revision => state.commitHealth revision.1 revision.2
  exact fun ⟨_, _⟩ => ⟨_, _, rfl⟩

theorem publishCapability_accepted_iff (request : PublishCapabilityRequest) :
    some (publishCapability options state request).2.outcome = some MutationOutcome.accepted ↔
      state.Admits request.authority
        (fun publisher => admitCapability options state publisher request) := by
  unfold publishCapability
  apply underAuthority_accepted_iff fun revision => state.commitCapability revision.1 revision.2
  exact fun ⟨_, _⟩ => ⟨_, _, rfl⟩

theorem withdrawEvidence_accepted_iff (request : WithdrawEvidenceRequest) :
    some (state.withdrawEvidence request).2.outcome = some MutationOutcome.accepted ↔
      state.Admits request.authority
        (fun publisher => admitWithdrawal state publisher request) := by
  unfold withdrawEvidence
  apply underAuthority_accepted_iff fun revision => state.commitRevision revision.1 revision.2
  exact fun ⟨_, _⟩ => ⟨_, _, rfl⟩

theorem markUnavailable_accepted_iff (request : MarkUnavailableRequest) :
    some (state.markUnavailable request).2.outcome = some MutationOutcome.accepted ↔
      state.Admits request.authority (fun _ => admitUnavailable state request) := by
  unfold markUnavailable
  apply underAuthority_accepted_iff fun revision => state.commitRevision revision.1 revision.2
  exact fun ⟨_, _⟩ => ⟨_, _, rfl⟩

/-- A mutation that never looks at the expectation. -/
theorem compares_iff_of_ignored {α : Type} {input : Input} {token : AuthorityToken}
    {member : MemberKey} {expected : Option MemberGeneration}
    {check : Option PublisherRef → Except Refusal α}
    (hexpectation : input.mutation.expectation = expected.map (member, ·))
    (haccepted : (state.perform options input).2 = some .accepted ↔ state.Admits token check)
    (hfound : state.Admits token check → ∃ existing, state.members[member]? = some existing) :
    ComparesAndSets options state input ↔
      ¬ (state.Admits token check ∧ state.Mismatches member expected) := by
  constructor
  · rintro hcompares ⟨hadmits, generation, existing, rfl, hexisting, hdiffers⟩
    obtain ⟨record, hrecord, hsame⟩ :=
      hcompares member generation ⟨hexpectation, haccepted.mpr hadmits⟩
    rw [hexisting] at hrecord
    cases hrecord
    exact hdiffers hsame
  · rintro hmatches target generation ⟨hcarried, houtcome⟩
    rw [hexpectation] at hcarried
    obtain ⟨carried, rfl, hpair⟩ := Option.map_eq_some_iff.mp hcarried
    cases hpair
    have hadmits := haccepted.mp houtcome
    obtain ⟨existing, hexisting⟩ := hfound hadmits
    refine ⟨existing, hexisting, Classical.byContradiction fun hdiffers => ?_⟩
    exact hmatches ⟨hadmits, generation, existing, rfl, hexisting, hdiffers⟩

theorem publishMember_compares_iff (now : Timestamp) (request : PublishMemberRequest) :
    ComparesAndSets options state ⟨now, .publishMember request⟩ ↔
      ¬ Unchecked options state (.publishMember request) := by
  have haccepted : (state.perform options ⟨now, .publishMember request⟩).2 = some .accepted ↔
      state.Admits request.authority fun publisher => admitMember options state publisher request :=
    publishMember_accepted_iff request
  constructor
  · rintro hcompares ⟨hadmits, hsome, habsent⟩
    obtain ⟨expected, hexpected⟩ := Option.isSome_iff_exists.mp hsome
    have hcarried : (Mutation.publishMember request).expectation =
        some (request.record.key, expected) := by
      simp [Mutation.expectation, hexpected]
    obtain ⟨record, hfound, -⟩ := hcompares _ expected ⟨hcarried, haccepted.mpr hadmits⟩
    exact habsent (ExtTreeMap.mem_iff_isSome_getElem?.mpr (by simp [hfound]))
  · rintro hchecked member expected ⟨hcarried, houtcome⟩
    obtain ⟨carried, hexpected, hpair⟩ := Option.map_eq_some_iff.mp hcarried
    cases hpair
    have hadmits := haccepted.mp houtcome
    cases hfound : state.members[request.record.key]? with
    | none =>
      have habsent : request.record.key ∉ state.members := by
        rw [ExtTreeMap.mem_iff_isSome_getElem?, hfound]
        simp
      exact absurd ⟨hadmits, by simp [hexpected], habsent⟩ hchecked
    | some existing =>
      obtain ⟨publisher, record, -, hok⟩ := hadmits
      have hover := (memberAdmission hok).replaces hfound
      unfold admitOverMember at hover
      rw [refuseIf_bind_eq_ok, refuseIf_bind_eq_ok, hexpected] at hover
      simp only [admitExpectedMember, refuseIf_bind_eq_ok, refuseIf_eq_ok,
        decide_eq_false_iff_not] at hover
      exact ⟨existing, rfl, Generation.eq_of_not_lt hover.2.2.2 hover.2.2.1⟩

theorem publishHealth_compares_iff (now : Timestamp) (request : PublishHealthRequest) :
    ComparesAndSets options state ⟨now, .publishHealth request⟩ ↔
      ¬ Unchecked options state (.publishHealth request) := by
  have haccepted : (state.perform options ⟨now, .publishHealth request⟩).2 = some .accepted ↔
      state.Admits request.authority fun publisher => admitHealth state publisher request :=
    publishHealth_accepted_iff request
  constructor
  · rintro hcompares ⟨hadmits, expected, existing, hexpected, hexisting, hlater⟩
    have hcarried : (Mutation.publishHealth request).expectation =
        some (request.member, expected) := by
      simp [Mutation.expectation, hexpected]
    obtain ⟨record, hfound, hsame⟩ := hcompares _ expected ⟨hcarried, haccepted.mpr hadmits⟩
    rw [hexisting] at hfound
    cases hfound
    rw [hsame] at hlater
    exact Generation.lt_irrefl _ hlater
  · rintro hchecked member expected ⟨hcarried, houtcome⟩
    obtain ⟨carried, hexpected, hpair⟩ := Option.map_eq_some_iff.mp hcarried
    cases hpair
    have hadmits := haccepted.mp houtcome
    obtain ⟨publisher, ⟨existing, record⟩, hauthority, hok⟩ := id hadmits
    have hexisting := (admitHealth_ok hok).1
    refine ⟨existing, hexisting, Generation.eq_of_not_lt (fun hlater => ?_) ?_⟩
    · exact hchecked ⟨hadmits, expected, existing, hexpected, hexisting, hlater⟩
    · unfold admitHealth at hok
      simp only [bind_eq_ok, exists_and_left, exists_const, hexpected, refuseIf_eq_ok,
        refuseSome_eq_ok, pure_eq_ok, Prod.mk.injEq, decide_eq_false_iff_not] at hok
      obtain ⟨found, -, hnot, -, -, next, -, rfl, -⟩ := hok
      exact hnot

theorem comparesAndSets_iff (state : RackState) (input : Input) :
    ComparesAndSets options state input ↔ ¬ Unchecked options state input.mutation := by
  obtain ⟨now, mutation⟩ := input
  cases mutation with
  | publishMember request => exact publishMember_compares_iff now request
  | publishHealth request => exact publishHealth_compares_iff now request
  | publishCapability request =>
    refine compares_iff_of_ignored rfl (publishCapability_accepted_iff request) ?_
    rintro ⟨publisher, ⟨existing, record⟩, -, hok⟩
    exact ⟨existing, (admitCapability_ok hok).1⟩
  | withdrawEvidence request =>
    refine compares_iff_of_ignored rfl (withdrawEvidence_accepted_iff request) ?_
    rintro ⟨publisher, ⟨existing, record⟩, -, hok⟩
    exact ⟨existing, (admitWithdrawal_ok hok).1⟩
  | markUnavailable request =>
    refine compares_iff_of_ignored rfl (markUnavailable_accepted_iff request) ?_
    rintro ⟨publisher, ⟨existing, record⟩, -, hok⟩
    exact ⟨existing, (admitUnavailable_ok hok).1⟩
  | retireMember request =>
    have haccepted : (state.perform options ⟨now, .retireMember request⟩).2 = some .accepted ↔
        state.Admits request.authority fun _ => admitRetirement state request :=
      underAuthority_accepted_iff (state.commitRetirement request.member) fun _ => ⟨_, _, rfl⟩
    refine compares_iff_of_ignored rfl haccepted ?_
    rintro ⟨publisher, record, -, hok⟩
    obtain ⟨existing, hexisting, -⟩ := admitRetirement_ok hok
    exact ⟨existing, hexisting⟩
  | _ =>
    refine iff_of_true ?_ id
    rintro member expected ⟨hcarried, -⟩
    cases hcarried

/-! An accepted mutation leaves its member past the expected generation. -/

def Passed (expectation : MemberKey × MemberGeneration) (state : RackState) : Prop :=
  ∃ record, state.members[expectation.1]? = some record ∧ expectation.2 < record.generation

theorem Succeeds.passed {member : MemberKey} {existing found record : MemberRecord}
    (h : state.Succeeds member found record) (hkeyed : Keyed state.toRackGraph)
    (hfound : state.members[member]? = some existing) :
    (state.reviseMember found record).Passed (member, existing.generation) := by
  obtain rfl := Option.some.inj (h.found.symm.trans hfound)
  have hkey : record.key = member := h.key.trans (hkeyed.members h.found)
  refine ⟨record, ?_, Generation.lt_of_next h.next⟩
  rw [show (state.reviseMember found record).members = state.members.insert record.key record
    from members_storeMember .., hkey]
  simp

theorem member_of_expectation {target member : MemberKey} {carried : Option MemberGeneration}
    {expected : MemberGeneration} (h : carried.map (target, ·) = some (member, expected)) :
    target = member := by
  obtain ⟨generation, -, hpair⟩ := Option.map_eq_some_iff.mp h
  exact (Prod.mk.inj hpair).1

theorem passed_of_admitted {now : Timestamp} {publisher : Option PublisherRef}
    {mutation : Mutation} {committed : RackState} {member : MemberKey} {existing : MemberRecord}
    {expected : MemberGeneration} (hkeyed : Keyed state.toRackGraph)
    (hexpectation : mutation.expectation = some (member, expected))
    (hfound : state.members[member]? = some existing)
    (h : Admitted options state now publisher mutation committed) :
    committed.Passed (member, existing.generation) := by
  cases h with
  | member hadmitted =>
    obtain rfl := member_of_expectation hexpectation
    refine ⟨_, ?_, generation_admitMember hadmitted hfound⟩
    rw [show (state.commitMember _).members = state.members.insert _ _ from
      members_storeMember .., (memberAdmission hadmitted).key]
    simp
  | health hadmitted =>
    obtain rfl := member_of_expectation hexpectation
    exact (succeeds_health hadmitted).passed hkeyed hfound
  | capability hadmitted =>
    obtain rfl := member_of_expectation hexpectation
    exact (succeeds_capability hadmitted).passed hkeyed hfound
  | withdrawal hadmitted =>
    obtain rfl := member_of_expectation hexpectation
    exact (succeeds_withdrawal hadmitted).passed hkeyed hfound
  | unavailable hadmitted =>
    obtain rfl := member_of_expectation hexpectation
    exact (succeeds_unavailable hadmitted).passed hkeyed hfound
  | retirement hadmitted =>
    obtain rfl := member_of_expectation hexpectation
    obtain ⟨old, hsucceeds⟩ := succeeds_retirement hadmitted
    obtain rfl := Option.some.inj (hsucceeds.found.symm.trans hfound)
    have hkey := hsucceeds.key.trans (hkeyed.members hsucceeds.found)
    exact ⟨_, by rw [members_retirement hkey, if_pos rfl],
      Generation.lt_of_next hsucceeds.next⟩
  | _ => cases hexpectation

theorem passed_of_accepted {member : MemberKey} {expected : MemberGeneration} {input : Input}
    (hkeyed : Keyed state.toRackGraph) (hcompares : ComparesAndSets options state input)
    (haccepted : AcceptedAt options (member, expected) state input) :
    (state.step options input).Passed (member, expected) := by
  obtain ⟨existing, hfound, rfl⟩ := hcompares member expected haccepted
  obtain ⟨hexpectation, houtcome⟩ := haccepted
  have htransition : Transition options state input.now input.mutation _ _ :=
    perform_transition state input
  unfold step
  obtain ⟨now, mutation⟩ := input
  generalize state.perform options ⟨now, mutation⟩ = result at htransition houtcome ⊢
  obtain ⟨after, replied⟩ := result
  dsimp only at htransition houtcome hexpectation ⊢
  cases htransition with
  | refused hrefused => exact absurd (Option.some.inj houtcome) hrefused
  | noted refusal => exact absurd (Option.some.inj houtcome) refusal.not_accepted
  | committed htoken hauthority hadmitted =>
    unfold Passed
    rw [toRackGraph_advancePublication]
    exact passed_of_admitted hkeyed hexpectation hfound hadmitted
  | _ => cases hexpectation

/-- Compare-and-set holds in a run, and with it every expectation is accepted at
most once, exactly when no mutation of the run passes unchecked. -/
theorem compare_and_set_iff (options : RackFabricOptions) (inputs : List Input) :
    (Execution.EachStep (step options) (ComparesAndSets options) (fresh options) inputs ∧
      ∀ expectation, Execution.AtMostOnce (step options) (AcceptedAt options expectation)
        (fresh options) inputs) ↔
      Execution.EachStep (step options) (fun state input => ¬ Unchecked options state input.mutation)
        (fresh options) inputs := by
  have hchecked : Execution.EachStep (step options) (ComparesAndSets options) (fresh options)
      inputs ↔ Execution.EachStep (step options)
        (fun state input => ¬ Unchecked options state input.mutation) (fresh options) inputs :=
    Execution.eachStep_congr _ fun before input _ => comparesAndSets_iff _ input
  rw [← hchecked]
  refine and_iff_left_of_imp fun hcompares => ?_
  rintro ⟨member, expected⟩
  apply Execution.atMostOnce_of_passed (step options) (Passed (member, expected))
  · intro before input hinitial haccepted
    exact passed_of_accepted (wellFormed_run options before).toKeyed
      (hcompares before input hinitial) haccepted
  · rintro before between hinitial ⟨record, hfound, hlt⟩
    obtain ⟨later, hlater, hdated⟩ :=
      dated_run options inputs before between hinitial member record hfound
    exact ⟨later, hlater, Generation.lt_of_lt_of_le hlt hdated⟩
  · rintro before input hinitial haccepted ⟨record, hfound, hlt⟩
    obtain ⟨found, hsame, rfl⟩ := hcompares before input hinitial member expected haccepted
    obtain rfl := Option.some.inj (hsame.symm.trans hfound)
    exact Generation.lt_irrefl _ hlt

/-- Two withdrawals that both expect the first generation of the member. -/
def withdrawingInputs : List Input :=
  let withdrawal : Input :=
    { mutation := .withdrawEvidence
        { authority := Scenario.operator, member := Scenario.node "a"
          expectedGeneration := some .first } }
  [Scenario.declareRack,
    Scenario.publishMember Scenario.operator { key := Scenario.node "a" }, withdrawal, withdrawal]

theorem expectation_accepted_twice :
    ¬ (Execution.EachStep (step Scenario.defaults) (ComparesAndSets Scenario.defaults)
        (fresh Scenario.defaults) withdrawingInputs ∧
      ∀ expectation, Execution.AtMostOnce (step Scenario.defaults)
        (AcceptedAt Scenario.defaults expectation) (fresh Scenario.defaults)
        withdrawingInputs) := by
  rintro ⟨-, honce⟩
  have hfirst : ((Scenario.run (withdrawingInputs.take 2)).perform Scenario.defaults
      withdrawingInputs[2]).2 = some .accepted := by
    decide +kernel
  have hsecond : ((Scenario.run (withdrawingInputs.take 3)).perform Scenario.defaults
      withdrawingInputs[3]).2 = some .accepted := by
    decide +kernel
  exact honce (Scenario.node "a", .first) (withdrawingInputs.take 2) withdrawingInputs[2] []
    withdrawingInputs[3] (List.prefix_refl _) ⟨rfl, hfirst⟩ ⟨rfl, hsecond⟩

end RackState

end RackFabric
