import RackFabric.Properties.Integrity

/-! The retirement of a member: whether it lasts, and whether a retired member
stays out of the topology. -/
namespace RackFabric
open Std SecondaryIndex Reachability Relation RackGraph RackState Tables

namespace RackGraph
variable {graph after : RackGraph}

def Retired (graph : RackGraph) (key : MemberKey) : Prop :=
  ∃ record, graph.members[key]? = some record ∧ record.lifecycle = .retired

theorem retired_iff_lifecycle {key : MemberKey} :
    graph.Retired key ↔ graph.members[key]?.map (·.lifecycle) = some .retired := by
  simp [Retired]

instance (key : MemberKey) : Decidable (graph.Retired key) :=
  decidable_of_iff _ retired_iff_lifecycle.symm

theorem retired_of_found {key : MemberKey} {record : MemberRecord}
    (hfound : graph.members[key]? = some record) :
    graph.Retired key ↔ record.lifecycle = .retired := by
  simp [Retired, hfound]

theorem retired_insert {key other : MemberKey} {record : MemberRecord}
    (hmembers : after.members = graph.members.insert key record) :
    after.Retired other ↔
      (other = key ∧ record.lifecycle = .retired) ∨ (other ≠ key ∧ graph.Retired other) := by
  unfold Retired
  rw [hmembers, ExtTreeMap.getElem?_insert]
  by_cases h : key = other
  · simp [h]
  · simp [h, Ne.symm h]

theorem Traced.retired (h : graph.Traced after) {key : MemberKey} (hretired : graph.Retired key) :
    after.Retired key := by
  obtain ⟨old, hold, hlife⟩ := hretired
  have hkept : key ∈ after.members := h.kept (by simp [ExtTreeMap.mem_iff_isSome_getElem?, hold])
  obtain ⟨record, hfound⟩ :=
    Option.isSome_iff_exists.mp (ExtTreeMap.mem_iff_isSome_getElem?.mp hkept)
  obtain ⟨old', hold', hiff, -⟩ := h.members hfound
  obtain rfl : old = old' := Option.some.inj (hold.symm.trans hold')
  exact ⟨record, hfound, hiff.mpr hlife⟩

/-- A store keeps every retirement exactly when it does not revive its own member. -/
theorem retired_kept_iff {key : MemberKey} {record : MemberRecord}
    (hmembers : after.members = graph.members.insert key record) :
    (∀ other, graph.Retired other → after.Retired other) ↔
      (graph.Retired key → record.lifecycle = .retired) := by
  simp only [retired_insert hmembers]
  constructor
  · intro h hretired
    rcases h key hretired with ⟨-, hlife⟩ | ⟨hne, -⟩
    · exact hlife
    · exact absurd rfl hne
  · intro h other hretired
    by_cases heq : other = key
    · exact Or.inl ⟨heq, h (heq ▸ hretired)⟩
    · exact Or.inr ⟨heq, hretired⟩

end RackGraph

namespace RackState
variable {options : RackFabricOptions} {state : RackState}

/-- No evidence is withdrawn wholesale from a retired member. -/
def KeepsRetirement (state : RackState) (input : Input) : Prop :=
  match input.mutation with
  | .withdrawEvidence request =>
      request.scope = .all → state.Retired request.member →
        ¬ state.Admits request.authority fun publisher => admitWithdrawal state publisher request
  | _ => True

theorem lifecycle_withdrawn (record : MemberRecord) (scope : WithdrawScope) :
    (RackState.withdrawn record scope).lifecycle =
      if scope = .all then .declared else record.lifecycle := by
  cases scope <;> rfl

theorem withdrawal_keeps_iff (hkeyed : state.Keyed) {publisher : Option PublisherRef}
    {request : WithdrawEvidenceRequest} {existing record : MemberRecord}
    (hadmitted : admitWithdrawal state publisher request = .ok (existing, record)) :
    (∀ other, state.Retired other →
        (state.storeMember record.key (some existing) record).Retired other) ↔
      ¬ (request.scope = .all ∧ state.Retired request.member) := by
  obtain ⟨hfound, -, hrecord⟩ := admitWithdrawal_ok hadmitted
  have hkey := (revision_of_withdrawal hkeyed hadmitted).key
  have hlife : record.lifecycle = if request.scope = .all then .declared else existing.lifecycle := by
    rw [← lifecycle_withdrawn, hrecord]
  rw [retired_kept_iff (members_storeMember ..), hkey, retired_of_found hfound, hlife]
  by_cases hall : request.scope = .all <;> simp [hall]

theorem effect_keeps_iff {input : Input} {after : RackGraph} (h : state.WellFormed)
    (heffect : GraphEffect options state input.mutation after) :
    (∀ key, state.Retired key → after.Retired key) ↔ KeepsRetirement state input := by
  obtain ⟨now, mutation⟩ := input
  cases heffect with
  | maintained hquiet hsteps =>
    refine iff_of_true (fun key => (traced_of_maintained hsteps).retired) ?_
    cases mutation <;> first | trivial | exact fun _ _ => hquiet
  | @enrolled request _ record _ hadmitted =>
    have hchecked := memberAdmission hadmitted
    refine iff_of_true ((retired_kept_iff (members_storeMember ..)).mpr ?_) trivial
    rintro ⟨existing, hfound, hlife⟩
    exact hchecked.not_revived (hchecked.key ▸ hfound) hlife
  | linked _ hadmitted => exact iff_of_true (fun key => by simp [Retired]) trivial
  | filed _ hadmitted => exact iff_of_true (fun key => by simp [Retired]) trivial
  | @observed request _ existing record _ hadmitted =>
    obtain ⟨hfound, -, hrecord⟩ := admitHealth_ok hadmitted
    have hkey := (revision_of_health h.toKeyed hadmitted).key
    refine iff_of_true ((retired_kept_iff (members_storeMember ..)).mpr ?_) trivial
    rw [hkey, retired_of_found hfound, hrecord]
    exact id
  | @withdrawn request _ existing record hauthority hadmitted =>
    rw [withdrawal_keeps_iff h.toKeyed hadmitted]
    constructor
    · exact fun hnot hall hretired => absurd ⟨hall, hretired⟩ hnot
    · exact fun hkeeps hboth => hkeeps hboth.1 hboth.2 ⟨_, _, hauthority, hadmitted⟩
  | @retired request _ record _ hadmitted =>
    obtain ⟨existing, hfound, -, -, hrecord⟩ := admitRetirement_ok hadmitted
    refine iff_of_true (fun key hretired => ?_) trivial
    have htrimmed := (traced_of_maintained (maintained_trimmed _ request.member)).retired hretired
    rw [retireInGraph_eq]
    refine (retired_kept_iff (members_storeMember ..)).mpr ?_ key htrimmed
    intro _
    rw [hrecord]
    rfl

/-- Retirement lasts through a run exactly when no step of it withdraws all the
evidence of a retired member. -/
theorem retirement_permanent_iff (options : RackFabricOptions) (inputs : List Input) :
    (∀ key, Execution.Permanent (step options) (fun state => state.Retired key)
        (fresh options) inputs) ↔
      Execution.EachStep (step options) KeepsRetirement (fresh options) inputs := by
  simp only [Execution.permanent_iff_eachStep, Execution.eachStep_forall]
  refine Execution.eachStep_congr _ fun before input _ => ?_
  have h := wellFormed_run options before
  exact effect_keeps_iff h (step_effect h.toKeyed input)

def revivingInputs : List Input :=
  [Scenario.declareRack,
    Scenario.publishMember Scenario.operator { key := Scenario.node "a" },
    { mutation := .retireMember { authority := Scenario.operator, member := Scenario.node "a" } },
    { mutation := .withdrawEvidence
        { authority := Scenario.operator, member := Scenario.node "a" } }]

/-- The withdrawal of all evidence declares the retired member again. -/
theorem withdrawal_revives_member :
    ¬ Execution.Permanent (step Scenario.defaults) (fun state => state.Retired (Scenario.node "a"))
      (fresh Scenario.defaults) revivingInputs := by
  intro h
  have hbefore : (Scenario.run (revivingInputs.take 3)).Retired (Scenario.node "a") := by
    decide +kernel
  have hafter : ¬ (Scenario.run revivingInputs).Retired (Scenario.node "a") := by
    decide +kernel
  exact hafter (h (revivingInputs.take 3) (revivingInputs.drop 3) (List.prefix_refl _) hbefore)

end RackState

/-! A retired member stays out of the topology. -/

/-- The member is the parent of nobody and the endpoint of nothing. -/
def RackGraph.Untouched (graph : RackGraph) (key : MemberKey) : Prop :=
  (∀ child, ¬ graph.ParentEdge child key) ∧
    ∀ relationship ∈ graph.relationships,
      relationship.source ≠ key ∧ relationship.target ≠ key

def MemberRecord.Silent (record : MemberRecord) : Prop :=
  ¬ record.health.hasEvidence ∧ ¬ record.readiness.hasEvidence ∧
    ¬ record.reachability.hasEvidence

namespace RackGraph
variable {graph after : RackGraph} {key : MemberKey} {existing : Option MemberRecord}
  {record : MemberRecord}

def OutOfTopology (graph : RackGraph) : Prop :=
  ∀ {key : MemberKey} {record : MemberRecord}, graph.members[key]? = some record →
    record.lifecycle = .retired → graph.Untouched key ∧ record.Silent

theorem OutOfTopology.not_retired_parent (h : graph.OutOfTopology) {child parent : MemberKey}
    (hedge : graph.ParentEdge child parent) : ¬ graph.Retired parent := by
  rintro ⟨record, hfound, hlife⟩
  exact (h hfound hlife).1.1 child hedge

theorem Traced.outOfTopology (htraced : graph.Traced after) (h : graph.OutOfTopology) :
    after.OutOfTopology := by
  intro key record hfound hlife
  obtain ⟨old, hold, hiff, -, hhealth, hreadiness, hreachability⟩ := htraced.members hfound
  obtain ⟨huntouched, hsilent⟩ := h hold (hiff.mp hlife)
  refine ⟨⟨fun child hedge => huntouched.1 child (htraced.parentEdge hedge),
    fun relationship hmem => huntouched.2 _ (htraced.relationships hmem)⟩, ?_⟩
  exact ⟨mt hhealth hsilent.1, mt hreadiness hsilent.2.1, mt hreachability hsilent.2.2⟩

/-- Storing a member keeps retired members out exactly when the record, if it is
retired, is out itself, and its parent is not retired. -/
theorem OutOfTopology.storeMember_iff (h : graph.OutOfTopology)
    (hself : ¬ graph.ParentEdge key key) (hparent : record.parent ≠ some key) :
    (graph.storeMember key existing record).OutOfTopology ↔
      (record.lifecycle = .retired → graph.Untouched key ∧ record.Silent) ∧
      ∀ parent, record.parent = some parent → ¬ graph.Retired parent := by
  constructor
  · intro hafter
    constructor
    · intro hlife
      have hstored : (graph.storeMember key existing record).members[key]? = some record := by
        simp
      obtain ⟨huntouched, hsilent⟩ := hafter hstored hlife
      refine ⟨⟨fun child hedge => ?_, by simpa using huntouched.2⟩, hsilent⟩
      refine huntouched.1 child (parentEdge_storeMember.mpr (Or.inr ⟨?_, hedge⟩))
      rintro rfl
      exact hself hedge
    · intro parent hnew hretired
      have hne : parent ≠ key := fun heq => hparent (heq ▸ hnew)
      refine hafter.not_retired_parent (parentEdge_storeMember.mpr (Or.inl ⟨rfl, hnew⟩)) ?_
      exact (retired_insert (members_storeMember ..)).mpr (Or.inr ⟨hne, hretired⟩)
  · rintro ⟨hout, hlive⟩ other found hfound hlife
    rw [members_storeMember] at hfound
    rcases getElem?_insert_cases hfound with ⟨rfl, rfl⟩ | ⟨hne, hold⟩
    · obtain ⟨huntouched, hsilent⟩ := hout hlife
      refine ⟨⟨fun child hedge => ?_, by simpa using huntouched.2⟩, hsilent⟩
      rcases parentEdge_storeMember.mp hedge with ⟨-, hnew⟩ | ⟨-, hedge⟩
      · exact hparent hnew
      · exact huntouched.1 child hedge
    · obtain ⟨huntouched, hsilent⟩ := h hold hlife
      refine ⟨⟨fun child hedge => ?_, by simpa using huntouched.2⟩, hsilent⟩
      rcases parentEdge_storeMember.mp hedge with ⟨-, hnew⟩ | ⟨-, hedge⟩
      · exact hlive _ hnew ⟨found, hold, hlife⟩
      · exact huntouched.1 child hedge

theorem OutOfTopology.storeRelationship_iff (h : graph.OutOfTopology)
    {existing : Option RelationshipRecord} {record : RelationshipRecord} :
    (graph.storeRelationship existing record).OutOfTopology ↔
      ¬ graph.Retired record.key.source ∧ ¬ graph.Retired record.key.target := by
  constructor
  · intro hafter
    have hmem : record.key ∈ (graph.storeRelationship existing record).relationships := by simp
    constructor
    · rintro ⟨member, hfound, hlife⟩
      exact ((hafter (by simpa using hfound) hlife).1.2 _ hmem).1 rfl
    · rintro ⟨member, hfound, hlife⟩
      exact ((hafter (by simpa using hfound) hlife).1.2 _ hmem).2 rfl
  · rintro ⟨hsource, htarget⟩ key member hfound hlife
    rw [members_storeRelationship] at hfound
    obtain ⟨huntouched, hsilent⟩ := h hfound hlife
    refine ⟨⟨fun child hedge => huntouched.1 child (by simpa [parentEdge_iff] using hedge),
      fun relationship hmem => ?_⟩, hsilent⟩
    simp only [relationships_storeRelationship, ExtTreeMap.mem_insert,
      LawfulEqCmp.compare_eq_iff_eq] at hmem
    rcases hmem with rfl | hmem
    · exact ⟨fun heq => hsource (heq ▸ ⟨member, hfound, hlife⟩),
        fun heq => htarget (heq ▸ ⟨member, hfound, hlife⟩)⟩
    · exact huntouched.2 _ hmem

end RackGraph

namespace RackState
variable {options : RackFabricOptions} {state : RackState}

/-- A publication as retired finds the member already out, no publication names
a retired member as parent or endpoint, and none observes one. -/
def KeepsRetiredOut (options : RackFabricOptions) (state : RackState) (input : Input) : Prop :=
  match input.mutation with
  | .publishMember request =>
      (state.Admits request.authority fun publisher =>
        admitMember options state publisher request) →
      (request.record.lifecycle = .retired → state.Untouched request.record.key) ∧
        ∀ parent, request.record.parent = some parent → ¬ state.Retired parent
  | .publishRelationship request =>
      (state.Admits request.authority fun publisher =>
        admitRelationship options state publisher request) →
      ¬ state.Retired request.record.key.source ∧ ¬ state.Retired request.record.key.target
  | .publishHealth request =>
      (state.Admits request.authority fun publisher => admitHealth state publisher request) →
      state.Retired request.member →
      ¬ request.health.hasEvidence ∧ (request.publishReadiness → ¬ request.readiness.hasEvidence)
  | _ => True

theorem enrolled_out_iff (h : state.WellFormed) (hout : state.OutOfTopology)
    {publisher : Option PublisherRef} {request : PublishMemberRequest} {record : MemberRecord}
    (hadmitted : admitMember options state publisher request = .ok record) :
    (state.storeMember record.key state.members[record.key]? record).OutOfTopology ↔
      (request.record.lifecycle = .retired → state.Untouched request.record.key) ∧
        ∀ parent, request.record.parent = some parent → ¬ state.Retired parent := by
  have hchecked := memberAdmission hadmitted
  rw [hout.storeMember_iff (h.parents_acyclic.irrefl _)
    fun hparent => (hchecked.parent_checked hparent).1 rfl,
    ← hchecked.lifecycle, ← hchecked.parent, ← hchecked.key]
  refine and_congr_left fun _ => forall_congr' fun hlife => and_iff_left ?_
  obtain ⟨hhealth, hreadiness, hreachability⟩ := hchecked.cleared hlife
  exact ⟨by simp [hhealth], by simp [hreadiness], by simp [hreachability]⟩

theorem observed_out_iff (h : state.WellFormed) (hout : state.OutOfTopology)
    {publisher : Option PublisherRef} {request : PublishHealthRequest}
    {existing record : MemberRecord}
    (hadmitted : admitHealth state publisher request = .ok (existing, record)) :
    (state.storeMember record.key (some existing) record).OutOfTopology ↔
      (state.Retired request.member → ¬ request.health.hasEvidence ∧
        (request.publishReadiness → ¬ request.readiness.hasEvidence)) := by
  obtain ⟨hfound, -, hrecord⟩ := admitHealth_ok hadmitted
  have hrevision := revision_of_health h.toKeyed hadmitted
  have hlive : ∀ parent, record.parent = some parent → ¬ state.Retired parent :=
    fun parent hp => hout.not_retired_parent (hrevision.parentEdge hp)
  rw [hrevision.key, hout.storeMember_iff (h.parents_acyclic.irrefl _)
    (hrevision.parent ▸ h.not_own_parent hfound), and_iff_left hlive, retired_of_found hfound]
  have hlife : record.lifecycle = existing.lifecycle := by rw [hrecord]; rfl
  rw [hlife]
  refine forall_congr' fun hretired => ?_
  obtain ⟨huntouched, hsilent⟩ := hout hfound hretired
  rw [and_iff_right huntouched, hrecord]
  unfold MemberRecord.Silent withHealth
  have hcleared : ¬ ({} : EvidenceValue HealthState).hasEvidence := by decide
  by_cases hhealth : request.health.hasEvidence <;>
    by_cases hreadiness : request.publishReadiness <;>
    simp [hhealth, hreadiness, hsilent.2.1, hsilent.2.2, hcleared]

theorem silent_withdrawn {record : MemberRecord} (h : record.Silent) (scope : WithdrawScope) :
    (RackState.withdrawn record scope).Silent := by
  obtain ⟨hhealth, hreadiness, hreachability⟩ := h
  cases scope <;>
    simp_all [MemberRecord.Silent, RackState.withdrawn, Observation.hasEvidence]

theorem withdrawn_out (h : state.WellFormed) (hout : state.OutOfTopology)
    {publisher : Option PublisherRef} {request : WithdrawEvidenceRequest}
    {existing record : MemberRecord}
    (hadmitted : admitWithdrawal state publisher request = .ok (existing, record)) :
    (state.storeMember record.key (some existing) record).OutOfTopology := by
  obtain ⟨hfound, -, hrecord⟩ := admitWithdrawal_ok hadmitted
  have hrevision := revision_of_withdrawal h.toKeyed hadmitted
  have hlife : record.lifecycle = if request.scope = .all then .declared else existing.lifecycle := by
    rw [← lifecycle_withdrawn, hrecord]
  rw [hrevision.key, hout.storeMember_iff (h.parents_acyclic.irrefl _)
    (hrevision.parent ▸ h.not_own_parent hfound)]
  refine ⟨fun hretired => ?_, fun parent hp => hout.not_retired_parent (hrevision.parentEdge hp)⟩
  have hold : existing.lifecycle = .retired := by
    rw [hlife] at hretired
    split at hretired
    · cases hretired
    · exact hretired
  obtain ⟨huntouched, hsilent⟩ := hout hfound hold
  refine ⟨huntouched, ?_⟩
  rw [hrecord]
  exact silent_withdrawn hsilent request.scope

theorem untouched_trimmed (h : state.WellFormed) (member : MemberKey) :
    (state.trimmed member).Untouched member := by
  constructor
  · intro child hedge
    obtain ⟨record, hfound, hparent⟩ := parentEdge_iff.mp hedge
    rw [members_trimmed] at hfound
    obtain ⟨old, -, rfl⟩ := Option.map_eq_some_iff.mp hfound
    exact parent_detached member old hparent
  · intro relationship hmem
    rw [ExtTreeMap.mem_iff_isSome_getElem?, relationships_trimmed] at hmem
    split at hmem
    · cases hmem
    · rename_i hnot
      rw [mem_touching h, ExtTreeMap.mem_iff_isSome_getElem?] at hnot
      exact ⟨fun heq => hnot ⟨hmem, Or.inl heq⟩, fun heq => hnot ⟨hmem, Or.inr heq⟩⟩

theorem retired_out (h : state.WellFormed) (hout : state.OutOfTopology)
    {request : RetireMemberRequest} {record : MemberRecord}
    (hadmitted : admitRetirement state request = .ok record) :
    (retireInGraph state.toRackGraph request.member record).OutOfTopology := by
  obtain ⟨existing, hfound, hrevision⟩ := revision_of_retirement h hadmitted
  have hmaintained := maintained_trimmed state.toRackGraph request.member
  have htrimmed : (state.trimmed request.member).OutOfTopology :=
    (traced_of_maintained hmaintained).outOfTopology hout
  rw [retireInGraph_eq, hrevision.key, htrimmed.storeMember_iff
    ((h.maintained hmaintained).parents_acyclic.irrefl _)
    (hrevision.parent ▸ h.not_own_parent hfound)]
  refine ⟨fun _ => ⟨untouched_trimmed h _, ?_⟩,
    fun parent hp => htrimmed.not_retired_parent (hrevision.parentEdge hp)⟩
  obtain ⟨_, -, -, -, hrecord⟩ := admitRetirement_ok hadmitted
  rw [hrecord]
  simp [MemberRecord.Silent, retiredRecord, Observation.hasEvidence]

theorem effect_out_iff {input : Input} {after : RackGraph} (h : state.WellFormed)
    (hout : state.OutOfTopology) (heffect : GraphEffect options state input.mutation after) :
    after.OutOfTopology ↔ KeepsRetiredOut options state input := by
  obtain ⟨now, mutation⟩ := input
  cases heffect with
  | maintained hquiet hsteps =>
    refine iff_of_true ((traced_of_maintained hsteps).outOfTopology hout) ?_
    cases mutation <;> first | trivial | exact fun hadmitted => absurd hadmitted hquiet
  | enrolled hauthority hadmitted =>
    rw [enrolled_out_iff h hout hadmitted]
    exact ⟨fun hkept _ => hkept, fun hkept => hkept ⟨_, _, hauthority, hadmitted⟩⟩
  | @linked request _ _ hauthority hadmitted =>
    rw [hout.storeRelationship_iff, (relationshipAdmission hadmitted).key,
      RelationshipKey.canonical_endpoints fun key => ¬ state.Retired key]
    exact ⟨fun hkept _ => hkept, fun hkept => hkept ⟨_, _, hauthority, hadmitted⟩⟩
  | filed _ hadmitted =>
    refine iff_of_true ?_ trivial
    intro key record hfound hlife
    obtain ⟨huntouched, hsilent⟩ := hout (by simpa using hfound) hlife
    exact ⟨by simpa [Untouched, parentEdge_iff] using huntouched, hsilent⟩
  | observed hauthority hadmitted =>
    rw [observed_out_iff h hout hadmitted]
    exact ⟨fun hkept _ => hkept, fun hkept => hkept ⟨_, _, hauthority, hadmitted⟩⟩
  | withdrawn _ hadmitted => exact iff_of_true (withdrawn_out h hout hadmitted) trivial
  | retired _ hadmitted => exact iff_of_true (retired_out h hout hadmitted) trivial

/-- Retired members are out of the topology throughout a run exactly when its
publications respect them. -/
theorem retired_out_of_topology_iff (options : RackFabricOptions) (inputs : List Input) :
    Execution.Always (step options) (fun state => state.OutOfTopology) (fresh options) inputs ↔
      Execution.EachStep (step options) (KeepsRetiredOut options) (fresh options) inputs := by
  refine Execution.always_iff_eachStep (step options) (fun state => state.WellFormed)
    wellFormed_step (fun state input h hout => ?_) WellFormed.empty ?_ inputs
  · exact effect_out_iff h hout (step_effect h.toKeyed input)
  · intro key record hfound
    simp [fresh] at hfound

def namingRetiredInputs : List Input :=
  [Scenario.declareRack,
    Scenario.publishMember Scenario.operator { key := Scenario.node "a" },
    { mutation := .retireMember { authority := Scenario.operator, member := Scenario.node "a" } },
    Scenario.publishMember Scenario.operator
      { key := Scenario.node "b", parent := some (Scenario.node "a") }]

/-- A later publication makes the retired member a parent. -/
theorem publication_names_retired_parent :
    ¬ Execution.Always (step Scenario.defaults) (fun state => state.OutOfTopology)
      (fresh Scenario.defaults) namingRetiredInputs := by
  intro h
  have hretired : (Scenario.run namingRetiredInputs).Retired (Scenario.node "a") := by
    decide +kernel
  have hparent : (Scenario.run namingRetiredInputs).parentOf (Scenario.node "b") =
      some (Scenario.node "a") := by
    decide +kernel
  obtain ⟨record, hfound, hlife⟩ := hretired
  exact (h namingRetiredInputs (List.prefix_refl _) hfound hlife).1.1 (Scenario.node "b") hparent

end RackState

end RackFabric
