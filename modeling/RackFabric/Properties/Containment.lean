import RackFabric.Properties.Integrity

/-! Containment is said in two ways: by the parent of a member, and by a relationship of
class `contains`. A relationship is checked against either way on its own, a parent against
the parents only. -/
namespace RackFabric
open Std SecondaryIndex Reachability Relation RackGraph RackState

namespace RackGraph
variable {graph after : RackGraph}

/-- An edge up the containment hierarchy, whichever way it was published. -/
def Up (graph : RackGraph) (content container : MemberKey) : Prop :=
  graph.ParentEdge content container ∨ graph.ContainsEdge content container

theorem Traced.up (h : graph.Traced after) {content container : MemberKey}
    (hedge : after.Up content container) : graph.Up content container :=
  hedge.imp h.parentEdge h.containsEdge

theorem up_storeMember {key content container : MemberKey} {existing : Option MemberRecord}
    {record : MemberRecord} :
    (graph.storeMember key existing record).Up content container ↔
      (content = key ∧ record.parent = some container) ∨
        (content ≠ key ∧ graph.ParentEdge content container) ∨
        graph.ContainsEdge content container := by
  have hcontains : (graph.storeMember key existing record).ContainsEdge content container ↔
      graph.ContainsEdge content container := by simp [ContainsEdge]
  unfold Up
  rw [parentEdge_storeMember, hcontains, or_assoc]

/-- Storing a member keeps containment acyclic exactly when its parent is not
contained, in either way, in the member. -/
theorem acyclic_storeMember_iff (h : Acyclic graph.Up) {key : MemberKey}
    {existing : Option MemberRecord} {record : MemberRecord} :
    Acyclic (graph.storeMember key existing record).Up ↔
      ∀ parent, record.parent = some parent → ¬ ReflTransGen graph.Up parent key := by
  constructor
  · intro hafter parent hparent hpath
    have hedge : (graph.storeMember key existing record).Up key parent :=
      up_storeMember.mpr (Or.inl ⟨rfl, hparent⟩)
    refine not_acyclic_of_path (fun source target hne hold => ?_) hedge hpath hafter
    exact up_storeMember.mpr (Or.inr (hold.imp_left fun hold => ⟨hne, hold⟩))
  · intro hsafe
    refine h.redirect key fun content container hedge => ?_
    rcases up_storeMember.mp hedge with ⟨rfl, hparent⟩ | ⟨-, hold⟩ | hold
    · exact Or.inr ⟨rfl, hsafe _ hparent⟩
    · exact Or.inl (Or.inl hold)
    · exact Or.inl (Or.inr hold)

/-- A revision in place adds no edge. -/
theorem Revision.up {key : MemberKey} {existing record : MemberRecord}
    (h : graph.Revision key existing record) {content container : MemberKey}
    (hedge : (graph.storeMember record.key (some existing) record).Up content container) :
    graph.Up content container := by
  rw [h.key] at hedge
  rcases up_storeMember.mp hedge with ⟨rfl, hparent⟩ | ⟨-, hold⟩ | hold
  · exact Or.inl (h.parentEdge hparent)
  · exact Or.inl hold
  · exact Or.inr hold

theorem up_storeRelationship {content container : MemberKey}
    {existing : Option RelationshipRecord} {record : RelationshipRecord} :
    (graph.storeRelationship existing record).Up content container ↔
      record.key = ⟨.contains, container, content⟩ ∨ graph.Up content container := by
  have hparent : (graph.storeRelationship existing record).ParentEdge content container ↔
      graph.ParentEdge content container := by simp [parentEdge_iff]
  unfold Up
  rw [containsEdge_storeRelationship, hparent]
  exact or_left_comm

theorem acyclic_storeRelationship_iff (h : Acyclic graph.Up)
    {existing : Option RelationshipRecord} {record : RelationshipRecord} :
    Acyclic (graph.storeRelationship existing record).Up ↔
      (record.key.cls = .contains → ¬ ReflTransGen graph.Up record.key.source record.key.target) := by
  constructor
  · intro hafter hcontains hpath
    have hedge : (graph.storeRelationship existing record).Up record.key.target
        record.key.source := by
      refine up_storeRelationship.mpr (Or.inl ?_)
      rw [← hcontains]
    refine not_acyclic_of_path (fun source target _ hold => ?_) hedge hpath hafter
    exact up_storeRelationship.mpr (Or.inr hold)
  · intro hsafe
    refine h.redirect record.key.target fun content container hedge => ?_
    rcases up_storeRelationship.mp hedge with hnew | hold
    · simp only [hnew] at hsafe ⊢
      exact Or.inr ⟨trivial, hsafe trivial⟩
    · exact Or.inl hold

end RackGraph

namespace RackState
variable {options : RackFabricOptions} {state : RackState}

/-- The published container is not contained, in either way, in its content. -/
def KeepsContainment (options : RackFabricOptions) (state : RackState) (input : Input) : Prop :=
  match input.mutation with
  | .publishMember request =>
      (state.Admits request.authority fun publisher =>
        admitMember options state publisher request) →
      ∀ parent, request.record.parent = some parent →
        ¬ ReflTransGen state.Up parent request.record.key
  | .publishRelationship request =>
      (state.Admits request.authority fun publisher =>
        admitRelationship options state publisher request) →
      request.record.key.cls = .contains →
        ¬ ReflTransGen state.Up request.record.key.source request.record.key.target
  | _ => True

theorem canonical_of_contains {key : RelationshipKey} (h : key.cls = .contains) :
    key.canonical = key := by
  obtain ⟨cls, source, target⟩ := key
  obtain rfl : cls = .contains := h
  simp [RelationshipKey.canonical, RelationshipKey.canonicalize, RelationshipClass.isSymmetric]

theorem linked_acyclic_iff (h : Acyclic state.Up) {publisher : Option PublisherRef}
    {request : PublishRelationshipRequest} {record : RelationshipRecord}
    (hadmitted : admitRelationship options state publisher request = .ok record) :
    Acyclic (state.storeRelationship state.relationships[record.key]? record).Up ↔
      (request.record.key.cls = .contains →
        ¬ ReflTransGen state.Up request.record.key.source request.record.key.target) := by
  rw [acyclic_storeRelationship_iff h, (relationshipAdmission hadmitted).key,
    RelationshipKey.cls_canonical]
  refine forall_congr' fun hcontains => ?_
  rw [canonical_of_contains hcontains]

theorem effect_containment_iff {input : Input} {after : RackGraph} (h : state.WellFormed)
    (hup : Acyclic state.Up) (heffect : GraphEffect options state input.mutation after) :
    Acyclic after.Up ↔ KeepsContainment options state input := by
  obtain ⟨now, mutation⟩ := input
  cases heffect with
  | maintained hquiet hsteps =>
    refine iff_of_true (hup.mono fun _ _ => (traced_of_maintained hsteps).up) ?_
    cases mutation <;> first | trivial | exact fun hadmitted => absurd hadmitted hquiet
  | enrolled hauthority hadmitted =>
    have hchecked := memberAdmission hadmitted
    rw [acyclic_storeMember_iff hup, hchecked.parent, hchecked.key]
    exact ⟨fun hkept _ => hkept, fun hkept => hkept ⟨_, _, hauthority, hadmitted⟩⟩
  | linked hauthority hadmitted =>
    rw [linked_acyclic_iff hup hadmitted]
    exact ⟨fun hkept _ => hkept, fun hkept => hkept ⟨_, _, hauthority, hadmitted⟩⟩
  | filed _ _ =>
    refine iff_of_true (hup.mono fun content container hedge => ?_) trivial
    simpa [Up, parentEdge_iff, ContainsEdge] using hedge
  | observed _ hadmitted =>
    exact iff_of_true (hup.mono fun _ _ => (revision_of_health h.toKeyed hadmitted).up) trivial
  | withdrawn _ hadmitted =>
    exact iff_of_true (hup.mono fun _ _ => (revision_of_withdrawal h.toKeyed hadmitted).up) trivial
  | @retired request _ _ _ hadmitted =>
    obtain ⟨existing, -, hrevision⟩ := revision_of_retirement h hadmitted
    have htraced := traced_of_maintained (maintained_trimmed state.toRackGraph request.member)
    rw [retireInGraph_eq, hrevision.found]
    exact iff_of_true (hup.mono fun _ _ hedge => htraced.up (hrevision.up hedge)) trivial

/-- Containment stays acyclic through a run exactly when no publication puts a
member into its own content. -/
theorem containment_acyclic_iff (options : RackFabricOptions) (inputs : List Input) :
    Execution.Always (step options) (fun state => Acyclic state.Up) (fresh options) inputs ↔
      Execution.EachStep (step options) (KeepsContainment options) (fresh options) inputs := by
  refine Execution.always_iff_eachStep (step options) (fun state => state.WellFormed)
    wellFormed_step (fun state input h hup => ?_) WellFormed.empty ?_ inputs
  · exact effect_containment_iff h hup (step_effect h.toKeyed input)
  · exact acyclic_of_no_edge (by simp [Up, parentEdge_iff, ContainsEdge, fresh])

def containedTwiceInputs : List Input :=
  [Scenario.declareRack,
    Scenario.publishMember Scenario.operator { key := Scenario.node "a" },
    Scenario.publishMember Scenario.operator { key := Scenario.node "b" },
    { mutation := .publishRelationship
        { authority := Scenario.operator
          record := { key := ⟨.contains, Scenario.node "a", Scenario.node "b"⟩ } } },
    Scenario.publishMember Scenario.operator
      { key := Scenario.node "a", parent := some (Scenario.node "b") }]

/-- The relationship puts one member into the other, and then the parent the
other into the one. -/
theorem parent_closes_containment_cycle :
    ¬ Execution.Always (step Scenario.defaults) (fun state => Acyclic state.Up)
      (fresh Scenario.defaults) containedTwiceInputs := by
  intro h
  have hparent : (Scenario.run containedTwiceInputs).parentOf (Scenario.node "a") =
      some (Scenario.node "b") := by
    decide +kernel
  have hcontains : (⟨.contains, Scenario.node "a", Scenario.node "b"⟩ : RelationshipKey) ∈
      (Scenario.run containedTwiceInputs).relationships := by
    decide +kernel
  exact h containedTwiceInputs (List.prefix_refl _) (Scenario.node "a")
    (.head (Or.inl hparent) (.single (Or.inr hcontains)))

end RackState

end RackFabric
