import RackFabric.Properties.Integrity

/-! The indexes that the mutations maintain, against the ones that
`rebuildIndexes` computes. -/
namespace RackFabric
open Std SecondaryIndex Reachability Relation RackGraph RackState

namespace RackGraph
variable {graph after : RackGraph}

/-! What the rebuilt indexes hold. -/

theorem foldl_unread {σ α β : Type} (read : σ → β) {move : σ → α → σ}
    (hmove : ∀ state value, read (move state value) = read state) (values : List α) (state : σ) :
    read (values.foldl move state) = read state := by
  induction values generalizing state with
  | nil => rfl
  | cons value values ih => rw [List.foldl_cons, ih, hmove]

def withMembers (graph : RackGraph) : RackGraph :=
  graph.members.toList.foldl (fun graph entry => graph.indexAddMember entry.2) graph.clearIndexes

def withRelationships (graph : RackGraph) : RackGraph :=
  graph.relationships.toList.foldl (fun graph entry => graph.indexAddRelationship entry.2)
    graph.withMembers

theorem rebuildIndexes_eq (graph : RackGraph) :
    graph.rebuildIndexes = graph.failureDomains.toList.foldl
      (fun graph entry => graph.indexAddFailureDomain entry.2) graph.withRelationships :=
  rfl

section Unread
variable {β : Type} (read : RackGraph → β)
  (hdomain : ∀ (graph : RackGraph) (record : FailureDomainRecord),
    read (graph.indexAddFailureDomain record) = read graph)
  (hrelationship : ∀ (graph : RackGraph) (record : RelationshipRecord),
    read (graph.indexAddRelationship record) = read graph)
  (hmember : ∀ (graph : RackGraph) (record : MemberRecord),
    read (graph.indexAddMember record) = read graph)

include hdomain in
theorem read_rebuildIndexes : read graph.rebuildIndexes = read graph.withRelationships := by
  rw [rebuildIndexes_eq]
  apply foldl_unread
  exact fun graph entry => hdomain graph entry.2

include hrelationship in
theorem read_withRelationships : read graph.withRelationships = read graph.withMembers := by
  unfold withRelationships
  apply foldl_unread
  exact fun graph entry => hrelationship graph entry.2

include hmember in
theorem read_withMembers : read graph.withMembers = read graph.clearIndexes := by
  unfold withMembers
  apply foldl_unread
  exact fun graph entry => hmember graph entry.2

include hdomain hrelationship hmember in
/-- The tables are not touched by any of the three loops. -/
theorem read_rebuildIndexes_all : read graph.rebuildIndexes = read graph.clearIndexes := by
  rw [read_rebuildIndexes read hdomain, read_withRelationships read hrelationship,
    read_withMembers read hmember]

end Unread

@[simp] theorem members_rebuildIndexes : graph.rebuildIndexes.members = graph.members :=
  read_rebuildIndexes_all members (fun _ _ => rfl) (fun _ _ => rfl) fun _ _ => rfl

@[simp] theorem relationships_rebuildIndexes :
    graph.rebuildIndexes.relationships = graph.relationships :=
  read_rebuildIndexes_all relationships (fun _ _ => rfl) (fun _ _ => rfl) fun _ _ => rfl

@[simp] theorem failureDomains_rebuildIndexes :
    graph.rebuildIndexes.failureDomains = graph.failureDomains :=
  read_rebuildIndexes_all failureDomains (fun _ _ => rfl) (fun _ _ => rfl) fun _ _ => rfl

/-- The relationships have been filed, but no failure domain is pinned yet. -/
theorem MemberIndex.withRelationships_mirrored {κ : Type} [Ord κ] [TransOrd κ] [LawfulEqOrd κ]
    (view : MemberIndex κ) (hkeyed : graph.DomainsKeyed) :
    Mirrors (view.index graph.withRelationships) (Filed graph.members view.keysOf) unpinned := by
  have hfiled : view.index graph.withMembers =
      fileAll ∅ (fun entry => view.keysOf entry.2) (fun entry => entry.2.key)
        graph.members.toList := by
    rw [← view.index_clear graph]
    exact (List.foldl_hom view.index fun _ _ => (view.index_addMember _ _).symm).symm
  rw [read_withRelationships view.index view.index_addRelationship, hfiled]
  exact mirrors_fileAll hkeyed.members

theorem MemberIndex.rebuilt {κ : Type} [Ord κ] [TransOrd κ] [LawfulEqOrd κ]
    (view : MemberIndex κ) (hkeyed : graph.Keyed)
    (hdomain : ∀ (graph : RackGraph) (record : FailureDomainRecord),
      view.index (graph.indexAddFailureDomain record) = view.index graph) :
    view.Mirrored unpinned graph.rebuildIndexes := by
  unfold MemberIndex.Mirrored
  rw [members_rebuildIndexes, read_rebuildIndexes view.index hdomain]
  exact view.withRelationships_mirrored hkeyed.toDomainsKeyed

theorem relationships_rebuilt (hkeyed : graph.Keyed) :
    graph.rebuildIndexes.RelationshipsMirrored := by
  unfold RelationshipsMirrored
  have hfiled : graph.withRelationships.relationshipsByMember =
      fileAll ∅ (fun entry => entry.2.endpoints) (fun entry => entry.2.key)
        graph.relationships.toList := by
    have hclear : graph.withMembers.relationshipsByMember = ∅ :=
      read_withMembers relationshipsByMember fun _ _ => rfl
    rw [← hclear]
    exact (List.foldl_hom relationshipsByMember fun _ _ => rfl).symm
  rw [relationships_rebuildIndexes, read_rebuildIndexes relationshipsByMember fun _ _ => rfl,
    hfiled]
  exact mirrors_fileAll hkeyed.relationships

theorem domainChildren_rebuilt (hkeyed : graph.DomainsKeyed) :
    graph.rebuildIndexes.DomainChildrenMirrored := by
  unfold DomainChildrenMirrored
  have hfiled : graph.rebuildIndexes.childrenByDomain =
      fileAll ∅ (fun entry => entry.2.parents) (fun entry => entry.2.id)
        graph.failureDomains.toList := by
    have hclear : graph.withRelationships.childrenByDomain = ∅ := by
      rw [read_withRelationships childrenByDomain fun _ _ => rfl,
        read_withMembers childrenByDomain fun _ _ => rfl]
      rfl
    rw [← hclear, rebuildIndexes_eq]
    exact (List.foldl_hom childrenByDomain fun _ _ => rfl).symm
  rw [failureDomains_rebuildIndexes, hfiled]
  exact mirrors_fileAll hkeyed.failureDomains

def DomainMembersMirrored (graph : RackGraph) : Prop :=
  byFailureDomain.Mirrored (· ∈ graph.failureDomains) graph

theorem domainMembers_rebuilt (hkeyed : graph.DomainsKeyed) :
    graph.rebuildIndexes.DomainMembersMirrored := by
  unfold DomainMembersMirrored MemberIndex.Mirrored
  have htouched : graph.rebuildIndexes.membersByFailureDomain =
      (graph.failureDomains.toList.map fun entry => entry.2.id).foldl SecondaryIndex.touch
        graph.withRelationships.membersByFailureDomain := by
    rw [List.foldl_map, rebuildIndexes_eq]
    exact (List.foldl_hom membersByFailureDomain fun _ _ => rfl).symm
  rw [members_rebuildIndexes]
  change Mirrors graph.rebuildIndexes.membersByFailureDomain _ _
  rw [htouched]
  refine ((byFailureDomain.withRelationships_mirrored hkeyed).touchAll _).congr
    (fun _ _ => Iff.rfl) fun domain => ?_
  rw [failureDomains_rebuildIndexes, List.mem_map]
  simp only [unpinned, or_false]
  constructor
  · intro hmem
    obtain ⟨record, hfound⟩ :=
      Option.isSome_iff_exists.mp (ExtTreeMap.mem_iff_isSome_getElem?.mp hmem)
    exact ⟨(domain, record), ExtTreeMap.mem_toList_iff_getElem?_eq_some.mpr hfound,
      hkeyed.failureDomains hfound⟩
  · rintro ⟨⟨id, record⟩, hmem, rfl⟩
    have hfound := ExtTreeMap.mem_toList_iff_getElem?_eq_some.mp hmem
    rw [hkeyed.failureDomains hfound, ExtTreeMap.mem_iff_isSome_getElem?, hfound]
    rfl

theorem MemberIndex.Mirrored.unique {κ : Type} [Ord κ] [TransOrd κ] [LawfulEqOrd κ]
    {view : MemberIndex κ} {pinned : κ → Prop} (h : view.Mirrored pinned graph)
    (hafter : view.Mirrored pinned after) (hmembers : after.members = graph.members) :
    view.index after = view.index graph := by
  unfold MemberIndex.Mirrored at h hafter
  rw [hmembers] at hafter
  exact hafter.unique h

/-- In a well-formed graph only the members of a failure domain can be wrong. -/
theorem WellFormed.rebuildIndexes_eq_self_iff (h : graph.WellFormed) :
    graph.rebuildIndexes = graph ↔ graph.DomainMembersMirrored := by
  have hkeyed := h.toKeyed
  constructor
  · intro heq
    have hrebuilt := domainMembers_rebuilt hkeyed.toDomainsKeyed
    rwa [heq] at hrebuilt
  · intro hdomains
    ext1
    case members => exact members_rebuildIndexes
    case relationships => exact relationships_rebuildIndexes
    case failureDomains => exact failureDomains_rebuildIndexes
    case relationshipsByMember =>
      have hrebuilt := relationships_rebuilt hkeyed
      unfold RelationshipsMirrored at hrebuilt
      rw [relationships_rebuildIndexes] at hrebuilt
      exact hrebuilt.unique h.touching
    case membersByKind =>
      exact h.kinds.unique (byKind.rebuilt hkeyed fun _ _ => rfl) members_rebuildIndexes
    case membersByFailureDomain =>
      have hrebuilt := domainMembers_rebuilt hkeyed.toDomainsKeyed
      unfold DomainMembersMirrored at hrebuilt hdomains
      rw [failureDomains_rebuildIndexes] at hrebuilt
      exact hdomains.unique hrebuilt members_rebuildIndexes
    case membersByPowerDomain =>
      exact h.powerDomains.unique (byPowerDomain.rebuilt hkeyed fun _ _ => rfl)
        members_rebuildIndexes
    case membersByCoolingDomain =>
      exact h.coolingDomains.unique (byCoolingDomain.rebuilt hkeyed fun _ _ => rfl)
        members_rebuildIndexes
    case membersByOwnerBoot =>
      exact h.owners.unique (byOwnerBoot.rebuilt hkeyed fun _ _ => rfl)
        members_rebuildIndexes
    case childrenByParent =>
      exact h.children.unique (byParent.rebuilt hkeyed fun _ _ => rfl)
        members_rebuildIndexes
    case childrenByDomain =>
      have hrebuilt := domainChildren_rebuilt hkeyed.toDomainsKeyed
      unfold DomainChildrenMirrored at hrebuilt
      rw [failureDomains_rebuildIndexes] at hrebuilt
      exact hrebuilt.unique h.domainChildren

/-! What the stores do to the members of a failure domain. -/

def InDomain (graph : RackGraph) (domain : FailureDomainId) (member : MemberKey) : Prop :=
  ∃ record, graph.members[member]? = some record ∧ domain ∈ record.failureDomains

theorem domainMembers_storeMember_iff (h : graph.WellFormed) (hdomains : graph.DomainMembersMirrored)
    {key : MemberKey} {record : MemberRecord} (hkey : record.key = key) :
    (graph.storeMember key graph.members[key]? record).DomainMembersMirrored ↔
      ∀ domain, graph.InDomain domain key → domain ∉ record.failureDomains →
        ∃ other, other ≠ key ∧ graph.InDomain domain other := by
  unfold DomainMembersMirrored MemberIndex.Mirrored at hdomains ⊢
  rw [byFailureDomain.storeMember_eq h.toKeyed hkey, members_storeMember,
    failureDomains_storeMember, hdomains.replace_iff record]
  refine forall_congr' fun domain => ⟨fun hkept hin => ?_, fun hkept _ hin => hkept hin⟩
  obtain ⟨old, hfound, hmem⟩ := hin
  exact hkept (h.domain_mem hfound hmem) ⟨old, hfound, hmem⟩

theorem domainMembers_revise (h : graph.WellFormed) (hdomains : graph.DomainMembersMirrored)
    {key : MemberKey} {existing record : MemberRecord}
    (hfound : graph.members[key]? = some existing) (hkey : record.key = key)
    (hsame : record.failureDomains = existing.failureDomains) :
    (graph.storeMember key (some existing) record).DomainMembersMirrored := by
  rw [← hfound, domainMembers_storeMember_iff h hdomains hkey]
  rintro domain ⟨old, hold, hmem⟩ hnot
  obtain rfl : old = existing := Option.some.inj (hold.symm.trans hfound)
  exact absurd (hsame ▸ hmem) hnot

theorem Upkeep.domainMembers (hstep : graph.Upkeep after) (h : graph.WellFormed)
    (hdomains : graph.DomainMembersMirrored) : after.DomainMembersMirrored := by
  cases hstep with
  | store hfound hkept =>
    exact domainMembers_revise h hdomains hfound (hkept.key.trans (h.members hfound))
      hkept.failureDomains
  | detach hfound =>
    have hkey := h.members hfound
    exact domainMembers_revise h hdomains hfound (by exact hkey) rfl
  | unlink key =>
    unfold DomainMembersMirrored at hdomains ⊢
    rw [failureDomains_dropRelationship]
    exact hdomains.of_eq (byFailureDomain.index_dropRelationship ..) (members_dropRelationship ..)
  | annotate hmembers hrelationships hrevised =>
    refine Mirrors.congr (MemberIndex.annotate_mirrored hdomains rfl fun record => ?_)
      (fun _ _ => Iff.rfl) fun domain => ExtTreeMap.mem_map
    exact (hmembers record).failureDomains

theorem domainMembers_of_maintained (hsteps : ReflTransGen Upkeep graph after)
    (h : graph.WellFormed) (hdomains : graph.DomainMembersMirrored) :
    after.DomainMembersMirrored := by
  induction hsteps with
  | refl => exact hdomains
  | tail hfirst hstep ih => exact hstep.domainMembers (h.maintained hfirst) ih

/-- A domain is stored in order exactly when no member is listed in it yet. -/
theorem domainMembers_storeFailureDomain_iff (h : graph.WellFormed)
    (hdomains : graph.DomainMembersMirrored) {record : FailureDomainRecord} :
    (graph.storeFailureDomain graph.failureDomains[record.id]? record).DomainMembersMirrored ↔
      ∀ member, ¬ graph.InDomain record.id member := by
  unfold DomainMembersMirrored MemberIndex.Mirrored at hdomains ⊢
  change Mirrors (graph.storeFailureDomain graph.failureDomains[record.id]?
    record).membersByFailureDomain _ _ ↔ _
  rw [membersByFailureDomain_store h.toKeyed, members_storeFailureDomain,
    failureDomains_storeFailureDomain]
  cases hold : graph.failureDomains[record.id]? with
  | none =>
    have hnone : ∀ member, ¬ graph.InDomain record.id member := by
      rintro member ⟨old, hfound, hmem⟩
      have hin := h.domain_mem hfound hmem
      rw [ExtTreeMap.mem_iff_isSome_getElem?, hold] at hin
      cases hin
    refine iff_of_true ?_ hnone
    exact (hdomains.touch record.id).congr (fun _ _ => Iff.rfl) fun domain => by
      simp [@eq_comm _ domain]
  | some old =>
    have hin : record.id ∈ graph.failureDomains := by
      simp [ExtTreeMap.mem_iff_isSome_getElem?, hold]
    change _ ↔ ∀ member, ¬ Filed graph.members byFailureDomain.keysOf record.id member
    rw [← hdomains.reset_iff hin]
    have hpinned : ∀ domain, domain ∈ graph.failureDomains.insert record.id record ↔
        domain ∈ graph.failureDomains := by
      intro domain
      rw [ExtTreeMap.mem_insert, LawfulEqCmp.compare_eq_iff_eq]
      exact ⟨fun hor => hor.elim (fun heq => heq ▸ hin) fun hmem => hmem, Or.inr⟩
    exact ⟨fun hm => hm.congr (fun _ _ => Iff.rfl) fun domain => (hpinned domain).symm,
      fun hm => hm.congr (fun _ _ => Iff.rfl) hpinned⟩

end RackGraph

namespace RackState
variable {options : RackFabricOptions} {state : RackState}

/-- An updated failure domain has no members, and an updated member leaves no
failure domain without members. -/
def KeepsIndexes (options : RackFabricOptions) (state : RackState) (input : Input) : Prop :=
  match input.mutation with
  | .publishFailureDomain request =>
      (state.Admits request.authority fun publisher =>
        admitFailureDomain options state publisher request) →
      ∀ member, ¬ state.InDomain request.record.id member
  | .publishMember request =>
      (state.Admits request.authority fun publisher =>
        admitMember options state publisher request) →
      ∀ domain, state.InDomain domain request.record.key →
        domain ∉ request.record.failureDomains →
        ∃ other, other ≠ request.record.key ∧ state.InDomain domain other
  | _ => True

theorem effect_indexes_iff {input : Input} {after : RackGraph} (h : state.WellFormed)
    (hdomains : state.DomainMembersMirrored)
    (heffect : GraphEffect options state input.mutation after) :
    after.DomainMembersMirrored ↔ KeepsIndexes options state input := by
  obtain ⟨now, mutation⟩ := input
  cases heffect with
  | maintained hquiet hsteps =>
    refine iff_of_true (domainMembers_of_maintained hsteps h hdomains) ?_
    cases mutation <;> first | trivial | exact fun hadmitted => absurd hadmitted hquiet
  | enrolled hauthority hadmitted =>
    have hchecked := memberAdmission hadmitted
    rw [domainMembers_storeMember_iff h hdomains rfl, hchecked.failureDomains, hchecked.key]
    exact ⟨fun hkept _ => hkept, fun hkept => hkept ⟨_, _, hauthority, hadmitted⟩⟩
  | linked _ _ =>
    refine iff_of_true ?_ trivial
    unfold DomainMembersMirrored at hdomains ⊢
    rw [failureDomains_storeRelationship]
    exact hdomains.of_eq (byFailureDomain.index_storeRelationship ..)
      (members_storeRelationship ..)
  | filed hauthority hadmitted =>
    rw [domainMembers_storeFailureDomain_iff h hdomains, (failureDomainAdmission hadmitted).id]
    exact ⟨fun hkept _ => hkept, fun hkept => hkept ⟨_, _, hauthority, hadmitted⟩⟩
  | observed _ hadmitted =>
    have hrevision := revision_of_health h.toKeyed hadmitted
    rw [hrevision.key]
    exact iff_of_true (domainMembers_revise h hdomains hrevision.found hrevision.key
      hrevision.failureDomains) trivial
  | withdrawn _ hadmitted =>
    have hrevision := revision_of_withdrawal h.toKeyed hadmitted
    rw [hrevision.key]
    exact iff_of_true (domainMembers_revise h hdomains hrevision.found hrevision.key
      hrevision.failureDomains) trivial
  | @retired request _ _ _ hadmitted =>
    obtain ⟨existing, -, hrevision⟩ := revision_of_retirement h hadmitted
    have hmaintained := maintained_trimmed state.toRackGraph request.member
    rw [retireInGraph_eq, hrevision.found, hrevision.key]
    exact iff_of_true (domainMembers_revise (h.maintained hmaintained)
      (domainMembers_of_maintained hmaintained h hdomains) hrevision.found hrevision.key
      hrevision.failureDomains) trivial

/-- All eight indexes are as `rebuildIndexes` computes them throughout a run
exactly when its updates respect the members of failure domains. -/
theorem indexes_rebuilt_iff (options : RackFabricOptions) (inputs : List Input) :
    Execution.Always (step options)
        (fun state => state.toRackGraph.rebuildIndexes = state.toRackGraph) (fresh options) inputs ↔
      Execution.EachStep (step options) (KeepsIndexes options) (fresh options) inputs := by
  have hstart : (fresh options).DomainMembersMirrored :=
    Mirrors.congr (mirrored_empty byFailureDomain rfl) (fun _ _ => Iff.rfl)
      fun domain => by simp [fresh, unpinned]
  have hwell : (fresh options).WellFormed := WellFormed.empty
  have hiff := Execution.always_iff_eachStep (step options) (fun state => state.WellFormed)
    wellFormed_step (fun state input h hdomains => effect_indexes_iff h hdomains
      (step_effect h.toKeyed input)) hwell hstart inputs
  rw [← hiff]
  refine forall_congr' fun before => imp_congr_right fun _ => ?_
  exact (wellFormed_run options before).rebuildIndexes_eq_self_iff

def feed : FailureDomainId := .ofText (str "feed-1")

def relabelledDomainInputs : List Input :=
  [Scenario.declareRack,
    { mutation := .publishFailureDomain
        { authority := Scenario.operator, record := { id := feed } } },
    Scenario.publishMember Scenario.operator
      { key := Scenario.node "a", failureDomains := [feed] },
    { mutation := .publishFailureDomain
        { authority := Scenario.operator, record := { id := feed, label := some (str "feed") } } }]

/-- A new label for a failure domain makes the index forget its member. -/
theorem relabelled_domain_loses_member :
    ¬ Execution.Always (step Scenario.defaults)
      (fun state => state.toRackGraph.rebuildIndexes = state.toRackGraph)
      (fresh Scenario.defaults) relabelledDomainInputs := by
  intro h
  have heq := congrArg (fun graph : RackGraph => (entries graph.membersByFailureDomain feed).toList)
    (h relabelledDomainInputs (List.prefix_refl _))
  have hrebuilt : (entries (Scenario.run relabelledDomainInputs).rebuildIndexes.membersByFailureDomain
      feed).toList = [Scenario.node "a"] := by
    decide +kernel
  have hkept : (entries (Scenario.run relabelledDomainInputs).membersByFailureDomain
      feed).toList = [] := by
    decide +kernel
  exact absurd (hrebuilt.symm.trans (heq.trans hkept)) (by decide)

end RackState

end RackFabric
