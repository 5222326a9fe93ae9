import RackFabric.Library.Tables
import RackFabric.Properties.Cycles

/-! The well-formed graph, and the conditions under which each store keeps it. -/
namespace RackFabric
open Std SecondaryIndex Reachability Relation Tables

namespace RackGraph

/-- Every reference leads to a record, and none of the three graphs has a cycle. -/
structure Integrity (graph : RackGraph) : Prop extends Keyed graph where
  parent_mem : ∀ {key : MemberKey} {record : MemberRecord} {parent : MemberKey},
    graph.members[key]? = some record → record.parent = some parent → parent ∈ graph.members
  domain_mem : ∀ {key : MemberKey} {record : MemberRecord} {domain : FailureDomainId},
    graph.members[key]? = some record → domain ∈ record.failureDomains →
      domain ∈ graph.failureDomains
  domainParent_mem : ∀ {id : FailureDomainId} {record : FailureDomainRecord}
    {parent : FailureDomainId}, graph.failureDomains[id]? = some record →
      parent ∈ record.parents → parent ∈ graph.failureDomains
  canonical : ∀ {key : RelationshipKey}, key ∈ graph.relationships → key.canonical = key
  distinct : ∀ {key : RelationshipKey}, key ∈ graph.relationships → key.source ≠ key.target
  source_mem : ∀ {key : RelationshipKey}, key ∈ graph.relationships → key.source ∈ graph.members
  target_mem : ∀ {key : RelationshipKey}, key ∈ graph.relationships → key.target ∈ graph.members
  parents_acyclic : Acyclic graph.ParentEdge
  domains_acyclic : Acyclic graph.DomainEdge
  contains_acyclic : Acyclic graph.ContainsEdge

/-- The indexes mirror the tables too, except for the members of a failure domain. -/
structure WellFormed (graph : RackGraph) : Prop extends Integrity graph where
  kinds : byKind.Mirrored unpinned graph
  powerDomains : byPowerDomain.Mirrored unpinned graph
  coolingDomains : byCoolingDomain.Mirrored unpinned graph
  owners : byOwnerBoot.Mirrored unpinned graph
  children : byParent.Mirrored unpinned graph
  touching : graph.RelationshipsMirrored
  domainChildren : graph.DomainChildrenMirrored

theorem acyclic_of_no_edge {α : Type} {edge : α → α → Prop} (h : ∀ a b, ¬ edge a b) :
    Acyclic edge :=
  fun _ hcycle => by
    obtain ⟨_, hedge, -⟩ := TransGen.head'_iff.mp hcycle
    exact h _ _ hedge

theorem mirrored_empty {κ : Type} [Ord κ] [TransOrd κ] [LawfulEqOrd κ] (view : MemberIndex κ)
    (h : view.index {} = ∅) : view.Mirrored unpinned {} := by
  unfold MemberIndex.Mirrored
  rw [h]
  exact Mirrors.empty.congr (by simp [Filed]) (fun _ => Iff.rfl)

theorem WellFormed.empty : WellFormed {} where
  members := by simp
  relationships := by simp
  failureDomains := by simp
  parent_mem := by simp
  domain_mem := by simp
  domainParent_mem := by simp
  canonical := by simp
  distinct := by simp
  source_mem := by simp
  target_mem := by simp
  parents_acyclic := acyclic_of_no_edge (by simp [parentEdge_iff])
  domains_acyclic := acyclic_of_no_edge (by simp [domainEdge_iff])
  contains_acyclic := acyclic_of_no_edge (by simp [ContainsEdge])
  kinds := mirrored_empty _ rfl
  powerDomains := mirrored_empty _ rfl
  coolingDomains := mirrored_empty _ rfl
  owners := mirrored_empty _ rfl
  children := mirrored_empty _ rfl
  touching := Mirrors.empty.congr (by simp [Filed]) (fun _ => Iff.rfl)
  domainChildren := Mirrors.empty.congr (by simp [Filed]) (fun _ => Iff.rfl)

variable {graph : RackGraph}

/-! Storing a member. -/

theorem parentEdge_storeMember {key child parent : MemberKey} {existing : Option MemberRecord}
    {record : MemberRecord} :
    (graph.storeMember key existing record).ParentEdge child parent ↔
      (child = key ∧ record.parent = some parent) ∨
        (child ≠ key ∧ graph.ParentEdge child parent) := by
  simp only [parentEdge_iff, members_storeMember]
  by_cases h : child = key
  · subst h
    simp
  · simp [ExtTreeMap.getElem?_insert, h, Ne.symm h]

theorem WellFormed.storeMember (h : graph.WellFormed) {key : MemberKey} {record : MemberRecord}
    (hkey : record.key = key)
    (hparent : ∀ parent, record.parent = some parent →
      parent ∈ graph.members ∧ ¬ ReflTransGen graph.ParentEdge parent key)
    (hdomains : ∀ domain ∈ record.failureDomains, domain ∈ graph.failureDomains) :
    (graph.storeMember key graph.members[key]? record).WellFormed where
  members := (h.toKeyed.storeMember hkey).members
  relationships := (h.toKeyed.storeMember hkey).relationships
  failureDomains := (h.toKeyed.storeMember hkey).failureDomains
  parent_mem hfound hp := by
    rw [members_storeMember] at hfound ⊢
    rw [ExtTreeMap.mem_insert]
    rcases getElem?_insert_cases hfound with ⟨-, rfl⟩ | ⟨-, hold⟩
    · exact Or.inr (hparent _ hp).1
    · exact Or.inr (h.parent_mem hold hp)
  domain_mem hfound hd := by
    rw [members_storeMember] at hfound
    rw [failureDomains_storeMember]
    rcases getElem?_insert_cases hfound with ⟨-, rfl⟩ | ⟨-, hold⟩
    · exact hdomains _ hd
    · exact h.domain_mem hold hd
  domainParent_mem hfound hp := by
    rw [failureDomains_storeMember] at hfound ⊢
    exact h.domainParent_mem hfound hp
  canonical hmem := h.canonical (by simpa using hmem)
  distinct hmem := h.distinct (by simpa using hmem)
  source_mem hmem := by
    rw [members_storeMember, ExtTreeMap.mem_insert]
    exact Or.inr (h.source_mem (by simpa using hmem))
  target_mem hmem := by
    rw [members_storeMember, ExtTreeMap.mem_insert]
    exact Or.inr (h.target_mem (by simpa using hmem))
  parents_acyclic := by
    refine h.parents_acyclic.redirect key fun child parent hedge => ?_
    rcases parentEdge_storeMember.mp hedge with ⟨rfl, hp⟩ | ⟨-, hold⟩
    · exact Or.inr ⟨rfl, (hparent _ hp).2⟩
    · exact Or.inl hold
  domains_acyclic := by
    refine h.domains_acyclic.mono fun domain parent hedge => ?_
    simpa [domainEdge_iff] using hedge
  contains_acyclic := by
    refine h.contains_acyclic.mono fun content container hedge => ?_
    simpa [ContainsEdge] using hedge
  kinds := byKind.storeMember_mirrored h.kinds h.toKeyed hkey
  powerDomains := byPowerDomain.storeMember_mirrored h.powerDomains h.toKeyed hkey
  coolingDomains := byCoolingDomain.storeMember_mirrored h.coolingDomains h.toKeyed hkey
  owners := byOwnerBoot.storeMember_mirrored h.owners h.toKeyed hkey
  children := byParent.storeMember_mirrored h.children h.toKeyed hkey
  touching := by simpa [RelationshipsMirrored] using h.touching
  domainChildren := by simpa [DomainChildrenMirrored] using h.domainChildren

/-- A parent that a member already has does not lead back to the member. -/
theorem WellFormed.parent_safe (h : graph.WellFormed) {key parent : MemberKey}
    {record : MemberRecord} (hfound : graph.members[key]? = some record)
    (hparent : record.parent = some parent) :
    parent ∈ graph.members ∧ ¬ ReflTransGen graph.ParentEdge parent key := by
  refine ⟨h.parent_mem hfound hparent, fun hpath => h.parents_acyclic key ?_⟩
  exact .head' (parentEdge_iff.mpr ⟨record, hfound, hparent⟩) hpath

/-- A revision keeps the parent, or drops it, and keeps the domains. -/
theorem WellFormed.reviseMember (h : graph.WellFormed) {key : MemberKey}
    {existing record : MemberRecord} (hfound : graph.members[key]? = some existing)
    (hkey : record.key = existing.key)
    (hparent : record.parent = existing.parent ∨ record.parent = none)
    (hdomains : record.failureDomains = existing.failureDomains) :
    (graph.storeMember key (some existing) record).WellFormed := by
  rw [← hfound]
  refine h.storeMember (hkey.trans (h.members hfound)) (fun parent hp => ?_) fun domain hd => ?_
  · rcases hparent with hsame | hnone
    · exact h.parent_safe hfound (hsame ▸ hp)
    · rw [hnone] at hp
      cases hp
  · exact h.domain_mem hfound (hdomains ▸ hd)

/-! Storing and dropping a relationship. -/

theorem containsEdge_storeRelationship {content container : MemberKey}
    {existing : Option RelationshipRecord} {record : RelationshipRecord} :
    (graph.storeRelationship existing record).ContainsEdge content container ↔
      record.key = ⟨.contains, container, content⟩ ∨ graph.ContainsEdge content container := by
  simp [ContainsEdge]

theorem WellFormed.storeRelationship (h : graph.WellFormed) {record : RelationshipRecord}
    (hcanonical : record.key.canonical = record.key)
    (hdistinct : record.key.source ≠ record.key.target)
    (hsource : record.key.source ∈ graph.members) (htarget : record.key.target ∈ graph.members)
    (hsafe : record.key.cls = .contains →
      ¬ ReflTransGen graph.ContainsEdge record.key.source record.key.target) :
    (graph.storeRelationship graph.relationships[record.key]? record).WellFormed where
  members hfound := h.members (by simpa using hfound)
  relationships hfound := by
    rw [relationships_storeRelationship] at hfound
    rcases getElem?_insert_cases hfound with ⟨rfl, rfl⟩ | ⟨-, hold⟩
    · rfl
    · exact h.relationships hold
  failureDomains hfound := h.failureDomains (by simpa using hfound)
  parent_mem hfound hp := by
    rw [members_storeRelationship] at hfound ⊢
    exact h.parent_mem hfound hp
  domain_mem hfound hd := by
    rw [members_storeRelationship] at hfound
    rw [failureDomains_storeRelationship]
    exact h.domain_mem hfound hd
  domainParent_mem hfound hp := by
    rw [failureDomains_storeRelationship] at hfound ⊢
    exact h.domainParent_mem hfound hp
  canonical hmem := by
    simp only [relationships_storeRelationship, ExtTreeMap.mem_insert,
      LawfulEqCmp.compare_eq_iff_eq] at hmem
    rcases hmem with rfl | hmem
    · exact hcanonical
    · exact h.canonical hmem
  distinct hmem := by
    simp only [relationships_storeRelationship, ExtTreeMap.mem_insert,
      LawfulEqCmp.compare_eq_iff_eq] at hmem
    rcases hmem with rfl | hmem
    · exact hdistinct
    · exact h.distinct hmem
  source_mem hmem := by
    simp only [relationships_storeRelationship, ExtTreeMap.mem_insert,
      LawfulEqCmp.compare_eq_iff_eq] at hmem
    rw [members_storeRelationship]
    rcases hmem with rfl | hmem
    · exact hsource
    · exact h.source_mem hmem
  target_mem hmem := by
    simp only [relationships_storeRelationship, ExtTreeMap.mem_insert,
      LawfulEqCmp.compare_eq_iff_eq] at hmem
    rw [members_storeRelationship]
    rcases hmem with rfl | hmem
    · exact htarget
    · exact h.target_mem hmem
  parents_acyclic := by
    refine h.parents_acyclic.mono fun child parent hedge => ?_
    simpa [parentEdge_iff] using hedge
  domains_acyclic := by
    refine h.domains_acyclic.mono fun domain parent hedge => ?_
    simpa [domainEdge_iff] using hedge
  contains_acyclic := by
    refine h.contains_acyclic.redirect record.key.target
      fun content container hedge => ?_
    rcases containsEdge_storeRelationship.mp hedge with hnew | hold
    · simp only [hnew] at hsafe ⊢
      exact Or.inr ⟨trivial, hsafe trivial⟩
    · exact Or.inl hold
  kinds := h.kinds.of_eq (byKind.index_storeRelationship ..) (members_storeRelationship ..)
  powerDomains :=
    h.powerDomains.of_eq (byPowerDomain.index_storeRelationship ..) (members_storeRelationship ..)
  coolingDomains :=
    h.coolingDomains.of_eq (byCoolingDomain.index_storeRelationship ..) (members_storeRelationship ..)
  owners := h.owners.of_eq (byOwnerBoot.index_storeRelationship ..) (members_storeRelationship ..)
  children := h.children.of_eq (byParent.index_storeRelationship ..) (members_storeRelationship ..)
  touching := relationshipsMirrored_store h.touching h.toKeyed
  domainChildren := by simpa [DomainChildrenMirrored] using h.domainChildren

theorem mem_of_mem_drop {key dropped : RelationshipKey}
    (h : key ∈ (graph.dropRelationship dropped).relationships) : key ∈ graph.relationships := by
  rw [relationships_dropRelationship] at h
  exact (ExtTreeMap.mem_erase.mp h).2

theorem WellFormed.dropRelationship (h : graph.WellFormed) (key : RelationshipKey) :
    (graph.dropRelationship key).WellFormed where
  members hfound := h.members (by simpa using hfound)
  relationships hfound := by
    rw [relationships_dropRelationship, ExtTreeMap.getElem?_erase] at hfound
    split at hfound
    · cases hfound
    · exact h.relationships hfound
  failureDomains hfound := h.failureDomains (by simpa using hfound)
  parent_mem hfound hp := by
    rw [members_dropRelationship] at hfound ⊢
    exact h.parent_mem hfound hp
  domain_mem hfound hd := by
    rw [members_dropRelationship] at hfound
    rw [failureDomains_dropRelationship]
    exact h.domain_mem hfound hd
  domainParent_mem hfound hp := by
    rw [failureDomains_dropRelationship] at hfound ⊢
    exact h.domainParent_mem hfound hp
  canonical hmem := h.canonical (mem_of_mem_drop hmem)
  distinct hmem := h.distinct (mem_of_mem_drop hmem)
  source_mem hmem := by
    rw [members_dropRelationship]
    exact h.source_mem (mem_of_mem_drop hmem)
  target_mem hmem := by
    rw [members_dropRelationship]
    exact h.target_mem (mem_of_mem_drop hmem)
  parents_acyclic := by
    refine h.parents_acyclic.mono fun child parent hedge => ?_
    simpa [parentEdge_iff] using hedge
  domains_acyclic := by
    refine h.domains_acyclic.mono fun domain parent hedge => ?_
    simpa [domainEdge_iff] using hedge
  contains_acyclic := h.contains_acyclic.mono fun _ _ hedge => mem_of_mem_drop hedge
  kinds := h.kinds.of_eq (byKind.index_dropRelationship ..) (members_dropRelationship ..)
  powerDomains :=
    h.powerDomains.of_eq (byPowerDomain.index_dropRelationship ..) (members_dropRelationship ..)
  coolingDomains :=
    h.coolingDomains.of_eq (byCoolingDomain.index_dropRelationship ..) (members_dropRelationship ..)
  owners := h.owners.of_eq (byOwnerBoot.index_dropRelationship ..) (members_dropRelationship ..)
  children := h.children.of_eq (byParent.index_dropRelationship ..) (members_dropRelationship ..)
  touching := relationshipsMirrored_drop h.touching h.toKeyed
  domainChildren := by simpa [DomainChildrenMirrored] using h.domainChildren

/-! Storing a failure domain. -/

theorem domainEdge_storeFailureDomain {domain parent : FailureDomainId}
    {existing : Option FailureDomainRecord} {record : FailureDomainRecord} :
    (graph.storeFailureDomain existing record).DomainEdge domain parent ↔
      (domain = record.id ∧ parent ∈ record.parents) ∨
        (domain ≠ record.id ∧ graph.DomainEdge domain parent) := by
  simp only [domainEdge_iff, failureDomains_storeFailureDomain]
  by_cases h : domain = record.id
  · subst h
    simp
  · simp [ExtTreeMap.getElem?_insert, h, Ne.symm h]

theorem WellFormed.storeFailureDomain (h : graph.WellFormed) {record : FailureDomainRecord}
    (hparents : ∀ parent ∈ record.parents, parent ∈ graph.failureDomains ∧
      ¬ ReflTransGen graph.DomainEdge parent record.id) :
    (graph.storeFailureDomain graph.failureDomains[record.id]? record).WellFormed where
  members hfound := h.members (by simpa using hfound)
  relationships hfound := h.relationships (by simpa using hfound)
  failureDomains hfound := by
    rw [failureDomains_storeFailureDomain] at hfound
    rcases getElem?_insert_cases hfound with ⟨rfl, rfl⟩ | ⟨-, hold⟩
    · rfl
    · exact h.failureDomains hold
  parent_mem hfound hp := by
    rw [members_storeFailureDomain] at hfound ⊢
    exact h.parent_mem hfound hp
  domain_mem hfound hd := by
    rw [members_storeFailureDomain] at hfound
    rw [failureDomains_storeFailureDomain, ExtTreeMap.mem_insert]
    exact Or.inr (h.domain_mem hfound hd)
  domainParent_mem hfound hp := by
    rw [failureDomains_storeFailureDomain] at hfound ⊢
    rw [ExtTreeMap.mem_insert]
    rcases getElem?_insert_cases hfound with ⟨-, rfl⟩ | ⟨-, hold⟩
    · exact Or.inr (hparents _ hp).1
    · exact Or.inr (h.domainParent_mem hold hp)
  canonical hmem := h.canonical (by simpa using hmem)
  distinct hmem := h.distinct (by simpa using hmem)
  source_mem hmem := by
    rw [members_storeFailureDomain]
    exact h.source_mem (by simpa using hmem)
  target_mem hmem := by
    rw [members_storeFailureDomain]
    exact h.target_mem (by simpa using hmem)
  parents_acyclic := by
    refine h.parents_acyclic.mono fun child parent hedge => ?_
    simpa [parentEdge_iff] using hedge
  domains_acyclic := by
    refine h.domains_acyclic.redirect record.id fun domain parent hedge => ?_
    rcases domainEdge_storeFailureDomain.mp hedge with ⟨rfl, hp⟩ | ⟨-, hold⟩
    · exact Or.inr ⟨rfl, (hparents _ hp).2⟩
    · exact Or.inl hold
  contains_acyclic := by
    refine h.contains_acyclic.mono fun content container hedge => ?_
    simpa [ContainsEdge] using hedge
  kinds := h.kinds.of_eq (membersByKind_storeFailureDomain _ _ record)
    (members_storeFailureDomain _ _ record)
  powerDomains := h.powerDomains.of_eq (membersByPowerDomain_storeFailureDomain _ _ record)
    (members_storeFailureDomain _ _ record)
  coolingDomains := h.coolingDomains.of_eq (membersByCoolingDomain_storeFailureDomain _ _ record)
    (members_storeFailureDomain _ _ record)
  owners := h.owners.of_eq (membersByOwnerBoot_storeFailureDomain _ _ record)
    (members_storeFailureDomain _ _ record)
  children := h.children.of_eq (childrenByParent_storeFailureDomain _ _ record)
    (members_storeFailureDomain _ _ record)
  touching := by simpa [RelationshipsMirrored] using h.touching
  domainChildren := domainChildrenMirrored_store h.domainChildren h.toKeyed

end RackGraph

end RackFabric
