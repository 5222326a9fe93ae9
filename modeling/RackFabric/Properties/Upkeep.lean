import RackFabric.Model.Observe
import RackFabric.Properties.WellFormed

/-! Changes that add no edge, revive no retired member and invent no evidence. -/
namespace RackFabric
open Std SecondaryIndex Reachability Relation Tables

/-- What the graph reads from the record stays as it was. -/
structure MemberRecord.Kept (old new : MemberRecord) : Prop where
  key : new.key = old.key
  parent : new.parent = old.parent
  failureDomains : new.failureDomains = old.failureDomains
  powerDomain : new.powerDomain = old.powerDomain
  coolingDomain : new.coolingDomain = old.coolingDomain
  ownerBoot : new.ownerBoot = old.ownerBoot
  retired : new.lifecycle = .retired ↔ old.lifecycle = .retired
  health : new.health.hasEvidence → old.health.hasEvidence
  readiness : new.readiness.hasEvidence → old.readiness.hasEvidence
  reachability : new.reachability.hasEvidence → old.reachability.hasEvidence

namespace RackGraph

def annotate (graph : RackGraph) (members : MemberRecord → MemberRecord)
    (relationships : RelationshipRecord → RelationshipRecord)
    (domains : FailureDomainRecord → FailureDomainRecord) : RackGraph :=
  { graph with
    members := graph.members.map fun _ => members
    relationships := graph.relationships.map fun _ => relationships
    failureDomains := graph.failureDomains.map fun _ => domains }

inductive Upkeep : RackGraph → RackGraph → Prop where
  | store {graph : RackGraph} {key : MemberKey} {existing record : MemberRecord}
      (hfound : graph.members[key]? = some existing) (hkept : existing.Kept record) :
      Upkeep graph (graph.storeMember key (some existing) record)
  | detach {graph : RackGraph} {key : MemberKey} {existing : MemberRecord}
      (hfound : graph.members[key]? = some existing) :
      Upkeep graph (graph.storeMember key (some existing) { existing with parent := none })
  | unlink {graph : RackGraph} (key : RelationshipKey) :
      Upkeep graph (graph.dropRelationship key)
  | annotate {graph : RackGraph} {members : MemberRecord → MemberRecord}
      {relationships : RelationshipRecord → RelationshipRecord}
      {domains : FailureDomainRecord → FailureDomainRecord}
      (hmembers : ∀ record : MemberRecord, record.Kept (members record))
      (hrelationships : ∀ record, (relationships record).key = record.key)
      (hdomains : ∀ record, (domains record).id = record.id ∧
        (domains record).parents = record.parents)
      (hrelationshipOwners : ∀ record, (relationships record).ownerBoot = record.ownerBoot)
      (hdomainOwners : ∀ record, (domains record).ownerBoot = record.ownerBoot) :
      Upkeep graph (graph.annotate members relationships domains)

section Annotate
variable {graph : RackGraph} {members : MemberRecord → MemberRecord}
  {relationships : RelationshipRecord → RelationshipRecord}
  {domains : FailureDomainRecord → FailureDomainRecord}

theorem MemberIndex.annotate_mirrored {κ : Type} [Ord κ] [TransOrd κ] [LawfulEqOrd κ]
    {view : MemberIndex κ} {pinned : κ → Prop} (h : view.Mirrored pinned graph)
    (hindex : view.index (graph.annotate members relationships domains) = view.index graph)
    (hkeys : ∀ record, view.keysOf (members record) = view.keysOf record) :
    view.Mirrored pinned (graph.annotate members relationships domains) := by
  unfold MemberIndex.Mirrored at h ⊢
  rw [hindex]
  exact h.congr (filed_map fun _ record => hkeys record) fun _ => Iff.rfl

theorem parentEdge_annotate (hmembers : ∀ record : MemberRecord, record.Kept (members record))
    (child parent : MemberKey) :
    (graph.annotate members relationships domains).ParentEdge child parent ↔
      graph.ParentEdge child parent := by
  simp [parentEdge_iff, annotate, ExtTreeMap.getElem?_map, (hmembers _).parent]

theorem domainEdge_annotate
    (hdomains : ∀ record, (domains record).id = record.id ∧
      (domains record).parents = record.parents) (domain parent : FailureDomainId) :
    (graph.annotate members relationships domains).DomainEdge domain parent ↔
      graph.DomainEdge domain parent := by
  simp [domainEdge_iff, annotate, ExtTreeMap.getElem?_map, hdomains]

theorem containsEdge_annotate (content container : MemberKey) :
    (graph.annotate members relationships domains).ContainsEdge content container ↔
      graph.ContainsEdge content container := by
  simp [ContainsEdge, annotate]

theorem WellFormed.annotate (h : graph.WellFormed)
    (hmembers : ∀ record : MemberRecord, record.Kept (members record))
    (hrelationships : ∀ record, (relationships record).key = record.key)
    (hdomains : ∀ record, (domains record).id = record.id ∧
      (domains record).parents = record.parents) :
    (graph.annotate members relationships domains).WellFormed where
  members hfound := by
    obtain ⟨old, hold, rfl⟩ := getElem?_map_cases hfound
    exact (hmembers old).key.trans (h.members hold)
  relationships hfound := by
    obtain ⟨old, hold, rfl⟩ := getElem?_map_cases hfound
    exact (hrelationships old).trans (h.relationships hold)
  failureDomains hfound := by
    obtain ⟨old, hold, rfl⟩ := getElem?_map_cases hfound
    exact (hdomains old).1.trans (h.failureDomains hold)
  parent_mem hfound hp := by
    obtain ⟨old, hold, rfl⟩ := getElem?_map_cases hfound
    exact ExtTreeMap.mem_map.mpr (h.parent_mem hold ((hmembers old).parent ▸ hp))
  domain_mem hfound hd := by
    obtain ⟨old, hold, rfl⟩ := getElem?_map_cases hfound
    exact ExtTreeMap.mem_map.mpr (h.domain_mem hold ((hmembers old).failureDomains ▸ hd))
  domainParent_mem hfound hp := by
    obtain ⟨old, hold, rfl⟩ := getElem?_map_cases hfound
    exact ExtTreeMap.mem_map.mpr (h.domainParent_mem hold ((hdomains old).2 ▸ hp))
  canonical hmem := h.canonical (ExtTreeMap.mem_map.mp hmem)
  distinct hmem := h.distinct (ExtTreeMap.mem_map.mp hmem)
  source_mem hmem := ExtTreeMap.mem_map.mpr (h.source_mem (ExtTreeMap.mem_map.mp hmem))
  target_mem hmem := ExtTreeMap.mem_map.mpr (h.target_mem (ExtTreeMap.mem_map.mp hmem))
  parents_acyclic := h.parents_acyclic.mono fun _ _ => (parentEdge_annotate hmembers _ _).mp
  domains_acyclic := h.domains_acyclic.mono fun _ _ => (domainEdge_annotate hdomains _ _).mp
  contains_acyclic := h.contains_acyclic.mono fun _ _ => (containsEdge_annotate _ _).mp
  kinds := MemberIndex.annotate_mirrored h.kinds rfl fun record => by
    simp [byKind, MemberRecord.kindKeys, (hmembers record).key]
  powerDomains := MemberIndex.annotate_mirrored h.powerDomains rfl fun record => by
    simp [byPowerDomain, MemberRecord.powerKeys, (hmembers record).powerDomain]
  coolingDomains := MemberIndex.annotate_mirrored h.coolingDomains rfl fun record => by
    simp [byCoolingDomain, MemberRecord.coolingKeys, (hmembers record).coolingDomain]
  owners := MemberIndex.annotate_mirrored h.owners rfl fun record => by
    simp [byOwnerBoot, MemberRecord.ownerKeys, (hmembers record).ownerBoot]
  children := MemberIndex.annotate_mirrored h.children rfl fun record => by
    simp [byParent, MemberRecord.parentKeys, (hmembers record).parent]
  touching := by
    refine Mirrors.congr h.touching (filed_map fun _ record => ?_) fun _ => Iff.rfl
    simp [RelationshipRecord.endpoints, hrelationships]
  domainChildren := by
    refine Mirrors.congr h.domainChildren (filed_map fun _ record => ?_) fun _ => Iff.rfl
    exact (hdomains record).2

end Annotate

variable {graph after : RackGraph}

theorem WellFormed.upkeep (h : graph.WellFormed) (hstep : graph.Upkeep after) :
    after.WellFormed := by
  cases hstep with
  | store hfound hkept =>
    exact h.reviseMember hfound hkept.key (Or.inl hkept.parent) hkept.failureDomains
  | detach hfound => exact h.reviseMember hfound rfl (Or.inr rfl) rfl
  | unlink key => exact h.dropRelationship key
  | annotate hmembers hrelationships hdomains =>
    exact h.annotate hmembers hrelationships hdomains

theorem WellFormed.maintained (h : graph.WellFormed) (hsteps : ReflTransGen Upkeep graph after) :
    after.WellFormed := by
  induction hsteps with
  | refl => exact h
  | tail _ hstep ih => exact ih.upkeep hstep

/-- No member is lost or revived, and no edge or evidence is new. -/
structure Traced (before after : RackGraph) : Prop where
  kept : ∀ {key : MemberKey}, key ∈ before.members → key ∈ after.members
  members : ∀ {key : MemberKey} {record : MemberRecord}, after.members[key]? = some record →
    ∃ old, before.members[key]? = some old ∧
      (record.lifecycle = .retired ↔ old.lifecycle = .retired) ∧
      (record.parent = old.parent ∨ record.parent = none) ∧
      (record.health.hasEvidence → old.health.hasEvidence) ∧
      (record.readiness.hasEvidence → old.readiness.hasEvidence) ∧
      (record.reachability.hasEvidence → old.reachability.hasEvidence)
  relationships : ∀ {key : RelationshipKey}, key ∈ after.relationships → key ∈ before.relationships

theorem Traced.refl (graph : RackGraph) : graph.Traced graph where
  kept h := h
  members hfound := ⟨_, hfound, Iff.rfl, Or.inl rfl, id, id, id⟩
  relationships h := h

theorem Traced.trans {before middle after : RackGraph} (hfirst : before.Traced middle)
    (hsecond : middle.Traced after) : before.Traced after where
  kept h := hsecond.kept (hfirst.kept h)
  members hfound := by
    obtain ⟨mid, hmid, hret, hpar, hh, hr, hc⟩ := hsecond.members hfound
    obtain ⟨old, hold, hret', hpar', hh', hr', hc'⟩ := hfirst.members hmid
    refine ⟨old, hold, hret.trans hret', ?_, hh' ∘ hh, hr' ∘ hr, hc' ∘ hc⟩
    rcases hpar with hsame | hnone
    · rwa [hsame]
    · exact Or.inr hnone
  relationships h := hfirst.relationships (hsecond.relationships h)

theorem Traced.storeMember {key : MemberKey} {existing record : MemberRecord}
    (hfound : graph.members[key]? = some existing)
    (hretired : record.lifecycle = .retired ↔ existing.lifecycle = .retired)
    (hparent : record.parent = existing.parent ∨ record.parent = none)
    (hhealth : record.health.hasEvidence → existing.health.hasEvidence)
    (hreadiness : record.readiness.hasEvidence → existing.readiness.hasEvidence)
    (hreachability : record.reachability.hasEvidence → existing.reachability.hasEvidence) :
    graph.Traced (graph.storeMember key (some existing) record) where
  kept h := by simp [h]
  members hstored := by
    rw [members_storeMember] at hstored
    rcases getElem?_insert_cases hstored with ⟨rfl, rfl⟩ | ⟨-, hold⟩
    · exact ⟨existing, hfound, hretired, hparent, hhealth, hreadiness, hreachability⟩
    · exact ⟨_, hold, Iff.rfl, Or.inl rfl, id, id, id⟩
  relationships h := by simpa using h

theorem Upkeep.traced (h : graph.Upkeep after) : graph.Traced after := by
  cases h with
  | store hfound hkept =>
    exact .storeMember hfound hkept.retired (Or.inl hkept.parent) hkept.health hkept.readiness
      hkept.reachability
  | detach hfound => exact .storeMember hfound Iff.rfl (Or.inr rfl) id id id
  | unlink key =>
    exact
      { kept := by simp
        members := fun hfound => ⟨_, by simpa using hfound, Iff.rfl, Or.inl rfl, id, id, id⟩
        relationships := mem_of_mem_drop }
  | annotate hmembers hrelationships hdomains =>
    exact
      { kept := fun h => ExtTreeMap.mem_map.mpr h
        members := fun hfound => by
          obtain ⟨old, hold, rfl⟩ := getElem?_map_cases hfound
          have hkept := hmembers old
          exact ⟨old, hold, hkept.retired, Or.inl hkept.parent, hkept.health, hkept.readiness,
            hkept.reachability⟩
        relationships := fun h => ExtTreeMap.mem_map.mp h }

theorem traced_of_maintained (h : ReflTransGen Upkeep graph after) : graph.Traced after := by
  induction h with
  | refl => exact .refl graph
  | tail _ hstep ih => exact ih.trans hstep.traced

theorem Traced.parentEdge (h : graph.Traced after) {child parent : MemberKey}
    (hedge : after.ParentEdge child parent) : graph.ParentEdge child parent := by
  obtain ⟨record, hfound, hparent⟩ := parentEdge_iff.mp hedge
  obtain ⟨old, hold, -, hsame | hnone, -⟩ := h.members hfound
  · exact parentEdge_iff.mpr ⟨old, hold, hsame ▸ hparent⟩
  · rw [hnone] at hparent
    cases hparent

theorem Traced.containsEdge (h : graph.Traced after) {content container : MemberKey}
    (hedge : after.ContainsEdge content container) : graph.ContainsEdge content container :=
  h.relationships hedge

end RackGraph

end RackFabric
