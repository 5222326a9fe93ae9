import RackFabric.Library.Tables
import RackFabric.Properties.Stores

/-! The three graphs that must stay acyclic, and what the cycle checks decide. -/
namespace RackFabric
open Std SecondaryIndex Reachability Relation Tables

namespace RackGraph
variable {graph : RackGraph}

def ParentEdge (graph : RackGraph) (child parent : MemberKey) : Prop :=
  graph.parentOf child = some parent

def DomainEdge (graph : RackGraph) (domain parent : FailureDomainId) : Prop :=
  parent ∈ graph.parentsOf domain

/-- From a member to a container that a relationship gives it. -/
def ContainsEdge (graph : RackGraph) (content container : MemberKey) : Prop :=
  (⟨.contains, container, content⟩ : RelationshipKey) ∈ graph.relationships

theorem parentEdge_iff {child parent : MemberKey} :
    graph.ParentEdge child parent ↔
      ∃ record, graph.members[child]? = some record ∧ record.parent = some parent := by
  simp [ParentEdge, parentOf, Option.bind_eq_some_iff]

theorem domainEdge_iff {domain parent : FailureDomainId} :
    graph.DomainEdge domain parent ↔
      ∃ record, graph.failureDomains[domain]? = some record ∧ parent ∈ record.parents := by
  unfold DomainEdge parentsOf
  cases graph.failureDomains[domain]? <;> simp

theorem not_path_of_chainMeets {child : MemberKey} (fuel : Nat) {current : MemberKey}
    {visited : ExtTreeSet MemberKey} (h : graph.chainMeets child fuel current visited = false) :
    ¬ ReflTransGen graph.ParentEdge current child := by
  induction fuel generalizing current visited with
  | zero => simp [chainMeets] at h
  | succ fuel ih =>
    simp only [chainMeets] at h
    split at h
    · cases h
    · split at h
      · cases h
      · rename_i hchild
        intro hpath
        rcases ReflTransGen.cases_head hpath with heq | ⟨parent, hedge, hrest⟩
        · exact hchild heq
        · split at h
          · rename_i hnone
            exact absurd (hnone.symm.trans hedge) (by simp)
          · rename_i found hfound
            obtain rfl : found = parent := Option.some.inj (hfound.symm.trans hedge)
            exact ih h hrest

theorem not_path_of_containsCycle {parent child : MemberKey}
    (h : graph.containsCycle parent child = false) :
    ¬ ReflTransGen graph.ParentEdge parent child := by
  unfold containsCycle at h
  split at h
  · cases h
  · exact not_path_of_chainMeets _ h

theorem mem_of_parentOf {child parent : MemberKey} (h : graph.parentOf child = some parent) :
    child ∈ graph.members := by
  obtain ⟨record, hfound, -⟩ := parentEdge_iff.mp h
  simp [ExtTreeMap.mem_iff_isSome_getElem?, hfound]

/-- The walk visits members only, so it ends before its fuel does. -/
theorem chainMeets_succ {child : MemberKey} (fuel : Nat) {current : MemberKey}
    {visited : ExtTreeSet MemberKey} (hvisited : ∀ key ∈ visited, key ∈ graph.members)
    (hfuel : graph.members.size < fuel + visited.size) :
    graph.chainMeets child (fuel + 1) current visited =
      graph.chainMeets child fuel current visited := by
  induction fuel generalizing current visited with
  | zero =>
    have hle := size_le_of_subset hvisited
    omega
  | succ fuel ih =>
    rw [chainMeets, chainMeets]
    split
    · rfl
    · rename_i hnew
      split
      · rfl
      · cases hparent : graph.parentOf current with
        | none => rfl
        | some parent =>
          apply ih
          · intro key hkey
            rcases ExtTreeSet.mem_insert.mp hkey with heq | hold
            · rw [← LawfulEqCmp.compare_eq_iff_eq.mp heq]
              exact mem_of_parentOf hparent
            · exact hvisited key hold
          · rw [ExtTreeSet.size_insert, if_neg (by simpa using hnew)]
            omega

theorem chainMeets_add {child : MemberKey} (more : Nat) {fuel : Nat} {current : MemberKey}
    (hfuel : graph.members.size < fuel) :
    graph.chainMeets child (fuel + more) current ∅ = graph.chainMeets child fuel current ∅ := by
  induction more with
  | zero => rfl
  | succ more ih =>
    rw [← Nat.add_assoc, chainMeets_succ _ (by simp) (by simp; omega), ih]

def ParentsClosed (graph : RackGraph) : Prop :=
  ∀ child parent : MemberKey, graph.parentOf child = some parent → parent ∈ graph.members

theorem chainMeets_congr {other : RackGraph} (hclosed : graph.ParentsClosed)
    (hparents : ∀ key ∈ graph.members, other.parentOf key = graph.parentOf key)
    {child : MemberKey} (fuel : Nat) {current : MemberKey} {visited : ExtTreeSet MemberKey}
    (hcurrent : current ∈ graph.members) :
    other.chainMeets child fuel current visited = graph.chainMeets child fuel current visited := by
  induction fuel generalizing current visited with
  | zero => rfl
  | succ fuel ih =>
    rw [chainMeets, chainMeets, hparents current hcurrent]
    cases hparent : graph.parentOf current with
    | none => rfl
    | some parent => simp only [ih (hclosed _ _ hparent)]

/-- What is stored beside a chain of parents does not change whether it is a cycle. -/
theorem containsCycle_congr {other : RackGraph} (hclosed : graph.ParentsClosed)
    (hparents : ∀ key ∈ graph.members, other.parentOf key = graph.parentOf key)
    (hsize : graph.members.size ≤ other.members.size) {parent child : MemberKey}
    (hparent : parent ∈ graph.members) :
    other.containsCycle parent child = graph.containsCycle parent child := by
  obtain ⟨more, hmore⟩ := Nat.exists_eq_add_of_le hsize
  have hfuel : other.members.size + 1 = graph.members.size + 1 + more := by omega
  unfold containsCycle
  rw [chainMeets_congr hclosed hparents _ hparent, hfuel, chainMeets_add more (by omega)]

theorem mem_containersOf (hkeyed : graph.Keyed) (hmirrored : graph.RelationshipsMirrored)
    {content container : MemberKey} :
    container ∈ graph.containersOf content ↔ graph.ContainsEdge content container := by
  unfold containersOf ContainsEdge
  simp only [List.mem_filterMap, ExtTreeSet.mem_toList, hmirrored.entries_iff, Filed]
  constructor
  · rintro ⟨relationship, ⟨record, hrecord, -⟩, hkey⟩
    split at hkey
    · rename_i hcls
      have heq : relationship = ⟨.contains, container, content⟩ := by
        obtain ⟨cls, source, target⟩ := relationship
        simp_all
      rw [← heq, ExtTreeMap.mem_iff_isSome_getElem?, hrecord]
      rfl
    · cases hkey
  · intro hmem
    obtain ⟨record, hrecord⟩ :=
      Option.isSome_iff_exists.mp (ExtTreeMap.mem_iff_isSome_getElem?.mp hmem)
    refine ⟨⟨.contains, container, content⟩, ⟨record, hrecord, ?_⟩, by simp⟩
    simp [RelationshipRecord.endpoints, hkeyed.relationships hrecord]

theorem containsEdge_eq (hkeyed : graph.Keyed) (hmirrored : graph.RelationshipsMirrored) :
    (fun content container => container ∈ graph.containersOf content) = graph.ContainsEdge := by
  funext content container
  exact propext (mem_containersOf hkeyed hmirrored)

/-- Only a member that the index knows has containers. -/
theorem mem_keys_of_containersOf (key : MemberKey) (h : graph.containersOf key ≠ []) :
    key ∈ graph.relationshipsByMember.keys := by
  obtain ⟨container, hmem⟩ := List.exists_mem_of_ne_nil _ h
  obtain ⟨relationship, hentry, -⟩ := List.mem_filterMap.mp hmem
  exact ExtTreeMap.mem_keys.mpr (mem_of_mem_entries (ExtTreeSet.mem_toList.mp hentry))

/-- The relationship check decides whether the contained member contains its
container already. -/
theorem relationshipContainsCycle_iff (hkeyed : graph.Keyed)
    (hmirrored : graph.RelationshipsMirrored) {parent child : MemberKey} :
    graph.relationshipContainsCycle parent child = true ↔
      ReflTransGen graph.ContainsEdge parent child := by
  unfold relationshipContainsCycle
  by_cases heq : parent = child
  · subst heq
    simp [ReflTransGen.refl]
  · rw [if_neg heq, searchEager_eq_search _ _ _ _ (by simp),
      search_searchFuel_iff _ _ _ ExtTreeMap.nodup_keys mem_keys_of_containersOf,
      containsEdge_eq hkeyed hmirrored]

/-- Only a known domain has parents. -/
theorem mem_keys_of_parentsOf (id : FailureDomainId) (h : graph.parentsOf id ≠ []) :
    id ∈ graph.failureDomains.keys := by
  rw [ExtTreeMap.mem_keys, ExtTreeMap.mem_iff_isSome_getElem?]
  unfold parentsOf at h
  cases hrecord : graph.failureDomains[id]? with
  | none => simp [hrecord] at h
  | some record => rfl

theorem domainContainsCycle_iff {parent child : FailureDomainId} :
    graph.domainContainsCycle parent child = true ↔
      ReflTransGen graph.DomainEdge parent child := by
  unfold domainContainsCycle
  by_cases heq : parent = child
  · subst heq
    simp [ReflTransGen.refl]
  · rw [if_neg heq, search_searchFuel_iff _ _ _ ExtTreeMap.nodup_keys mem_keys_of_parentsOf]
    rfl

end RackGraph

end RackFabric
