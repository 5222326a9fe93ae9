import RackFabric.Model.Domains
import RackFabric.Properties.Cycles
import RackFabric.Properties.Indexes

/-! The queries about failure domains walk one graph from both of its ends. -/
namespace RackFabric
open Std SecondaryIndex Reachability Relation Worklist BinarySearch Tables

namespace RackGraph
variable {graph : RackGraph}

/-! Up from a member. -/

theorem collectDomains_eq (fuel : Nat) (pending : List FailureDomainId)
    (visited : ExtTreeSet FailureDomainId) :
    graph.collectDomains fuel pending visited =
      Worklist.collect graph.parentsOf fuel pending visited := by
  induction fuel generalizing pending visited with
  | zero => rfl
  | succ fuel ih =>
    cases pending with
    | nil => rfl
    | cons current pending => simp only [collectDomains, Worklist.collect, ih]

/-- The walk up ends, and its result is the answer. -/
theorem failureDomainsOf_collects {key : MemberKey} {record : MemberRecord}
    (hfound : graph.members[key]? = some record) :
    ∃ result, Worklist.Collects graph.parentsOf record.failureDomains ∅ result ∧
      graph.failureDomainsOf key = result.toList := by
  have hsupport : ∀ id, graph.parentsOf id ≠ [] → id ∈ graph.failureDomains.keys.toFinset :=
    fun id hne => List.mem_toFinset.mpr (mem_keys_of_parentsOf id hne)
  refine ⟨_, collects_collect (record.failureDomains.length +
    searchFuel graph.parentsOf graph.failureDomains.keys) hsupport ?_, ?_⟩
  · simp only [workLeft, searchFuel, ExtTreeSet.not_mem_empty, not_false_eq_true,
      Finset.filter_true, List.sum_toFinset _ ExtTreeMap.nodup_keys]
    omega
  · rw [failureDomainsOf, hfound, ← collectDomains_eq]

theorem mem_failureDomainsOf {key : MemberKey} {record : MemberRecord}
    (hfound : graph.members[key]? = some record) {domain : FailureDomainId} :
    domain ∈ graph.failureDomainsOf key ↔
      ReachedFrom graph.parentsOf record.failureDomains domain := by
  obtain ⟨result, hcollects, heq⟩ := failureDomainsOf_collects hfound
  rw [heq, ExtTreeSet.mem_toList, hcollects.mem_iff]

/-! Down from a domain. -/

theorem mem_keys_of_childrenOf {id child : FailureDomainId} (h : child ∈ graph.childrenOf id) :
    id ∈ graph.childrenByDomain.keys :=
  ExtTreeMap.mem_keys.mpr (mem_of_mem_entries (ExtTreeSet.mem_toList.mp h))

def startOf (graph : RackGraph) (id : FailureDomainId) : Spread FailureDomainId MemberKey where
  pending := [id]
  visited := ExtTreeSet.insert ∅ id
  gathered := (graph.membersOf id).foldl ExtTreeSet.insert ∅

theorem startOf_spreading (id : FailureDomainId) :
    Spreading graph.childrenOf graph.membersOf [id] (graph.startOf id) where
  started := by simp [startOf]
  expanded := by simp [startOf]
  waiting := by simp [startOf]
  sound node hnode := by
    have heq : id = node := by simpa [startOf] using hnode
    exact ⟨id, List.mem_singleton_self id, heq ▸ .refl⟩
  gathers member := by simp [startOf]

/-- The walk down ends, and its result is the answer. -/
theorem membersAffectedBy_spreads (id : FailureDomainId) :
    ∃ result, Spreads graph.childrenOf graph.membersOf (graph.startOf id) result ∧
      graph.membersAffectedBy id = result.gathered.toList := by
  let support := (graph.childrenByDomain.keys.flatMap graph.childrenOf).toFinset
  have hsupport : ∀ node, ∀ found ∈ graph.childrenOf node, found ∈ support := by
    intro node found hfound
    exact List.mem_toFinset.mpr
      (List.mem_flatMap.mpr ⟨node, mem_keys_of_childrenOf hfound, hfound⟩)
  refine ⟨_, spreads_spread (searchFuel graph.childrenOf graph.childrenByDomain.keys) hsupport ?_,
    rfl⟩
  have hcard : (support.filter fun node => node ∉ (graph.startOf id).visited).card ≤
      (graph.childrenByDomain.keys.flatMap graph.childrenOf).length :=
    (Finset.card_filter_le _ _).trans (List.toFinset_card_le _)
  rw [List.length_flatMap] at hcard
  simp only [roundsLeft, startOf, List.length_singleton, searchFuel] at hcard ⊢
  omega

theorem mem_membersAffectedBy {id : FailureDomainId} {key : MemberKey} :
    key ∈ graph.membersAffectedBy id ↔
      ∃ domain, ReflTransGen (Edge graph.childrenOf) id domain ∧ key ∈ graph.membersOf domain := by
  obtain ⟨result, hspreads, heq⟩ := @membersAffectedBy_spreads graph id
  rw [heq, ExtTreeSet.mem_toList, hspreads.mem_iff (startOf_spreading id)]
  simp only [ReachedFrom, List.mem_singleton, exists_eq_left]

/-! The indexes are the records read backwards. -/

theorem mem_childrenOf (hmirrored : graph.DomainChildrenMirrored) {parent child : FailureDomainId} :
    child ∈ graph.childrenOf parent ↔ parent ∈ graph.parentsOf child := by
  rw [childrenOf, ExtTreeSet.mem_toList, hmirrored.entries_iff]
  exact domainEdge_iff.symm

theorem mem_membersOf (hmirrored : graph.DomainMembersMirrored) {domain : FailureDomainId}
    {key : MemberKey} :
    key ∈ graph.membersOf domain ↔
      ∃ record, graph.members[key]? = some record ∧ domain ∈ record.failureDomains := by
  rw [membersOf, ExtTreeSet.mem_toList]
  exact hmirrored.entries_iff domain key

theorem path_childrenOf (hmirrored : graph.DomainChildrenMirrored) {above below : FailureDomainId} :
    ReflTransGen (Edge graph.childrenOf) above below ↔
      ReflTransGen (Edge graph.parentsOf) below above := by
  have hswap : Edge graph.childrenOf = Function.swap (Edge graph.parentsOf) := by
    funext parent child
    exact propext (mem_childrenOf hmirrored)
  rw [hswap, reflTransGen_swap]

theorem affected_iff_mem_domains (hchildren : graph.DomainChildrenMirrored)
    (hmembers : graph.DomainMembersMirrored) {key : MemberKey} (hmem : key ∈ graph.members)
    (domain : FailureDomainId) :
    key ∈ graph.membersAffectedBy domain ↔ domain ∈ graph.failureDomainsOf key := by
  obtain ⟨record, hfound⟩ :=
    Option.isSome_iff_exists.mp (ExtTreeMap.mem_iff_isSome_getElem?.mp hmem)
  rw [mem_membersAffectedBy, mem_failureDomainsOf hfound]
  constructor
  · rintro ⟨below, hpath, hbelow⟩
    obtain ⟨stored, hstored, hfiled⟩ := (mem_membersOf hmembers).mp hbelow
    obtain rfl := Option.some.inj (hfound.symm.trans hstored)
    exact ⟨below, hfiled, (path_childrenOf hchildren).mp hpath⟩
  · rintro ⟨below, hfiled, hpath⟩
    exact ⟨below, (path_childrenOf hchildren).mpr hpath,
      (mem_membersOf hmembers).mpr ⟨record, hfound, hfiled⟩⟩

theorem sorted_failureDomainsOf (key : MemberKey) : Sorted (graph.failureDomainsOf key) := by
  unfold failureDomainsOf
  split
  · exact List.Pairwise.nil
  · exact ExtTreeSet.ordered_toList

/-- The binary search of the one set for the domains of the other finds those of both. -/
theorem sharesFailureDomain_iff {left right : MemberKey} :
    graph.sharesFailureDomain left right = true ↔
      ∃ domain, domain ∈ graph.failureDomainsOf left ∧ domain ∈ graph.failureDomainsOf right := by
  unfold sharesFailureDomain
  dsimp only
  split
  · rename_i hempty
    simp [List.isEmpty_iff.mp hempty]
  · split
    · rename_i hempty
      simp [List.isEmpty_iff.mp hempty]
    · simp only [List.any_eq_true, binarySearch_iff (sorted_failureDomainsOf right)]

/-- Both walks have come to an end when they are read. -/
structure Terminates (graph : RackGraph) : Prop where
  up : ∀ (key : MemberKey) (record : MemberRecord), graph.members[key]? = some record →
    ∃ result, Worklist.Collects graph.parentsOf record.failureDomains ∅ result ∧
      graph.failureDomainsOf key = result.toList
  down : ∀ id : FailureDomainId,
    ∃ result, Spreads graph.childrenOf graph.membersOf (graph.startOf id) result ∧
      graph.membersAffectedBy id = result.gathered.toList

structure DomainQueriesAgree (graph : RackGraph) : Prop where
  affected : ∀ key ∈ graph.members, ∀ domain : FailureDomainId,
    key ∈ graph.membersAffectedBy domain ↔ domain ∈ graph.failureDomainsOf key
  shared : ∀ left right : MemberKey, graph.sharesFailureDomain left right = true ↔
    ∃ domain, domain ∈ graph.failureDomainsOf left ∧ domain ∈ graph.failureDomainsOf right
  terminates : graph.Terminates

/-- Whatever the graph of the domains is, the queries agree on a state whose indexes are
built from records that are stored under their own keys. -/
theorem domain_queries_agree (state : RackState) (hkeyed : state.DomainsKeyed)
    (hindexed : state.rebuildIndexes = state.toRackGraph) : state.DomainQueriesAgree where
  affected key hmem domain := by
    have hchildren : state.DomainChildrenMirrored := hindexed ▸ domainChildren_rebuilt hkeyed
    have hmembers : state.DomainMembersMirrored := hindexed ▸ domainMembers_rebuilt hkeyed
    exact affected_iff_mem_domains hchildren hmembers hmem domain
  shared _ _ := sharesFailureDomain_iff
  terminates :=
    ⟨fun _ _ hfound => failureDomainsOf_collects hfound, fun id => membersAffectedBy_spreads id⟩

theorem rebuildIndexes_idem (graph : RackGraph) :
    graph.rebuildIndexes.rebuildIndexes = graph.rebuildIndexes := by
  have hclear : graph.rebuildIndexes.clearIndexes = graph.clearIndexes := by
    simp only [clearIndexes, members_rebuildIndexes, relationships_rebuildIndexes,
      failureDomains_rebuildIndexes]
  have hmembers : graph.rebuildIndexes.withMembers = graph.withMembers := by
    unfold withMembers
    rw [members_rebuildIndexes, hclear]
  have hrelationships : graph.rebuildIndexes.withRelationships = graph.withRelationships := by
    unfold withRelationships
    rw [relationships_rebuildIndexes, hmembers]
  rw [rebuildIndexes_eq graph.rebuildIndexes, failureDomains_rebuildIndexes, hrelationships,
    ← rebuildIndexes_eq]

theorem DomainsKeyed.rebuilt (h : graph.DomainsKeyed) : graph.rebuildIndexes.DomainsKeyed where
  members hfound := h.members (by simpa using hfound)
  failureDomains hfound := h.failureDomains (by simpa using hfound)

end RackGraph

namespace Scenario

/-- A node in a row. The row and the room are each a parent of the other, and the room has
a parent that nobody has published. -/
def loopedGraph : RackGraph where
  members := ExtTreeMap.insert ∅ (node "n1")
    { key := node "n1", failureDomains := [.ofText (str "row")] }
  failureDomains :=
    (ExtTreeMap.insert ∅ (.ofText (str "row"))
      { id := .ofText (str "row"), parents := [.ofText (str "room")] }).insert
        (.ofText (str "room"))
        { id := .ofText (str "room"), parents := [.ofText (str "row"), .ofText (str "site")] }

theorem keyed_loopedGraph : loopedGraph.DomainsKeyed where
  members hfound := by
    rcases getElem?_insert_cases hfound with ⟨rfl, rfl⟩ | ⟨-, hnone⟩
    · rfl
    · simp at hnone
  failureDomains hfound := by
    rcases getElem?_insert_cases hfound with ⟨rfl, rfl⟩ | ⟨-, hrest⟩
    · rfl
    · rcases getElem?_insert_cases hrest with ⟨rfl, rfl⟩ | ⟨-, hnone⟩
      · rfl
      · simp at hnone

def loopedDomains : RackState :=
  { RackState.fresh defaults with toRackGraph := loopedGraph.rebuildIndexes }

/-- A node in a row, stored under the key of another node. -/
def misfiledGraph : RackGraph where
  members := ExtTreeMap.insert ∅ (node "n1")
    { key := node "n2", failureDomains := [.ofText (str "row")] }

def misfiledDomains : RackState :=
  { RackState.fresh defaults with toRackGraph := misfiledGraph.rebuildIndexes }

end Scenario

namespace RackGraph

theorem looped_domains_agree : Scenario.loopedDomains.DomainQueriesAgree :=
  domain_queries_agree Scenario.loopedDomains Scenario.keyed_loopedGraph.rebuilt
    (rebuildIndexes_idem Scenario.loopedGraph)

/-- The index names the record's own key, and the query about a member looks it up under
the key of the table. -/
theorem misfiled_member_disagrees :
    Scenario.misfiledDomains.rebuildIndexes = Scenario.misfiledDomains.toRackGraph ∧
      ¬ Scenario.misfiledDomains.DomainQueriesAgree := by
  refine ⟨rebuildIndexes_idem Scenario.misfiledGraph, fun h => ?_⟩
  have hmem : Scenario.node "n1" ∈ Scenario.misfiledDomains.members := by decide +kernel
  have hdomain : .ofText (str "row") ∈
      Scenario.misfiledDomains.failureDomainsOf (Scenario.node "n1") := by
    decide +kernel
  have haffected := (h.affected _ hmem _).mpr hdomain
  revert haffected
  decide +kernel

end RackGraph

end RackFabric
