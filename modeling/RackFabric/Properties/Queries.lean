import RackFabric.Model.Queries
import RackFabric.Properties.Domains
import RackFabric.Properties.Lineage

/-! What is looked up in an index is what a scan of the table finds. -/
namespace RackFabric
open Std SecondaryIndex Reachability Relation Worklist Tables

namespace RackGraph
variable {graph : RackGraph}

theorem mem_childMembersOf (h : graph.WellFormed) {parent child : MemberKey} :
    child ∈ graph.childMembersOf parent ↔ graph.ParentEdge child parent := by
  rw [childMembersOf, ExtTreeSet.mem_toList, parentEdge_iff]
  refine (h.children.entries_iff parent child).trans ?_
  simp [Filed, byParent, MemberRecord.parentKeys]

theorem path_childMembersOf (h : graph.WellFormed) {above below : MemberKey} :
    ReflTransGen (Edge graph.childMembersOf) above below ↔
      ReflTransGen graph.ParentEdge below above := by
  have hswap : Edge graph.childMembersOf = Function.swap graph.ParentEdge := by
    funext parent child
    exact propext (mem_childMembersOf h)
  rw [hswap, reflTransGen_swap]

/-- The walk down from a member, where the member itself would yield nothing. -/
def walkFrom (parent : MemberKey) : Spread MemberKey MemberKey where
  pending := [parent]
  visited := ExtTreeSet.insert ∅ parent
  gathered := ∅

def yieldBelow (parent child : MemberKey) : List MemberKey :=
  if child = parent then [] else [child]

theorem walkFrom_spreading (parent : MemberKey) :
    Spreading graph.childMembersOf (yieldBelow parent) [parent] (walkFrom parent) where
  started := by simp [walkFrom]
  expanded := by simp [walkFrom]
  waiting := by simp [walkFrom]
  sound node hnode := by
    have heq : parent = node := by simpa [walkFrom] using hnode
    exact ⟨parent, List.mem_singleton_self parent, heq ▸ .refl⟩
  gathers child := by simp [walkFrom, yieldBelow]

/-- The walk down ends, and its result is the answer. -/
theorem descendants_spreads (parent : MemberKey) :
    ∃ result, Spreads graph.childMembersOf (yieldBelow parent) (walkFrom parent) result ∧
      graph.descendants parent = result.gathered.toList := by
  let support := (graph.childrenByParent.keys.flatMap graph.childMembersOf).toFinset
  have hsupport : ∀ node, ∀ found ∈ graph.childMembersOf node, found ∈ support := by
    intro node found hfound
    have hkey : node ∈ graph.childrenByParent.keys :=
      ExtTreeMap.mem_keys.mpr (mem_of_mem_entries (ExtTreeSet.mem_toList.mp hfound))
    exact List.mem_toFinset.mpr (List.mem_flatMap.mpr ⟨node, hkey, hfound⟩)
  have hcard : (support.filter fun node => node ∉ (walkFrom parent).visited).card ≤
      (graph.childrenByParent.keys.flatMap graph.childMembersOf).length :=
    (Finset.card_filter_le _ _).trans (List.toFinset_card_le _)
  rw [List.length_flatMap] at hcard
  refine ⟨_, spreads_spread (searchFuel graph.childMembersOf graph.childrenByParent.keys) hsupport
    ?_, ?_⟩
  · simp only [roundsLeft, walkFrom, List.length_singleton, searchFuel] at hcard ⊢
    omega
  · have hyield : ∀ node ∉ (walkFrom parent).visited, [node] = yieldBelow parent node := by
      intro node hnode
      have hne : ¬ parent = node := by simpa [walkFrom] using hnode
      simp [yieldBelow, Ne.symm hne]
    rw [← spread_congr _ hyield]
    rfl

/-- The descendants of a member are those that lead up to it, in order. -/
theorem mem_descendants (h : graph.WellFormed) {parent member : MemberKey} :
    member ∈ graph.descendants parent ↔ TransGen graph.ParentEdge member parent := by
  obtain ⟨result, hspreads, heq⟩ := @descendants_spreads graph parent
  rw [heq, ExtTreeSet.mem_toList, hspreads.mem_iff (walkFrom_spreading parent)]
  constructor
  · rintro ⟨node, ⟨source, hsource, hpath⟩, hyield⟩
    obtain rfl := List.mem_singleton.mp hsource
    unfold yieldBelow at hyield
    split at hyield
    · cases hyield
    · rename_i hne
      obtain rfl := List.mem_singleton.mp hyield
      rcases ((path_childMembersOf h).mp hpath).cases_head with heq | ⟨above, hedge, hrest⟩
      · exact absurd heq hne
      · exact .head' hedge hrest
  · intro hpath
    have hne : member ≠ parent := by
      rintro rfl
      exact h.parents_acyclic member hpath
    refine ⟨member, ⟨parent, List.mem_singleton_self parent, ?_⟩, by simp [yieldBelow, hne]⟩
    exact (path_childMembersOf h).mpr hpath.to_reflTransGen

theorem ordered_descendants (parent : MemberKey) :
    (graph.descendants parent).Pairwise fun left right => compare left right = .lt :=
  ExtTreeSet.ordered_toList

end RackGraph

namespace RackState
variable {state : RackState}

theorem membersOfKind_eq (h : state.WellFormed) (kind : MemberKind) :
    state.membersOfKind (some kind) =
      state.memberRecords.filter fun record => record.key.kind = kind := by
  have hscan := h.kinds.lookup_eq_scan kind
  refine hscan.trans ?_
  apply List.filter_congr
  intro record _
  simp [RackGraph.byKind, MemberRecord.kindKeys, eq_comm]

theorem relationshipsTouching_eq (h : state.WellFormed) (key : MemberKey) :
    state.relationshipsTouching key = state.relationshipRecords.filter fun record =>
      record.key.source = key ∨ record.key.target = key := by
  have hscan := h.touching.lookup_eq_scan key
  refine hscan.trans ?_
  apply List.filter_congr
  intro record _
  simp [RelationshipRecord.endpoints, eq_comm]

theorem findRelationship_iff (h : state.WellFormed) {key : RelationshipKey}
    {record : RelationshipRecord} :
    state.findRelationship key = some record ↔
      record ∈ state.relationshipRecords ∧ record.key = key.canonical := by
  unfold findRelationship relationshipRecords
  constructor
  · intro hfound
    have hentry := ExtTreeMap.mem_toList_iff_getElem?_eq_some.mpr hfound
    exact ⟨List.mem_map_of_mem hentry, h.relationships hfound⟩
  · rintro ⟨hmem, hkey⟩
    obtain ⟨⟨stored, _⟩, hentry, rfl⟩ := List.mem_map.mp hmem
    have hfound := ExtTreeMap.mem_toList_iff_getElem?_eq_some.mp hentry
    have hstored : _ = stored := h.relationships hfound
    rw [← hkey, hstored]
    exact hfound

structure AnswersByRecords (state : RackState) : Prop where
  members : ∀ kind : MemberKind, state.membersOfKind (some kind) =
    (state.membersOfKind none).filter fun record => record.key.kind = kind
  touching : ∀ key : MemberKey, state.relationshipsTouching key =
    state.relationshipRecords.filter fun record =>
      record.key.source = key ∨ record.key.target = key
  relationship : ∀ (key : RelationshipKey) (record : RelationshipRecord),
    state.findRelationship key = some record ↔
      record ∈ state.relationshipRecords ∧ record.key = key.canonical
  descendants : ∀ parent member : MemberKey,
    member ∈ state.descendants parent ↔ TransGen state.ParentEdge member parent
  ordered : ∀ parent : MemberKey, (state.descendants parent).Pairwise fun left right =>
    compare left right = .lt

theorem answersByRecords (h : state.WellFormed) : state.AnswersByRecords where
  members := membersOfKind_eq h
  touching := relationshipsTouching_eq h
  relationship _ _ := findRelationship_iff h
  descendants _ _ := RackGraph.mem_descendants h
  ordered := RackGraph.ordered_descendants

end RackState

namespace Deployment
open RackState
variable (options : RackFabricOptions) (operations : List Operation)

/-- Whatever incarnations that share a file have done, looking up is scanning. -/
theorem queries_scan
    (hproper : Execution.EachStep step (Proper options) (start none options) operations) :
    (after none options operations).live.AnswersByRecords :=
  answersByRecords (lineage_after options operations hproper).live.wellFormed

theorem takenOver_scan : (after none Scenario.defaults takenOver).live.AnswersByRecords :=
  queries_scan Scenario.defaults takenOver takenOver_proper

end Deployment

end RackFabric
