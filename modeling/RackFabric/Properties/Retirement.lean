import RackFabric.Properties.Upkeep

/-! What the retirement of a member does to the rest of the graph. -/
namespace RackFabric
open Std SecondaryIndex Reachability Relation

namespace RackGraph
open RackState

variable {graph : RackGraph}

/-! The relationships of the member are dropped. -/

theorem maintained_unlink (keys : List RelationshipKey) (graph : RackGraph) :
    ReflTransGen Upkeep graph (keys.foldl dropRelationship graph) := by
  induction keys generalizing graph with
  | nil => exact .refl
  | cons key keys ih => exact .head (.unlink key) (ih _)

@[simp] theorem members_unlink (keys : List RelationshipKey) (graph : RackGraph) :
    (keys.foldl dropRelationship graph).members = graph.members := by
  induction keys generalizing graph with
  | nil => rfl
  | cons key keys ih => rw [List.foldl_cons, ih, members_dropRelationship]

@[simp] theorem failureDomains_unlink (keys : List RelationshipKey) (graph : RackGraph) :
    (keys.foldl dropRelationship graph).failureDomains = graph.failureDomains := by
  induction keys generalizing graph with
  | nil => rfl
  | cons key keys ih => rw [List.foldl_cons, ih, failureDomains_dropRelationship]

theorem relationships_unlink (keys : List RelationshipKey) (graph : RackGraph)
    (key : RelationshipKey) :
    (keys.foldl dropRelationship graph).relationships[key]? =
      if key ∈ keys then none else graph.relationships[key]? := by
  induction keys generalizing graph with
  | nil => simp
  | cons first keys ih =>
    rw [List.foldl_cons, ih, relationships_dropRelationship, ExtTreeMap.getElem?_erase]
    by_cases hkey : first = key
    · simp [hkey]
    · simp [hkey, Ne.symm hkey]

theorem mem_touching (h : graph.WellFormed) {member : MemberKey} {key : RelationshipKey} :
    key ∈ touching graph member ↔
      key ∈ graph.relationships ∧ (key.source = member ∨ key.target = member) := by
  unfold touching
  rw [ExtTreeSet.mem_toList, h.touching.entries_iff]
  unfold Filed
  rw [ExtTreeMap.mem_iff_isSome_getElem?]
  constructor
  · rintro ⟨record, hfound, hend⟩
    have hkey := h.relationships hfound
    simp only [RelationshipRecord.endpoints, hkey, List.mem_cons, List.not_mem_nil, or_false]
      at hend
    exact ⟨by simp [hfound], hend.imp Eq.symm Eq.symm⟩
  · rintro ⟨hmem, hend⟩
    obtain ⟨record, hfound⟩ := Option.isSome_iff_exists.mp hmem
    have hkey := h.relationships hfound
    refine ⟨record, hfound, ?_⟩
    simp only [RelationshipRecord.endpoints, hkey, List.mem_cons, List.not_mem_nil, or_false]
    exact hend.imp Eq.symm Eq.symm

/-! The children of the member are detached. -/

def detached (parent : MemberKey) (record : MemberRecord) : MemberRecord :=
  if record.parent = some parent then { record with parent := none } else record

theorem detached_of_child {parent : MemberKey} {record : MemberRecord}
    (h : record.parent = some parent) : detached parent record = { record with parent := none } :=
  if_pos h

theorem detached_of_other {parent : MemberKey} {record : MemberRecord}
    (h : record.parent ≠ some parent) : detached parent record = record :=
  if_neg h

theorem parent_detached (parent : MemberKey) (record : MemberRecord) :
    (detached parent record).parent ≠ some parent := by
  unfold detached
  split
  · simp
  · assumption

section Fold
variable {parent : MemberKey} {entry : MemberKey × MemberRecord}

theorem maintained_detachChild (hfound : graph.members[entry.1]? = some entry.2) :
    ReflTransGen Upkeep graph (detachChild parent graph entry) := by
  unfold detachChild
  split
  · exact .single (.detach hfound)
  · exact .refl

theorem members_detachChild (hfound : graph.members[entry.1]? = some entry.2) (key : MemberKey) :
    (detachChild parent graph entry).members[key]? =
      if key = entry.1 then some (detached parent entry.2) else graph.members[key]? := by
  unfold detachChild detached
  by_cases hkey : entry.1 = key
  · subst hkey
    split <;> simp [hfound]
  · split <;> simp [ExtTreeMap.getElem?_insert, hkey, Ne.symm hkey]

@[simp] theorem relationships_detachChild :
    (detachChild parent graph entry).relationships = graph.relationships := by
  unfold detachChild
  split <;> simp

@[simp] theorem failureDomains_detachChild :
    (detachChild parent graph entry).failureDomains = graph.failureDomains := by
  unfold detachChild
  split <;> simp

variable {entries : List (MemberKey × MemberRecord)}

theorem relationships_detachAll (graph : RackGraph) :
    (entries.foldl (detachChild parent) graph).relationships = graph.relationships := by
  induction entries generalizing graph with
  | nil => rfl
  | cons entry entries ih => rw [List.foldl_cons, ih, relationships_detachChild]

theorem failureDomains_detachAll (graph : RackGraph) :
    (entries.foldl (detachChild parent) graph).failureDomains = graph.failureDomains := by
  induction entries generalizing graph with
  | nil => rfl
  | cons entry entries ih => rw [List.foldl_cons, ih, failureDomains_detachChild]

/-- Each entry is still as it was listed when its turn comes. -/
theorem members_detachAll (parent : MemberKey) (hnodup : (entries.map Prod.fst).Nodup)
    (hfound : ∀ entry ∈ entries, graph.members[entry.1]? = some entry.2) :
    ReflTransGen Upkeep graph (entries.foldl (detachChild parent) graph) ∧
      ∀ key, (entries.foldl (detachChild parent) graph).members[key]? =
        if key ∈ entries.map Prod.fst then graph.members[key]?.map (detached parent)
        else graph.members[key]? := by
  induction entries generalizing graph with
  | nil => simp [ReflTransGen.refl]
  | cons entry entries ih =>
    obtain ⟨hfirst, hrest⟩ := List.forall_mem_cons.mp hfound
    obtain ⟨hnot, hnodup⟩ := List.nodup_cons.mp hnodup
    have hother : ∀ other ∈ entries,
        (detachChild parent graph entry).members[other.1]? = some other.2 := by
      intro other hother
      have hne : other.1 ≠ entry.1 := fun heq => hnot (heq ▸ List.mem_map_of_mem hother)
      rw [members_detachChild hfirst, if_neg hne]
      exact hrest other hother
    obtain ⟨hsteps, hmembers⟩ := ih hnodup hother
    refine ⟨(maintained_detachChild hfirst).trans hsteps, fun key => ?_⟩
    rw [List.foldl_cons, hmembers, members_detachChild hfirst]
    by_cases hkey : key = entry.1
    · subst hkey
      simp [hnot, hfirst]
    · simp only [hkey, List.map_cons, List.mem_cons, false_or, if_false]

end Fold

theorem nodup_entries (graph : RackGraph) : (graph.members.toList.map Prod.fst).Nodup := by
  rw [ExtTreeMap.map_fst_toList_eq_keys]
  exact ExtTreeMap.nodup_keys

theorem maintained_detachChildren (graph : RackGraph) (parent : MemberKey) :
    ReflTransGen Upkeep graph (detachChildren graph parent) :=
  (members_detachAll parent (nodup_entries graph) fun _ =>
    ExtTreeMap.mem_toList_iff_getElem?_eq_some.mp).1

theorem members_detachChildren (graph : RackGraph) (parent key : MemberKey) :
    (detachChildren graph parent).members[key]? =
      graph.members[key]?.map (detached parent) := by
  have h := (members_detachAll parent (nodup_entries graph) fun _ =>
    ExtTreeMap.mem_toList_iff_getElem?_eq_some.mp).2 key
  unfold detachChildren
  rw [h]
  split
  · rfl
  · rename_i hnot
    rw [ExtTreeMap.map_fst_toList_eq_keys, ExtTreeMap.mem_keys] at hnot
    simp [ExtTreeMap.getElem?_eq_none hnot]

/-! The graph right before the record of the retired member is stored. -/

def trimmed (graph : RackGraph) (member : MemberKey) : RackGraph :=
  detachChildren ((touching graph member).foldl dropRelationship graph) member

theorem retireInGraph_eq (graph : RackGraph) (member : MemberKey) (record : MemberRecord) :
    retireInGraph graph member record =
      (graph.trimmed member).storeMember record.key (graph.trimmed member).members[member]?
        record :=
  rfl

theorem maintained_trimmed (graph : RackGraph) (member : MemberKey) :
    ReflTransGen Upkeep graph (graph.trimmed member) :=
  (maintained_unlink _ graph).trans (maintained_detachChildren _ member)

theorem members_trimmed (graph : RackGraph) (member key : MemberKey) :
    (graph.trimmed member).members[key]? = graph.members[key]?.map (detached member) := by
  unfold trimmed
  rw [members_detachChildren, members_unlink]

theorem relationships_trimmed (graph : RackGraph) (member : MemberKey) (key : RelationshipKey) :
    (graph.trimmed member).relationships[key]? =
      if key ∈ touching graph member then none else graph.relationships[key]? := by
  unfold trimmed detachChildren
  rw [relationships_detachAll, relationships_unlink]

@[simp] theorem failureDomains_trimmed (graph : RackGraph) (member : MemberKey) :
    (graph.trimmed member).failureDomains = graph.failureDomains := by
  unfold trimmed detachChildren
  rw [failureDomains_detachAll, failureDomains_unlink]

end RackGraph

end RackFabric
