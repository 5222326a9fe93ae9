import RackFabric.Properties.Domains
import RackFabric.Properties.Gate
import RackFabric.Properties.Restored

/-! The cycle checks refuse the edges that close a cycle and no others, on every state
that mutations and loads lead to, and they end on every graph. -/
namespace RackFabric
open Std SecondaryIndex Reachability Relation RackGraph RackState Tables

namespace RackGraph
variable {graph after : RackGraph} {child current : MemberKey}
  {visited : ExtTreeSet MemberKey} {verdict : Bool}

/-- The climb from a member, run without fuel, answers with the verdict. -/
inductive Climbs (graph : RackGraph) (child : MemberKey) :
    MemberKey → ExtTreeSet MemberKey → Bool → Prop
  | repeated {current : MemberKey} {visited : ExtTreeSet MemberKey}
      (hseen : current ∈ visited) : Climbs graph child current visited true
  | found {current : MemberKey} {visited : ExtTreeSet MemberKey}
      (hnew : current ∉ visited) (hchild : current = child) :
      Climbs graph child current visited true
  | top {current : MemberKey} {visited : ExtTreeSet MemberKey}
      (hnew : current ∉ visited) (hother : current ≠ child)
      (htop : graph.parentOf current = none) : Climbs graph child current visited false
  | up {current parent : MemberKey} {visited : ExtTreeSet MemberKey} {verdict : Bool}
      (hnew : current ∉ visited) (hother : current ≠ child)
      (hparent : graph.parentOf current = some parent)
      (hrest : Climbs graph child parent (visited.insert current) verdict) :
      Climbs graph child current visited verdict

/-- The climb visits members only, so its fuel lasts. -/
theorem climbs_chainMeets (fuel : Nat) (hvisited : ∀ key ∈ visited, key ∈ graph.members)
    (hfuel : graph.members.size < fuel + visited.size) :
    graph.Climbs child current visited (graph.chainMeets child fuel current visited) := by
  induction fuel generalizing current visited with
  | zero =>
    have hle := size_le_of_subset hvisited
    omega
  | succ fuel ih =>
    unfold chainMeets
    split
    · rename_i hseen
      exact .repeated (ExtTreeSet.contains_iff_mem.mp hseen)
    · rename_i hseen
      have hnew : current ∉ visited := fun hmem => hseen (ExtTreeSet.contains_iff_mem.mpr hmem)
      split
      · rename_i hchild
        exact .found hnew hchild
      · rename_i hother
        split
        · rename_i htop
          exact .top hnew hother htop
        · rename_i parent hparent
          refine .up hnew hother hparent (ih (fun key hkey => ?_) ?_)
          · rcases ExtTreeSet.mem_insert.mp hkey with heq | hold
            · rw [← LawfulEqCmp.compare_eq_iff_eq.mp heq]
              exact mem_of_parentOf hparent
            · exact hvisited key hold
          · rw [ExtTreeSet.size_insert, if_neg (by simpa using hnew)]
            omega

/-- Where no member is above itself the climb meets none twice. -/
theorem Climbs.reached (h : graph.Climbs child current visited verdict)
    (hacyclic : Acyclic graph.ParentEdge)
    (hbelow : ∀ key ∈ visited, TransGen graph.ParentEdge key current) (htrue : verdict = true) :
    ReflTransGen graph.ParentEdge current child := by
  induction h with
  | repeated hseen => exact absurd (hbelow _ hseen) (hacyclic _)
  | found _ hchild => exact hchild ▸ .refl
  | top _ _ _ => cases htrue
  | @up current parent visited verdict _ _ hparent _ ih =>
    have hedge : graph.ParentEdge current parent := hparent
    refine .head hedge (ih (fun key hkey => ?_) htrue)
    rcases ExtTreeSet.mem_insert.mp hkey with heq | hold
    · rw [← LawfulEqCmp.compare_eq_iff_eq.mp heq]
      exact .single hedge
    · exact (hbelow key hold).tail hedge

theorem climbs_containsCycle {parent : MemberKey} (h : parent ≠ child) :
    graph.Climbs child parent ∅ (graph.containsCycle parent child) := by
  rw [containsCycle, if_neg h]
  exact climbs_chainMeets _ (by simp) (by simp)

theorem containsCycle_iff (hacyclic : Acyclic graph.ParentEdge) {parent : MemberKey} :
    graph.containsCycle parent child = true ↔ ReflTransGen graph.ParentEdge parent child := by
  by_cases heq : parent = child
  · subst heq
    simp [containsCycle, ReflTransGen.refl]
  · constructor
    · exact (climbs_containsCycle heq).reached hacyclic (by simp)
    · intro hpath
      by_contra hno
      exact not_path_of_containsCycle (Bool.not_eq_true _ ▸ hno) hpath

structure ChecksEnd (graph : RackGraph) : Prop where
  members : ∀ parent child, parent ≠ child →
    graph.Climbs child parent ∅ (graph.containsCycle parent child)
  relationships : ∀ parent child, parent ≠ child →
    SearchesEager graph.containersOf child [parent] ∅
      (graph.relationshipContainsCycle parent child)
  domains : ∀ parent child, parent ≠ child →
    Searches graph.parentsOf child [parent] ∅ (graph.domainContainsCycle parent child)

theorem checksEnd (graph : RackGraph) : graph.ChecksEnd where
  members _ _ := climbs_containsCycle
  relationships parent child h := by
    rw [relationshipContainsCycle, if_neg h]
    exact searchesEager_searchEager _ _ _
      (fun node hne => List.mem_toFinset.mpr (mem_keys_of_containersOf node hne))
      (workLeft_le_searchFuel _ (by simp) ExtTreeMap.nodup_keys)
  domains parent child h := by
    rw [domainContainsCycle, if_neg h]
    exact searches_search _ _ _
      (fun node hne => List.mem_toFinset.mpr (mem_keys_of_parentsOf node hne))
      (workLeft_le_searchFuel _ (by simp) ExtTreeMap.nodup_keys)

/-- What the checks rest on: the relationship index is that of the relationships, and no
member is above itself. -/
structure Climbable (graph : RackGraph) : Prop extends Orderly graph where
  touching : graph.RelationshipsMirrored
  parents_acyclic : Acyclic graph.ParentEdge

theorem Climbable.empty : Climbable {} where
  toOrderly := .empty
  touching := WellFormed.empty.touching
  parents_acyclic := WellFormed.empty.parents_acyclic

theorem touching_storeMember (h : graph.RelationshipsMirrored) {key : MemberKey}
    {existing : Option MemberRecord} {record : MemberRecord} :
    (graph.storeMember key existing record).RelationshipsMirrored := by
  simpa [RelationshipsMirrored] using h

theorem touching_upkeep (h : graph.Orderly) (htouching : graph.RelationshipsMirrored)
    (hstep : graph.Upkeep after) : after.RelationshipsMirrored := by
  cases hstep with
  | store _ _ => exact touching_storeMember htouching
  | detach _ => exact touching_storeMember htouching
  | unlink key => exact relationshipsMirrored_drop htouching h.toKeyed
  | annotate _ hrelationships _ =>
    refine Mirrors.congr htouching (filed_map fun _ record => ?_) fun _ => Iff.rfl
    simp [RelationshipRecord.endpoints, hrelationships]

theorem touching_maintained (h : graph.Orderly) (htouching : graph.RelationshipsMirrored)
    (hsteps : ReflTransGen Upkeep graph after) : after.RelationshipsMirrored := by
  induction hsteps with
  | refl => exact htouching
  | tail hbefore hstep ih => exact touching_upkeep (h.maintained hbefore) ih hstep

/-- A record that stays under its parent brings no parent edge. -/
theorem parentEdge_kept {key child parent : MemberKey} {existing record : MemberRecord}
    {stored : Option MemberRecord} (hfound : graph.members[key]? = some existing)
    (hparent : record.parent = existing.parent)
    (hedge : (graph.storeMember key stored record).ParentEdge child parent) :
    graph.ParentEdge child parent := by
  rcases parentEdge_storeMember.mp hedge with ⟨rfl, hnew⟩ | ⟨-, hold⟩
  · exact parentEdge_iff.mpr ⟨existing, hfound, hparent ▸ hnew⟩
  · exact hold

section Effect
variable {options : RackFabricOptions} {state : RackState} {mutation : Mutation}

theorem touching_effect (h : state.Orderly) (htouching : state.RelationshipsMirrored)
    (heffect : GraphEffect options state mutation after) : after.RelationshipsMirrored := by
  cases heffect with
  | maintained _ hsteps => exact touching_maintained h htouching hsteps
  | enrolled _ _ => exact touching_storeMember htouching
  | linked _ _ => exact relationshipsMirrored_store htouching h.toKeyed
  | filed _ _ => simpa [RelationshipsMirrored] using htouching
  | observed _ _ => exact touching_storeMember htouching
  | withdrawn _ _ => exact touching_storeMember htouching
  | @retired request _ record _ _ =>
    rw [retireInGraph_eq]
    exact touching_storeMember
      (touching_maintained h htouching (maintained_trimmed _ request.member))

/-- A publication alone brings a parent edge, and only one that the check lets pass. -/
theorem parents_acyclic_effect (h : state.Orderly) (hacyclic : Acyclic state.ParentEdge)
    (heffect : GraphEffect options state mutation after) : Acyclic after.ParentEdge := by
  cases heffect with
  | maintained _ hsteps =>
    exact hacyclic.mono fun _ _ => (traced_of_maintained hsteps).parentEdge
  | @enrolled request publisher record _ hadmitted =>
    refine hacyclic.redirect record.key fun child parent hedge => ?_
    rcases parentEdge_storeMember.mp hedge with ⟨rfl, hparent⟩ | ⟨-, hold⟩
    · obtain ⟨-, -, hcycle⟩ := (memberAdmission hadmitted).parent_checked hparent
      exact Or.inr ⟨rfl, not_path_of_containsCycle hcycle⟩
    · exact Or.inl hold
  | linked _ _ =>
    refine hacyclic.mono fun child parent hedge => ?_
    simpa [parentEdge_iff] using hedge
  | filed _ _ =>
    refine hacyclic.mono fun child parent hedge => ?_
    simpa [parentEdge_iff] using hedge
  | observed _ hadmitted =>
    have hrevision := revision_of_health h.toKeyed hadmitted
    rw [hrevision.key]
    exact hacyclic.mono fun _ _ => parentEdge_kept hrevision.found hrevision.parent
  | withdrawn _ hadmitted =>
    have hrevision := revision_of_withdrawal h.toKeyed hadmitted
    rw [hrevision.key]
    exact hacyclic.mono fun _ _ => parentEdge_kept hrevision.found hrevision.parent
  | @retired request _ record _ hadmitted =>
    obtain ⟨existing, hfound, -, -, hrecord⟩ := admitRetirement_ok hadmitted
    have hkey : record.key = request.member := by
      rw [hrecord]
      exact (h.members hfound : existing.key = request.member)
    have hparent : record.parent = existing.parent := by
      rw [hrecord]
      rfl
    rw [retireInGraph_eq, hkey]
    refine hacyclic.mono fun child parent hedge => ?_
    rcases parentEdge_storeMember.mp hedge with ⟨rfl, hnew⟩ | ⟨-, hold⟩
    · exact parentEdge_iff.mpr ⟨existing, hfound, hparent ▸ hnew⟩
    · exact (traced_of_maintained (maintained_trimmed _ request.member)).parentEdge hold

theorem Climbable.effect (h : state.Climbable)
    (heffect : GraphEffect options state mutation after) : after.Climbable where
  toOrderly := h.toOrderly.effect heffect
  touching := touching_effect h.toOrderly h.touching heffect
  parents_acyclic := parents_acyclic_effect h.toOrderly h.parents_acyclic heffect

end Effect

structure ChecksDecide (graph : RackGraph) : Prop where
  members : DecidesCycle graph.containsCycle graph.ParentEdge
  relationships : DecidesCycle graph.relationshipContainsCycle graph.ContainsEdge
  domains : DecidesCycle graph.domainContainsCycle graph.DomainEdge

theorem Climbable.checksDecide (h : graph.Climbable) : graph.ChecksDecide where
  members := .of_path fun _ _ => containsCycle_iff h.parents_acyclic
  relationships := .of_path fun _ _ => relationshipContainsCycle_iff h.toKeyed h.touching
  domains := .of_path fun _ _ => domainContainsCycle_iff

end RackGraph

/-! What passes the gate of a load has no member above itself. -/

theorem parents_acyclic_of_gate {state : RackState} {now : Timestamp}
    (h : (state.checkInvariants now).ok = true) : Acyclic state.ParentEdge := by
  have hnone : state.containmentViolations = [] := by
    simp only [InvariantReport.ok, checkInvariants, List.isEmpty_iff, List.append_eq_nil_iff] at h
    simp only [h]
  intro member hcycle
  have hedges : (Edge fun key => (state.parentOf key).toList) = state.ParentEdge := by
    funext child parent
    simp [Edge, ParentEdge]
  have hknown : ∀ key, (state.parentOf key).toList ≠ [] → key ∈ state.members.keys := by
    intro key hparent
    cases hfound : state.parentOf key with
    | none => simp [hfound] at hparent
    | some parent => exact ExtTreeMap.mem_keys.mpr (mem_of_parentOf hfound)
  have hwalk : TransGen (Edge fun key => (state.parentOf key).toList) member member ∨
      Joins (fun key => (state.parentOf key).toList) member := by
    rw [hedges]
    exact Or.inl hcycle
  have hrepeats := (repeatsFrom_iff ExtTreeMap.nodup_keys hknown).mpr hwalk
  have hmember := hknown member (ne_nil_of_repeats hwalk)
  have hquiet := List.flatMap_eq_nil_iff.mp hnone member hmember
  simp [violationIf, hrepeats] at hquiet

theorem parentEdge_recovered {candidate : RackState} {epoch : CoordinatorEpoch}
    {child parent : MemberKey}
    (h : (applyRecoveryPolicy candidate epoch).ParentEdge child parent) :
    candidate.ParentEdge child parent := by
  obtain ⟨record, hfound, hparent⟩ := parentEdge_iff.mp h
  obtain ⟨old, hold, hrecovered⟩ := getElem?_map_cases
    (show (candidate.members.map fun _ => recoverMember)[child]? = some record by
      simpa [applyRecoveryPolicy] using hfound)
  refine parentEdge_iff.mpr ⟨old, hold, ?_⟩
  rw [← hparent, ← hrecovered]
  unfold recoverMember
  split <;> rfl

theorem climbable_loaded {options : RackFabricOptions} {now : Timestamp} {file : Option Bytes}
    {readable : Bool} {loaded : RackState}
    (h : loadState options now file readable = .ok loaded) : loaded.Climbable := by
  have horderly := orderly_loaded h
  obtain ⟨candidate, epoch, -, hgate, -, rfl⟩ := loadState_ok h
  exact
    { toOrderly := horderly
      touching := by
        have hindexed := relationships_rebuilt horderly.toKeyed
        simp only [applyRecoveryPolicy, rebuildIndexes_idem] at hindexed
        exact hindexed
      parents_acyclic :=
        (parents_acyclic_of_gate hgate).mono fun _ _ => parentEdge_recovered }

namespace Deployment

theorem climbable_step (deployment : Deployment) (operation : Operation)
    (h : deployment.live.Climbable) : (step deployment operation).live.Climbable := by
  cases operation with
  | restart options => exact Climbable.empty
  | mutate input => exact h.effect (step_effect h.toKeyed input)
  | save options outcome =>
    simp only [step]
    split <;> exact h
  | load now readable =>
    simp only [step]
    split
    · exact h
    · rename_i hloaded
      exact climbable_loaded hloaded

/-- Whatever the file holds, whatever is published, saved and loaded: in every state the
three checks say yes exactly for an edge that closes a cycle, and they end on all graphs. -/
theorem cycle_checks_exact (file : Option Bytes) (options : RackFabricOptions)
    (operations : List Operation) :
    (after file options operations).live.ChecksDecide ∧ ∀ graph : RackGraph, graph.ChecksEnd := by
  have hclimbable : (after file options operations).live.Climbable :=
    Execution.invariant step climbable_step (by exact Climbable.empty) operations
  exact ⟨hclimbable.checksDecide, checksEnd⟩

end Deployment

end RackFabric
