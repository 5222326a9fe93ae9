import Mathlib.Algebra.BigOperators.Group.Finset.Basic
import Mathlib.Algebra.Ring.Nat
import Mathlib.Logic.Relation
import Mathlib.Tactic.Common

/-! Acyclic relations, and the worklist search that decides reachability in a
finite graph given by its successor lists. -/
namespace Reachability
open Relation Std

variable {α : Type}

def Acyclic (edge : α → α → Prop) : Prop :=
  ∀ node, ¬ TransGen edge node node

theorem Acyclic.mono {edge edge' : α → α → Prop} (h : Acyclic edge)
    (hsub : ∀ source target, edge' source target → edge source target) : Acyclic edge' :=
  fun node hcycle => h node (TransGen.mono hsub _ _ hcycle)

theorem Acyclic.irrefl {edge : α → α → Prop} (h : Acyclic edge) (node : α) :
    ¬ edge node node :=
  fun hedge => h node (.single hedge)

/-- A path from a node that cannot come back to `pivot` uses no edge out of it. -/
theorem reflTransGen_of_redirect {edge edge' : α → α → Prop} {pivot node target : α}
    (hsub : ∀ source target, edge' source target → edge source target ∨ source = pivot)
    (hsafe : ¬ ReflTransGen edge node pivot) (h : ReflTransGen edge' node target) :
    ReflTransGen edge node target := by
  induction h with
  | refl => exact .refl
  | tail _ hlast ih =>
    rcases hsub _ _ hlast with hold | rfl
    · exact ih.tail hold
    · exact absurd ih hsafe

/-- Redirecting the edges out of one node keeps the relation acyclic when none
of the new targets leads back to that node. -/
theorem Acyclic.redirect {edge edge' : α → α → Prop} (h : Acyclic edge) (pivot : α)
    (hsub : ∀ source target, edge' source target →
      edge source target ∨ (source = pivot ∧ ¬ ReflTransGen edge target pivot)) :
    Acyclic edge' := by
  have hweak : ∀ source target, edge' source target → edge source target ∨ source = pivot :=
    fun source target hedge => (hsub source target hedge).imp_right And.left
  have hsplit : ∀ {source target}, TransGen edge' source target →
      TransGen edge source target ∨
        ∃ fresh, ReflTransGen edge' source pivot ∧ ¬ ReflTransGen edge fresh pivot ∧
          ReflTransGen edge' fresh target := by
    intro source target hpath
    induction hpath with
    | single hedge =>
      rcases hsub _ _ hedge with hold | ⟨rfl, hfresh⟩
      · exact Or.inl (.single hold)
      · exact Or.inr ⟨_, .refl, hfresh, .refl⟩
    | tail hpath hedge ih =>
      rcases hsub _ _ hedge with hold | ⟨rfl, hfresh⟩
      · rcases ih with hall | ⟨fresh, hto, hnot, hrest⟩
        · exact Or.inl (hall.tail hold)
        · exact Or.inr ⟨fresh, hto, hnot, hrest.tail hedge⟩
      · exact Or.inr ⟨_, hpath.to_reflTransGen, hfresh, .refl⟩
  intro node hcycle
  rcases hsplit hcycle with hall | ⟨fresh, hto, hnot, hrest⟩
  · exact h node hall
  · exact hnot (reflTransGen_of_redirect hweak hnot (hrest.trans hto))

/-- A path to a node needs no edge out of that node. -/
theorem path_before {edge edge' : α → α → Prop} {pivot node : α}
    (hkeep : ∀ source target, source ≠ pivot → edge source target → edge' source target)
    (hpath : ReflTransGen edge node pivot) : ReflTransGen edge' node pivot := by
  induction hpath using ReflTransGen.head_induction_on with
  | refl => exact .refl
  | @head source middle hedge _ ih =>
    by_cases h : source = pivot
    · exact h ▸ .refl
    · exact ih.head (hkeep _ _ h hedge)

/-- So an edge out of it closes a cycle when its target leads back. -/
theorem not_acyclic_of_path {edge edge' : α → α → Prop} {pivot fresh : α}
    (hkeep : ∀ source target, source ≠ pivot → edge source target → edge' source target)
    (hedge : edge' pivot fresh) (hpath : ReflTransGen edge fresh pivot) : ¬ Acyclic edge' :=
  fun h => h pivot (.head' hedge (path_before hkeep hpath))

/-! The search expands the nodes of a queue until it meets the target.  Fuel
bounds the number of nodes it takes off the queue. -/
section Search
variable [Ord α] [TransOrd α] (next : α → List α) (target : α)

/-- Every expanded node has its successors expanded or waiting. -/
def Closed (pending : List α) (visited : ExtTreeSet α) : Prop :=
  ∀ node ∈ visited, node ≠ target ∧ ∀ found ∈ next node, found ∈ visited ∨ found ∈ pending

theorem closed_empty (pending : List α) : Closed next target pending ∅ := by
  intro node h
  simp at h

/-- The nodes still to be taken off the queue, counting those that nodes not yet
expanded can add. -/
def workLeft (support : Finset α) (pending : List α) (visited : ExtTreeSet α) : Nat :=
  pending.length + ∑ node ∈ support with node ∉ visited, (next node).length

theorem workLeft_cons {support : Finset α} {fuel : Nat} {current : α} {pending : List α}
    {visited : ExtTreeSet α}
    (h : workLeft next support (current :: pending) visited ≤ fuel + 1) :
    workLeft next support pending visited ≤ fuel := by
  simp only [workLeft, List.length_cons] at h ⊢
  omega

variable [DecidableEq α]

/-- Running out of fuel counts as having met the target. -/
def search : Nat → List α → ExtTreeSet α → Bool
  | _, [], _ => false
  | 0, _ :: _, _ => true
  | fuel + 1, current :: pending, visited =>
      if visited.contains current then search fuel pending visited
      else if current = target then true
      else search fuel (pending ++ next current) (visited.insert current)

/-- The same search, which looks for the target before it looks for a repeat. -/
def searchEager : Nat → List α → ExtTreeSet α → Bool
  | _, [], _ => false
  | 0, _ :: _, _ => true
  | fuel + 1, current :: pending, visited =>
      if current = target then true
      else if visited.contains current then searchEager fuel pending visited
      else searchEager fuel (pending ++ next current) (visited.insert current)

/-- Fuel for one visit of every edge out of the listed nodes. -/
def searchFuel (nodes : List α) : Nat :=
  1 + (nodes.map fun node => (next node).length).sum

theorem workLeft_le_searchFuel {nodes pending : List α} (hpending : pending.length ≤ 1)
    (hnodup : nodes.Nodup) : workLeft next nodes.toFinset pending ∅ ≤ searchFuel next nodes := by
  rw [searchFuel, ← List.sum_toFinset _ hnodup]
  simpa [workLeft] using hpending

variable [LawfulEqOrd α]

theorem searchEager_eq_search (fuel : Nat) (pending : List α) {visited : ExtTreeSet α}
    (h : target ∉ visited) :
    searchEager next target fuel pending visited = search next target fuel pending visited := by
  induction fuel generalizing pending visited with
  | zero => cases pending <;> rfl
  | succ fuel ih =>
    cases pending with
    | nil => rfl
    | cons current pending =>
      simp only [searchEager, search]
      by_cases htarget : current = target
      · subst htarget
        simp [h]
      · simp only [htarget, ↓reduceIte]
        split
        · exact ih pending h
        · apply ih
          rw [ExtTreeSet.mem_insert, LawfulEqCmp.compare_eq_iff_eq]
          rintro (heq | hmem)
          · exact htarget heq
          · exact h hmem

theorem target_unreachable_of_search (fuel : Nat) {pending : List α} {visited : ExtTreeSet α}
    (hclosed : Closed next target pending visited)
    (h : search next target fuel pending visited = false) {source : α}
    (hsource : source ∈ visited ∨ source ∈ pending) :
    ¬ ReflTransGen (fun node found => found ∈ next node) source target := by
  induction fuel generalizing pending visited with
  | zero =>
    cases pending with
    | cons current pending => simp [search] at h
    | nil =>
      intro hpath
      have hstay : ∀ {node}, ReflTransGen (fun node found => found ∈ next node) source node →
          node ∈ visited := by
        intro node hnode
        induction hnode with
        | refl => simpa using hsource
        | tail _ hedge ih => simpa using (hclosed _ ih).2 _ hedge
      exact (hclosed target (hstay hpath)).1 rfl
  | succ fuel ih =>
    cases pending with
    | nil =>
      have hempty : search next target fuel [] visited = false := by cases fuel <;> rfl
      exact ih hclosed hempty hsource
    | cons current pending =>
      simp only [search] at h
      split at h
      · rename_i hcurrent
        rw [ExtTreeSet.contains_iff_mem] at hcurrent
        refine ih ?_ h ?_
        · intro node hnode
          refine ⟨(hclosed node hnode).1, fun found hfound => ?_⟩
          rcases (hclosed node hnode).2 found hfound with hvisited | hpending
          · exact Or.inl hvisited
          · rcases List.mem_cons.mp hpending with rfl | hrest
            · exact Or.inl hcurrent
            · exact Or.inr hrest
        · rcases hsource with hvisited | hpending
          · exact Or.inl hvisited
          · rcases List.mem_cons.mp hpending with rfl | hrest
            · exact Or.inl hcurrent
            · exact Or.inr hrest
      · split at h
        · cases h
        · rename_i htarget
          have hin : ∀ {node}, node ∈ visited ∨ node ∈ current :: pending →
              node ∈ visited.insert current ∨ node ∈ pending ++ next current := by
            intro node hnode
            simp only [ExtTreeSet.mem_insert, LawfulEqCmp.compare_eq_iff_eq, List.mem_append]
            rcases hnode with hvisited | hpending
            · exact Or.inl (Or.inr hvisited)
            · rcases List.mem_cons.mp hpending with rfl | hrest
              · exact Or.inl (Or.inl rfl)
              · exact Or.inr (Or.inl hrest)
          refine ih ?_ h (hin hsource)
          intro node hnode
          rw [ExtTreeSet.mem_insert, LawfulEqCmp.compare_eq_iff_eq] at hnode
          rcases hnode with rfl | hold
          · exact ⟨htarget, fun found hfound => Or.inr (List.mem_append_right _ hfound)⟩
          · obtain ⟨hother, hnext⟩ := hclosed node hold
            exact ⟨hother, fun found hfound => hin (hnext found hfound)⟩

theorem workLeft_insert {support : Finset α} {pending : List α} {visited : ExtTreeSet α}
    {current : α} (hsupport : ∀ node, next node ≠ [] → node ∈ support)
    (hnew : current ∉ visited) :
    workLeft next support (pending ++ next current) (visited.insert current) =
      workLeft next support pending visited := by
  have hrest : (support.filter fun node => node ∉ visited.insert current) =
      (support.filter fun node => node ∉ visited).erase current := by
    ext node
    simp only [Finset.mem_filter, Finset.mem_erase, ExtTreeSet.mem_insert,
      LawfulEqCmp.compare_eq_iff_eq, not_or, @eq_comm _ current node]
    tauto
  unfold workLeft
  rw [hrest, List.length_append]
  by_cases hcurrent : current ∈ support
  · have hmem : current ∈ support.filter fun node => node ∉ visited := by
      simp [hcurrent, hnew]
    rw [← Finset.add_sum_erase _ _ hmem]
    omega
  · have hnone : next current = [] := by
      by_contra hne
      exact hcurrent (hsupport current hne)
    rw [Finset.erase_eq_of_notMem (by simp [hcurrent]), hnone]
    simp

/-- With fuel for the work left, the search says yes only for a reachable target. -/
theorem reachable_of_search {support : Finset α} (fuel : Nat) {pending : List α}
    {visited : ExtTreeSet α} (hsupport : ∀ node, next node ≠ [] → node ∈ support)
    (hfuel : workLeft next support pending visited ≤ fuel)
    (h : search next target fuel pending visited = true) :
    ∃ source ∈ pending, ReflTransGen (fun node found => found ∈ next node) source target := by
  induction fuel generalizing pending visited with
  | zero =>
    cases pending with
    | nil => simp [search] at h
    | cons current pending => simp [workLeft] at hfuel
  | succ fuel ih =>
    cases pending with
    | nil => simp [search] at h
    | cons current pending =>
      simp only [search] at h
      have hrest : workLeft next support pending visited ≤ fuel := by
        simp only [workLeft, List.length_cons] at hfuel ⊢
        omega
      split at h
      · obtain ⟨source, hsource, hpath⟩ := ih hrest h
        exact ⟨source, List.mem_cons_of_mem _ hsource, hpath⟩
      · rename_i hcurrent
        split at h
        · rename_i htarget
          exact ⟨current, List.mem_cons_self, htarget ▸ .refl⟩
        · have hnew : current ∉ visited := by
            simpa [ExtTreeSet.contains_iff_mem] using hcurrent
          obtain ⟨source, hsource, hpath⟩ :=
            ih ((workLeft_insert next hsupport hnew).trans_le hrest) h
          rcases List.mem_append.mp hsource with hold | hchild
          · exact ⟨source, List.mem_cons_of_mem _ hold, hpath⟩
          · exact ⟨current, List.mem_cons_self, .head hchild hpath⟩

/-- The search decides reachability when its fuel covers one visit of every edge. -/
theorem search_iff {support : Finset α} {fuel : Nat} (source : α)
    (hsupport : ∀ node, next node ≠ [] → node ∈ support)
    (hfuel : 1 + ∑ node ∈ support, (next node).length ≤ fuel) :
    search next target fuel [source] ∅ = true ↔
      ReflTransGen (fun node found => found ∈ next node) source target := by
  constructor
  · intro h
    have hwork : workLeft next support [source] ∅ ≤ fuel := by
      simpa [workLeft] using hfuel
    obtain ⟨found, hfound, hpath⟩ := reachable_of_search next target fuel hsupport hwork h
    rwa [List.mem_singleton.mp hfound] at hpath
  · intro hpath
    by_contra hno
    rw [Bool.not_eq_true] at hno
    exact target_unreachable_of_search next target fuel (closed_empty next target _) hno
      (Or.inr (List.mem_singleton_self source)) hpath

theorem search_searchFuel_iff {nodes : List α} (source : α) (hnodup : nodes.Nodup)
    (hnodes : ∀ node, next node ≠ [] → node ∈ nodes) :
    search next target (searchFuel next nodes) [source] ∅ = true ↔
      ReflTransGen (fun node found => found ∈ next node) source target := by
  have hsupport : ∀ node, next node ≠ [] → node ∈ nodes.toFinset :=
    fun node hne => List.mem_toFinset.mpr (hnodes node hne)
  refine search_iff next target source hsupport ?_
  rw [searchFuel, List.sum_toFinset _ hnodup]

/-- The loop of the search, run without fuel, answers with the verdict. -/
inductive Searches : List α → ExtTreeSet α → Bool → Prop
  | exhausted (visited : ExtTreeSet α) : Searches [] visited false
  | again {current : α} {pending : List α} {visited : ExtTreeSet α} {verdict : Bool}
      (hseen : current ∈ visited) (hrest : Searches pending visited verdict) :
      Searches (current :: pending) visited verdict
  | found {current : α} {pending : List α} {visited : ExtTreeSet α}
      (hnew : current ∉ visited) (htarget : current = target) :
      Searches (current :: pending) visited true
  | expand {current : α} {pending : List α} {visited : ExtTreeSet α} {verdict : Bool}
      (hnew : current ∉ visited) (hother : current ≠ target)
      (hrest : Searches (pending ++ next current) (visited.insert current) verdict) :
      Searches (current :: pending) visited verdict

/-- The loop that looks for the target before it looks for a repeat. -/
inductive SearchesEager : List α → ExtTreeSet α → Bool → Prop
  | exhausted (visited : ExtTreeSet α) : SearchesEager [] visited false
  | found {current : α} {pending : List α} {visited : ExtTreeSet α}
      (htarget : current = target) : SearchesEager (current :: pending) visited true
  | again {current : α} {pending : List α} {visited : ExtTreeSet α} {verdict : Bool}
      (hother : current ≠ target) (hseen : current ∈ visited)
      (hrest : SearchesEager pending visited verdict) :
      SearchesEager (current :: pending) visited verdict
  | expand {current : α} {pending : List α} {visited : ExtTreeSet α} {verdict : Bool}
      (hother : current ≠ target) (hnew : current ∉ visited)
      (hrest : SearchesEager (pending ++ next current) (visited.insert current) verdict) :
      SearchesEager (current :: pending) visited verdict

/-- With fuel for the work left, the loop ends as the search says. -/
theorem searches_search {support : Finset α} (fuel : Nat) {pending : List α}
    {visited : ExtTreeSet α} (hsupport : ∀ node, next node ≠ [] → node ∈ support)
    (hfuel : workLeft next support pending visited ≤ fuel) :
    Searches next target pending visited (search next target fuel pending visited) := by
  induction fuel generalizing pending visited with
  | zero =>
    cases pending with
    | nil => exact .exhausted visited
    | cons current pending => simp [workLeft] at hfuel
  | succ fuel ih =>
    cases pending with
    | nil => exact .exhausted visited
    | cons current pending =>
      have hrest := workLeft_cons next hfuel
      unfold search
      split
      · rename_i hseen
        exact .again (ExtTreeSet.contains_iff_mem.mp hseen) (ih hrest)
      · rename_i hseen
        have hnew : current ∉ visited := fun hmem => hseen (ExtTreeSet.contains_iff_mem.mpr hmem)
        split
        · rename_i htarget
          exact .found hnew htarget
        · rename_i hother
          exact .expand hnew hother (ih ((workLeft_insert next hsupport hnew).trans_le hrest))

theorem searchesEager_searchEager {support : Finset α} (fuel : Nat) {pending : List α}
    {visited : ExtTreeSet α} (hsupport : ∀ node, next node ≠ [] → node ∈ support)
    (hfuel : workLeft next support pending visited ≤ fuel) :
    SearchesEager next target pending visited (searchEager next target fuel pending visited) := by
  induction fuel generalizing pending visited with
  | zero =>
    cases pending with
    | nil => exact .exhausted visited
    | cons current pending => simp [workLeft] at hfuel
  | succ fuel ih =>
    cases pending with
    | nil => exact .exhausted visited
    | cons current pending =>
      have hrest := workLeft_cons next hfuel
      unfold searchEager
      split
      · rename_i htarget
        exact .found htarget
      · rename_i hother
        split
        · rename_i hseen
          exact .again hother (ExtTreeSet.contains_iff_mem.mp hseen) (ih hrest)
        · rename_i hseen
          have hnew : current ∉ visited :=
            fun hmem => hseen (ExtTreeSet.contains_iff_mem.mpr hmem)
          exact .expand hother hnew (ih ((workLeft_insert next hsupport hnew).trans_le hrest))

end Search

/-- The check answers for an edge from `child` to `parent`: it says yes exactly when the
child is the parent or an ancestor of it, and every graph that has the edge, and keeps
the edges out of the other nodes, then has a cycle. -/
structure DecidesCycle (check : α → α → Bool) (edge : α → α → Prop) : Prop where
  exact : ∀ parent child, check parent child = true ↔ parent = child ∨ TransGen edge parent child
  closes : ∀ parent child, check parent child = true → ∀ edge' : α → α → Prop,
    (∀ source target, source ≠ child → edge source target → edge' source target) →
    edge' child parent → ¬ Acyclic edge'

theorem DecidesCycle.of_path {check : α → α → Bool} {edge : α → α → Prop}
    (h : ∀ parent child, check parent child = true ↔ ReflTransGen edge parent child) :
    DecidesCycle check edge where
  exact parent child := by
    rw [h, reflTransGen_iff_eq_or_transGen, eq_comm]
  closes parent child hcheck _ hkeep hedge :=
    not_acyclic_of_path hkeep hedge ((h parent child).mp hcheck)

end Reachability
