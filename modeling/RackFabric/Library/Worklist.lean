import RackFabric.Library.Reachability
import RackFabric.Library.Tables
import RackFabric.Library.TreeWalk

/-! Two ways to collect what is reachable in a graph from a queue of nodes: a node is
marked when it is taken off the queue, or when it is put there. A finished loop is a
derivation; fuel that covers the graph finishes it. -/
namespace Worklist
open Relation Std Reachability Tables

variable {α : Type} [Ord α] [TransOrd α]

def ReachedFrom (next : α → List α) (sources : List α) (target : α) : Prop :=
  ∃ source ∈ sources, ReflTransGen (Edge next) source target

/-- A set that holds the sources, is closed under successors and holds nothing that is
not reachable is what the sources reach. -/
theorem mem_iff_reachedFrom {next : α → List α} {sources : List α} {reached : ExtTreeSet α}
    (hsources : ∀ source ∈ sources, source ∈ reached)
    (hclosed : ∀ node ∈ reached, ∀ found ∈ next node, found ∈ reached)
    (hsound : ∀ node ∈ reached, ReachedFrom next sources node) (target : α) :
    target ∈ reached ↔ ReachedFrom next sources target := by
  constructor
  · exact hsound target
  · rintro ⟨source, hsource, hpath⟩
    induction hpath with
    | refl => exact hsources source hsource
    | tail _ hedge ih => exact hclosed _ ih _ hedge

/-! Marked when taken off the queue. -/

section Collect
variable (next : α → List α)

def collect : Nat → List α → ExtTreeSet α → ExtTreeSet α
  | fuel + 1, current :: pending, visited =>
      if visited.contains current then collect fuel pending visited
      else collect fuel (pending ++ next current) (visited.insert current)
  | _, _, visited => visited

/-- The loop that starts with the queue and the marked nodes ends with the result. -/
inductive Collects : List α → ExtTreeSet α → ExtTreeSet α → Prop
  | done (visited : ExtTreeSet α) : Collects [] visited visited
  | again {current : α} {pending : List α} {visited result : ExtTreeSet α}
      (hseen : current ∈ visited) (hrest : Collects pending visited result) :
      Collects (current :: pending) visited result
  | expand {current : α} {pending : List α} {visited result : ExtTreeSet α}
      (hnew : current ∉ visited)
      (hrest : Collects (pending ++ next current) (visited.insert current) result) :
      Collects (current :: pending) visited result

variable {next}

def Expanded (next : α → List α) (pending : List α) (visited : ExtTreeSet α) : Prop :=
  ∀ node ∈ visited, ∀ found ∈ next node, found ∈ visited ∨ found ∈ pending

variable [LawfulEqOrd α]

theorem collects_collect [DecidableEq α] {support : Finset α} (fuel : Nat) {pending : List α}
    {visited : ExtTreeSet α} (hsupport : ∀ node, next node ≠ [] → node ∈ support)
    (hfuel : workLeft next support pending visited ≤ fuel) :
    Collects next pending visited (collect next fuel pending visited) := by
  induction fuel generalizing pending visited with
  | zero =>
    cases pending with
    | nil => exact .done visited
    | cons current pending => simp [workLeft] at hfuel
  | succ fuel ih =>
    cases pending with
    | nil => exact .done visited
    | cons current pending =>
      have hrest : workLeft next support pending visited ≤ fuel := by
        simp only [workLeft, List.length_cons] at hfuel ⊢
        omega
      unfold collect
      split
      · rename_i hseen
        exact .again (ExtTreeSet.contains_iff_mem.mp hseen) (ih hrest)
      · rename_i hnew
        rw [ExtTreeSet.contains_iff_mem] at hnew
        exact .expand hnew (ih ((workLeft_insert next hsupport hnew).trans_le hrest))

theorem Collects.sound {pending : List α} {visited result : ExtTreeSet α}
    (h : Collects next pending visited result) :
    ∀ node ∈ result, node ∈ visited ∨ ReachedFrom next pending node := by
  induction h with
  | done => exact fun node hnode => Or.inl hnode
  | again _ _ ih =>
    intro node hnode
    refine (ih node hnode).imp_right fun ⟨source, hsource, hpath⟩ => ?_
    exact ⟨source, List.mem_cons_of_mem _ hsource, hpath⟩
  | @expand current pending visited result _ _ ih =>
    intro node hnode
    rcases ih node hnode with hmarked | ⟨source, hsource, hpath⟩
    · rcases ExtTreeSet.mem_insert.mp hmarked with heq | hold
      · obtain rfl := LawfulEqCmp.compare_eq_iff_eq.mp heq
        exact Or.inr ⟨current, List.mem_cons_self .., .refl⟩
      · exact Or.inl hold
    · rcases List.mem_append.mp hsource with hwaiting | hfound
      · exact Or.inr ⟨source, List.mem_cons_of_mem _ hwaiting, hpath⟩
      · exact Or.inr ⟨current, List.mem_cons_self .., .head hfound hpath⟩

theorem Collects.complete {pending : List α} {visited result : ExtTreeSet α}
    (h : Collects next pending visited result) (hexpanded : Expanded next pending visited) :
    (∀ node, node ∈ visited ∨ node ∈ pending → node ∈ result) ∧
      ∀ node ∈ result, ∀ found ∈ next node, found ∈ result := by
  induction h with
  | done visited => simpa [Expanded] using hexpanded
  | @again current pending visited result hseen _ ih =>
    have hin : ∀ {node}, node ∈ visited ∨ node ∈ current :: pending →
        node ∈ visited ∨ node ∈ pending := by
      intro node hnode
      rw [List.mem_cons, or_left_comm] at hnode
      rcases hnode with rfl | hnode
      · exact Or.inl hseen
      · exact hnode
    obtain ⟨hmarked, hclosed⟩ :=
      ih fun node hnode found hfound => hin (hexpanded node hnode found hfound)
    exact ⟨fun node hnode => hmarked node (hin hnode), hclosed⟩
  | @expand current pending visited result _ _ ih =>
    have hin : ∀ {node}, node ∈ visited ∨ node ∈ current :: pending →
        node ∈ visited.insert current ∨ node ∈ pending ++ next current := by
      intro node hnode
      rw [ExtTreeSet.mem_insert, LawfulEqCmp.compare_eq_iff_eq, List.mem_append]
      rw [List.mem_cons] at hnode
      tauto
    have hnext : Expanded next (pending ++ next current) (visited.insert current) := by
      intro node hnode found hfound
      rcases ExtTreeSet.mem_insert.mp hnode with heq | hold
      · obtain rfl := LawfulEqCmp.compare_eq_iff_eq.mp heq
        exact Or.inr (List.mem_append_right _ hfound)
      · exact hin (hexpanded node hold found hfound)
    obtain ⟨hmarked, hclosed⟩ := ih hnext
    exact ⟨fun node hnode => hmarked node (hin hnode), hclosed⟩

theorem Collects.mem_iff {pending : List α} {result : ExtTreeSet α}
    (h : Collects next pending ∅ result) (target : α) :
    target ∈ result ↔ ReachedFrom next pending target := by
  have hexpanded : Expanded next pending ∅ := by
    intro node hnode
    simp at hnode
  obtain ⟨hmarked, hclosed⟩ := h.complete hexpanded
  refine mem_iff_reachedFrom (fun source hsource => hmarked source (Or.inr hsource)) hclosed ?_
    target
  intro node hnode
  exact (h.sound node hnode).resolve_left (by simp)

end Collect

/-! Marked when put on the queue. Each node that is met yields values. -/

section Spread
variable {β : Type} [Ord β] [TransOrd β]

structure Spread (α β : Type) [Ord α] [Ord β] where
  pending : List α
  visited : ExtTreeSet α
  gathered : ExtTreeSet β

variable (next : α → List α) (yield : α → List β)

def meet (walk : Spread α β) (node : α) : Spread α β :=
  if walk.visited.contains node then walk
  else
    { pending := walk.pending ++ [node]
      visited := walk.visited.insert node
      gathered := (yield node).foldl ExtTreeSet.insert walk.gathered }

def spread : Nat → Spread α β → Spread α β
  | fuel + 1, ⟨current :: pending, visited, gathered⟩ =>
      spread fuel ((next current).foldl (meet yield) ⟨pending, visited, gathered⟩)
  | _, walk => walk

/-- The loop that starts with the walk ends with the result. -/
inductive Spreads : Spread α β → Spread α β → Prop
  | done (visited : ExtTreeSet α) (gathered : ExtTreeSet β) :
      Spreads ⟨[], visited, gathered⟩ ⟨[], visited, gathered⟩
  | round {current : α} {pending : List α} {visited : ExtTreeSet α} {gathered : ExtTreeSet β}
      {result : Spread α β}
      (hrest : Spreads ((next current).foldl (meet yield) ⟨pending, visited, gathered⟩) result) :
      Spreads ⟨current :: pending, visited, gathered⟩ result

variable {next yield}

theorem mem_pending_meet {walk : Spread α β} {node found : α} :
    found ∈ (meet yield walk node).pending ↔
      found ∈ walk.pending ∨ (found = node ∧ found ∉ walk.visited) := by
  unfold meet
  split
  · rename_i hseen
    rw [ExtTreeSet.contains_iff_mem] at hseen
    constructor
    · exact Or.inl
    · rintro (hold | ⟨rfl, hnew⟩)
      · exact hold
      · exact absurd hseen hnew
  · rename_i hnew
    rw [ExtTreeSet.contains_iff_mem] at hnew
    rw [List.mem_append, List.mem_singleton]
    exact or_congr_right (iff_self_and.mpr fun heq => heq ▸ hnew)

theorem meet_congr {yield' : α → List β} {walk : Spread α β}
    (h : ∀ node ∉ walk.visited, yield node = yield' node) (node : α) :
    meet yield walk node = meet yield' walk node := by
  unfold meet
  split
  · rfl
  · rename_i hnew
    rw [ExtTreeSet.contains_iff_mem] at hnew
    rw [h node hnew]

variable [LawfulEqOrd α]

theorem mem_visited_meet {walk : Spread α β} {node found : α} :
    found ∈ (meet yield walk node).visited ↔ found ∈ walk.visited ∨ found = node := by
  unfold meet
  split
  · rename_i hseen
    rw [ExtTreeSet.contains_iff_mem] at hseen
    constructor
    · exact Or.inl
    · rintro (hold | rfl)
      · exact hold
      · exact hseen
  · rw [ExtTreeSet.mem_insert, LawfulEqCmp.compare_eq_iff_eq, @eq_comm _ node, or_comm]

theorem mem_visited_meetAll {nodes : List α} {walk : Spread α β} {found : α} :
    found ∈ (nodes.foldl (meet yield) walk).visited ↔ found ∈ walk.visited ∨ found ∈ nodes := by
  induction nodes generalizing walk with
  | nil => simp
  | cons node nodes ih => rw [List.foldl_cons, ih, mem_visited_meet, List.mem_cons, or_assoc]

theorem mem_pending_meetAll {nodes : List α} {walk : Spread α β} {found : α} :
    found ∈ (nodes.foldl (meet yield) walk).pending ↔
      found ∈ walk.pending ∨ (found ∈ nodes ∧ found ∉ walk.visited) := by
  induction nodes generalizing walk with
  | nil => simp
  | cons node nodes ih =>
    rw [List.foldl_cons, ih, mem_pending_meet, mem_visited_meet, List.mem_cons]
    tauto

def Gathers (yield : α → List β) (walk : Spread α β) : Prop :=
  ∀ value, value ∈ walk.gathered ↔ ∃ node ∈ walk.visited, value ∈ yield node

theorem Gathers.meet [LawfulEqOrd β] {walk : Spread α β} (h : Gathers yield walk) (node : α) :
    Gathers yield (meet yield walk node) := by
  intro value
  unfold Worklist.meet
  split
  · exact h value
  · rw [mem_fill, h value]
    simp only [ExtTreeSet.mem_insert, LawfulEqCmp.compare_eq_iff_eq]
    constructor
    · rintro (⟨other, hother, hvalue⟩ | hvalue)
      · exact ⟨other, Or.inr hother, hvalue⟩
      · exact ⟨node, Or.inl rfl, hvalue⟩
    · rintro ⟨other, rfl | hother, hvalue⟩
      · exact Or.inr hvalue
      · exact Or.inl ⟨other, hother, hvalue⟩

theorem Gathers.meetAll [LawfulEqOrd β] {walk : Spread α β} (h : Gathers yield walk) (nodes : List α) :
    Gathers yield (nodes.foldl (Worklist.meet yield) walk) := by
  induction nodes generalizing walk with
  | nil => exact h
  | cons node nodes ih => exact ih (h.meet node)

/-- Between two rounds: marked nodes wait or have been expanded, and the sources reach
all of them. -/
structure Spreading (next : α → List α) (yield : α → List β) (sources : List α)
    (walk : Spread α β) : Prop where
  started : ∀ source ∈ sources, source ∈ walk.visited
  expanded : ∀ node ∈ walk.visited, node ∉ walk.pending → ∀ found ∈ next node,
    found ∈ walk.visited
  waiting : ∀ node ∈ walk.pending, node ∈ walk.visited
  sound : ∀ node ∈ walk.visited, ReachedFrom next sources node
  gathers : Gathers yield walk

theorem Spreading.round [LawfulEqOrd β] {sources : List α} {current : α} {pending : List α}
    {visited : ExtTreeSet α} {gathered : ExtTreeSet β}
    (h : Spreading next yield sources ⟨current :: pending, visited, gathered⟩) :
    Spreading next yield sources
      ((next current).foldl (meet yield) ⟨pending, visited, gathered⟩) where
  started source hsource := mem_visited_meetAll.mpr (Or.inl (h.started source hsource))
  expanded node hnode hdone found hfound := by
    rw [mem_visited_meetAll] at hnode ⊢
    rw [mem_pending_meetAll, not_or, not_and] at hdone
    by_cases hcurrent : node = current
    · exact Or.inr (hcurrent ▸ hfound)
    · have hold : node ∈ visited := hnode.elim id fun hnew => not_not.mp (hdone.2 hnew)
      exact Or.inl (h.expanded node hold (by simp [hcurrent, hdone.1]) found hfound)
  waiting node hnode := by
    rw [mem_pending_meetAll] at hnode
    rw [mem_visited_meetAll]
    rcases hnode with hwaiting | ⟨hnew, -⟩
    · exact Or.inl (h.waiting node (List.mem_cons_of_mem _ hwaiting))
    · exact Or.inr hnew
  sound node hnode := by
    rw [mem_visited_meetAll] at hnode
    rcases hnode with hold | hnew
    · exact h.sound node hold
    · obtain ⟨source, hsource, hpath⟩ := h.sound current (h.waiting current (List.mem_cons_self ..))
      exact ⟨source, hsource, hpath.tail hnew⟩
  gathers := by
    have hgathers : Gathers yield ⟨pending, visited, gathered⟩ := h.gathers
    exact hgathers.meetAll _

theorem Spreads.mem_iff [LawfulEqOrd β] {sources : List α} {walk result : Spread α β}
    (h : Spreads next yield walk result) (hstart : Spreading next yield sources walk) (value : β) :
    value ∈ result.gathered ↔ ∃ node, ReachedFrom next sources node ∧ value ∈ yield node := by
  induction h with
  | done visited gathered =>
    have hreached := mem_iff_reachedFrom hstart.started
      (fun node hnode => hstart.expanded node hnode (by simp)) hstart.sound
    rw [hstart.gathers value]
    simp only [hreached]
  | round _ ih => exact ih hstart.round

/-! Fuel. -/

/-- The rounds that are left: the nodes that wait, and those that can still be met. -/
def roundsLeft (support : Finset α) (walk : Spread α β) : Nat :=
  walk.pending.length + (support.filter fun node => node ∉ walk.visited).card

theorem roundsLeft_meet [DecidableEq α] {support : Finset α} {walk : Spread α β} {node : α}
    (hnode : node ∈ support) :
    roundsLeft support (meet yield walk node) = roundsLeft support walk := by
  unfold meet
  split
  · rfl
  · rename_i hnew
    rw [ExtTreeSet.contains_iff_mem] at hnew
    have hmem : node ∈ support.filter fun found => found ∉ walk.visited := by
      simp [hnode, hnew]
    have hrest : (support.filter fun found => found ∉ walk.visited.insert node) =
        (support.filter fun found => found ∉ walk.visited).erase node := by
      ext found
      simp only [Finset.mem_filter, Finset.mem_erase, ExtTreeSet.mem_insert,
        LawfulEqCmp.compare_eq_iff_eq, not_or, @eq_comm _ node found]
      tauto
    have hcard := Finset.card_erase_add_one hmem
    simp only [roundsLeft, hrest, List.length_append, List.length_singleton]
    omega

theorem roundsLeft_meetAll [DecidableEq α] {support : Finset α} {nodes : List α} {walk : Spread α β}
    (hnodes : ∀ node ∈ nodes, node ∈ support) :
    roundsLeft support (nodes.foldl (meet yield) walk) = roundsLeft support walk := by
  induction nodes generalizing walk with
  | nil => rfl
  | cons node nodes ih =>
    rw [List.forall_mem_cons] at hnodes
    rw [List.foldl_cons, ih hnodes.2, roundsLeft_meet hnodes.1]

theorem spreads_spread [DecidableEq α] {support : Finset α} (fuel : Nat) {walk : Spread α β}
    (hsupport : ∀ node, ∀ found ∈ next node, found ∈ support)
    (hfuel : roundsLeft support walk ≤ fuel) :
    Spreads next yield walk (spread next yield fuel walk) := by
  induction fuel generalizing walk with
  | zero =>
    obtain ⟨pending, visited, gathered⟩ := walk
    cases pending with
    | nil => exact .done visited gathered
    | cons current pending => simp [roundsLeft] at hfuel
  | succ fuel ih =>
    obtain ⟨pending, visited, gathered⟩ := walk
    cases pending with
    | nil => exact .done visited gathered
    | cons current pending =>
      refine .round (ih ?_)
      rw [roundsLeft_meetAll (hsupport current)]
      simp only [roundsLeft, List.length_cons] at hfuel ⊢
      omega

/-! What the marked nodes yield does not matter. -/

theorem meetAll_congr {yield' : α → List β} (nodes : List α) {walk : Spread α β}
    (h : ∀ node ∉ walk.visited, yield node = yield' node) :
    nodes.foldl (meet yield) walk = nodes.foldl (meet yield') walk := by
  induction nodes generalizing walk with
  | nil => rfl
  | cons node nodes ih =>
    rw [List.foldl_cons, List.foldl_cons, ih, meet_congr h]
    intro other hother
    rw [mem_visited_meet, not_or] at hother
    exact h other hother.1

theorem spread_congr {yield' : α → List β} (fuel : Nat) {walk : Spread α β}
    (h : ∀ node ∉ walk.visited, yield node = yield' node) :
    spread next yield fuel walk = spread next yield' fuel walk := by
  induction fuel generalizing walk with
  | zero => rfl
  | succ fuel ih =>
    obtain ⟨pending, visited, gathered⟩ := walk
    cases pending with
    | nil => rfl
    | cons current pending =>
      have hrest := @meetAll_congr α _ _ β _ _ yield _ yield' (next current)
        ⟨pending, visited, gathered⟩ h
      rw [spread, spread, ← hrest]
      apply ih
      intro node hnode
      rw [mem_visited_meetAll, not_or] at hnode
      exact h node hnode.1

end Spread

end Worklist
