import RackFabric.Library.Reachability

/-! A breadth-first walk that takes every node it meets twice for a repeat.  On a
tree that is a test for cycles; nodes with two ways in repeat as well. -/
namespace Reachability
open Relation Std

variable {α : Type}

def Edge (next : α → List α) (node found : α) : Prop :=
  found ∈ next node

/-- Two different edges out of nodes reachable from the root lead to one node. -/
def Joins (next : α → List α) (root : α) : Prop :=
  (∃ node, ReflTransGen (Edge next) root node ∧ ¬ (next node).Nodup) ∨
    ∃ first second, first ≠ second ∧ ReflTransGen (Edge next) root first ∧
      ReflTransGen (Edge next) root second ∧ ∃ found ∈ next first, found ∈ next second

/-- Nothing repeats from a node without edges. -/
theorem ne_nil_of_repeats {next : α → List α} {root : α}
    (h : TransGen (Edge next) root root ∨ Joins next root) : next root ≠ [] := by
  intro hnil
  have hstay : ∀ {node}, ReflTransGen (Edge next) root node → node = root := by
    intro node hpath
    rcases ReflTransGen.cases_head hpath with heq | ⟨found, hedge, -⟩
    · exact heq.symm
    · simp [Edge, hnil] at hedge
  rcases h with hcycle | ⟨node, hpath, htwice⟩ | ⟨first, second, hne, hfirst, hsecond, -⟩
  · obtain ⟨found, hedge, -⟩ := TransGen.head'_iff.mp hcycle
    simp [Edge, hnil] at hedge
  · rw [hstay hpath, hnil] at htwice
    exact htwice List.nodup_nil
  · exact hne ((hstay hfirst).trans (hstay hsecond).symm)

/-- Along chains without a cycle nothing joins. -/
theorem not_joins_of_chain {next : α → List α} (hchain : ∀ node, (next node).length ≤ 1)
    (hacyclic : ∀ node, ¬ TransGen (Edge next) node node) (root : α) : ¬ Joins next root := by
  have hunique : ∀ {node first second}, first ∈ next node → second ∈ next node →
      first = second := by
    intro node first second hfirst hsecond
    have hlength := hchain node
    match hnext : next node with
    | [] => simp [hnext] at hfirst
    | [found] => simp_all
    | _ :: _ :: _ => simp [hnext] at hlength
  have hbetween : ∀ {first second found}, first ≠ second →
      ReflTransGen (Edge next) first second → found ∈ next first → found ∈ next second →
        TransGen (Edge next) found found := by
    intro first second found hne hpath hin hin'
    rcases ReflTransGen.cases_head hpath with heq | ⟨after, hedge, hrest⟩
    · exact absurd heq hne
    · obtain rfl := hunique hedge hin
      exact TransGen.tail' hrest hin'
  rintro (⟨node, -, htwice⟩ | ⟨first, second, hne, hfirst, hsecond, found, hin, hin'⟩)
  · have hlength := hchain node
    match hnext : next node with
    | [] => simp [hnext] at htwice
    | [_] => simp [hnext] at htwice
    | _ :: _ :: _ => simp [hnext] at hlength
  · have hright : Relator.RightUnique (Edge next) := fun _ _ _ hfirst hsecond =>
      hunique hfirst hsecond
    rcases ReflTransGen.total_of_right_unique hright hfirst hsecond with hpath | hpath
    · exact hacyclic found (hbetween hne hpath hin hin')
    · exact hacyclic found (hbetween hne.symm hpath hin' hin)

section Walk
variable [Ord α] [TransOrd α] (next : α → List α)

/-- Running out of fuel counts as a repeat. -/
def meetsTwice : Nat → List α → ExtTreeSet α → Bool
  | _, [], _ => false
  | 0, _ :: _, _ => true
  | fuel + 1, current :: pending, seen =>
      if seen.contains current then true
      else meetsTwice fuel (pending ++ next current) (seen.insert current)

/-- The walk from a root, where `nodes` holds every node with edges out of it. -/
def repeatsFrom (nodes : List α) (root : α) : Bool :=
  meetsTwice next (searchFuel next nodes) (next root) (ExtTreeSet.insert ∅ root)

/-- What the walk has expanded after the root: the queue holds the edges out of
these nodes that it has not followed yet, in order. -/
structure Walked (root : α) (rest pending : List α) (seen : ExtTreeSet α) : Prop where
  queue : rest ++ pending = (root :: rest).flatMap next
  seen : ∀ node, node ∈ seen ↔ node ∈ root :: rest
  nodup : (root :: rest).Nodup
  reached : ∀ node ∈ root :: rest, ReflTransGen (Edge next) root node

variable {next} {root : α} {rest pending : List α} {seen : ExtTreeSet α}

/-- An edge in the queue leaves a node that has been expanded. -/
theorem Walked.edge (h : Walked next root rest pending seen) {node : α}
    (hmem : node ∈ rest ++ pending) :
    ∃ before ∈ root :: rest, ReflTransGen (Edge next) root before ∧ Edge next before node := by
  rw [h.queue, List.mem_flatMap] at hmem
  obtain ⟨before, hbefore, hedge⟩ := hmem
  exact ⟨before, hbefore, h.reached before hbefore, hedge⟩

/-- A walk to the end has expanded all that the root reaches, each node once. -/
theorem Walked.mem_of_path {all : List α} (h : Walked next root all [] seen) {node : α}
    (hpath : ReflTransGen (Edge next) root node) : node ∈ root :: all := by
  have hqueue : all = (root :: all).flatMap next := by simpa using h.queue
  induction hpath with
  | refl => exact List.mem_cons_self
  | tail _ hedge ih =>
    refine List.mem_cons_of_mem _ ?_
    rw [hqueue]
    exact List.mem_flatMap.mpr ⟨_, ih, hedge⟩

theorem Walked.not_repeated {all : List α} (h : Walked next root all [] seen) :
    ¬ TransGen (Edge next) root root ∧ ¬ Joins next root := by
  have hqueue : all = (root :: all).flatMap next := by simpa using h.queue
  obtain ⟨hroot, hall⟩ := List.nodup_cons.mp h.nodup
  rw [hqueue] at hall
  obtain ⟨hnodup, hdisjoint⟩ := List.nodup_flatMap.mp hall
  constructor
  · intro hcycle
    obtain ⟨before, hpath, hedge⟩ := TransGen.tail'_iff.mp hcycle
    apply hroot
    rw [hqueue]
    exact List.mem_flatMap.mpr ⟨before, h.mem_of_path hpath, hedge⟩
  · rintro (⟨node, hpath, htwice⟩ | ⟨first, second, hne, hfirst, hsecond, found, hin, hin'⟩)
    · exact htwice (hnodup node (h.mem_of_path hpath))
    · have hsymm : Std.Symm (Function.onFun List.Disjoint next) := ⟨fun _ _ hxy => hxy.symm⟩
      exact hdisjoint.forall (h.mem_of_path hfirst) (h.mem_of_path hsecond) hne hin hin'

/-- A node met again is the root, or has two edges into it. -/
theorem Walked.repeated {current : α} (h : Walked next root rest (current :: pending) seen)
    (hseen : current ∈ seen) : TransGen (Edge next) root root ∨ Joins next root := by
  rcases List.mem_cons.mp ((h.seen current).mp hseen) with rfl | hold
  · have hqueued : current ∈ rest ++ current :: pending := by simp
    obtain ⟨before, -, hpath, hedge⟩ := h.edge hqueued
    exact Or.inl (TransGen.tail' hpath hedge)
  · refine Or.inr (Classical.by_contradiction fun hno => ?_)
    have hflat : ((root :: rest).flatMap next).Nodup := by
      refine List.nodup_flatMap.mpr ⟨fun node hmem => ?_, ?_⟩
      · exact Classical.by_contradiction fun htwice =>
          hno (Or.inl ⟨node, h.reached node hmem, htwice⟩)
      · refine h.nodup.pairwise_of_forall_ne fun first hfirst second hsecond hne => ?_
        intro found hin hin'
        exact hno (Or.inr ⟨first, second, hne, h.reached first hfirst, h.reached second hsecond,
          found, hin, hin'⟩)
    rw [← h.queue] at hflat
    exact (List.nodup_append.mp hflat).2.2 current hold current List.mem_cons_self rfl

variable [LawfulEqOrd α]

theorem walked_root : Walked next root [] (next root) (ExtTreeSet.insert ∅ root) where
  queue := by simp
  seen node := by
    rw [ExtTreeSet.mem_insert, LawfulEqCmp.compare_eq_iff_eq]
    simp [eq_comm]
  nodup := by simp
  reached node hmem := by
    obtain rfl : node = root := by simpa using hmem
    exact .refl

theorem Walked.expand {current : α} (h : Walked next root rest (current :: pending) seen)
    (hnew : current ∉ seen) :
    Walked next root (rest ++ [current]) (pending ++ next current) (seen.insert current) where
  queue := by
    have hqueue := h.queue
    rw [← List.cons_append, List.flatMap_append, ← hqueue]
    simp
  seen node := by
    rw [ExtTreeSet.mem_insert, LawfulEqCmp.compare_eq_iff_eq, h.seen]
    simp only [List.mem_cons, List.mem_append, List.not_mem_nil, or_false]
    tauto
  nodup := by
    have hnot : current ∉ root :: rest := fun hmem => hnew ((h.seen current).mpr hmem)
    rw [← List.cons_append]
    refine List.nodup_append.mpr ⟨h.nodup, by simp, fun node hmem other hother heq => hnot ?_⟩
    rwa [← List.mem_singleton.mp hother, ← heq]
  reached node hmem := by
    rw [← List.cons_append, List.mem_append, List.mem_singleton] at hmem
    rcases hmem with hold | rfl
    · exact h.reached node hold
    · have hqueued : node ∈ rest ++ node :: pending := by simp
      obtain ⟨before, -, hpath, hedge⟩ := h.edge hqueued
      exact hpath.tail hedge

theorem walked_of_not_meetsTwice (fuel : Nat) (h : Walked next root rest pending seen)
    (hfalse : meetsTwice next fuel pending seen = false) :
    ∃ all seen, Walked next root all [] seen := by
  induction fuel generalizing rest pending seen with
  | zero =>
    cases pending with
    | nil => exact ⟨rest, seen, h⟩
    | cons current pending => simp [meetsTwice] at hfalse
  | succ fuel ih =>
    cases pending with
    | nil => exact ⟨rest, seen, h⟩
    | cons current pending =>
      simp only [meetsTwice] at hfalse
      split at hfalse
      · cases hfalse
      · rename_i hnew
        rw [ExtTreeSet.contains_iff_mem] at hnew
        exact ih (h.expand hnew) hfalse

theorem walked_of_meetsTwice [DecidableEq α] {support : Finset α} (fuel : Nat)
    (hsupport : ∀ node, next node ≠ [] → node ∈ support)
    (hfuel : workLeft next support pending seen ≤ fuel)
    (h : Walked next root rest pending seen) (htrue : meetsTwice next fuel pending seen = true) :
    ∃ all current left seen, Walked next root all (current :: left) seen ∧ current ∈ seen := by
  induction fuel generalizing rest pending seen with
  | zero =>
    cases pending with
    | nil => simp [meetsTwice] at htrue
    | cons current pending => simp [workLeft] at hfuel
  | succ fuel ih =>
    cases pending with
    | nil => simp [meetsTwice] at htrue
    | cons current pending =>
      by_cases hseen : current ∈ seen
      · exact ⟨rest, current, pending, seen, h, hseen⟩
      · have hwork : workLeft next support pending seen ≤ fuel := by
          simp only [workLeft, List.length_cons] at hfuel ⊢
          omega
        rw [meetsTwice, if_neg (by rwa [ExtTreeSet.contains_iff_mem])] at htrue
        exact ih ((workLeft_insert next hsupport hseen).trans_le hwork) (h.expand hseen) htrue

theorem repeatsFrom_iff [DecidableEq α] {nodes : List α} (hnodup : nodes.Nodup)
    (hnodes : ∀ node, next node ≠ [] → node ∈ nodes) :
    repeatsFrom next nodes root = true ↔
      TransGen (Edge next) root root ∨ Joins next root := by
  unfold repeatsFrom
  constructor
  · intro htrue
    have hsupport : ∀ node, next node ≠ [] → node ∈ nodes.toFinset :=
      fun node hne => List.mem_toFinset.mpr (hnodes node hne)
    have hfuel : workLeft next nodes.toFinset (next root) (ExtTreeSet.insert ∅ root) ≤
        searchFuel next nodes := by
      have hstart : workLeft next nodes.toFinset ([] ++ next root) (ExtTreeSet.insert ∅ root) =
          workLeft next nodes.toFinset [] ∅ := workLeft_insert next hsupport (by simp)
      rw [List.nil_append] at hstart
      rw [hstart]
      exact workLeft_le_searchFuel next (by simp) hnodup
    obtain ⟨all, current, left, seen, hwalked, hseen⟩ :=
      walked_of_meetsTwice _ hsupport hfuel walked_root htrue
    exact hwalked.repeated hseen
  · intro hrepeated
    by_contra hfalse
    obtain ⟨all, seen, hwalked⟩ :=
      walked_of_not_meetsTwice _ walked_root (Bool.not_eq_true _ ▸ hfalse)
    obtain ⟨hcycle, hjoins⟩ := hwalked.not_repeated
    exact hrepeated.elim hcycle hjoins

end Walk

end Reachability
