import Mathlib.Data.List.Perm.Basic
import Mathlib.Tactic.Common

/-! Items that wait for each other are handled in rounds: a round handles what is ready
when its turn comes, and leaves the rest to the next one. -/
namespace Draining

variable {σ α : Type} (ready : σ → α → Bool) (handle force : σ → α → σ)

def sweep : σ → List α → σ × List α
  | state, [] => (state, [])
  | state, item :: rest =>
      if ready state item then sweep (handle state item) rest
      else
        let swept := sweep state rest
        (swept.1, item :: swept.2)

/-- Rounds as long as they make progress. What is left then is forced through. -/
def drain (state : σ) (pending : List α) : σ :=
  if (sweep ready handle state pending).2.length < pending.length then
    drain (sweep ready handle state pending).1 (sweep ready handle state pending).2
  else
    (sweep ready handle state pending).2.foldl force (sweep ready handle state pending).1
termination_by pending.length

variable {ready handle force}

theorem length_sweep_le (state : σ) (pending : List α) :
    (sweep ready handle state pending).2.length ≤ pending.length := by
  induction pending generalizing state with
  | nil => simp [sweep]
  | cons item rest ih =>
    unfold sweep
    split
    · exact Nat.le_trans (ih (handle state item)) (by simp)
    · simpa using ih state

/-- A round that handles nothing has met nothing ready. -/
theorem not_ready_of_sweep {state : σ} {pending : List α}
    (h : pending.length ≤ (sweep ready handle state pending).2.length) :
    ∀ item ∈ pending, ready state item = false := by
  induction pending with
  | nil => simp
  | cons item rest ih =>
    unfold sweep at h
    split at h
    · have hle := @length_sweep_le _ _ ready handle (handle state item) rest
      simp only [List.length_cons] at h
      omega
    · rename_i hitem
      simp only [List.length_cons, Nat.add_le_add_iff_right] at h
      intro other hmem
      rcases List.mem_cons.mp hmem with rfl | hrest
      · simpa using hitem
      · exact ih h other hrest

section Run
variable {items : List α} {Done : σ → List α → Prop}
  (hstep : ∀ state done item others, Done state done →
    (done ++ item :: others).Perm items → ready state item = true →
      Done (handle state item) (done ++ [item]))
include hstep

theorem sweep_done {state : σ} {done pending kept : List α} (hdone : Done state done)
    (hperm : (done ++ (pending ++ kept)).Perm items) :
    ∃ order, Done (sweep ready handle state pending).1 order ∧
      (order ++ ((sweep ready handle state pending).2 ++ kept)).Perm items := by
  induction pending generalizing state done kept with
  | nil => exact ⟨done, hdone, hperm⟩
  | cons item rest ih =>
    unfold sweep
    split
    · rename_i hready
      have hnext := hstep state done item (rest ++ kept) hdone hperm hready
      exact ih hnext (by simpa using hperm)
    · have hlater : (done ++ (rest ++ item :: kept)).Perm items :=
        (List.perm_middle.append_left done).trans hperm
      obtain ⟨order, horder, hrest⟩ := ih hdone hlater
      exact ⟨order, horder, (List.perm_middle.symm.append_left order).trans hrest⟩

/-- When something is ready as long as something is pending, every item is handled. -/
theorem drain_done
    (hready : ∀ state done pending, Done state done → (done ++ pending).Perm items →
      pending ≠ [] → ∃ item ∈ pending, ready state item = true)
    {state : σ} {done pending : List α} (hdone : Done state done)
    (hperm : (done ++ pending).Perm items) :
    ∃ order, order.Perm items ∧ Done (drain ready handle force state pending) order := by
  induction state, pending using drain.induct ready handle generalizing done with
  | case1 state pending hprogress ih =>
    obtain ⟨order, horder, hrest⟩ := @sweep_done _ _ _ _ items Done hstep state done pending []
      hdone (by simpa using hperm)
    rw [drain, if_pos hprogress]
    exact ih horder (by simpa using hrest)
  | case2 state pending hstuck =>
    have hnone := not_ready_of_sweep (Nat.le_of_not_lt hstuck)
    have hempty : pending = [] := by
      by_contra hne
      obtain ⟨item, hmem, hitem⟩ := hready state done pending hdone hperm hne
      simp [hnone item hmem] at hitem
    subst hempty
    rw [drain, if_neg hstuck]
    exact ⟨done, by simpa using hperm, hdone⟩

end Run

/-- Handling the items one after the other, as far as each is taken as it comes. -/
theorem foldl_done {items : List α} {Done : σ → List α → Prop}
    (hstep : ∀ state done item rest, Done state done → items = done ++ item :: rest →
      Done (handle state item) (done ++ [item]))
    {state : σ} (hstart : Done state []) : Done (items.foldl handle state) items := by
  suffices hrun : ∀ rest done state, Done state done → items = done ++ rest →
      Done (rest.foldl handle state) items from hrun items [] state hstart rfl
  intro rest
  induction rest with
  | nil =>
    intro done state hdone hitems
    rw [hitems, List.append_nil]
    exact hdone
  | cons item rest ih =>
    intro done state hdone hitems
    exact ih (done ++ [item]) (handle state item) (hstep state done item rest hdone hitems)
      (by simpa using hitems)

end Draining
