import RackFabric.Library.Execution
import Mathlib.Logic.Function.Basic

/-! Workers that change a shared value, take a copy of it, and replace what a
store holds by their copy. Only moments matter: that of a change, and that of a
copy. The store keeps every change as long as no copy replaces a later one. -/
namespace CopyReplace

inductive Phase where
  | idle
  | changed (change : Nat)
  | copied (change copy : Nat)
deriving DecidableEq

/-- A change comes before the copy that is taken for it, and both are past. -/
def Phase.Timely (now : Nat) : Phase → Prop
  | .idle => True
  | .changed change => change ≤ now
  | .copied change copy => change ≤ copy ∧ copy ≤ now

theorem Phase.Timely.succ {now : Nat} {phase : Phase} (h : phase.Timely now) :
    phase.Timely (now + 1) := by
  cases phase with
  | idle => exact h
  | changed change => exact Nat.le_succ_of_le h
  | copied change copy => exact ⟨h.1, Nat.le_succ_of_le h.2⟩

inductive Act (ι : Type) where
  | change (worker : ι)
  | copy (worker : ι)
  | replace (worker : ι)
  | other
deriving DecidableEq

structure Desk (ι : Type) where
  /-- How many acts there have been. -/
  now : Nat := 0
  /-- The moment of the copy in the store. -/
  stored : Nat := 0
  phase : ι → Phase := fun _ => .idle

namespace Desk
variable {ι : Type}

/-- A worker changes the value, copies it and replaces the store, in this order. -/
def step [DecidableEq ι] (desk : Desk ι) (act : Act ι) : Desk ι :=
  let later := { desk with now := desk.now + 1 }
  match act with
  | .change worker =>
      match desk.phase worker with
      | .idle =>
          { later with phase := Function.update desk.phase worker (.changed (desk.now + 1)) }
      | _ => later
  | .copy worker =>
      match desk.phase worker with
      | .changed change =>
          { later with phase := Function.update desk.phase worker (.copied change desk.now) }
      | _ => later
  | .replace worker =>
      match desk.phase worker with
      | .copied _ copy =>
          { later with stored := copy, phase := Function.update desk.phase worker .idle }
      | _ => later
  | .other => later

def InOrder (desk : Desk ι) : Act ι → Prop
  | .replace worker =>
      ∀ change copy, desk.phase worker = .copied change copy → desk.stored ≤ copy
  | _ => True

structure Sound (desk : Desk ι) : Prop where
  timely : ∀ worker, (desk.phase worker).Timely desk.now
  stored : desk.stored ≤ desk.now

/-- The change is in the store, or its worker still has to see to it. -/
def Kept (desk : Desk ι) (worker : ι) (change : Nat) : Prop :=
  change ≤ desk.stored ∨ desk.phase worker = .changed change ∨
    ∃ copy, desk.phase worker = .copied change copy

theorem sound_start : Sound ({} : Desk ι) :=
  ⟨fun _ => trivial, Nat.le_refl _⟩

variable [DecidableEq ι] {desk : Desk ι}

/-- What an act does. A worker that is not ready for it is left alone. -/
inductive Moves (desk : Desk ι) : Act ι → Desk ι → Prop where
  | changed {worker : ι} (hidle : desk.phase worker = .idle) :
      Moves desk (.change worker)
        { desk with
          now := desk.now + 1
          phase := Function.update desk.phase worker (.changed (desk.now + 1)) }
  | copied {worker : ι} {change : Nat} (hchanged : desk.phase worker = .changed change) :
      Moves desk (.copy worker)
        { desk with
          now := desk.now + 1
          phase := Function.update desk.phase worker (.copied change desk.now) }
  | replaced {worker : ι} {change copy : Nat} (hcopied : desk.phase worker = .copied change copy) :
      Moves desk (.replace worker)
        { now := desk.now + 1
          stored := copy
          phase := Function.update desk.phase worker .idle }
  | rested (act : Act ι) : Moves desk act { desk with now := desk.now + 1 }

theorem moves_step (desk : Desk ι) (act : Act ι) : Moves desk act (desk.step act) := by
  cases act with
  | change worker =>
    simp only [step]
    split
    · rename_i hidle
      exact .changed hidle
    · exact .rested _
  | copy worker =>
    simp only [step]
    split
    · rename_i hchanged
      exact .copied hchanged
    · exact .rested _
  | replace worker =>
    simp only [step]
    split
    · rename_i hcopied
      exact .replaced hcopied
    · exact .rested _
  | other => exact .rested _

theorem step_change {worker : ι} (h : desk.phase worker = .idle) :
    desk.step (.change worker) =
      { desk with
        now := desk.now + 1
        phase := Function.update desk.phase worker (.changed (desk.now + 1)) } := by
  simp [step, h]

theorem step_copy {worker : ι} {change : Nat} (h : desk.phase worker = .changed change) :
    desk.step (.copy worker) =
      { desk with
        now := desk.now + 1
        phase := Function.update desk.phase worker (.copied change desk.now) } := by
  simp [step, h]

theorem step_replace {worker : ι} {change copy : Nat}
    (h : desk.phase worker = .copied change copy) :
    desk.step (.replace worker) =
      { now := desk.now + 1
        stored := copy
        phase := Function.update desk.phase worker .idle } := by
  simp [step, h]

/-- Without a copy there is nothing to replace the store by. -/
theorem step_replace_of_not_copied {worker : ι}
    (h : ∀ change copy, desk.phase worker ≠ .copied change copy) :
    desk.step (.replace worker) = { desk with now := desk.now + 1 } := by
  simp only [step]

theorem now_step (act : Act ι) : (desk.step act).now = desk.now + 1 := by
  generalize hmoves : desk.step act = after
  cases hmoves ▸ moves_step desk act <;> rfl

theorem Sound.step (h : desk.Sound) (act : Act ι) : (desk.step act).Sound := by
  generalize hafter : desk.step act = after
  have hmoves : Moves desk act after := hafter ▸ moves_step desk act
  have hlater : ∀ worker, (desk.phase worker).Timely (desk.now + 1) := fun worker =>
    (h.timely worker).succ
  cases hmoves with
  | changed =>
    refine ⟨?_, Nat.le_succ_of_le h.stored⟩
    exact (Function.forall_update_iff _ fun _ (phase : Phase) => phase.Timely _).mpr
      ⟨Nat.le_refl _, fun other _ => hlater other⟩
  | @copied worker change hchanged =>
    have hchange : Phase.Timely desk.now (.changed change) := hchanged ▸ h.timely worker
    refine ⟨?_, Nat.le_succ_of_le h.stored⟩
    exact (Function.forall_update_iff _ fun _ (phase : Phase) => phase.Timely _).mpr
      ⟨⟨hchange, Nat.le_succ _⟩, fun other _ => hlater other⟩
  | @replaced worker change copy hcopied =>
    have hcopy : Phase.Timely desk.now (.copied change copy) := hcopied ▸ h.timely worker
    refine ⟨?_, Nat.le_succ_of_le hcopy.2⟩
    exact (Function.forall_update_iff _ fun _ (phase : Phase) => phase.Timely _).mpr
      ⟨trivial, fun other _ => hlater other⟩
  | rested => exact ⟨hlater, Nat.le_succ_of_le h.stored⟩

/-- Copies that replace in order keep every change. -/
theorem Kept.step {worker : ι} {change : Nat} (hsound : desk.Sound) {act : Act ι}
    (horder : desk.InOrder act) (h : desk.Kept worker change) :
    (desk.step act).Kept worker change := by
  generalize hafter : desk.step act = after
  have hmoves : Moves desk act after := hafter ▸ moves_step desk act
  cases hmoves with
  | @changed other hidle =>
    refine h.imp_right fun hphase => ?_
    have hne : worker ≠ other := by
      rintro rfl
      simp [hidle] at hphase
    simpa [Function.update_of_ne hne] using hphase
  | @copied other found hchanged =>
    refine h.imp_right fun hphase => ?_
    by_cases hworker : worker = other
    · subst hworker
      have hfound : found = change := by simpa [hchanged] using hphase
      exact Or.inr ⟨desk.now, by simp [hfound]⟩
    · simpa [Function.update_of_ne hworker] using hphase
  | @replaced other found copy hcopied =>
    have hforward : desk.stored ≤ copy := horder found copy hcopied
    rcases h with hstored | hphase
    · exact Or.inl (Nat.le_trans hstored hforward)
    · by_cases hworker : worker = other
      · subst hworker
        have hfound : found = change := by simpa [hcopied] using hphase
        have hcopy : Phase.Timely desk.now (.copied found copy) := hcopied ▸ hsound.timely worker
        exact Or.inl (hfound ▸ hcopy.1)
      · exact Or.inr (by simpa [Function.update_of_ne hworker] using hphase)
  | rested => exact h

/-! Whole runs. -/

theorem kept_run {worker : ι} {change : Nat} (hsound : desk.Sound) (h : desk.Kept worker change)
    (acts : List (Act ι)) (horder : Execution.EachStep step InOrder desk acts) :
    (Execution.run step desk acts).Kept worker change := by
  induction acts generalizing desk with
  | nil => exact h
  | cons act acts ih =>
    rw [Execution.eachStep_cons] at horder
    exact ih (hsound.step act) (h.step hsound horder.1) horder.2

theorem sound_run (acts : List (Act ι)) : (Execution.run step {} acts : Desk ι).Sound :=
  Execution.invariant step (fun _ act h => h.step act) sound_start acts

theorem now_run (acts : List (Act ι)) (desk : Desk ι) :
    (Execution.run step desk acts).now = desk.now + acts.length := by
  induction acts generalizing desk with
  | nil => rfl
  | cons act acts ih =>
    rw [Execution.run_cons, ih, now_step, List.length_cons]
    omega

/-- When copies replace in order, the copy in the store was taken at or after
each change whose worker is done with it. -/
theorem change_le_stored {worker : ι} {before later : List (Act ι)}
    (horder : Execution.EachStep step InOrder {} (before ++ .change worker :: later))
    (hidle : (Execution.run step {} before).phase worker = .idle)
    (hdone : (Execution.run step {} (before ++ .change worker :: later)).phase worker = .idle) :
    before.length + 1 ≤ (Execution.run step {} (before ++ .change worker :: later)).stored := by
  have hsound := sound_run before
  have hkept : ((Execution.run step {} before).step (.change worker)).Kept worker
      (before.length + 1) := by
    refine Or.inr (Or.inl ?_)
    simp [step, hidle, now_run]
  rw [Execution.run_append, Execution.run_cons] at hdone ⊢
  have hlater := kept_run (hsound.step (.change worker)) hkept later ?_
  · rcases hlater with hstored | hphase
    · exact hstored
    · simp [hdone] at hphase
  · intro seen act hseen
    have hinitial := horder (before ++ .change worker :: seen) act
      (by simpa using hseen)
    simpa [Execution.run_append] using hinitial

end Desk

end CopyReplace
