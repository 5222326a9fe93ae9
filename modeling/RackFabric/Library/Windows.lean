import Mathlib.Algebra.Order.Group.Defs
import Mathlib.Tactic.Common

/-! Windows of time with a start and a length of their own, and the window that is
made of the later start and the shorter length of two. -/
namespace Windows

structure Window (τ : Type) where
  start : τ
  length : τ

variable {τ : Type} [AddCommGroup τ] [LinearOrder τ]

namespace Window

def last (window : Window τ) : τ := window.start + window.length

def Covers (window : Window τ) (time : τ) : Prop :=
  window.start ≤ time ∧ time ≤ window.last

def combine (first second : Window τ) : Window τ where
  start := max first.start second.start
  length := min first.length second.length

/-- The first window opens after the second and closes after it, before the end of time. -/
structure Outlasts (top : τ) (first second : Window τ) : Prop where
  opens : second.start < first.start
  closes : second.last < first.last
  remains : second.last < top

variable {first second : Window τ} {now top time : τ}

omit [AddCommGroup τ] in
theorem combine_comm (first second : Window τ) : first.combine second = second.combine first := by
  simp only [combine, max_comm, min_comm]

variable [IsOrderedAddMonoid τ]

theorem last_combine_of_start (h : second.start ≤ first.start) :
    (first.combine second).last ≤ first.last := by
  simp only [last, combine, max_eq_left h]
  exact add_le_add_right (min_le_left _ _) _

/-- A time that both windows cover is covered by their combination. -/
theorem combine_covers (hfirst : first.Covers time) (hsecond : second.Covers time) :
    (first.combine second).Covers time := by
  refine ⟨max_le hfirst.1 hsecond.1, ?_⟩
  unfold last combine
  rcases min_choice first.length second.length with hmin | hmin
  · rw [hmin]
    exact hfirst.2.trans (add_le_add_left (le_max_left _ _) _)
  · rw [hmin]
    exact hsecond.2.trans (add_le_add_left (le_max_right _ _) _)

/-- Once both windows are open, their combination closes no later than one that the
other does not outlast. -/
theorem covers_of_combine (hfirst : first.Covers now) (hnow : now ≤ time) (htop : time ≤ top)
    (hnot : ¬ Outlasts top second first) (h : (first.combine second).Covers time) :
    first.Covers time := by
  refine ⟨hfirst.1.trans hnow, ?_⟩
  by_cases hopens : first.start < second.start
  · by_cases hcloses : first.last < second.last
    · exact htop.trans (not_lt.mp fun hremains => hnot ⟨hopens, hcloses, hremains⟩)
    · rw [combine_comm] at h
      exact h.2.trans ((last_combine_of_start hopens.le).trans (not_lt.mp hcloses))
  · exact h.2.trans (last_combine_of_start (not_lt.mp hopens))

/-- After a window that the other outlasts, their combination is still open. -/
theorem Outlasts.combine_covers (h : Outlasts top first second) (hfirst : first.Covers now)
    (hsecond : second.Covers now) (hnow : now ≤ top) :
    ∃ time, now ≤ time ∧ time ≤ top ∧ (first.combine second).Covers time ∧
      ¬ second.Covers time := by
  have hlater : second.last < (first.combine second).last := by
    simp only [last, combine, max_eq_left h.opens.le]
    rcases min_choice first.length second.length with hmin | hmin
    · rw [hmin]
      exact h.closes
    · rw [hmin]
      exact add_lt_add_left h.opens _
  have hopen : now ≤ (first.combine second).last := hsecond.2.trans hlater.le
  refine ⟨min (first.combine second).last top, le_min hopen hnow, min_le_right _ _, ⟨?_, ?_⟩, ?_⟩
  · exact (max_le hfirst.1 hsecond.1).trans (le_min hopen hnow)
  · exact min_le_left _ _
  · rintro ⟨-, hclosed⟩
    exact absurd hclosed (not_le.mpr (lt_min hlater h.remains))

/-- From a time that both windows cover, their combination is open exactly as long as both,
when neither outlasts the other. -/
theorem combine_covers_iff (hfirst : first.Covers now) (hsecond : second.Covers now)
    (hnow : now ≤ top) :
    (∀ time, now ≤ time → time ≤ top →
        ((first.combine second).Covers time ↔ first.Covers time ∧ second.Covers time)) ↔
      ¬ Outlasts top first second ∧ ¬ Outlasts top second first := by
  constructor
  · intro h
    constructor
    · intro houtlasts
      obtain ⟨time, hlater, htop, hopen, hclosed⟩ := houtlasts.combine_covers hfirst hsecond hnow
      exact hclosed ((h time hlater htop).mp hopen).2
    · intro houtlasts
      obtain ⟨time, hlater, htop, hopen, hclosed⟩ := houtlasts.combine_covers hsecond hfirst hnow
      rw [combine_comm] at hopen
      exact hclosed ((h time hlater htop).mp hopen).1
  · rintro ⟨hnot, hnot'⟩ time hlater htop
    constructor
    · intro hopen
      refine ⟨covers_of_combine hfirst hlater htop hnot' hopen, ?_⟩
      rw [combine_comm] at hopen
      exact covers_of_combine hsecond hlater htop hnot hopen
    · rintro ⟨hopen, hopen'⟩
      exact Window.combine_covers hopen hopen'

end Window

end Windows
