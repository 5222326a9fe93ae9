import Mathlib.Algebra.Order.Group.Int
import RackFabric.Library.Windows
import RackFabric.Model.Envelope

/-! When evidence is fresh, as a window of time. -/
namespace RackFabric
open Windows

namespace Observation
variable {evidence : Observation} {now later : Timestamp}

/-- There is an observation and it does not have to be published again. -/
structure Standing (evidence : Observation) : Prop where
  earned : evidence.revalidationRequired = false
  asserted : evidence.hasEvidence = true
  observed : 0 < evidence.observedAt.unixMillis.toInt

/-- A durable declaration without a lifetime. -/
def Lasting (evidence : Observation) : Prop :=
  evidence.durability = .durable ∧ evidence.ttl = 0

/-- The milliseconds for which the observation vouches, whether timestamps reach its last
one or not. -/
def window (evidence : Observation) : Window Int where
  start := evidence.observedAt.unixMillis.toInt
  length := evidence.ttl.toInt

theorem known_iff {timestamp : Timestamp} :
    timestamp.known = true ↔ 0 < timestamp.unixMillis.toInt := by
  rw [Timestamp.known, decide_eq_true_eq, Int64.lt_iff_toInt_lt]
  rfl

/-- Neither operand is negative, so the subtraction does not wrap. -/
theorem toInt_age {now observed : Int64} (hnow : 0 ≤ now.toInt) (hobserved : 0 ≤ observed.toInt) :
    (now - observed).toInt = now.toInt - observed.toInt := by
  have hnowBelow := now.toInt_lt
  have hobservedBelow := observed.toInt_lt
  rw [Int64.toInt_sub, Int.bmod_eq_of_le (by omega) (by omega)]

theorem standing_of_fresh (h : evidence.freshnessAt now = .fresh) : evidence.Standing := by
  unfold freshnessAt at h
  split at h
  · cases h
  · rename_i hearned
    split at h
    · cases h
    · rename_i hknown
      simp only [Bool.not_eq_true', not_or, Bool.not_eq_false] at hknown
      exact ⟨Bool.eq_false_iff.mpr hearned, hknown.1, known_iff.mp hknown.2⟩

/-- Evidence in good standing is fresh without end, or from its observation to its last
millisecond. -/
theorem fresh_iff_of_standing (h : evidence.Standing) :
    evidence.freshnessAt now = .fresh ↔
      evidence.Lasting ∨
        (0 < evidence.ttl.toInt ∧ evidence.window.Covers now.unixMillis.toInt) := by
  have hobserved := h.observed
  simp only [freshnessAt, h.earned, h.asserted, known_iff.mpr h.observed, Bool.false_eq_true,
    if_false, Bool.not_true, or_self]
  by_cases hlasting : evidence.durability = .durable ∧ evidence.ttl = 0
  · simp only [hlasting, and_self, if_true, true_iff]
    exact Or.inl hlasting
  · rw [if_neg hlasting, or_iff_right (show ¬ evidence.Lasting from hlasting)]
    have hzero : (0 : Int64).toInt = 0 := rfl
    by_cases hlifetime : evidence.ttl ≤ 0
    · rw [Int64.le_iff_toInt_le, hzero] at hlifetime
      simp [Int64.le_iff_toInt_le, hzero, hlifetime]
    · rw [if_neg hlifetime]
      rw [Int64.le_iff_toInt_le, hzero] at hlifetime
      by_cases hnow : now.known = true
      · have hpositive := known_iff.mp hnow
        have hage := @toInt_age now.unixMillis evidence.observedAt.unixMillis (by omega) (by omega)
        simp only [hnow, Bool.not_true, Bool.false_eq_true, if_false, Int64.lt_iff_toInt_lt,
          Int64.le_iff_toInt_le, hage, hzero, Window.Covers, window, Window.last]
        split
        · simp
          omega
        · split
          · simp
            omega
          · simp
            omega
      · have hunknown : ¬ 0 < now.unixMillis.toInt := fun hpositive => hnow (known_iff.mpr hpositive)
        simp [hnow, Window.Covers, window]
        omega

theorem fresh_iff :
    evidence.freshnessAt now = .fresh ↔
      evidence.Standing ∧ (evidence.Lasting ∨
        (0 < evidence.ttl.toInt ∧ evidence.window.Covers now.unixMillis.toInt)) := by
  constructor
  · intro h
    exact ⟨standing_of_fresh h, (fresh_iff_of_standing (standing_of_fresh h)).mp h⟩
  · rintro ⟨hstanding, hwithin⟩
    exact (fresh_iff_of_standing hstanding).mpr hwithin

theorem not_lasting_of_lifetime (h : 0 < evidence.ttl.toInt) : ¬ evidence.Lasting := by
  rintro ⟨-, hzero⟩
  simp [hzero] at h

/-- Evidence with a lifetime is fresh within its window. -/
theorem fresh_iff_covers (h : evidence.Standing) (hlifetime : 0 < evidence.ttl.toInt) :
    evidence.freshnessAt now = .fresh ↔ evidence.window.Covers now.unixMillis.toInt := by
  rw [fresh_iff_of_standing h, or_iff_right (not_lasting_of_lifetime hlifetime),
    and_iff_right hlifetime]

/-- What is fresh has a lifetime, or it needs none. -/
theorem lifetime_of_fresh (h : evidence.freshnessAt now = .fresh) (httl : evidence.ttl ≠ 0) :
    0 < evidence.ttl.toInt := by
  obtain ⟨-, hlasting | hwindow⟩ := fresh_iff.mp h
  · exact absurd hlasting.2 httl
  · exact hwindow.1

/-- What is fresh was fresh at every earlier time since its observation. -/
theorem fresh_earlier (h : evidence.freshnessAt later = .fresh)
    (hobserved : evidence.observedAt.unixMillis ≤ now.unixMillis)
    (hlater : now.unixMillis ≤ later.unixMillis) : evidence.freshnessAt now = .fresh := by
  rw [Int64.le_iff_toInt_le] at hobserved hlater
  obtain ⟨hstanding, hwithin⟩ := fresh_iff.mp h
  refine fresh_iff.mpr ⟨hstanding, ?_⟩
  cases hwithin with
  | inl hlasting => exact Or.inl hlasting
  | inr hwindow =>
    obtain ⟨hlifetime, -, hlast⟩ := hwindow
    exact Or.inr ⟨hlifetime, hobserved, hlater.trans hlast⟩

end Observation

end RackFabric
