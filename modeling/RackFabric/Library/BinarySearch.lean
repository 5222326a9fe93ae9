import Mathlib.Tactic.Common
import Std.Data.ExtTreeSet

/-! The lower bound of a value in a sorted list, by halving, and the search that rests
on it. -/
namespace BinarySearch
open Std

variable {α : Type} [Ord α]

/-- The first position whose value is not less, among `count` ones from `first` on. Each
round at least halves the count. -/
def lowerBound (values : List α) (value : α) : Nat → Nat → Nat → Nat
  | 0, first, _ => first
  | fuel + 1, first, count =>
      if count = 0 then first
      else
        let step := count / 2
        if values[first + step]?.any fun found => (compare found value).isLT then
          lowerBound values value fuel (first + step + 1) (count - (step + 1))
        else lowerBound values value fuel first step

def binarySearch (values : List α) (value : α) : Bool :=
  values[lowerBound values value values.length 0 values.length]?.any fun found =>
    !(compare value found).isLT

abbrev Sorted (values : List α) : Prop :=
  values.Pairwise fun left right => compare left right = .lt

structure Parts (values : List α) (value : α) (position : Nat) : Prop where
  below : ∀ index found, values[index]? = some found → index < position →
    compare found value = .lt
  above : ∀ index found, values[index]? = some found → position ≤ index →
    compare found value ≠ .lt

/-- What is known between two rounds: only the `count` positions from `first` on are open. -/
structure Narrowed (values : List α) (value : α) (first count : Nat) : Prop where
  inside : first + count ≤ values.length
  below : ∀ index found, values[index]? = some found → index < first →
    compare found value = .lt
  above : ∀ index found, values[index]? = some found → first + count ≤ index →
    compare found value ≠ .lt

variable [TransOrd α] {values : List α} {value : α} {first count : Nat}

theorem lt_of_earlier (hsorted : Sorted values) {index later : Nat} {found other : α}
    (hfound : values[index]? = some found) (hother : values[later]? = some other)
    (hle : index ≤ later) (hlt : compare other value = .lt) : compare found value = .lt := by
  rcases Nat.eq_or_lt_of_le hle with rfl | hbefore
  · rw [hfound] at hother
    obtain rfl := Option.some.inj hother
    exact hlt
  · obtain ⟨hindex, rfl⟩ := List.getElem?_eq_some_iff.mp hfound
    obtain ⟨hlater, rfl⟩ := List.getElem?_eq_some_iff.mp hother
    have hordered := List.pairwise_iff_getElem.mp hsorted index later hindex hlater hbefore
    exact TransCmp.lt_trans hordered hlt

theorem Narrowed.right (h : Narrowed values value first count) (hsorted : Sorted values)
    {step : Nat} {found : α} (hstep : step < count) (hfound : values[first + step]? = some found)
    (hlt : compare found value = .lt) :
    Narrowed values value (first + step + 1) (count - (step + 1)) where
  inside := by
    have hinside := h.inside
    omega
  below index earlier hearlier hindex := lt_of_earlier hsorted hearlier hfound (by omega) hlt
  above index later hlater hindex := h.above index later hlater (by omega)

theorem Narrowed.left (h : Narrowed values value first count) (hsorted : Sorted values)
    {step : Nat} {found : α} (hstep : step < count) (hfound : values[first + step]? = some found)
    (hnot : compare found value ≠ .lt) : Narrowed values value first step where
  inside := by
    have hinside := h.inside
    omega
  below := h.below
  above index later hlater hindex hlt :=
    hnot (lt_of_earlier hsorted hfound hlater hindex hlt)

theorem parts_lowerBound (hsorted : Sorted values) (fuel : Nat)
    (h : Narrowed values value first count) (hfuel : count ≤ fuel) :
    Parts values value (lowerBound values value fuel first count) := by
  induction fuel generalizing first count with
  | zero =>
    obtain rfl : count = 0 := by omega
    exact ⟨h.below, h.above⟩
  | succ fuel ih =>
    unfold lowerBound
    split
    · rename_i hzero
      subst hzero
      exact ⟨h.below, h.above⟩
    · rename_i hcount
      have hstep : count / 2 < count := Nat.div_lt_self (by omega) (by omega)
      have hinside := h.inside
      have hfound : values[first + count / 2]? = some values[first + count / 2] :=
        List.getElem?_eq_getElem (by omega)
      dsimp only
      split
      · rename_i hlt
        rw [hfound, Option.any_some, Ordering.isLT_iff_eq_lt] at hlt
        exact ih (h.right hsorted hstep hfound hlt) (by omega)
      · rename_i hnot
        rw [hfound, Option.any_some, Ordering.isLT_iff_eq_lt] at hnot
        exact ih (h.left hsorted hstep hfound hnot) (by omega)

variable [LawfulEqOrd α]

/-- In a sorted list the search finds exactly the values that are there. -/
theorem binarySearch_iff (hsorted : Sorted values) :
    binarySearch values value = true ↔ value ∈ values := by
  have hparts : Parts values value (lowerBound values value values.length 0 values.length) := by
    refine parts_lowerBound hsorted _ ⟨by omega, fun _ _ _ hindex => ?_, ?_⟩ (Nat.le_refl _)
    · exact absurd hindex (Nat.not_lt_zero _)
    · intro index found hfound hindex
      obtain ⟨hbound, -⟩ := List.getElem?_eq_some_iff.mp hfound
      omega
  unfold binarySearch
  constructor
  · intro h
    obtain ⟨found, hfound, hnotLess⟩ := (Option.any_eq_true _ _).mp h
    have hnotGreater := hparts.above _ found hfound (Nat.le_refl _)
    have heq : compare found value = .eq := by
      rw [Bool.not_eq_true', ← Bool.not_eq_true, Ordering.isLT_iff_eq_lt,
        ← OrientedCmp.gt_iff_lt] at hnotLess
      cases hcompare : compare found value with
      | lt => exact absurd hcompare hnotGreater
      | eq => rfl
      | gt => exact absurd hcompare hnotLess
    exact LawfulEqCmp.compare_eq_iff_eq.mp heq ▸ List.mem_of_getElem? hfound
  · intro hmem
    obtain ⟨index, hindex⟩ := List.getElem?_of_mem hmem
    have hequal : compare value value = .eq := ReflCmp.compare_self
    have hself : compare value value ≠ .lt := by
      rw [hequal]
      exact nofun
    have hle : lowerBound values value values.length 0 values.length ≤ index :=
      Nat.le_of_not_lt fun hbelow => hself (hparts.below index value hindex hbelow)
    rcases Nat.eq_or_lt_of_le hle with heq | hlt
    · rw [heq, hindex, Option.any_some, hequal]
      rfl
    · obtain ⟨hbound, hvalue⟩ := List.getElem?_eq_some_iff.mp hindex
      have hless := List.pairwise_iff_getElem.mp hsorted _ index (Nat.lt_trans hlt hbound)
        hbound hlt
      rw [hvalue] at hless
      exact absurd hless
        (hparts.above _ _ (List.getElem?_eq_getElem (Nat.lt_trans hlt hbound)) (Nat.le_refl _))

end BinarySearch
