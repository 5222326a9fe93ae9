import Mathlib.Tactic.Common

/-! Enumerations whose values are numbered from zero and fit in a byte. -/
namespace Enumeration
open Std

/-- A lawful order on the images decides their equality. -/
theorem eq_of_compareOn {α β : Type} [Ord β] [LawfulEqOrd β] {f : α → β} {left right : α}
    (h : compareOn f left right = .eq) : f left = f right := by
  change compare (f left) (f right) = .eq at h
  exact LawfulEqCmp.eq_of_compare h

class Enum8 (α : Type) [DecidableEq α] where
  /-- The values in the order of their numbers. -/
  values : List α
  complete : ∀ value, value ∈ values := by intro value; cases value <;> decide
  distinct : values.Nodup := by decide
  small : values.length ≤ 256 := by decide

variable {α : Type} [DecidableEq α] [Enum8 α]

def toUInt8 (value : α) : UInt8 :=
  UInt8.ofNat (Enum8.values.idxOf value)

def ofNat? (number : Nat) : Option α :=
  Enum8.values[number]?

theorem idxOf_lt (value : α) : Enum8.values.idxOf value < 256 :=
  Nat.lt_of_lt_of_le (List.idxOf_lt_length_of_mem (Enum8.complete value)) Enum8.small

theorem toNat_toUInt8 (value : α) :
    (toUInt8 value).toNat = Enum8.values.idxOf value := by
  simp [toUInt8, Nat.mod_eq_of_lt (idxOf_lt value)]

@[simp] theorem ofNat?_toUInt8 (value : α) : ofNat? (toUInt8 value).toNat = some value := by
  have hlt := List.idxOf_lt_length_of_mem (Enum8.complete value)
  rw [toNat_toUInt8, ofNat?, List.getElem?_eq_getElem hlt, List.getElem_idxOf]

theorem toNat_toUInt8_of_ofNat? {number : Nat} {value : α} (h : ofNat? number = some value) :
    (toUInt8 value).toNat = number := by
  obtain ⟨hlt, rfl⟩ := List.getElem?_eq_some_iff.mp h
  rw [toNat_toUInt8]
  exact Enum8.distinct.idxOf_getElem number hlt

theorem toUInt8_injective {left right : α} (h : toUInt8 left = toUInt8 right) : left = right := by
  have hleft := ofNat?_toUInt8 left
  rw [h, ofNat?_toUInt8] at hleft
  exact (Option.some.inj hleft).symm

/-- The order of the numbers, lawful because distinct values have distinct numbers. -/
def byNumber : α → α → Ordering :=
  compareOn toUInt8

instance : TransCmp (byNumber : α → α → Ordering) :=
  inferInstanceAs (TransCmp (compareOn toUInt8))

instance : LawfulEqCmp (byNumber : α → α → Ordering) where
  eq_of_compare h := toUInt8_injective (eq_of_compareOn h)

end Enumeration
