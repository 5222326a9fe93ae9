import Mathlib.Data.BitVec
import Mathlib.Data.List.Basic
import Mathlib.Tactic.Common

/-! Checksums driven by a table, one byte at a time, and the bursts of errors they
tell apart. -/
namespace Checksum

variable {α : Type}

/-- The lists have one length and differ only inside a window of `width` entries. -/
def DifferWithin (width : Nat) (left right : List α) : Prop :=
  left.length = right.length ∧
    ∃ start, ∀ i, i < start ∨ start + width ≤ i → left[i]? = right[i]?

namespace DifferWithin
variable {width : Nat} {left right : List α}

theorem take (h : DifferWithin width left right) (count : Nat) :
    DifferWithin width (left.take count) (right.take count) := by
  obtain ⟨hlength, start, hsame⟩ := h
  constructor
  · rw [List.length_take, List.length_take, hlength]
  · refine ⟨start, fun i hi => ?_⟩
    rw [List.getElem?_take, List.getElem?_take, hsame i hi]

theorem map {β : Type} (h : DifferWithin width left right) (f : α → β) :
    DifferWithin width (left.map f) (right.map f) := by
  obtain ⟨hlength, start, hsame⟩ := h
  constructor
  · rw [List.length_map, List.length_map, hlength]
  · refine ⟨start, fun i hi => ?_⟩
    rw [List.getElem?_map, List.getElem?_map, hsame i hi]

/-- Two places farther apart than the window are not both changed. -/
theorem prefix_or_suffix (h : DifferWithin width left right) (first second : Nat)
    (hapart : first + width ≤ second + 1) :
    left.take first = right.take first ∨ left.drop second = right.drop second := by
  obtain ⟨hlength, start, hsame⟩ := h
  by_cases hstart : first ≤ start
  · left
    apply List.ext_getElem?
    intro i
    rw [List.getElem?_take, List.getElem?_take]
    split
    · exact hsame i (by omega)
    · rfl
  · right
    apply List.ext_getElem?
    intro i
    rw [List.getElem?_drop, List.getElem?_drop]
    exact hsame _ (by omega)

theorem of_append {here there : List α} (hlength : here.length = there.length)
    (hshort : here.length ≤ width) (before after : List α) :
    DifferWithin width (before ++ (here ++ after)) (before ++ (there ++ after)) := by
  refine ⟨by simp [hlength], before.length, fun i hi => ?_⟩
  cases hi with
  | inl hbefore => rw [List.getElem?_append_left hbefore, List.getElem?_append_left hbefore]
  | inr hafter =>
    rw [List.getElem?_append_right (by omega), List.getElem?_append_right (by omega),
      List.getElem?_append_right (by omega), List.getElem?_append_right (by omega), hlength]

/-- What precedes the window, the window, and what follows it. -/
theorem split (h : DifferWithin width left right) :
    ∃ before here there after, left = before ++ (here ++ after) ∧
      right = before ++ (there ++ after) ∧ here.length = there.length ∧
      here.length ≤ width := by
  obtain ⟨hlength, start, hsame⟩ := h
  have hbefore : left.take start = right.take start := by
    apply List.ext_getElem?
    intro i
    rw [List.getElem?_take, List.getElem?_take]
    split
    · exact hsame i (by omega)
    · rfl
  have hafter : left.drop (start + width) = right.drop (start + width) := by
    apply List.ext_getElem?
    intro i
    rw [List.getElem?_drop, List.getElem?_drop]
    exact hsame _ (by omega)
  refine ⟨left.take start, (left.drop start).take width, (right.drop start).take width,
    left.drop (start + width), ?_, ?_, ?_, ?_⟩
  · rw [← List.drop_drop, List.take_append_drop, List.take_append_drop]
  · rw [hbefore, hafter, ← List.drop_drop, List.take_append_drop, List.take_append_drop]
  · simp [hlength]
  · simp only [List.length_take]
    omega

end DifferWithin

section
variable {w : Nat} (table : BitVec 8 → BitVec w)

def feed (register : BitVec w) (byte : BitVec 8) : BitVec w :=
  table (register.setWidth 8 ^^^ byte) ^^^ (register >>> 8)

def run (register : BitVec w) (bytes : List (BitVec 8)) : BitVec w :=
  bytes.foldl (feed table) register

/-- The entries of the table differ in their upper bytes. -/
def Separating : Prop :=
  ∀ ⦃left right⦄, table left >>> (w - 8) = table right >>> (w - 8) → left = right

variable {table} {first second : BitVec w}

/-- The upper byte of the register is that of the entry it was made with. -/
theorem feed_upper (hw : 8 ≤ w) (register : BitVec w) (byte : BitVec 8) :
    feed table register byte >>> (w - 8) =
      table (register.setWidth 8 ^^^ byte) >>> (w - 8) := by
  have hshifted : register >>> (8 + (w - 8)) = 0#w := by
    apply BitVec.ushiftRight_eq_zero
    omega
  rw [feed, BitVec.ushiftRight_xor_distrib, ← BitVec.shiftRight_add, hshifted, BitVec.xor_zero]

/-- Registers that agree above their last `lost` bits came of the same entry, and
agreed above the eight bits more that it took. -/
theorem feed_back (hseparating : Separating table) {lost : Nat} (hlost : lost + 8 ≤ w)
    {byte other : BitVec 8}
    (h : feed table first byte >>> lost = feed table second other >>> lost) :
    first.setWidth 8 ^^^ byte = second.setWidth 8 ^^^ other ∧
      first >>> (lost + 8) = second >>> (lost + 8) := by
  have hupper : feed table first byte >>> (w - 8) = feed table second other >>> (w - 8) := by
    have hshift : lost + (w - 8 - lost) = w - 8 := by omega
    rw [← hshift, BitVec.shiftRight_add, h, BitVec.shiftRight_add]
  rw [feed_upper (by omega), feed_upper (by omega)] at hupper
  have hentry := hseparating hupper
  have hrest : first >>> 8 >>> lost = second >>> 8 >>> lost := by
    unfold feed at h
    rw [hentry, BitVec.ushiftRight_xor_distrib, BitVec.ushiftRight_xor_distrib] at h
    exact (BitVec.xor_right_inj _).mp h
  rw [← BitVec.shiftRight_add, ← BitVec.shiftRight_add, Nat.add_comm 8 lost] at hrest
  exact ⟨hentry, hrest⟩

/-- The lower byte and the bits above it make up the register. -/
theorem register_ext (hlow : first.setWidth 8 = second.setWidth 8)
    (hhigh : first >>> 8 = second >>> 8) : first = second := by
  apply BitVec.eq_of_getLsbD_eq
  intro i hi
  by_cases hbyte : i < 8
  · have hbit := congrArg (BitVec.getLsbD · i) hlow
    simpa [BitVec.getLsbD_setWidth, hbyte] using hbit
  · have hbit := congrArg (BitVec.getLsbD · (i - 8)) hhigh
    simpa [BitVec.getLsbD_ushiftRight, show 8 + (i - 8) = i by omega] using hbit

/-- A byte keeps different registers apart. -/
theorem feed_injective (hseparating : Separating table) (hw : 8 ≤ w) {byte : BitVec 8}
    (h : feed table first byte = feed table second byte) : first = second := by
  have hback := @feed_back w table first second hseparating 0 (by omega) byte byte (by rw [h])
  exact register_ext ((BitVec.xor_left_inj byte).mp hback.1) hback.2

theorem run_injective (hseparating : Separating table) (hw : 8 ≤ w) (bytes : List (BitVec 8))
    (h : run table first bytes = run table second bytes) : first = second := by
  induction bytes generalizing first second with
  | nil => exact h
  | cons byte rest ih => exact feed_injective hseparating hw (ih h)

theorem run_append (register : BitVec w) (before after : List (BitVec 8)) :
    run table register (before ++ after) = run table (run table register before) after :=
  List.foldl_append

/-- Runs of at most `w` bits are known from the register that they end in. -/
theorem run_window (hseparating : Separating table) {register : BitVec w} :
    ∀ (here there : List (BitVec 8)) (lost : Nat), here.length = there.length →
      lost + 8 * here.length ≤ w →
      run table register here >>> lost = run table register there >>> lost → here = there := by
  -- The last byte is recovered first: it alone decides the upper bits.
  intro here
  induction here using List.reverseRecOn with
  | nil =>
    intro there lost hlength _ _
    exact (List.eq_nil_of_length_eq_zero hlength.symm).symm
  | append_singleton rest byte ih =>
    intro there lost hlength hbits hsame
    rcases List.eq_nil_or_concat there with rfl | ⟨others, other, rfl⟩
    · simp at hlength
    · simp only [List.concat_eq_append] at hlength hsame ⊢
      simp only [List.length_append, List.length_singleton] at hlength hbits
      rw [run_append, run_append] at hsame
      obtain ⟨hentry, hbefore⟩ := feed_back hseparating (by omega) hsame
      have hrest := ih others (lost + 8) (by omega) (by omega) hbefore
      rw [hrest] at hentry ⊢
      rw [(BitVec.xor_right_inj _).mp hentry]

/-- Texts that differ in a burst no longer than the register leave different registers. -/
theorem run_burst (hseparating : Separating table) (hw : 8 ≤ w) {width : Nat}
    (hwidth : 8 * width ≤ w) {register : BitVec w} {left right : List (BitVec 8)}
    (hdiffer : DifferWithin width left right)
    (h : run table register left = run table register right) : left = right := by
  obtain ⟨before, here, there, after, rfl, rfl, hlength, hshort⟩ := hdiffer.split
  rw [run_append, run_append, run_append, run_append] at h
  have hwindow := run_injective hseparating hw after h
  rw [run_window hseparating here there 0 hlength (by omega) (by rw [hwindow])]

/-! The register written behind the bytes that it was made of. -/

/-- The lower bytes of a register, the lowest first. -/
def spell : Nat → BitVec w → List (BitVec 8)
  | 0, _ => []
  | count + 1, value => value.setWidth 8 :: spell count (value >>> 8)

@[simp] theorem length_spell (count : Nat) (value : BitVec w) :
    (spell count value).length = count := by
  induction count generalizing value with
  | zero => rfl
  | succ count ih => rw [spell, List.length_cons, ih]

/-- A byte of a value is taken in with what is left of the value: only the difference
between register and value counts. -/
theorem feed_spelled (register value : BitVec w) :
    feed table register (value.setWidth 8) ^^^ (value >>> 8) =
      feed table (register ^^^ value) 0#8 := by
  unfold feed
  rw [BitVec.xor_zero, BitVec.ushiftRight_xor_distrib, BitVec.xor_assoc]
  congr 2
  ext i hi
  simp

theorem run_spelled (count : Nat) (register value : BitVec w) :
    run table register (spell count value) ^^^ (value >>> (8 * count)) =
      run table (register ^^^ value) (List.replicate count 0#8) := by
  induction count generalizing register value with
  | zero => simp [spell, run]
  | succ count ih =>
    have hstep := ih (feed table register (value.setWidth 8)) (value >>> 8)
    rw [feed_spelled, ← BitVec.shiftRight_add] at hstep
    rw [show 8 * (count + 1) = 8 + 8 * count by omega]
    exact hstep

/-- A register followed by its own bytes, inverted or not, leaves one and the same residue. -/
theorem run_residue {count : Nat} (hcount : w ≤ 8 * count) (mask : BitVec w)
    (register : BitVec w) :
    run table register (spell count (register ^^^ mask)) =
      run table mask (List.replicate count 0#8) := by
  have hspelled := @run_spelled w table count register (register ^^^ mask)
  rw [BitVec.ushiftRight_eq_zero hcount, BitVec.xor_zero, ← BitVec.xor_assoc, BitVec.xor_self,
    BitVec.zero_xor] at hspelled
  exact hspelled

/-- Texts that carry their checksum behind them are told apart in the same way, wherever
the burst falls. -/
theorem run_sealed_burst (hseparating : Separating table) (hw : 8 ≤ w) {width count : Nat}
    (hwidth : 8 * width ≤ w) (hcount : w ≤ 8 * count) {register mask : BitVec w}
    {left right : List (BitVec 8)}
    (hdiffer : DifferWithin width (left ++ spell count (run table register left ^^^ mask))
      (right ++ spell count (run table register right ^^^ mask))) : left = right := by
  have hlength : left.length = right.length := by
    have hsize := hdiffer.1
    simpa using hsize
  have hsame : left ++ spell count (run table register left ^^^ mask) =
      right ++ spell count (run table register right ^^^ mask) := by
    apply run_burst hseparating hw hwidth hdiffer
    rw [run_append, run_append, run_residue hcount, run_residue hcount]
  exact (List.append_inj hsame hlength).1

end

end Checksum
