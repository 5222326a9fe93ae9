import Mathlib.Data.Nat.Digits.Defs
import RackFabric.Properties.Sanitized

/-! Names that end in numbers: they are valid identities, and the number can be read off
their end. -/
namespace RackFabric

theorem range_of_mem_decimal {value : Nat} {byte : UInt8} (h : byte ∈ decimal value) :
    0x30 ≤ byte.toNat ∧ byte.toNat ≤ 0x39 := by
  obtain ⟨digit, hdigit, rfl⟩ := List.mem_map.mp h
  have hrange := Char.isDigit_iff_toNat.mp
    (Nat.isDigit_of_mem_toDigits (by decide) (by decide) hdigit)
  have hlow : '0'.toNat = 48 := rfl
  have hhigh : '9'.toNat = 57 := rfl
  rw [UInt8.toNat_ofNat']
  omega

theorem digit_of_mem_decimal {value : Nat} {byte : UInt8} (h : byte ∈ decimal value) :
    byte ≠ 0x2D := by
  rintro rfl
  have hrange := range_of_mem_decimal h
  simp at hrange

theorem decimal_injective {first second : Nat} (h : decimal first = decimal second) :
    first = second := by
  have hback : ∀ value, (decimal value).map (fun byte => Char.ofNat byte.toNat) =
      Nat.toDigits 10 value := by
    intro value
    rw [decimal, List.map_map]
    refine (List.map_congr_left fun digit hdigit => ?_).trans (List.map_id _)
    have hrange := Char.isDigit_iff_toNat.mp
      (Nat.isDigit_of_mem_toDigits (by decide) (by decide) hdigit)
    have hhigh : '9'.toNat = 57 := rfl
    have hbyte : (UInt8.ofNat digit.toNat).toNat = digit.toNat := by
      rw [UInt8.toNat_ofNat']
      omega
    simp [hbyte]
  have hdigits : Nat.toDigits 10 first = Nat.toDigits 10 second := by
    rw [← hback, ← hback, h]
  have hvalue := congrArg (Nat.ofDigitChars 10 · 0) hdigits
  simpa [Nat.ofDigitChars_ten_toDigits] using hvalue

def afterDash (text : Str) : Str :=
  (text.reverse.takeWhile fun byte => byte ≠ 0x2D).reverse

theorem afterDash_decimal (before : Str) (value : Nat) :
    afterDash (before ++ str "-" ++ decimal value) = decimal value := by
  have hdigits : ∀ byte ∈ (decimal value).reverse, decide (byte ≠ 0x2D) = true := by
    intro byte hbyte
    exact decide_eq_true (digit_of_mem_decimal (List.mem_reverse.mp hbyte))
  rw [afterDash, List.reverse_append, List.reverse_append, List.takeWhile_append_of_pos hdigits]
  simp [str]

theorem dashed_injective {left right : Str} {first second : Nat}
    (h : left ++ str "-" ++ decimal first = right ++ str "-" ++ decimal second) :
    left = right ∧ first = second := by
  have hdecimal := congrArg afterDash h
  rw [afterDash_decimal, afterDash_decimal] at hdecimal
  have hnumber := decimal_injective hdecimal
  rw [hnumber] at h
  exact ⟨List.append_cancel_right (List.append_cancel_right h), hnumber⟩

/-- A number that fits `std::size_t` has at most twenty digits. -/
theorem length_decimal_le {value : Nat} (h : value < 2 ^ 64) : (decimal value).length ≤ 20 := by
  rw [decimal, List.length_map]
  exact Nat.toDigits_length 10 value 20 (by decide) (h.trans (by decide))

/-- A byte that may stand anywhere in an identity. -/
def isPlain (byte : UInt8) : Bool :=
  isIdentityChar byte && byte ≠ dot

theorem isPlain_of_mem_decimal {value : Nat} {byte : UInt8} (h : byte ∈ decimal value) :
    isPlain byte = true := by
  have hevery : ∀ number : Fin 256, 0x30 ≤ number.val ∧ number.val ≤ 0x39 →
      isPlain (UInt8.ofFin number) = true := by decide +kernel
  exact hevery byte.toFin (range_of_mem_decimal h)

theorem validateIdentity_of_plain {text : Str} (hne : text ≠ [])
    (hshort : text.length ≤ kMaxIdentityLength) (hplain : ∀ byte ∈ text, isPlain byte = true) :
    (validateIdentity text).ok = true := by
  have hnodot : dot ∉ text := fun hmem => absurd (hplain dot hmem) (by decide)
  refine (validateIdentity_iff hne hshort (fun byte hbyte => ?_) ?_ ?_).mpr
    ((findDotDot_eq_none_iff text).mpr fun before after hdots => hnodot (by simp [hdots]))
  · have hbyte := hplain byte hbyte
    simp only [isPlain, Bool.and_eq_true] at hbyte
    exact hbyte.1
  · rintro rfl
    exact hnodot (by decide)
  · rintro rfl
    exact hnodot (by decide)

end RackFabric
