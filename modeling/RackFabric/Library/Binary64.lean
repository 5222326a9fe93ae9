import Mathlib

/-! Binary floating-point numbers of double precision: their differences do not
overflow while neither operand is negative. -/
namespace Binary64
open Float.Model UnpackedFloat

/-- Zero, or a number whose exponent the format can hold. -/
inductive Fits : UnpackedFloat → Prop
  | zero (sign : Sign) : Fits (.zero sign)
  | finite {sign : Sign} {mantissa : Nat} {exponent : Int} {positive : 0 < mantissa}
      (hexponent : exponent ≤ 971) : Fits (.finite sign mantissa exponent positive)

theorem targetExponent_eq (total : Int) :
    Format.binary64.targetExponent total = max (total - 53) (-1074) := rfl

/-! Packing and unpacking. -/

theorem isFinite_unpack (bits : BitVec Format.binary64.numBits) :
    (UnpackedFloat.unpack Format.binary64 bits).isFinite = true ↔
      @unpackExponent Format.binary64 bits ≠ -1#11 := by
  unfold UnpackedFloat.unpack
  simp only
  split
  · rename_i hones
    refine iff_of_false ?_ fun hne => hne hones
    split <;> exact Bool.false_ne_true
  · rename_i hones
    refine iff_of_true ?_ hones
    split
    · split <;> rfl
    · rfl

/-- What fits is still a number when it is packed. -/
theorem isFinite_pack {number : UnpackedFloat} (h : Fits number) :
    (Float.Model.pack number).isFinite = true := by
  change (UnpackedFloat.unpack Format.binary64
    (UnpackedFloat.pack Format.binary64 number)).isFinite = true
  rw [isFinite_unpack]
  cases h with
  | zero sign => simp [UnpackedFloat.pack, packedZero]
  | @finite sign mantissa exponent positive hexponent =>
    have hbiased : (exponent + Format.binary64.exponentBias +
        Format.binary64.mantissaBitsWithoutImplicit).toNat < 2047 := by
      have hbias : Format.binary64.exponentBias = 1023 := rfl
      have hbits : Format.binary64.mantissaBitsWithoutImplicit = 52 := rfl
      omega
    have hfits : ¬ 2 ^ Format.binary64.exponentBits ≤ (exponent + Format.binary64.exponentBias +
        Format.binary64.mantissaBitsWithoutImplicit).toNat + 1 := by
      have hcapacity : 2 ^ Format.binary64.exponentBits = 2048 := rfl
      omega
    simp only [UnpackedFloat.pack, hfits, if_false]
    split
    · rw [unpackExponent_packComponents]
      intro hones
      have hvalue := congrArg BitVec.toNat hones
      rw [BitVec.toNat_ofNat, Nat.mod_eq_of_lt (Nat.lt_trans hbiased (by decide))] at hvalue
      exact absurd hvalue (Nat.ne_of_lt hbiased)
    · rw [unpackExponent_packComponents]
      decide

/-- A number that was packed has a mantissa and an exponent of the format. -/
theorem unpack_bounds {bits : BitVec Format.binary64.numBits} {sign : Sign} {mantissa : Nat}
    {exponent : Int} {positive : 0 < mantissa}
    (h : UnpackedFloat.unpack Format.binary64 bits = .finite sign mantissa exponent positive) :
    mantissa < 2 ^ 53 ∧ exponent ≤ 971 := by
  have hmantissa : (@unpackMantissa Format.binary64 bits).toNat < 2 ^ 52 := BitVec.isLt _
  have hexponent : (@unpackExponent Format.binary64 bits).toNat < 2048 := BitVec.isLt _
  unfold UnpackedFloat.unpack at h
  simp only at h
  split at h
  · split at h <;> cases h
  · rename_i hones
    split at h
    · rename_i hzero
      split at h
      · cases h
      · cases h
        rw [hzero]
        refine ⟨by omega, by decide⟩
    · cases h
      refine ⟨BitVec.isLt _, ?_⟩
      have hbelow : (@unpackExponent Format.binary64 bits).toNat ≠ 2047 := by
        intro hvalue
        apply hones
        apply BitVec.eq_of_toNat_eq
        exact hvalue
      have hbias : Format.binary64.exponentBias = 1023 := rfl
      have hbits : Format.binary64.mantissaBitsWithoutImplicit = 52 := rfl
      omega

theorem fits_unpack {bits : BitVec Format.binary64.numBits}
    (h : (UnpackedFloat.unpack Format.binary64 bits).isFinite = true) :
    Fits (UnpackedFloat.unpack Format.binary64 bits) := by
  cases hnumber : UnpackedFloat.unpack Format.binary64 bits with
  | zero sign => exact .zero sign
  | finite sign mantissa exponent positive => exact .finite (unpack_bounds hnumber).2
  | infinity sign => simp [hnumber, UnpackedFloat.isFinite] at h
  | notANumber => simp [hnumber, UnpackedFloat.isFinite] at h

/-! Rounding. -/

theorem mantissa_shiftRight (extended : ExtendedMantissa) (count : Nat) :
    (extended >>> count).mantissa = extended.mantissa / 2 ^ count := by
  change (count.repeat ExtendedMantissa.shiftRightOne extended).mantissa = _
  induction count with
  | zero => simp [Nat.repeat]
  | succ count ih =>
    simp only [Nat.repeat, ExtendedMantissa.shiftRightOne, ih, Nat.div_div_eq_div_mul, Nat.pow_succ]

/-- No bit is lost when only zeros are shifted out. -/
theorem exact_shiftRight {mantissa count : Nat} (h : 2 ^ count ∣ mantissa) :
    (⟨mantissa, false, false⟩ : ExtendedMantissa) >>> count =
      ⟨mantissa / 2 ^ count, false, false⟩ := by
  change count.repeat ExtendedMantissa.shiftRightOne _ = _
  induction count with
  | zero => simp [Nat.repeat]
  | succ count ih =>
    have hdivides : 2 ^ count ∣ mantissa := Nat.dvd_trans (Nat.pow_dvd_pow 2 (Nat.le_succ count)) h
    have heven : mantissa / 2 ^ count % 2 = 0 := by
      obtain ⟨quotient, rfl⟩ := h
      rw [Nat.pow_succ, Nat.mul_assoc, Nat.mul_div_cancel_left _ (Nat.two_pow_pos count)]
      exact Nat.mul_mod_right 2 quotient
    rw [Nat.repeat, ih hdivides, ExtendedMantissa.shiftRightOne]
    simp [heven, Nat.div_div_eq_div_mul, Nat.pow_succ]

theorem roundedMantissa_le (extended : ExtendedMantissa) :
    extended.roundedMantissa ≤ extended.mantissa + 1 := by
  obtain ⟨mantissa, roundBit, stickyBit⟩ := extended
  cases roundBit <;> cases stickyBit <;>
    simp only [ExtendedMantissa.roundedMantissa, ExtendedMantissa.accuracy,
      Accuracy.roundToNearestEven] <;> omega

/-- Rounding does not pass a number that needs no rounding. -/
theorem roundedMantissa_le_of_le {mantissa count bound : Nat} (h : mantissa ≤ bound * 2 ^ count) :
    ((⟨mantissa, false, false⟩ : ExtendedMantissa) >>> count).roundedMantissa ≤ bound := by
  have hpositive := Nat.two_pow_pos count
  have hquotient : mantissa / 2 ^ count ≤ bound := Nat.div_le_of_le_mul (by rwa [Nat.mul_comm])
  by_cases hdivides : 2 ^ count ∣ mantissa
  · rw [exact_shiftRight hdivides]
    exact hquotient
  · have hstrict : mantissa / 2 ^ count < bound := by
      apply Nat.lt_of_le_of_ne hquotient
      intro hsame
      apply hdivides
      have hfloor := Nat.div_mul_le_self mantissa (2 ^ count)
      rw [hsame] at hfloor
      exact ⟨bound, (Nat.le_antisymm h hfloor).trans (Nat.mul_comm ..)⟩
    have hrounded := roundedMantissa_le
      ((⟨mantissa, false, false⟩ : ExtendedMantissa) >>> count)
    simp only [mantissa_shiftRight] at hrounded
    omega

/-- A nonzero mantissa and what it rounds to have the same target, so the exponent of the
result is that of the target or one more. -/
theorem fits_roundWithAccuracy {sign : Sign} {mantissa : Nat} {exponent target : Int}
    (htarget : Format.binary64.targetExponent (totalExponent mantissa exponent) = target)
    (hlow : exponent ≤ target)
    (hrounded : ((⟨mantissa, false, false⟩ : ExtendedMantissa) >>>
      (target - exponent).toNat).roundedMantissa.log2 + 1 + target - 53 ≤ 971)
    (hbelow : target ≤ 971) :
    Fits (roundWithAccuracy Format.binary64 sign mantissa exponent .exact) := by
  unfold roundWithAccuracy shiftToTargetExponent shiftToExponent
  simp only [htarget, ExtendedMantissa.ofMantissaAndAccuracy]
  split
  · exact .zero sign
  · apply Fits.finite
    rw [targetExponent_eq, totalExponent]
    omega

theorem log2_shiftLeft {mantissa : Nat} (h : 0 < mantissa) (count : Nat) :
    (mantissa <<< count).log2 = mantissa.log2 + count := by
  induction count with
  | zero => rfl
  | succ count ih =>
    have hpositive : 0 < mantissa <<< count := by
      rw [Nat.shiftLeft_eq]
      exact Nat.mul_pos h (Nat.two_pow_pos count)
    rw [Nat.shiftLeft_succ, Nat.log2_two_mul (Nat.ne_of_gt hpositive), ih, Nat.add_assoc]

theorem log2_lt_of_lt {number count : Nat} (h : number < 2 ^ count) (hcount : 0 < count) :
    number.log2 < count := by
  by_cases hzero : number = 0
  · simpa [hzero] using hcount
  · exact (Nat.log2_lt hzero).mpr h

/-- A number that is not above the largest one of the format rounds to a number of it. -/
theorem fits_round {sign : Sign} {mantissa : Nat} {exponent : Int} (hpositive : 0 < mantissa)
    (hexponent : exponent ≤ 971) (h : mantissa ≤ (2 ^ 53 - 1) * 2 ^ (971 - exponent).toNat) :
    Fits (UnpackedFloat.round Format.binary64 sign mantissa exponent) := by
  have hlog : mantissa.log2 < 53 + (971 - exponent).toNat := by
    apply log2_lt_of_lt _ (by omega)
    rw [Nat.pow_add]
    exact Nat.lt_of_le_of_lt h (Nat.mul_lt_mul_of_pos_right (by decide) (Nat.two_pow_pos _))
  unfold UnpackedFloat.round decreaseExponent
  simp only [targetExponent_eq, totalExponent]
  generalize htarget : max ((mantissa.log2 : Int) + 1 + exponent - 53) (-1074) = target
  generalize hraised : (exponent - target).toNat = raised
  have hlogRaised := log2_shiftLeft hpositive raised
  obtain ⟨shift, hshift⟩ : ∃ shift : Nat, target - (exponent - raised) = shift :=
    ⟨(target - (exponent - raised)).toNat, by omega⟩
  refine @fits_roundWithAccuracy _ _ _ target ?_ (by omega) ?_ (by omega)
  · rw [targetExponent_eq, totalExponent, hlogRaised]
    omega
  · rw [hshift, Int.toNat_natCast]
    by_cases htop : target = 971
    · -- Nothing is shifted to the left, and rounding does not carry into a new bit.
      have hkept : raised = 0 := by omega
      have hsame : shift = (971 - exponent).toNat := by omega
      have hrounded := @roundedMantissa_le_of_le (mantissa <<< raised) shift (2 ^ 53 - 1) (by
        rw [hkept, hsame]
        exact h)
      have hbits := @log2_lt_of_lt _ 53 (Nat.lt_of_le_of_lt hrounded (by decide)) (by decide)
      omega
    · have hraisedBelow : mantissa <<< raised ≤ 2 ^ 53 * 2 ^ shift := by
        rw [← Nat.pow_add]
        have hself := @Nat.lt_log2_self (mantissa <<< raised)
        rw [hlogRaised] at hself
        exact Nat.le_of_lt (Nat.lt_of_lt_of_le hself (Nat.pow_le_pow_right (by decide) (by omega)))
      have hrounded := roundedMantissa_le_of_le hraisedBelow
      have hbits := @log2_lt_of_lt _ 54 (Nat.lt_of_le_of_lt hrounded (by decide)) (by decide)
      omega

/-! Subtraction. -/

def Nonnegative (number : UnpackedFloat) : Prop :=
  (∃ sign, number = .zero sign) ∨
    ∃ mantissa exponent positive, number = .finite .positive mantissa exponent positive

theorem shiftLeft_le {mantissa : Nat} {exponent : Int} (lower : Int) (hmantissa : mantissa < 2 ^ 53)
    (hexponent : exponent ≤ 971) :
    mantissa <<< (exponent - lower).toNat ≤ (2 ^ 53 - 1) * 2 ^ (971 - lower).toNat := by
  rw [Nat.shiftLeft_eq]
  apply Nat.mul_le_mul (by omega)
  exact Nat.pow_le_pow_right (by decide) (by omega)

theorem fits_normalize {mantissa exponent : Int} {zeroSign : Sign} (hexponent : exponent ≤ 971)
    (h : mantissa.natAbs ≤ (2 ^ 53 - 1) * 2 ^ (971 - exponent).toNat) :
    Fits (UnpackedFloat.normalize Format.binary64 mantissa exponent zeroSign) := by
  unfold UnpackedFloat.normalize
  split
  · rename_i hnegative
    have hlt := Int.compare_eq_lt.mp hnegative
    exact fits_round (by omega) hexponent (by omega)
  · exact .zero zeroSign
  · rename_i hpositive
    have hgt := Int.compare_eq_gt.mp hpositive
    exact fits_round (by omega) hexponent (by omega)

/-- The difference of two numbers that are not negative is not above the larger one. -/
theorem fits_sub {first second : BitVec Format.binary64.numBits}
    (hfirst : Nonnegative (UnpackedFloat.unpack Format.binary64 first))
    (hsecond : Nonnegative (UnpackedFloat.unpack Format.binary64 second)) :
    Fits (UnpackedFloat.sub Format.binary64 (UnpackedFloat.unpack Format.binary64 first)
      (UnpackedFloat.unpack Format.binary64 second)) := by
  rcases hfirst with ⟨sign, hfirst⟩ | ⟨mantissa, exponent, positive, hfirst⟩
  · rcases hsecond with ⟨sign', hsecond⟩ | ⟨mantissa', exponent', positive', hsecond⟩
    · rw [hfirst, hsecond]
      unfold UnpackedFloat.sub
      simp only
      split <;> exact .zero _
    · rw [hfirst, hsecond]
      exact .finite (unpack_bounds hsecond).2
  · rcases hsecond with ⟨sign', hsecond⟩ | ⟨mantissa', exponent', positive', hsecond⟩
    · rw [hfirst, hsecond]
      exact .finite (unpack_bounds hfirst).2
    · obtain ⟨hmantissa, hexponent⟩ := unpack_bounds hfirst
      obtain ⟨hmantissa', hexponent'⟩ := unpack_bounds hsecond
      have hle := shiftLeft_le (min exponent exponent') hmantissa hexponent
      have hle' := shiftLeft_le (min exponent exponent') hmantissa' hexponent'
      rw [hfirst, hsecond]
      simp only [UnpackedFloat.sub, decreaseExponent, Sign.apply]
      apply fits_normalize (by omega)
      generalize mantissa <<< (exponent - min exponent exponent').toNat = aligned at hle ⊢
      generalize mantissa' <<< (exponent' - min exponent exponent').toNat = aligned' at hle' ⊢
      omega

/-! The facts about packed numbers. -/

theorem nonnegative_of_not_lt {number : UnpackedFloat} {sign : Sign}
    (hfinite : number.isFinite = true) (h : number.lt (.zero sign) = false) :
    Nonnegative number := by
  cases number with
  | zero sign => exact Or.inl ⟨sign, rfl⟩
  | finite sign mantissa exponent positive =>
    cases sign with
    | positive => exact Or.inr ⟨mantissa, exponent, positive, rfl⟩
    | negative => exact absurd (show true = false from h) (by decide)
  | infinity sign => exact absurd (show false = true from hfinite) (by decide)
  | notANumber => exact absurd (show false = true from hfinite) (by decide)

theorem isFinite_sub {first second : Float.Model} {sign sign' : Sign}
    (hfirst : first.isFinite = true) (hsecond : second.isFinite = true)
    (hfirstSign : first.unpack.lt (.zero sign) = false)
    (hsecondSign : second.unpack.lt (.zero sign') = false) :
    (first.sub second).isFinite = true :=
  isFinite_pack (fits_sub (nonnegative_of_not_lt hfirst hfirstSign)
    (nonnegative_of_not_lt hsecond hsecondSign))

/-- Bits that encode a number are that number when they are read. -/
theorem isFinite_ofBits {number : Float.Model} (h : number.isFinite = true) :
    (Float.Model.ofBits number.toBits).isFinite = true :=
  isFinite_pack (fits_unpack h)

theorem not_lt_of_le {number : UnpackedFloat} {sign : Sign}
    (h : (UnpackedFloat.zero sign).le number = true) : number.lt (.zero sign) = false := by
  cases number with
  | zero sign' => rfl
  | finite sign' mantissa exponent positive =>
    cases sign' with
    | positive => rfl
    | negative => exact absurd (show false = true from h) (by decide)
  | infinity sign' =>
    cases sign' with
    | positive => rfl
    | negative => exact absurd (show false = true from h) (by decide)
  | notANumber => exact absurd (show false = true from h) (by decide)

end Binary64
