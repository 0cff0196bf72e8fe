import Docstore.Double.Rounding
import Mathlib.Algebra.Group.Nat.Defs

/-!
# `Docstore.Proofs.Double.Rounding` — laws of the nearest double

Rounding a whole count of units (`roundUnits n 1`) keeps order, and it gives back the magnitude of a
number whose exact count it is handed. Two consequences carry everything that compares integers with
doubles: `Double.ofInt` is monotone in the total order, and a finite double whose exact value is an
integer is the double nearest to that integer, but for the sign of zero.

## Contents
- **Parts of a pattern.** A pattern is its sign and its magnitude; `orderKey` is injective.
- **Rounding a quotient.** `nearestQuotient`, the rounding of one step size.
- **Rounding units.** `roundUnits_mono` and `roundUnits_units`.
- **Integers.** `orderKey_ofInt_le`, `IsExactly.eq_ofInt`, `ofInt_injective`.
- **Zeros and not-a-numbers.** `isExactly_zero_iff`, `IsExactly.eq_or_isZero`, `isNaN_ofInt`.
-/

namespace Docstore.Double

/-! ## Parts of a pattern -/

/-- A pattern is put together from its sign and its magnitude. -/
theorem bits_toNat (x : Double) :
    x.bits.toNat = if x.isNegative then signBit + x.magnitude else x.magnitude := by
  have hlt : x.bits.toNat < 2 * signBit := x.bits.toNat_lt
  unfold isNegative magnitude
  by_cases h : signBit ≤ x.bits.toNat
  · rw [if_pos (by simpa using h), Nat.mod_eq_sub_mod h, Nat.mod_eq_of_lt (by omega)]
    omega
  · rw [if_neg (by simpa using h), Nat.mod_eq_of_lt (by omega)]

/-- A double is known by its sign and its magnitude. -/
theorem ext_parts {x y : Double} (hsign : x.isNegative = y.isNegative)
    (hmagnitude : x.magnitude = y.magnitude) : x = y := by
  obtain ⟨a⟩ := x
  obtain ⟨b⟩ := y
  have h := bits_toNat ⟨a⟩
  rw [hsign, hmagnitude, ← bits_toNat ⟨b⟩] at h
  exact congrArg Double.mk (UInt64.toNat_inj.mp h)

theorem ofMagnitude_bits {m : Nat} (hm : m < signBit) (negative : Bool) :
    (ofMagnitude negative m).bits.toNat = if negative then signBit + m else m := by
  unfold ofMagnitude
  rw [UInt64.toNat_ofNat']
  apply Nat.mod_eq_of_lt
  unfold signBit at *
  cases negative
  · simp only [Bool.false_eq_true, if_false]; omega
  · simp only [if_true]; omega

theorem magnitude_ofMagnitude {m : Nat} (hm : m < signBit) (negative : Bool) :
    (ofMagnitude negative m).magnitude = m := by
  unfold magnitude
  rw [ofMagnitude_bits hm]
  cases negative
  · simp only [Bool.false_eq_true, if_false]; exact Nat.mod_eq_of_lt hm
  · simp only [if_true, Nat.add_mod_left]; exact Nat.mod_eq_of_lt hm

theorem isNegative_ofMagnitude {m : Nat} (hm : m < signBit) (negative : Bool) :
    (ofMagnitude negative m).isNegative = negative := by
  unfold isNegative
  rw [ofMagnitude_bits hm]
  cases negative
  · simpa using hm
  · simp

/-- The total order tells all patterns apart. -/
theorem orderKey_injective {x y : Double} (h : x.orderKey = y.orderKey) : x = y := by
  unfold orderKey at h
  cases hx : x.isNegative <;> cases hy : y.isNegative <;>
    simp only [hx, hy, Bool.false_eq_true, if_false, if_true] at h
  · exact ext_parts (by rw [hx, hy]) (by omega)
  · omega
  · omega
  · exact ext_parts (by rw [hx, hy]) (by omega)

/-- Doubles are equal in the total order only if they are the same. -/
theorem totalCompare_eq_iff {x y : Double} : x.totalCompare y = .eq ↔ x = y := by
  unfold totalCompare
  rw [Std.compare_eq_iff_eq]
  exact ⟨orderKey_injective, fun h => h ▸ rfl⟩

/-! ## Rounding a quotient -/

/-- The whole number nearest to `n / step`, a tie going to the even one. -/
def nearestQuotient (n step : Nat) : Nat :=
  if step < 2 * (n % step) || (step == 2 * (n % step) && n / step % 2 == 1) then n / step + 1
  else n / step

theorem le_nearestQuotient (n step : Nat) : n / step ≤ nearestQuotient n step := by
  unfold nearestQuotient
  split <;> omega

theorem nearestQuotient_le (n step : Nat) : nearestQuotient n step ≤ n / step + 1 := by
  unfold nearestQuotient
  split <;> omega

/-- A whole quotient is not rounded. -/
theorem nearestQuotient_mul (k : Nat) {step : Nat} (hstep : 0 < step) :
    nearestQuotient (k * step) step = k := by
  unfold nearestQuotient
  rw [Nat.mul_mod_left, Nat.mul_div_cancel k hstep, if_neg]
  simp only [Bool.or_eq_true, Bool.and_eq_true, decide_eq_true_eq, beq_iff_eq]
  omega

theorem nearestQuotient_mono {m n : Nat} (h : m ≤ n) (step : Nat) :
    nearestQuotient m step ≤ nearestQuotient n step := by
  rcases Nat.lt_or_eq_of_le (Nat.div_le_div_right h : m / step ≤ n / step) with hlt | heq
  · calc nearestQuotient m step ≤ m / step + 1 := nearestQuotient_le m step
      _ ≤ n / step := hlt
      _ ≤ nearestQuotient n step := le_nearestQuotient n step
  · -- the same quotient: the larger number has the larger rest
    have hm := Nat.div_add_mod m step
    have hn := Nat.div_add_mod n step
    rw [heq] at hm
    have hrest : m % step ≤ n % step := by omega
    unfold nearestQuotient
    rw [heq]
    simp only [Bool.or_eq_true, Bool.and_eq_true, decide_eq_true_eq, beq_iff_eq]
    split <;> split <;> omega

/-! ## Rounding units -/

/-- Whole units are cut to fifty-three digits and rounded there. -/
theorem roundUnits_one (n : Nat) :
    roundUnits n 1 = min ((n.log2 - 52) * fractions +
      nearestQuotient n (2 ^ (n.log2 - 52))) infiniteMagnitude := by
  unfold roundUnits nearestQuotient
  simp only [Nat.div_one, Nat.one_mul, Nat.pow_eq]

theorem roundUnits_le (n den : Nat) : roundUnits n den ≤ infiniteMagnitude := Nat.min_le_right _ _

theorem roundUnits_lt_signBit (n den : Nat) : roundUnits n den < signBit :=
  Nat.lt_of_le_of_lt (roundUnits_le n den) (by decide)

/-- What is left of a number after the cut has at most fifty-three digits. -/
theorem div_cut_lt (n : Nat) : n / 2 ^ (n.log2 - 52) < 2 ^ 53 := by
  rw [Nat.div_lt_iff_lt_mul (Nat.two_pow_pos _), ← Nat.pow_add]
  calc n < 2 ^ (n.log2 + 1) := Nat.lt_log2_self
    _ ≤ 2 ^ (53 + (n.log2 - 52)) := Nat.pow_le_pow_right (by decide) (by omega)

/-- What is left of a number that was cut has fifty-three digits. -/
theorem le_div_cut {n : Nat} (hn : 52 < n.log2) : 2 ^ 52 ≤ n / 2 ^ (n.log2 - 52) := by
  rw [Nat.le_div_iff_mul_le (Nat.two_pow_pos _), ← Nat.pow_add, Nat.add_sub_of_le (by omega)]
  refine Nat.log2_self_le ?_
  rintro rfl
  exact absurd hn (by decide)

theorem log2_mono {m n : Nat} (h : m ≤ n) : m.log2 ≤ n.log2 := by
  by_cases hm : m = 0
  · subst hm
    exact Nat.zero_le _
  · rw [Nat.le_log2 (by omega)]
    exact Nat.le_trans (Nat.log2_self_le hm) h

/-- **Rounding keeps order.** -/
theorem roundUnits_mono {m n : Nat} (h : m ≤ n) : roundUnits m 1 ≤ roundUnits n 1 := by
  rw [roundUnits_one, roundUnits_one]
  refine Nat.le_min.mpr ⟨Nat.le_trans (Nat.min_le_left _ _) ?_, Nat.min_le_right _ _⟩
  have hlog := log2_mono h
  by_cases hshift : m.log2 - 52 = n.log2 - 52
  · rw [hshift]
    exact Nat.add_le_add_left (nearestQuotient_mono h _) _
  · -- a larger cut: the smaller number ends where the larger one begins
    have hlow : nearestQuotient m (2 ^ (m.log2 - 52)) ≤ 2 ^ 53 :=
      Nat.le_trans (nearestQuotient_le _ _) (div_cut_lt m)
    have hhigh : 2 ^ 52 ≤ nearestQuotient n (2 ^ (n.log2 - 52)) :=
      Nat.le_trans (le_div_cut (by omega)) (le_nearestQuotient _ _)
    unfold fractions
    omega

theorem fractions_eq : fractions = 2 ^ 52 := by decide

/-- The count of units of a number from its magnitude. -/
theorem units_eq (x : Double) :
    x.units = if x.magnitude / fractions = 0 then x.magnitude % fractions
      else (fractions + x.magnitude % fractions) * 2 ^ (x.magnitude / fractions - 1) := rfl

/-- **Rounding gives back what a number stands for.** The exact count of units of a finite number
rounds to its magnitude. -/
theorem roundUnits_units {x : Double} (hx : x.isFinite = true) :
    roundUnits x.units 1 = x.magnitude := by
  have hfinite : x.magnitude < infiniteMagnitude := by simpa [isFinite] using hx
  have hsplit := Nat.div_add_mod x.magnitude fractions
  have hrest : x.magnitude % fractions < fractions := Nat.mod_lt _ (by decide)
  rw [units_eq, roundUnits_one]
  generalize x.magnitude / fractions = exponent at *
  generalize x.magnitude % fractions = fraction at *
  rw [fractions_eq] at *
  by_cases hexp : exponent = 0
  · -- below the smallest power of two with a digit in front, a number is its fraction
    rw [if_pos hexp]
    have hcut : fraction.log2 - 52 = 0 := by
      by_cases h0 : fraction = 0
      · rw [h0]; decide
      · have := (Nat.log2_lt h0).mpr hrest
        omega
    have hwhole := nearestQuotient_mul fraction Nat.one_pos
    rw [Nat.mul_one] at hwhole
    rw [hcut, Nat.pow_zero, hwhole]
    subst hexp
    omega
  · rw [if_neg hexp]
    have hpos := Nat.two_pow_pos (exponent - 1)
    have hlog : ((2 ^ 52 + fraction) * 2 ^ (exponent - 1)).log2 = 52 + (exponent - 1) := by
      rw [Nat.log2_eq_iff (Nat.mul_ne_zero (by omega) (by omega))]
      constructor
      · rw [Nat.pow_add]
        exact Nat.mul_le_mul_right _ (by omega)
      · rw [show 52 + (exponent - 1) + 1 = 53 + (exponent - 1) from by omega, Nat.pow_add]
        exact Nat.mul_lt_mul_of_pos_right (by omega) hpos
    have hcut : 52 + (exponent - 1) - 52 = exponent - 1 := by omega
    rw [hlog, hcut, nearestQuotient_mul _ hpos]
    obtain ⟨e, rfl⟩ := Nat.exists_eq_succ_of_ne_zero hexp
    simp only [Nat.succ_sub_one, Nat.succ_eq_add_one] at *
    omega

/-! ## Integers -/

theorem isNegative_ofInt (n : Int) : (ofInt n).isNegative = decide (n < 0) :=
  isNegative_ofMagnitude (roundUnits_lt_signBit _ _) _

/-- The magnitude of an integer's double is that of its absolute value, rounded. -/
theorem magnitude_ofInt (n : Int) :
    (ofInt n).magnitude = roundUnits (n.natAbs * unitsPerOne) 1 :=
  magnitude_ofMagnitude (roundUnits_lt_signBit _ _) _

/-- **The nearest doubles of integers keep their order.** -/
theorem orderKey_ofInt_le {m n : Int} (h : m ≤ n) : (ofInt m).orderKey ≤ (ofInt n).orderKey := by
  unfold orderKey
  rw [isNegative_ofInt, isNegative_ofInt, magnitude_ofInt, magnitude_ofInt]
  by_cases hm : m < 0
  · by_cases hn : n < 0
    · have hmono := roundUnits_mono (Nat.mul_le_mul_right unitsPerOne
        (show n.natAbs ≤ m.natAbs from by omega))
      rw [if_pos (by simpa using hm), if_pos (by simpa using hn)]
      omega
    · rw [if_pos (by simpa using hm), if_neg (by simpa using hn)]
      omega
  · have hmono := roundUnits_mono (Nat.mul_le_mul_right unitsPerOne
      (show m.natAbs ≤ n.natAbs from by omega))
    rw [if_neg (by simpa using hm), if_neg (by simpa using (show ¬n < 0 from by omega))]
    omega

/-- Is this number exactly an integer? -/
def IsExactly (x : Double) (n : Int) : Prop :=
  x.isFinite = true ∧ x.signedUnits = n * (unitsPerOne : Int)

theorem unitsPerOne_eq : ∃ places, unitsPerOne = 2 ^ places ∧ places = 1074 := by
  unfold unitsPerOne
  generalize 1074 = places
  exact ⟨places, rfl, rfl⟩

theorem unitsPerOne_pos : 0 < unitsPerOne := by
  obtain ⟨places, h, -⟩ := unitsPerOne_eq
  rw [h]
  exact Nat.two_pow_pos places

/-- A double is at most one integer. -/
theorem IsExactly.unique {x : Double} {m n : Int} (hm : x.IsExactly m) (hn : x.IsExactly n) : m = n := by
  have hone : (unitsPerOne : Int) ≠ 0 := by have := unitsPerOne_pos; omega
  exact Int.eq_of_mul_eq_mul_right hone (hm.2.symm.trans hn.2)

theorem natAbs_signedUnits (x : Double) : x.signedUnits.natAbs = x.units := by
  unfold signedUnits
  split
  · exact Int.natAbs_neg _
  · exact Int.natAbs_natCast _

/-- A whole double that is cut is the integer it is cut to. -/
theorem isExactly_iff {x : Double} {n : Int} :
    x.IsExactly n ↔ x.isWhole = true ∧ x.truncate = n := by
  have hone := unitsPerOne_pos
  unfold IsExactly isWhole truncate signedUnits
  generalize unitsPerOne = one at *
  rw [Bool.and_eq_true, beq_iff_eq]
  constructor
  · rintro ⟨hfinite, hunits⟩
    have hdiv : x.units = n.natAbs * one := by
      split at hunits
      · have := congrArg Int.natAbs hunits
        rwa [Int.natAbs_neg, Int.natAbs_natCast, Int.natAbs_mul, Int.natAbs_natCast] at this
      · have := congrArg Int.natAbs hunits
        rwa [Int.natAbs_natCast, Int.natAbs_mul, Int.natAbs_natCast] at this
    rw [hdiv] at hunits ⊢
    rw [Nat.mul_mod_left, Nat.mul_div_cancel _ hone]
    refine ⟨⟨hfinite, rfl⟩, ?_⟩
    -- the sign is that of the integer, once the units are divided out
    have hcancel : ∀ k : Int, k * one = n * one → k = n := fun k h =>
      Int.eq_of_mul_eq_mul_right (by omega) h
    split
    · next h =>
        rw [if_pos h] at hunits
        exact hcancel _ (by rw [← hunits, Int.neg_mul, Int.natCast_mul])
    · next h =>
        rw [if_neg h] at hunits
        exact hcancel _ (by rw [← hunits, Int.natCast_mul])
  · rintro ⟨⟨hfinite, hmod⟩, hcut⟩
    have hdiv := Nat.div_mul_cancel (Nat.dvd_of_mod_eq_zero hmod)
    refine ⟨hfinite, ?_⟩
    rw [← hcut, ← hdiv, Nat.mul_div_cancel _ hone]
    split
    · rw [Int.neg_mul, Int.natCast_mul]
    · rw [Int.natCast_mul]

/-- **A double that is exactly an integer is the nearest one to it,** but for the sign of zero. -/
theorem IsExactly.eq_ofInt {x : Double} {n : Int} (h : x.IsExactly n) :
    x = ofInt n ∨ (n = 0 ∧ x = zero true) := by
  have hunits : x.units = n.natAbs * unitsPerOne := by
    rw [← natAbs_signedUnits, h.2, Int.natAbs_mul, Int.natAbs_natCast]
  have hmagnitude : x.magnitude = (ofInt n).magnitude := by
    rw [← roundUnits_units h.1, magnitude_ofInt, hunits]
  have hone : (0 : Int) < unitsPerOne := by have := unitsPerOne_pos; omega
  -- the magnitudes agree; what remains is the sign, which zero does not determine
  have hsigned := h.2
  unfold signedUnits at hsigned
  by_cases hzero : n = 0
  · subst hzero
    have hm : x.magnitude = 0 := by rw [hmagnitude]; decide +kernel
    cases hx : x.isNegative
    · exact .inl (ext_parts (by rw [hx, isNegative_ofInt]; rfl) hmagnitude)
    · exact .inr ⟨rfl, ext_parts (by rw [hx]; decide +kernel) (by rw [hm]; decide +kernel)⟩
  · refine .inl (ext_parts ?_ hmagnitude)
    rw [isNegative_ofInt]
    cases hx : x.isNegative
    · rw [hx] at hsigned
      simp only [Bool.false_eq_true, if_false] at hsigned
      have : 0 ≤ n * (unitsPerOne : Int) := by omega
      have : ¬n < 0 := fun hn => by have := Int.mul_neg_of_neg_of_pos hn hone; omega
      simpa using this
    · rw [hx] at hsigned
      simp only [if_true] at hsigned
      have : n * (unitsPerOne : Int) ≤ 0 := by omega
      have : ¬0 < n := fun hn => by have := Int.mul_pos hn hone; omega
      have : n < 0 := by omega
      simpa using this

/-- Fifty-three digits behind a cut are rounded to themselves. -/
theorem units_of_roundUnits {x : Double} {k shift : Nat} (hlow : 2 ^ 52 ≤ k) (hhigh : k < 2 ^ 53)
    (hshift : shift < 2045) (hx : x.magnitude = roundUnits (k * 2 ^ shift) 1) :
    x.isFinite = true ∧ x.units = k * 2 ^ shift := by
  have hpos := Nat.two_pow_pos shift
  have hlog : (k * 2 ^ shift).log2 = 52 + shift := by
    rw [Nat.log2_eq_iff (Nat.mul_ne_zero (by omega) (by omega)), Nat.pow_add]
    constructor
    · exact Nat.mul_le_mul_right _ hlow
    · rw [show 52 + shift + 1 = 53 + shift from by omega, Nat.pow_add]
      exact Nat.mul_lt_mul_of_pos_right hhigh hpos
  -- the number has `53 + shift` digits, and the cut takes away zeros alone
  have hm : x.magnitude = shift * 2 ^ 52 + k := by
    rw [hx, roundUnits_one, hlog, show 52 + shift - 52 = shift from by omega,
      nearestQuotient_mul k hpos, fractions_eq]
    unfold infiniteMagnitude
    omega
  constructor
  · unfold isFinite infiniteMagnitude
    rw [hm, decide_eq_true_eq]
    omega
  · have hdiv : x.magnitude / 2 ^ 52 = shift + 1 := by omega
    have hmod : x.magnitude % 2 ^ 52 = k - 2 ^ 52 := by omega
    rw [units_eq, fractions_eq, hdiv, hmod, if_neg (by omega), Nat.add_sub_cancel,
      Nat.add_sub_of_le hlow]

/-- The integers up to `2⁵³` are doubles. -/
theorem isExactly_ofInt {n : Int} (hn : n.natAbs ≤ 2 ^ 53) : (ofInt n).IsExactly n := by
  by_cases hzero : n = 0
  · subst hzero
    unfold IsExactly
    decide +kernel
  · have hnat : n.natAbs ≠ 0 := by omega
    obtain ⟨places, hone, hplaces⟩ := unitsPerOne_eq
    -- any such integer is a number of 53 digits with zeros behind
    obtain ⟨k, shift, hlow, hhigh, hshift, hk⟩ : ∃ k shift, 2 ^ 52 ≤ k ∧ k < 2 ^ 53 ∧ shift < 2045 ∧
        n.natAbs * unitsPerOne = k * 2 ^ shift := by
      rw [hone]
      by_cases htop : n.natAbs = 2 ^ 53
      · refine ⟨2 ^ 52, 1 + places, Nat.le_refl _, by decide, by omega, ?_⟩
        rw [htop, Nat.pow_add, ← Nat.mul_assoc, show 2 ^ 53 = 2 ^ 52 * 2 ^ 1 from rfl]
      · have hlog : n.natAbs.log2 < 53 := (Nat.log2_lt hnat).mpr (by omega)
        refine ⟨n.natAbs * 2 ^ (52 - n.natAbs.log2), n.natAbs.log2 + places - 52, ?_, ?_, by omega, ?_⟩
        · calc 2 ^ 52 = 2 ^ n.natAbs.log2 * 2 ^ (52 - n.natAbs.log2) := by
                rw [← Nat.pow_add, Nat.add_sub_of_le (by omega)]
            _ ≤ n.natAbs * 2 ^ (52 - n.natAbs.log2) :=
                Nat.mul_le_mul_right _ (Nat.log2_self_le hnat)
        · calc n.natAbs * 2 ^ (52 - n.natAbs.log2)
              < 2 ^ (n.natAbs.log2 + 1) * 2 ^ (52 - n.natAbs.log2) :=
                Nat.mul_lt_mul_of_pos_right Nat.lt_log2_self (Nat.two_pow_pos _)
            _ = 2 ^ 53 := by
                rw [← Nat.pow_add, show n.natAbs.log2 + 1 + (52 - n.natAbs.log2) = 53 from by omega]
        · rw [Nat.mul_assoc, ← Nat.pow_add,
            show 52 - n.natAbs.log2 + (n.natAbs.log2 + places - 52) = places from by omega]
    obtain ⟨hfinite, hunits⟩ := units_of_roundUnits (x := ofInt n) hlow hhigh hshift
      (by rw [magnitude_ofInt, hk])
    refine ⟨hfinite, ?_⟩
    unfold signedUnits
    rw [hunits, ← hk, isNegative_ofInt, Int.natCast_mul]
    generalize (unitsPerOne : Int) = one
    by_cases hneg : n < 0
    · rw [if_pos (by simpa using hneg), ← Int.neg_mul, show -(n.natAbs : Int) = n from by omega]
    · rw [if_neg (by simpa using hneg), show (n.natAbs : Int) = n from by omega]

/-- Different integers up to `2⁵³` have different doubles. -/
theorem ofInt_injective {m n : Int} (hm : m.natAbs ≤ 2 ^ 53) (hn : n.natAbs ≤ 2 ^ 53)
    (h : ofInt m = ofInt n) : m = n :=
  (isExactly_ofInt hm).unique (h ▸ isExactly_ofInt hn)

/-! ## Zeros and not-a-numbers -/

/-- The zeros are the doubles that are exactly zero. -/
theorem isExactly_zero_iff {x : Double} : x.IsExactly 0 ↔ x.isZero = true := by
  unfold isZero
  rw [beq_iff_eq]
  constructor
  · rintro ⟨hfinite, hunits⟩
    have hzero : x.units = 0 := by
      rw [← natAbs_signedUnits, hunits, Int.zero_mul]
      rfl
    rw [← roundUnits_units hfinite, hzero]
    decide +kernel
  · intro hmagnitude
    have hunits : x.units = 0 := by
      rw [units_eq, hmagnitude]
      rfl
    refine ⟨by unfold isFinite; rw [hmagnitude]; decide, ?_⟩
    rw [Int.zero_mul, ← Int.natAbs_eq_zero, natAbs_signedUnits, hunits]

/-- A zero is positive or negative. -/
theorem eq_zero_of_isZero {x : Double} (h : x.isZero = true) (hx : x ≠ zero true) : x = zero false := by
  rcases (isExactly_zero_iff.mpr h).eq_ofInt with heq | ⟨-, heq⟩
  · rw [heq]; decide +kernel
  · exact absurd heq hx

/-- Only zero is rounded to a zero. -/
theorem eq_zero_of_isZero_ofInt {n : Int} (h : (ofInt n).isZero = true) : n = 0 := by
  unfold isZero at h
  rw [beq_iff_eq, magnitude_ofInt] at h
  by_cases hzero : n = 0
  · exact hzero
  · have hmono := roundUnits_mono (Nat.mul_le_mul_right unitsPerOne (show 1 ≤ n.natAbs from by omega))
    have hone : 0 < roundUnits (1 * unitsPerOne) 1 := by decide +kernel
    omega

theorem isNaN_ofInt (n : Int) : (ofInt n).isNaN = false := by
  unfold isNaN
  rw [magnitude_ofInt]
  have hle := roundUnits_le (n.natAbs * unitsPerOne) 1
  exact decide_eq_false (by omega)

/-- What is not a number is no integer. -/
theorem not_isExactly_of_isNaN {x : Double} (h : x.isNaN = true) (n : Int) : ¬x.IsExactly n := by
  rintro ⟨hfinite, -⟩
  unfold isNaN at h
  unfold isFinite at hfinite
  rw [decide_eq_true_eq] at h hfinite
  omega

/-- Doubles that are exactly the same integer are equal, but for zeros of different sign. -/
theorem IsExactly.eq_or_isZero {x y : Double} {n : Int} (hx : x.IsExactly n) (hy : y.IsExactly n) :
    x = y ∨ (x.isZero = true ∧ y.isZero = true) := by
  by_cases hzero : n = 0
  · subst hzero
    exact .inr ⟨isExactly_zero_iff.mp hx, isExactly_zero_iff.mp hy⟩
  · have hx' := hx.eq_ofInt.resolve_right fun h => hzero h.1
    have hy' := hy.eq_ofInt.resolve_right fun h => hzero h.1
    exact .inl (hx'.trans hy'.symm)

/-- A whole double within 64-bit integers is held as it is. -/
theorem toInt_toInt64 {x : Double} (hx : x.isWhole = true) (hlow : int64Low ≤ x.truncate)
    (hhigh : x.truncate ≤ int64High) : x.toInt64.toInt = x.truncate := by
  have hnan : ¬x.isNaN = true := fun h => not_isExactly_of_isNaN h _ (isExactly_iff.mpr ⟨hx, rfl⟩)
  unfold toInt64
  rw [if_neg hnan, Int.min_eq_right hhigh, Int.max_eq_right hlow]
  unfold int64Low at hlow
  unfold int64High at hhigh
  exact Int64.toInt_ofInt_of_le (by omega) (by omega)

end Docstore.Double
