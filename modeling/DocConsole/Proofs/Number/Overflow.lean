import DocConsole.Proofs.Number.Rounding
import Mathlib.Algebra.Order.Field.Rat
import Mathlib.Algebra.Order.Field.Power
import Mathlib.Data.Nat.Cast.Order.Field

/-!
# Where the format ends

A number beyond the largest finite one is still rounded to it when it lies closer to it than to the
next power of two, which would be the next number if the format went on.  Half way between the two
the even one is taken, and that is the power.  Main statement: a decimal is finite just if its size
is below that half.
-/

set_option autoImplicit false

namespace DocConsole

attribute [local instance] corePow

/-! ## Rounding below a bound -/

/-- A quotient is rounded below an even number just if it lies below the half before it. -/
theorem divideToEven_lt_iff {num den bound : Nat} (hden : 0 < den) (heven : bound % 2 = 0) :
    divideToEven num den < bound ↔ 2 * num + den < 2 * (bound * den) := by
  have hmod := Nat.mod_lt num hden
  have hsplit := Nat.div_add_mod' num den
  rcases Nat.lt_trichotomy (num / den + 1) bound with hbelow | hnext | habove
  · have hle := divideToEven_le num den
    have hbound := Nat.mul_le_mul_right den (Nat.succ_le_of_lt hbelow)
    rw [Nat.succ_mul, Nat.succ_mul] at hbound
    exact iff_of_true (by omega) (by omega)
  · -- The whole number in the quotient is odd, so that the half is rounded up.
    have hbound : bound * den = num / den * den + den := by rw [← hnext, Nat.succ_mul]
    have hround : divideToEven num den < bound ↔ 2 * (num % den) < den := by
      simp only [divideToEven]
      split
      · omega
      · split
        · omega
        · rw [if_neg (by omega)]
          omega
    rw [hround, hbound]
    omega
  · have hle := div_le_divideToEven num den
    have hbound := Nat.mul_le_mul_right den (Nat.le_of_lt_succ habove)
    exact iff_of_false (by omega) (by omega)

/-- Below half the power a quotient is rounded to at most that half. -/
theorem roundUnits_lt_of_div_lt {num den bits : Nat} (h : num / den < 2 ^ (bits + 53)) :
    roundUnits num den < 2 ^ (bits + 54) := by
  have hquotient : divideToEven num (den * spacing (num / den)) ≤ 2 ^ 53 := by
    have hle := divideToEven_le num (den * spacing (num / den))
    rw [← Nat.div_div_eq_div_mul] at hle
    have hlt := div_spacing_lt (num / den)
    omega
  have hspacing : spacing (num / den) ≤ 2 ^ bits := by
    refine Nat.pow_le_pow_right (by decide) ?_
    rcases Nat.eq_zero_or_pos (num / den) with hzero | hpos
    · rw [hzero, Nat.log2_zero]
      exact Nat.zero_le _
    · have hlog := (Nat.log2_lt (Nat.ne_of_gt hpos)).mpr h
      omega
  calc roundUnits num den ≤ 2 ^ 53 * 2 ^ bits := Nat.mul_le_mul hquotient hspacing
    _ = 2 ^ (bits + 53) := by rw [← Nat.pow_add, Nat.add_comm]
    _ < 2 ^ (bits + 54) := Nat.pow_lt_pow_right (by decide) (by omega)

/-- Rounding does not lead below a power of two, if that is not too small. -/
theorem le_roundUnits {num den bits : Nat} (h : 2 ^ (bits + 52) ≤ num / den) :
    2 ^ (bits + 52) ≤ roundUnits num den := by
  have hne : num / den ≠ 0 := Nat.ne_of_gt (Nat.lt_of_lt_of_le (Nat.two_pow_pos _) h)
  have hlog : bits + 52 ≤ (num / den).log2 := (Nat.le_log2 hne).mpr h
  have hpower : 2 ^ (num / den).log2 = 2 ^ 52 * spacing (num / den) := by
    rw [spacing, ← Nat.pow_add]
    congr 1
    omega
  have hquotient : 2 ^ 52 ≤ num / (den * spacing (num / den)) := by
    have hpos : 0 < spacing (num / den) := Nat.two_pow_pos _
    rw [← Nat.div_div_eq_div_mul, Nat.le_div_iff_mul_le hpos, ← hpower]
    exact Nat.log2_self_le hne
  calc 2 ^ (bits + 52) ≤ 2 ^ (num / den).log2 := Nat.pow_le_pow_right (by decide) hlog
    _ = 2 ^ 52 * spacing (num / den) := hpower
    _ ≤ roundUnits num den :=
        Nat.mul_le_mul_right _ (Nat.le_trans hquotient (div_le_divideToEven _ _))

/-- A quotient is rounded below a power of two just if it lies below the half between that power and
the number before it. -/
theorem roundUnits_lt_iff {num den : Nat} (hden : 0 < den) (bits : Nat) :
    roundUnits num den < 2 ^ (bits + 54) ↔ num < den * 2 ^ bits * (2 ^ 54 - 1) := by
  have hpower (more : Nat) : den * 2 ^ (bits + more) = den * 2 ^ bits * 2 ^ more := by
    rw [Nat.pow_add, Nat.mul_assoc]
  rcases Nat.lt_or_ge (num / den) (2 ^ (bits + 53)) with hlow | hhigh
  · have hnum := (Nat.div_lt_iff_lt_mul hden).mp hlow
    rw [Nat.mul_comm, hpower] at hnum
    exact iff_of_true (roundUnits_lt_of_div_lt hlow)
      (Nat.lt_of_lt_of_le hnum (Nat.mul_le_mul_left _ (by decide)))
  · rcases Nat.lt_or_ge (num / den) (2 ^ (bits + 54)) with hbelow | habove
    · -- Between the last two powers the distance of neighbours is known.
      have hspacing : spacing (num / den) = 2 ^ (bits + 1) := by
        have hne : num / den ≠ 0 := Nat.ne_of_gt (Nat.lt_of_lt_of_le (Nat.two_pow_pos _) hhigh)
        have hlog : (num / den).log2 = bits + 53 := (Nat.log2_eq_iff hne).mpr ⟨hhigh, hbelow⟩
        rw [spacing, hlog]
        rfl
      have hlimit : 2 ^ (bits + 54) = 2 ^ 53 * 2 ^ (bits + 1) := by
        rw [← Nat.pow_add]
        congr 1
        omega
      rw [roundUnits, hspacing, hlimit, Nat.mul_lt_mul_right (Nat.two_pow_pos _),
        divideToEven_lt_iff (Nat.mul_pos hden (Nat.two_pow_pos _)) (by decide), hpower]
      omega
    · have hnum := (Nat.le_div_iff_mul_le hden).mp habove
      rw [Nat.mul_comm, hpower] at hnum
      have hround : 2 ^ (bits + 2 + 52) ≤ roundUnits num den := le_roundUnits habove
      exact iff_of_false (Nat.not_lt.mpr hround)
        (Nat.not_lt.mpr (Nat.le_trans (Nat.mul_le_mul_left _ (by decide)) hnum))

/-! ## Decimals -/

namespace Binary64

/-- The half between the largest finite number and the power of two behind it. -/
def overflowLimit : ℚ := 2 ^ (1024 : Nat) - 2 ^ (970 : Nat)

theorem isFinite_ofUnits_iff {negative : Bool} {num den : Nat} :
    (ofUnits negative num den).isFinite = true ↔ roundUnits num den < unitsLimit := by
  unfold ofUnits
  split
  · rename_i hbelow
    exact iff_of_true rfl hbelow
  · rename_i habove
    exact iff_of_false Bool.false_ne_true habove

/-- The limit in units. -/
theorem overflowLimit_mul_unitsPerOne :
    overflowLimit * unitsPerOne = 2 ^ (2044 : Nat) * (2 ^ (54 : Nat) - 1) := by
  have hunits : (unitsPerOne : ℚ) = 2 ^ (1074 : Nat) := by
    rw [unitsPerOne, Nat.cast_pow, Nat.cast_ofNat]
  have hlimit : overflowLimit = 2 ^ (970 : Nat) * (2 ^ (54 : Nat) - 1) := by
    rw [mul_sub, mul_one, ← pow_add]
    rfl
  rw [hlimit, hunits, mul_right_comm, ← pow_add]

/-- A power of ten with its exponent split by sign. -/
theorem ten_zpow_eq_div (exponent : Int) :
    (10 : ℚ) ^ exponent = 10 ^ exponent.toNat / 10 ^ (-exponent).toNat := by
  have hsplit : exponent = (exponent.toNat : Int) - (-exponent).toNat := by omega
  conv_lhs => rw [hsplit, zpow_sub₀ (by decide), zpow_natCast, zpow_natCast]

/-- A decimal is finite just if its size is below the limit. -/
theorem isFinite_ofDecimal_iff {negative : Bool} {digits : Nat} {exponent : Int} :
    (ofDecimal negative digits exponent).isFinite = true ↔
      (digits : ℚ) * 10 ^ exponent < overflowLimit := by
  have hbits : sizeBits = 2044 + 54 := rfl
  have hdown : (0 : ℚ) < 10 ^ (-exponent).toNat := pow_pos (by decide) _
  have hunits : (0 : ℚ) < unitsPerOne := Nat.cast_pos.mpr unitsPerOne_pos
  have hsize : ((10 ^ (-exponent).toNat * 2 ^ 2044 * (2 ^ 54 - 1) : Nat) : ℚ) =
      overflowLimit * unitsPerOne * 10 ^ (-exponent).toNat := by
    rw [overflowLimit_mul_unitsPerOne, Nat.cast_mul, Nat.cast_mul, Nat.cast_pow, Nat.cast_pow,
      Nat.cast_pred (by decide), Nat.cast_pow, Nat.cast_ofNat, Nat.cast_ofNat, mul_assoc, mul_comm]
  have hlimit : (digits : ℚ) * 10 ^ exponent < overflowLimit ↔
      digits * 10 ^ exponent.toNat * unitsPerOne <
        overflowLimit * unitsPerOne * 10 ^ (-exponent).toNat := by
    rw [ten_zpow_eq_div, ← mul_div_assoc, div_lt_iff₀ hdown, mul_right_comm overflowLimit,
      mul_lt_mul_iff_left₀ hunits]
  rw [hlimit, ofDecimal_eq_ofUnits, isFinite_ofUnits_iff, unitsLimit, hbits,
    roundUnits_lt_iff (Nat.pow_pos (by decide)), ← Nat.cast_lt (α := ℚ), hsize, Nat.cast_mul,
    Nat.cast_mul, Nat.cast_pow, Nat.cast_ofNat]

end Binary64

end DocConsole
