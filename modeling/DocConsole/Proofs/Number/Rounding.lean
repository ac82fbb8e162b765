import DocConsole.Number.Binary64

/-!
# Rounding a decimal

The number nearest to a decimal is the rounded quotient of its units, and the cases that are
settled without computing a power give the same.  Rounding depends on the quotient alone and not on
how it is written.  Main statements: a decimal beyond the format overflows and one far below the
least unit vanishes, so the short cuts change nothing, and powers of ten may be moved between the
digits and the exponent.
-/

set_option autoImplicit false

namespace DocConsole

attribute [local instance] corePow

/-! ## Equal quotients -/

theorem divideToEven_mul_right (num den : Nat) {k : Nat} (hk : 0 < k) :
    divideToEven (num * k) (den * k) = divideToEven num den := by
  have htwice : 2 * (num * k % (den * k)) = 2 * (num % den) * k := by
    rw [Nat.mul_mod_mul_right, Nat.mul_assoc]
  simp only [divideToEven, Nat.mul_div_mul_right _ _ hk, htwice, Nat.mul_lt_mul_right hk]

theorem roundUnits_mul_right (num den : Nat) {k : Nat} (hk : 0 < k) :
    roundUnits (num * k) (den * k) = roundUnits num den := by
  have hden : den * k * spacing (num / den) = den * spacing (num / den) * k := by
    rw [Nat.mul_right_comm]
  rw [roundUnits, Nat.mul_div_mul_right _ _ hk, hden, divideToEven_mul_right _ _ hk, roundUnits]

/-- Rounding depends on the quotient alone. -/
theorem roundUnits_of_cross {num den num' den' : Nat} (hden : 0 < den) (hden' : 0 < den')
    (h : num * den' = num' * den) : roundUnits num den = roundUnits num' den' := by
  rw [← roundUnits_mul_right num den hden', h, Nat.mul_comm den den',
    roundUnits_mul_right num' den' hden]

/-! ## Beyond the format on either side -/

/-- A quotient is not rounded below the whole number in it. -/
theorem div_le_divideToEven (num den : Nat) : num / den ≤ divideToEven num den := by
  unfold divideToEven
  simp only
  split
  · exact Nat.le_refl _
  · split
    · exact Nat.le_succ _
    · split
      · exact Nat.le_refl _
      · exact Nat.le_succ _

/-- What is rounded loses at most half of itself. -/
theorem le_roundUnits_one (num : Nat) : num ≤ 2 * roundUnits num 1 := by
  have hfloor : num / spacing num * spacing num ≤ roundUnits num 1 := by
    rw [roundUnits, Nat.div_one, Nat.one_mul]
    exact Nat.mul_le_mul_right _ (div_le_divideToEven _ _)
  have hspacing : num % spacing num ≤ num / spacing num * spacing num := by
    have hpos : 0 < spacing num := Nat.two_pow_pos _
    rcases Nat.eq_zero_or_pos (num / spacing num) with hzero | hone
    · have hsmall := (Nat.div_eq_zero_iff.mp hzero).resolve_left (Nat.ne_of_gt hpos)
      -- Only zero lies below the distance to its neighbour.
      rcases Nat.eq_zero_or_pos num with rfl | hnum
      · simp
      · have hle : spacing num ≤ num :=
          Nat.le_trans (Nat.pow_le_pow_right (by decide) (Nat.sub_le _ _))
            (Nat.log2_self_le (Nat.ne_of_gt hnum))
        omega
    · have hlt := Nat.mod_lt num hpos
      have hle := Nat.mul_le_mul_right (spacing num) hone
      omega
  have hsplit := Nat.div_add_mod' num (spacing num)
  omega

theorem roundUnits_zero (den : Nat) : roundUnits 0 den = 0 := by
  unfold roundUnits divideToEven
  simp

/-- Less than half a unit vanishes. -/
theorem roundUnits_of_two_mul_lt {num den : Nat} (h : 2 * num < den) : roundUnits num den = 0 := by
  have hlt : num < den := by omega
  have hone : spacing 0 = 1 := rfl
  rw [roundUnits, Nat.div_eq_of_lt hlt, hone, Nat.mul_one, Nat.mul_one, divideToEven,
    Nat.mod_eq_of_lt hlt, if_pos h, Nat.div_eq_of_lt hlt]

theorem unitsPerOne_pos : 0 < unitsPerOne := by decide +kernel

theorem two_mul_two_pow (n : Nat) : 2 * 2 ^ n = 2 ^ (n + 1) := by
  rw [Nat.pow_succ, Nat.mul_comm]

/-- Twice the limit of the format, in ones. -/
theorem two_mul_unitsLimit {bits : Nat} (h : bits = 1025) :
    2 * unitsLimit = 2 ^ bits * unitsPerOne := by
  subst h
  decide +kernel

theorem two_pow_le_ten_pow {low high : Nat} (h : low ≤ 3 * high) : 2 ^ low ≤ 10 ^ high := by
  calc 2 ^ low ≤ 2 ^ (3 * high) := Nat.pow_le_pow_right (by decide) h
    _ = (2 ^ 3) ^ high := Nat.pow_mul 2 3 high
    _ ≤ 10 ^ high := Nat.pow_le_pow_left (by decide) high

namespace Binary64

theorem ofUnits_congr (negative : Bool) {num den num' den' : Nat}
    (h : roundUnits num den = roundUnits num' den') :
    ofUnits negative num den = ofUnits negative num' den' := by
  simp only [ofUnits, h]

theorem ofUnits_of_roundUnits_eq_zero (negative : Bool) {num den : Nat}
    (h : roundUnits num den = 0) : ofUnits negative num den = .finite negative .zero := by
  simp only [ofUnits, h]
  exact dif_pos unitsLimit_pos

theorem ofUnits_of_limit_le (negative : Bool) {num : Nat} (h : 2 * unitsLimit ≤ num) :
    ofUnits negative num 1 = .infinity negative := by
  have hround := le_roundUnits_one num
  exact dif_neg (by omega)

/-! ## Decimals -/

/-- A decimal is the rounded quotient of its units, however large or small it is. -/
theorem ofDecimal_eq_ofUnits (negative : Bool) (digits : Nat) (exponent : Int) :
    ofDecimal negative digits exponent =
      ofUnits negative (digits * 10 ^ exponent.toNat * unitsPerOne) (10 ^ (-exponent).toNat) := by
  unfold ofDecimal
  split
  · rename_i hzero
    rw [hzero, Nat.zero_mul, Nat.zero_mul, ofUnits_of_roundUnits_eq_zero _ (roundUnits_zero _)]
  · rename_i hdigits
    have hpos : 1 ≤ digits := Nat.pos_of_ne_zero hdigits
    split
    · rename_i hlarge
      have hden : (-exponent).toNat = 0 := by omega
      obtain ⟨bits, hbits⟩ : ∃ bits, bits = 1025 := ⟨1025, rfl⟩
      have hpower : 2 ^ bits ≤ digits * 10 ^ exponent.toNat :=
        Nat.le_trans (two_pow_le_ten_pow (by omega)) (Nat.le_mul_of_pos_left _ hpos)
      rw [hden, Nat.pow_zero, ofUnits_of_limit_le]
      rw [two_mul_unitsLimit hbits]
      exact Nat.mul_le_mul_right _ hpower
    · split
      · rename_i hsmall
        have hnum : exponent.toNat = 0 := by omega
        rw [hnum, Nat.pow_zero, Nat.mul_one, ofUnits_of_roundUnits_eq_zero]
        refine roundUnits_of_two_mul_lt ?_
        have hdigits : digits < 2 ^ (digits.log2 + 1) := Nat.lt_log2_self
        calc 2 * (digits * unitsPerOne) < 2 * (2 ^ (digits.log2 + 1) * unitsPerOne) :=
              Nat.mul_lt_mul_of_pos_left
                (Nat.mul_lt_mul_of_pos_right hdigits unitsPerOne_pos) (by decide)
          _ = 2 ^ (digits.log2 + 1 + 1074 + 1) := by
              rw [unitsPerOne, ← Nat.pow_add, two_mul_two_pow]
          _ ≤ 10 ^ (-exponent).toNat := two_pow_le_ten_pow (by omega)
      · split
        · have hden : (-exponent).toNat = 0 := by omega
          rw [hden, Nat.pow_zero]
        · have hnum : exponent.toNat = 0 := by omega
          rw [hnum, Nat.pow_zero, Nat.mul_one]

/-- Zeros at the end of the digits may be counted into the exponent. -/
theorem ofDecimal_mul_ten_pow (negative : Bool) (digits zeros : Nat) (exponent : Int) :
    ofDecimal negative (digits * 10 ^ zeros) exponent =
      ofDecimal negative digits (exponent + zeros) := by
  rw [ofDecimal_eq_ofUnits, ofDecimal_eq_ofUnits]
  refine ofUnits_congr negative (roundUnits_of_cross (Nat.pow_pos (by decide))
    (Nat.pow_pos (by decide)) ?_)
  have hpowers : 10 ^ zeros * 10 ^ exponent.toNat * 10 ^ (-(exponent + zeros)).toNat =
      10 ^ (exponent + zeros).toNat * 10 ^ (-exponent).toNat := by
    rw [← Nat.pow_add, ← Nat.pow_add, ← Nat.pow_add]
    congr 1
    omega
  generalize unitsPerOne = one
  calc digits * 10 ^ zeros * 10 ^ exponent.toNat * one * 10 ^ (-(exponent + zeros)).toNat
      = digits * one *
        (10 ^ zeros * 10 ^ exponent.toNat * 10 ^ (-(exponent + zeros)).toNat) := by ac_rfl
    _ = digits * one * (10 ^ (exponent + zeros).toNat * 10 ^ (-exponent).toNat) := by rw [hpowers]
    _ = digits * 10 ^ (exponent + zeros).toNat * one * 10 ^ (-exponent).toNat := by ac_rfl

end Binary64

end DocConsole
