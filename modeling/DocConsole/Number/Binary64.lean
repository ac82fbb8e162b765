/-!
# Binary64 numbers

The double-precision numbers of IEEE 754, as values and not as bit patterns.  Every finite one is
a whole number of units of 2 to the power of minus 1074, so its size is kept as that number of
units; the two zeros stay apart by their sign.  Main statements: rounding to nearest gives a
representable size, and a representable size rounds to itself.
-/

set_option autoImplicit false

namespace DocConsole

/-- Powers of natural numbers as the core library has them, whatever else is imported. -/
@[reducible] def corePow : Pow Nat Nat :=
  instPowNat

attribute [local instance] corePow

/-! ## Sizes -/

/-- The number of units in one. -/
def unitsPerOne : Nat := 2 ^ (1074 : Nat)

/-- The number of bits in which the units of every finite number fit. -/
def sizeBits : Nat := 2098

/-- The first number of units that is too large for a finite number. -/
def unitsLimit : Nat := 2 ^ sizeBits

/-- A number of units that fits a significand of 53 bits and stays below the limit. -/
def IsRepresentable (units : Nat) : Prop :=
  units < unitsLimit ∧ ∃ significand exponent : Nat,
    significand ≤ 2 ^ (53 : Nat) ∧ units = significand * 2 ^ exponent

/-- The size of a finite number. -/
structure Magnitude where
  /-- How many units of 2 to the power of minus 1074. -/
  units : Nat
  /-- It is one of the sizes of the format. -/
  representable : IsRepresentable units
  deriving DecidableEq

theorem unitsLimit_pos : 0 < unitsLimit :=
  Nat.two_pow_pos sizeBits

theorem isRepresentable_zero : IsRepresentable 0 :=
  ⟨unitsLimit_pos, 0, 0, Nat.zero_le _, rfl⟩

/-- The size zero. -/
def Magnitude.zero : Magnitude :=
  ⟨0, isRepresentable_zero⟩

/-! ## Rounding to nearest -/

/-- The quotient rounded to the nearest whole number, a half to the even neighbour. -/
def divideToEven (num den : Nat) : Nat :=
  let quotient := num / den
  let twice := 2 * (num % den)
  if twice < den then quotient
  else if den < twice then quotient + 1
  else if quotient % 2 = 0 then quotient else quotient + 1

/-- The distance between neighbouring sizes around the given whole number of units. -/
def spacing (whole : Nat) : Nat :=
  2 ^ (whole.log2 - 52)

/-- The quotient of units rounded to the nearest size, with no upper limit. -/
def roundUnits (num den : Nat) : Nat :=
  divideToEven num (den * spacing (num / den)) * spacing (num / den)

theorem divideToEven_le (num den : Nat) : divideToEven num den ≤ num / den + 1 := by
  simp only [divideToEven]
  split
  · omega
  · split
    · omega
    · split <;> omega

theorem divideToEven_exact {den : Nat} (n : Nat) (h : 0 < den) :
    divideToEven (n * den) den = n := by
  simp [divideToEven, Nat.mul_div_cancel n h, Nat.mul_mod_left, h]

theorem div_spacing_lt (whole : Nat) : whole / spacing whole < 2 ^ (53 : Nat) := by
  unfold spacing
  rw [Nat.div_lt_iff_lt_mul (Nat.two_pow_pos _), ← Nat.pow_add]
  exact Nat.lt_of_lt_of_le Nat.lt_log2_self (Nat.pow_le_pow_right (by decide) (by omega))

/-- Rounding gives a size, provided that it stays below the limit. -/
theorem isRepresentable_roundUnits (num den : Nat) (hbelow : roundUnits num den < unitsLimit) :
    IsRepresentable (roundUnits num den) := by
  refine ⟨hbelow, divideToEven num (den * spacing (num / den)), (num / den).log2 - 52, ?_, rfl⟩
  have hstep := divideToEven_le num (den * spacing (num / den))
  rw [← Nat.div_div_eq_div_mul] at hstep
  have := div_spacing_lt (num / den)
  omega

/-- The distance between neighbours divides every representable size. -/
theorem spacing_dvd {units : Nat} (h : IsRepresentable units) : spacing units ∣ units := by
  obtain ⟨_, significand, exponent, hsmall, rfl⟩ := h
  unfold spacing
  rcases Nat.eq_zero_or_pos significand with rfl | hpos
  · simp
  · rcases Nat.lt_or_eq_of_le hsmall with hless | rfl
    · refine Nat.dvd_trans (Nat.pow_dvd_pow 2 ?_) (Nat.dvd_mul_left _ _)
      have hbound : significand * 2 ^ exponent < 2 ^ (53 + exponent) := by
        rw [Nat.pow_add]
        exact Nat.mul_lt_mul_of_pos_right hless (Nat.two_pow_pos _)
      have hpositive : significand * 2 ^ exponent ≠ 0 :=
        Nat.ne_of_gt (Nat.mul_pos hpos (Nat.two_pow_pos exponent))
      have := (Nat.log2_lt hpositive).2 hbound
      omega
    · have hjoined : 2 ^ 53 * 2 ^ exponent = 2 ^ (53 + exponent) := (Nat.pow_add 2 53 exponent).symm
      rw [hjoined, Nat.log2_two_pow]
      exact Nat.pow_dvd_pow 2 (Nat.sub_le _ _)

/-- A representable number of units is left as it is. -/
theorem roundUnits_exact {units den : Nat} (h : IsRepresentable units) (hpos : 0 < den) :
    roundUnits (units * den) den = units := by
  obtain ⟨quotient, hunits⟩ := spacing_dvd h
  have hspacing : 0 < spacing units := Nat.two_pow_pos _
  unfold roundUnits
  rw [Nat.mul_div_cancel units hpos]
  have hproduct : units * den = quotient * (den * spacing units) := by
    conv => lhs; rw [hunits]
    rw [Nat.mul_comm (spacing units) quotient, Nat.mul_assoc, Nat.mul_comm (spacing units) den]
  rw [hproduct, divideToEven_exact quotient (Nat.mul_pos hpos hspacing), Nat.mul_comm, ← hunits]

/-! ## The numbers -/

/-- A binary64 number. -/
inductive Binary64 where
  /-- No number. -/
  | nan
  /-- Beyond all finite numbers on one side. -/
  | infinity (negative : Bool)
  /-- A finite number; zero has both signs. -/
  | finite (negative : Bool) (size : Magnitude)
  deriving DecidableEq

namespace Binary64

/-- Neither infinite nor NaN. -/
def isFinite : Binary64 → Bool
  | .finite _ _ => true
  | _ => false

/-- The number nearest to a quotient of units, infinite when it is beyond the format. -/
def ofUnits (negative : Bool) (num den : Nat) : Binary64 :=
  if hbelow : roundUnits num den < unitsLimit then
    .finite negative ⟨roundUnits num den, isRepresentable_roundUnits num den hbelow⟩
  else .infinity negative

/-- The number nearest to `digits` times ten to the power of `exponent`.  Powers that are beyond
the format whatever the digits are settled without being computed. -/
def ofDecimal (negative : Bool) (digits : Nat) (exponent : Int) : Binary64 :=
  if digits = 0 then .finite negative .zero
  else if 400 < exponent then .infinity negative
  else if exponent < -400 - (digits.log2 + 1 : Nat) then .finite negative .zero
  else if 0 ≤ exponent then
    ofUnits negative (digits * 10 ^ exponent.toNat * unitsPerOne) 1
  else ofUnits negative (digits * unitsPerOne) (10 ^ (-exponent).toNat)

/-- A quotient that is exactly a size of the format gives that size. -/
theorem ofUnits_exact (negative : Bool) (size : Magnitude) {den : Nat} (hpos : 0 < den) :
    ofUnits negative (size.units * den) den = .finite negative size := by
  have hrounded := roundUnits_exact size.representable hpos
  unfold ofUnits
  rw [dif_pos (by rw [hrounded]; exact size.representable.1)]
  congr 1
  cases size
  simpa using hrounded

/-! ## Order -/

/-- Where a number that can be compared lies: a finite one by its units, with its sign. -/
inductive Extent where
  /-- Below every finite number. -/
  | bottom
  /-- A finite number of units. -/
  | point (units : Int)
  /-- Above every finite number. -/
  | top
  deriving DecidableEq

/-- The order of extents. -/
def Extent.less : Extent → Extent → Bool
  | .bottom, .bottom => false
  | .bottom, _ => true
  | .point a, .point b => decide (a < b)
  | .point _, .top => true
  | _, _ => false

/-- The extent of a number; NaN has none. -/
def extent? : Binary64 → Option Extent
  | .nan => none
  | .infinity negative => some (if negative then .bottom else .top)
  | .finite negative size => some (.point (if negative then -size.units else size.units))

/-- The extent of a whole number. -/
def extentOfInt (n : Int) : Extent :=
  .point (n * unitsPerOne)

/-- The whole number that a finite number is equal to. -/
def toInt? : Binary64 → Option Int
  | .finite negative size =>
      if size.units % unitsPerOne = 0 then
        let n : Int := size.units / unitsPerOne
        some (if negative then -n else n)
      else none
  | _ => none

end Binary64

end DocConsole
