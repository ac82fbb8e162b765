import DocConsole.Number.Binary64
import DocConsole.Number.Literal
import DocConsole.Text.Letter

/-!
# Decimal128 numbers

The decimal floating-point numbers of IEEE 754 with 34 digits.  A number keeps its coefficient and
exponent, so that one and a half with one and with two decimals are different.  A text is rounded
to the format, a half to the even neighbour; beyond the format lie the infinities.
-/

set_option autoImplicit false

namespace DocConsole

open Text

attribute [local instance] corePow

/-- A decimal128 number. -/
inductive Decimal128 where
  /-- No number; a signaling one asks for attention. -/
  | nan (negative signaling : Bool)
  /-- Beyond all finite numbers on one side. -/
  | infinity (negative : Bool)
  /-- The coefficient times ten to the power of the exponent. -/
  | finite (negative : Bool) (coefficient : Nat) (exponent : Int)
  deriving DecidableEq, Repr

namespace Decimal128

/-! ## The format -/

/-- The greatest number of digits of a coefficient. -/
def maxDigits : Nat := 34

/-- The least exponent. -/
def leastExponent : Int := -6176

/-- The greatest exponent. -/
def greatestExponent : Int := 6111

/-- The number of digits of a coefficient. -/
def digitCount (coefficient : Nat) : Nat :=
  (naturalText coefficient).length

/-- A coefficient on the grid of ten to the power of `exponent`; at 35 digits it moves on to the
next grid. -/
def onGrid (negative : Bool) (coefficient : Nat) (exponent : Int) : Decimal128 :=
  let (coefficient, exponent) :=
    if coefficient = 10 ^ maxDigits then (10 ^ (maxDigits - 1), exponent + 1)
    else (coefficient, exponent)
  if greatestExponent < exponent then .infinity negative
  else .finite negative coefficient exponent

/-- The nearest number of the format. -/
def rounded (negative : Bool) (coefficient : Nat) (exponent : Int) : Decimal128 :=
  if coefficient = 0 then
    .finite negative 0 (max leastExponent (min greatestExponent exponent))
  else
    let count := digitCount coefficient
    let grid := max (count + exponent - maxDigits) leastExponent
    if greatestExponent < grid then .infinity negative
    else if grid ≤ exponent then
      let excess := (exponent - greatestExponent).toNat
      .finite negative (coefficient * 10 ^ excess) (exponent - excess)
    else if count < (grid - exponent).toNat then onGrid negative 0 grid
    else onGrid negative (divideToEven coefficient (10 ^ (grid - exponent).toNat)) grid

/-! ## Reading -/

/-- The words for numbers that have no digits.  Zeros may follow the words for no number. -/
def named? (text : List Char) : Option (Bool → Decimal128) :=
  let (letters, zeros) := DecimalLiteral.spanOf (fun c => (digit? c).isNone) text
  let word := letters.map lowerAscii
  if zeros.isEmpty && (word = "inf".toList || word = "infinity".toList) then some .infinity
  else if zeros.all (fun c => digit? c = some 0) = false then none
  else if word = "nan".toList then some (fun negative => .nan negative false)
  else if word = "snan".toList then some (fun negative => .nan negative true)
  else none

/-- The number of a literal. -/
def ofLiteral (literal : DecimalLiteral) : Decimal128 :=
  let fraction := literal.fraction.getD []
  rounded literal.negative (digitsValue (literal.whole ++ fraction))
    (literal.exponentValue - fraction.length)

/-- The number that a text writes; a text that writes none is no number. -/
def ofText (text : String) : Decimal128 :=
  let cs := text.toList
  let (negative, unsigned) := DecimalLiteral.readSign cs
  match named? unsigned with
  | some number => number negative
  | none =>
      match if cs.contains '\n' then none else DecimalLiteral.read? cs with
      | some literal => ofLiteral literal
      | none => .nan false false

/-! ## Writing -/

/-- A sign in front of a text. -/
def signed (negative : Bool) (cs : List Char) : String :=
  String.ofList (if negative then '-' :: cs else cs)

/-- Digits with a point before the digit at the given place, which may lie outside. -/
def withPoint (digits : List Char) (place : Int) : List Char :=
  if place ≤ 0 then '0' :: '.' :: List.replicate (-place).toNat '0' ++ digits
  else if digits.length ≤ place then
    digits ++ List.replicate (place - digits.length).toNat '0'
  else digits.take place.toNat ++ '.' :: digits.drop place.toNat

/-- The text of a coefficient and exponent: plain when the exponent is not positive and no more
than five zeros follow the point, and with an exponent otherwise. -/
def finiteText (coefficient : Nat) (exponent : Int) : List Char :=
  let digits := naturalText coefficient
  let left := exponent + digits.length
  if exponent ≤ 0 && -6 < left then withPoint digits left
  else
    let power := left - 1
    withPoint digits 1 ++ 'E' :: (if power < 0 then '-' else '+') :: naturalText power.natAbs

/-- The text of a number. -/
def text : Decimal128 → String
  | .nan negative signaling => signed negative (if signaling then "sNaN" else "NaN").toList
  | .infinity negative => signed negative "Infinity".toList
  | .finite negative coefficient exponent => signed negative (finiteText coefficient exponent)

end Decimal128

end DocConsole
