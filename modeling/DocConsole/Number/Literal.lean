import DocConsole.Number.Binary64
import DocConsole.Text.DecimalDigit

/-!
# Decimal literals

The grammar of a decimal number: an optional sign, digits with an optional point and optional
further digits or a point followed by digits, then optionally an exponent.  Digits may be those of
any script.  A literal of a sign and digits only stands for a whole number, every other one for a
binary64 number.  Main statement: a text is split into its digits and the rest without loss.
-/

set_option autoImplicit false

namespace DocConsole

open Text

/-! ## Parts of a literal -/

/-- A decimal literal, taken apart. -/
structure DecimalLiteral where
  /-- Whether a minus sign stands in front. -/
  negative : Bool
  /-- The digits before the point. -/
  whole : List Char
  /-- The digits after the point, when there is a point. -/
  fraction : Option (List Char)
  /-- The sign and the digits of the exponent, when there is one. -/
  exponent : Option (Bool × List Char)
  deriving DecidableEq, Repr

/-- The largest number of digits a whole number may be written with to be read.  Writing has no such
limit here: a longer number still has its text, where an implementation that limits both ways would
fail. -/
def maxIntegerDigits : Nat := 4300

namespace DecimalLiteral

/-- Only a sign and digits. -/
def isInteger (l : DecimalLiteral) : Bool :=
  l.fraction.isNone && l.exponent.isNone

/-- The whole number that the digits before the point stand for. -/
def toInt (l : DecimalLiteral) : Int :=
  let n : Int := digitsValue l.whole
  if l.negative then -n else n

/-- The power of ten of the exponent. -/
def exponentValue (l : DecimalLiteral) : Int :=
  match l.exponent with
  | none => 0
  | some (negative, digits) =>
      let n : Int := digitsValue digits
      if negative then -n else n

/-- The binary64 number nearest to the literal. -/
def toBinary64 (l : DecimalLiteral) : Binary64 :=
  let fraction := l.fraction.getD []
  .ofDecimal l.negative (digitsValue (l.whole ++ fraction))
    (l.exponentValue - fraction.length)

/-! ## Reading -/

/-- The longest run of characters of a class and what follows it. -/
def spanOf (p : Char → Bool) (cs : List Char) : List Char × List Char :=
  (cs.takeWhile p, cs.dropWhile p)

/-- An optional sign: whether it is a minus, and what follows. -/
def readSign : List Char → Bool × List Char
  | '+' :: cs => (false, cs)
  | '-' :: cs => (true, cs)
  | cs => (false, cs)

/-- An exponent at the front: the letter e, an optional sign and at least one digit. -/
def readExponent (p : Char → Bool) : List Char → Option (Bool × List Char) × List Char
  | c :: cs =>
      if c == 'e' || c == 'E' then
        let (negative, unsigned) := readSign cs
        let (digits, rest) := spanOf p unsigned
        if digits.isEmpty then (none, c :: cs) else (some (negative, digits), rest)
      else (none, c :: cs)
  | [] => (none, [])

/-- The digits after a point: none at all without a point. -/
def readFraction (p : Char → Bool) : List Char → Option (List Char) × List Char
  | '.' :: cs => (some (cs.takeWhile p), cs.dropWhile p)
  | cs => (none, cs)

/-- A literal with nothing before or after it, except that one line feed may end the text. -/
def read? (cs : List Char) : Option DecimalLiteral :=
  let (negative, unsigned) := readSign cs
  let (whole, afterWhole) := spanOf isDigit unsigned
  let (fraction, afterFraction) := readFraction isDigit afterWhole
  let (exponent, rest) := readExponent isDigit afterFraction
  if whole.isEmpty && (fraction.getD []).isEmpty then none
  else if rest.isEmpty || rest == ['\n'] then some ⟨negative, whole, fraction, exponent⟩
  else none

theorem spanOf_append (p : Char → Bool) (cs : List Char) :
    (spanOf p cs).1 ++ (spanOf p cs).2 = cs := by
  simp [spanOf, List.takeWhile_append_dropWhile]

end DecimalLiteral

end DocConsole
