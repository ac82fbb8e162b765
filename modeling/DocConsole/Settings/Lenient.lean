import DocConsole.Intake
import DocConsole.Number.Literal
import DocConsole.Text.Blank
import DocConsole.Text.Letter

/-!
# Lenient readings of settings

A setting that is a whole number or a truth value may come in another form: a number from a truth
value, from a float without fraction or from a text, a truth value from a number or from one of a
few words.  Texts are read in two ways.  The plain way allows a sign, digits of any script and
single underscores between them.  The way for settings allows ASCII digits, zeros in front, and a
fraction of zeros.  Main statement: a whole number is let through as itself exactly when it is
positive.
-/

set_option autoImplicit false

namespace DocConsole.Lenient

open Text

attribute [local instance] corePow

/-! ## Whole numbers in plain digits -/

mutual

/-- Digits in groups: an underscore stands only between two digits. -/
def wellGrouped : List Char → Bool
  | [] => false
  | c :: cs => c ≠ '_' && groupsGoOn cs

/-- What may follow a digit of a group. -/
def groupsGoOn : List Char → Bool
  | [] => true
  | c :: cs => if c = '_' then wellGrouped cs else groupsGoOn cs

end

/-- The digits of groups, without the underscores. -/
def ungrouped (cs : List Char) : List Char :=
  cs.filter (· ≠ '_')

/-- The whole number of a text, white space around it left out.  Too many digits are told before
anything that is wrong behind them. -/
def readWhole (text : String) : Except Fault Int :=
  let (negative, unsigned) := DecimalLiteral.readSign (trimWhite text.toList)
  let (groups, rest) := DecimalLiteral.spanOf (fun c => isDigit c || c == '_') unsigned
  let digits := ungrouped groups
  if wellGrouped groups = false then .error (.badInteger text)
  else if maxIntegerDigits < digits.length then .error (.tooManyDigits digits.length)
  else if rest.isEmpty = false then .error (.badInteger text)
  else
    let n : Int := digitsValue digits
    .ok (if negative then -n else n)

/-! ## Whole numbers of settings -/

/-- An ASCII digit other than zero. -/
def isLeading (c : Char) : Bool :=
  '1' ≤ c && c ≤ '9'

/-- The zeros and underscores after a first zero left out; `previous` is the last one of them.  A
point keeps the one before it, and a minus sign may follow them like a digit. -/
def afterZero (previous : Char) : List Char → Option (List Char)
  | [] => some [previous]
  | c :: cs =>
      if c = '0' || c = '_' then afterZero c cs
      else if isLeading c || c = '-' then some (c :: cs)
      else if c = '.' then some (previous :: c :: cs)
      else none

/-- The zeros in front left out; there must be a digit. -/
def withoutZeros : List Char → Option (List Char)
  | [] => none
  | c :: cs =>
      if c = '0' then afterZero c cs
      else if isLeading c then some (c :: cs)
      else none

/-- A point and the zeros after it left out, when there are zeros and nothing else after it. -/
def withoutFraction (cs : List Char) : List Char :=
  let fraction := (cs.dropWhile (· ≠ '.')).drop 1
  if fraction ≠ [] && fraction.all (· = '0') then cs.takeWhile (· ≠ '.') else cs

/-- Whether two underscores stand side by side. -/
def doublesUnderscore : List Char → Bool
  | a :: b :: cs => (a = '_' && b = '_') || doublesUnderscore (b :: cs)
  | _ => false

/-- Single underscores inside left out. -/
def withoutUnderscores (cs : List Char) : List Char :=
  if cs.head? = some '_' || cs.getLast? = some '_' || doublesUnderscore cs then cs
  else ungrouped cs

/-- A minus sign in front taken off, with whether there was one. -/
def takeMinus : List Char → Bool × List Char
  | '-' :: cs => (true, cs)
  | cs => (false, cs)

/-- The whole number of a sign and digits, in the form that JSON has; no more digits than are
allowed. -/
def plainWhole (negative : Bool) : List Char → Intake Int
  | [] => Intake.refuse .writesInteger
  | first :: rest =>
      if first = '0' && rest.isEmpty then .ok 0
      else if isLeading first then
        let (digits, remains) := DecimalLiteral.spanOf Char.isDigit (first :: rest)
        if maxIntegerDigits < digits.length || !remains.isEmpty then Intake.refuse .writesInteger
        else
          let n : Int := digitsValue digits
          .ok (if negative then -n else n)
      else Intake.refuse .writesInteger

/-- A plus sign in front left out, unless a minus sign follows. -/
def withoutPlus : List Char → Option (List Char)
  | '+' :: '-' :: _ => none
  | '+' :: cs => some cs
  | cs => some cs

/-- The digits of a whole number without what need not be there, and then its value.  Where a minus
sign came off the front, the digits cannot bring another one. -/
def wholeOfUnsigned (negative : Bool) (cs : List Char) : Intake Int :=
  match withoutZeros cs with
  | none => Intake.refuse .writesInteger
  | some digits =>
      match negative, takeMinus (withoutUnderscores (withoutFraction digits)) with
      | true, (true, _) => Intake.refuse .writesInteger
      | _, (minus, digits) => plainWhole (negative || minus) digits

/-- Whether a text starts, as it stands, with the digits of a whole number that has more of them
than are allowed. -/
def startsTooLong (cs : List Char) : Bool :=
  let digits := (takeMinus cs).2.takeWhile Char.isDigit
  digits.head?.any isLeading && maxIntegerDigits < digits.length

/-- The whole number that a text stands for.  That it has too many digits is told only where they
stand at its front, and then before anything that is wrong behind them. -/
def wholeOfText (text : String) : Intake Int :=
  if startsTooLong text.toList then Intake.refuse .writesShortInteger
  else
    match withoutPlus (trimWhite text.toList) with
    | none => Intake.refuse .writesInteger
    | some cs =>
        let (negative, unsigned) := takeMinus cs
        wholeOfUnsigned negative unsigned

/-- The number of values that a word of 64 bits with sign has on either side of zero. -/
def wordBound : Nat := 2 ^ (63 : Nat)

/-- The whole number that a float is equal to, if it fits into a word. -/
def wordOfFloat? (x : Binary64) : Option Int :=
  x.toInt?.filter (fun n => n.natAbs < wordBound)

/-- The whole number that a float stands for. -/
def wholeOfFloat (x : Binary64) : Intake Int :=
  if x.isFinite = false then Intake.refuse .isFinite
  else
    match x.toInt? with
    | none => Intake.refuse .isWhole
    | some n => if n.natAbs < wordBound then .ok n else Intake.refuse .writesShortInteger

/-- The whole number that a value stands for. -/
def whole : Value → Intake Int
  | .int n => .ok n
  | .bool b => .ok (if b then 1 else 0)
  | .float x => wholeOfFloat x
  | .str s => wholeOfText s
  | _ => Intake.refuse .isInteger

/-- A whole number greater than zero. -/
def positive (value : Value) : Intake Int :=
  match whole value with
  | .ok n => if 0 < n then .ok n else Intake.refuse .isGreater
  | .error violations => .error violations

/-! ## Truth values -/

/-- The words for false. -/
def falseWords : List String :=
  ["0", "f", "n", "no", "off", "false"]

/-- The words for true. -/
def trueWords : List String :=
  ["1", "t", "y", "on", "yes", "true"]

/-- The truth value of a word, without regard to the case of ASCII letters. -/
def truthOfText (text : String) : Intake Bool :=
  let word := String.ofList (text.toList.map lowerAscii)
  if falseWords.contains word then .ok false
  else if trueWords.contains word then .ok true
  else Intake.refuse .writesBool

/-- The truth value of a number: zero and one alone have one. -/
def truthOfInt (n : Int) : Intake Bool :=
  if n = 0 then .ok false else if n = 1 then .ok true else Intake.refuse .writesBool

/-- The truth value that a value stands for; a number beyond a word counts as no number. -/
def truth : Value → Intake Bool
  | .bool b => .ok b
  | .str s => truthOfText s
  | .int n =>
      if -(wordBound : Int) ≤ n && n < wordBound then truthOfInt n else Intake.refuse .isBool
  | .float x =>
      match wordOfFloat? x with
      | some n => truthOfInt n
      | none => Intake.refuse .isBool
  | _ => Intake.refuse .isBool

theorem positive_int_iff (n m : Int) : positive (.int n) = .ok m ↔ m = n ∧ 0 < n := by
  unfold positive
  simp only [whole]
  split
  · rename_i h
    simp [h, eq_comm]
  · rename_i h
    simp [Intake.refuse, h]

end DocConsole.Lenient
