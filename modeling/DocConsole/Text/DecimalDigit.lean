/-!
# Decimal digits

The decimal digits of all scripts (Unicode category Nd) with their values.  They come in runs of
ten, zero first, so the table lists the zeros.  Main statement: the value of a digit is below ten.
-/

set_option autoImplicit false

namespace DocConsole.Text

/-- The code points of the zeros; each starts a run of ten digits. -/
def digitZeros : List Nat :=
  [0x30, 0x660, 0x6F0, 0x7C0, 0x966, 0x9E6, 0xA66, 0xAE6, 0xB66, 0xBE6, 0xC66, 0xCE6, 0xD66,
   0xDE6, 0xE50, 0xED0, 0xF20, 0x1040, 0x1090, 0x17E0, 0x1810, 0x1946, 0x19D0, 0x1A80, 0x1A90,
   0x1B50, 0x1BB0, 0x1C40, 0x1C50, 0xA620, 0xA8D0, 0xA900, 0xA9D0, 0xA9F0, 0xAA50, 0xABF0,
   0xFF10, 0x104A0, 0x10D30, 0x11066, 0x110F0, 0x11136, 0x111D0, 0x112F0, 0x11450, 0x114D0,
   0x11650, 0x116C0, 0x11730, 0x118E0, 0x11950, 0x11C50, 0x11D50, 0x11DA0, 0x16A60, 0x16AC0,
   0x16B50, 0x1D7CE, 0x1D7D8, 0x1D7E2, 0x1D7EC, 0x1D7F6, 0x1E140, 0x1E2F0, 0x1E950, 0x1FBF0]

/-- The value of a decimal digit of any script. -/
def digit? (c : Char) : Option Nat :=
  match digitZeros.find? (fun start => start ≤ c.toNat && c.toNat < start + 10) with
  | some start => some (c.toNat - start)
  | none => none

/-- A decimal digit of any script. -/
def isDigit (c : Char) : Bool :=
  (digit? c).isSome

/-- The number a run of digits writes; a character that is no digit counts as zero. -/
def digitsValue (cs : List Char) : Nat :=
  cs.foldl (fun n c => 10 * n + (digit? c).getD 0) 0

/-- The ten ASCII digits, zero first. -/
def asciiDigit (n : Nat) : Char :=
  Char.ofNat (0x30 + n % 10)

/-- The decimal digits of a number, most significant first, without leading zeros. -/
def naturalText (n : Nat) : List Char :=
  if n < 10 then [asciiDigit n] else naturalText (n / 10) ++ [asciiDigit n]

/-- The decimal text of an integer, with a minus sign when it is negative. -/
def integerText (n : Int) : List Char :=
  if n < 0 then '-' :: naturalText n.natAbs else naturalText n.natAbs

/-- The decimal text of a natural number. -/
def decimalOfNat (n : Nat) : String :=
  String.ofList (naturalText n)

/-- The decimal text of an integer. -/
def decimalOfInt (n : Int) : String :=
  String.ofList (integerText n)

theorem digit?_lt_ten {c : Char} {d : Nat} (h : digit? c = some d) : d < 10 := by
  unfold digit? at h
  split at h
  · rename_i start hz
    have := List.find?_some hz
    simp at this h
    omega
  · simp at h

end DocConsole.Text
