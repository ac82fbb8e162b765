/-!
# Base64

Bytes as text over an alphabet of 64 characters: three bytes make four characters, and a last
group of one or two bytes is filled up with equals signs.
-/

set_option autoImplicit false

namespace DocConsole.Text

/-- The character of a number below 64. -/
def base64Char (n : Nat) : Char :=
  let n := n % 64
  if n < 26 then Char.ofNat (0x41 + n)
  else if n < 52 then Char.ofNat (0x61 + n - 26)
  else if n < 62 then Char.ofNat (0x30 + n - 52)
  else if n = 62 then '+'
  else '/'

/-- The Base64 text of bytes. -/
def base64 : List UInt8 → List Char
  | [] => []
  | [a] =>
      let n := a.toNat * 0x10000
      [base64Char (n / 0x40000), base64Char (n / 0x1000), '=', '=']
  | [a, b] =>
      let n := a.toNat * 0x10000 + b.toNat * 0x100
      [base64Char (n / 0x40000), base64Char (n / 0x1000), base64Char (n / 0x40), '=']
  | a :: b :: c :: rest =>
      let n := a.toNat * 0x10000 + b.toNat * 0x100 + c.toNat
      base64Char (n / 0x40000) :: base64Char (n / 0x1000) :: base64Char (n / 0x40) ::
        base64Char n :: base64 rest

end DocConsole.Text
