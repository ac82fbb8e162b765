/-!
# Letters without regard to case

Keywords and names are compared without regard to case by simple case folding.  Under that rule
four letters outside ASCII stand for an ASCII one: the dotted capital I and the dotless i for i,
the long s for s, and the Kelvin sign for k.  Lower-casing is kept to the characters whose lower
case holds an ASCII letter; no caller can tell the others apart.
-/

set_option autoImplicit false

namespace DocConsole.Text

/-- The lower-case form of an ASCII capital; any other character unchanged. -/
def lowerAscii (c : Char) : Char :=
  if 'A' ≤ c && c ≤ 'Z' then Char.ofNat (c.toNat + 0x20) else c

/-- The ASCII letter, in lower case, that a character folds to when it folds to one. -/
def foldLetter (c : Char) : Char :=
  match c.toNat with
  | 0x130 => 'i'
  | 0x131 => 'i'
  | 0x17F => 's'
  | 0x212A => 'k'
  | _ => lowerAscii c

/-- The lower-case form of a character: the dotted capital I becomes i and a combining dot. -/
def lowerOf (c : Char) : List Char :=
  match c.toNat with
  | 0x130 => ['i', Char.ofNat 0x307]
  | 0x212A => ['k']
  | _ => [lowerAscii c]

/-- A text in lower case, as far as ASCII letters are concerned. -/
def lowered (cs : List Char) : List Char :=
  cs.flatMap lowerOf

/-- An ASCII letter, digit or underscore. -/
def isWordAscii (c : Char) : Bool :=
  ('a' ≤ c && c ≤ 'z') || ('A' ≤ c && c ≤ 'Z') || ('0' ≤ c && c ≤ '9') || c == '_'

/-- A character that folds to an ASCII letter, digit or underscore. -/
def isWord (c : Char) : Bool :=
  isWordAscii (foldLetter c)

theorem foldLetter_of_ascii {c : Char} (h : c.toNat < 0x80) : foldLetter c = lowerAscii c := by
  unfold foldLetter
  split <;> first | omega | rfl

theorem lt_of_isWordAscii {c : Char} (h : isWordAscii c = true) : c.toNat < 0x80 := by
  simp only [isWordAscii, Bool.or_eq_true, Bool.and_eq_true, decide_eq_true_eq, beq_iff_eq,
    Char.le_def, UInt32.le_iff_toNat_le] at h
  rcases h with ((⟨-, h⟩ | ⟨-, h⟩) | ⟨-, h⟩) | rfl
  · exact Nat.lt_of_le_of_lt h (by decide)
  · exact Nat.lt_of_le_of_lt h (by decide)
  · exact Nat.lt_of_le_of_lt h (by decide)
  · decide

theorem isWord_of_isWordAscii {c : Char} (h : isWordAscii c = true) : isWord c = true := by
  have hbound := lt_of_isWordAscii h
  rw [isWord, foldLetter_of_ascii hbound]
  have hall : ∀ n : Fin 0x80, isWordAscii (Char.ofNat n) = true →
      isWordAscii (lowerAscii (Char.ofNat n)) = true := by decide
  have := hall ⟨c.toNat, hbound⟩
  simpa [Char.ofNat_toNat, h] using this

end DocConsole.Text
