import DocConsole.Text.Blank
import DocConsole.Text.Letter
import DocConsole.Text.Quoted
import DocConsole.Value.Basic

/-!
# Object ids

Which texts name an object id.  A text of 24 hexadecimal digits does, in either letter case, and its
digits are kept in lower case.  Whether a text of 24 characters does so too when white space stands
between its bytes is for the library of the database to say, so what that takes for an object id is
a parameter, with a strict and a loose reading as its bounds.  Every other text, and every value
that is no text, stands for itself.  Main statement: the loose reading takes exactly the texts of
that length that write bytes.
-/

set_option autoImplicit false

namespace DocConsole

open Text

namespace ObjectId

/-! ## Texts of bytes -/

/-- The number of characters of a text that names an object id. -/
def textLength : Nat := 24

/-- A hexadecimal digit of either letter case. -/
def isHexDigit (c : Char) : Bool :=
  (hexValue? c).isSome

/-- A text writes bytes as two hexadecimal digits each, with white space anywhere but between those
two.  The digits are also given on their own, in lower case. -/
inductive WritesBytes : List Char → List Char → Prop where
  | nil : WritesBytes [] []
  | blank {c : Char} {cs digits : List Char} (hc : isAsciiBlank c = true)
      (h : WritesBytes cs digits) : WritesBytes (c :: cs) digits
  | byte {c d : Char} {cs digits : List Char} (hc : isHexDigit c = true)
      (hd : isHexDigit d = true) (h : WritesBytes cs digits) :
      WritesBytes (c :: d :: cs) (lowerAscii c :: lowerAscii d :: digits)

/-- The digits of the bytes that a text writes. -/
def digitsOf? : List Char → Option (List Char)
  | [] => some []
  | c :: cs =>
      if isAsciiBlank c then digitsOf? cs
      else
        match cs with
        | [] => none
        | d :: cs =>
            if isHexDigit c && isHexDigit d then
              (digitsOf? cs).map (fun digits => lowerAscii c :: lowerAscii d :: digits)
            else none

/-- White space is no digit. -/
theorem isHexDigit_of_isAsciiBlank {c : Char} (h : isAsciiBlank c = true) :
    isHexDigit c = false := by
  have hbound : c.toNat < 0x80 := by
    simp only [isAsciiBlank, Bool.or_eq_true, Bool.and_eq_true, decide_eq_true_eq,
      beq_iff_eq] at h
    rcases h with rfl | ⟨-, hle⟩
    · decide
    · omega
  have hall : ∀ n : Fin 0x80, isAsciiBlank (Char.ofNat n) = true →
      isHexDigit (Char.ofNat n) = false := by decide
  have hdigit := hall ⟨c.toNat, hbound⟩
  rw [Char.ofNat_toNat] at hdigit
  exact hdigit h

theorem digitsOf?_eq_some_iff {cs digits : List Char} :
    digitsOf? cs = some digits ↔ WritesBytes cs digits := by
  constructor
  · intro h
    fun_induction digitsOf? cs generalizing digits with
    | case1 =>
        cases h
        exact .nil
    | case2 c cs hblank ih => exact .blank hblank (ih h)
    | case3 c hother => cases h
    | case4 c hother d cs hdigits ih =>
        obtain ⟨rest, hrest, rfl⟩ := Option.map_eq_some_iff.mp h
        obtain ⟨hc, hd⟩ := (Bool.and_eq_true _ _).mp hdigits
        exact .byte hc hd (ih hrest)
    | case5 c hother d cs hdigits => cases h
  · intro h
    induction h with
    | nil => rfl
    | blank hc _ ih =>
        rw [digitsOf?.eq_def]
        simp only [if_pos hc, ih]
    | @byte c d cs digits hc hd _ ih =>
        have hblank : ¬ isAsciiBlank c = true := by
          intro hblank
          rw [isHexDigit_of_isAsciiBlank hblank] at hc
          cases hc
        rw [digitsOf?, if_neg hblank]
        simp only [hc, hd, ih, Bool.and_self, if_true, Option.map_some]

/-- An even number of digits writes bytes. -/
theorem writesBytes_of_all : ∀ {cs : List Char}, cs.all isHexDigit = true →
    cs.length % 2 = 0 → WritesBytes cs (cs.map lowerAscii)
  | [], _, _ => .nil
  | [_], _, hlength => by cases hlength
  | c :: d :: cs, h, hlength => by
      simp only [List.all_cons, Bool.and_eq_true] at h
      obtain ⟨hc, hd, hrest⟩ := h
      refine .byte hc hd (writesBytes_of_all hrest ?_)
      rw [List.length_cons, List.length_cons] at hlength
      omega

/-! ## Readings -/

/-- A text of 24 hexadecimal digits. -/
def IsDigits (text : String) : Prop :=
  text.toList.length = textLength ∧ text.toList.all isHexDigit = true

instance (text : String) : Decidable (IsDigits text) :=
  inferInstanceAs (Decidable (_ ∧ _))

/-- A text of 24 characters writes bytes, with the given digits. -/
def Names (text hex : String) : Prop :=
  text.toList.length = textLength ∧ WritesBytes text.toList hex.toList

/-- A text with its digits in lower case. -/
def lowerDigits (text : String) : String :=
  String.ofList (text.toList.map lowerAscii)

theorem IsDigits.names {text : String} (h : IsDigits text) : Names text (lowerDigits text) := by
  refine ⟨h.1, ?_⟩
  rw [lowerDigits, String.toList_ofList]
  exact writesBytes_of_all h.2 (by rw [h.1]; rfl)

/-- What a library takes for an object id: every text of 24 hexadecimal digits, and perhaps other
texts that write bytes. -/
structure Reading where
  /-- The digits of the object id that a text is taken for. -/
  read? : String → Option String
  /-- Digits alone are always read. -/
  read?_of_isDigits {text : String} (h : IsDigits text) : read? text = some (lowerDigits text)
  /-- Only the digits of bytes are read. -/
  names_of_read? {text hex : String} (h : read? text = some hex) : Names text hex

namespace Reading

/-- The reading of digits alone. -/
def strict : Reading where
  read? text := if IsDigits text then some (lowerDigits text) else none
  read?_of_isDigits h := if_pos h
  names_of_read? {text hex} h := by
    split at h
    · rename_i hdigits
      cases h
      exact hdigits.names
    · cases h

/-- The text of the digits, if a text of 24 characters writes bytes. -/
def looseText? (text : String) : Option String :=
  if text.toList.length = textLength then (digitsOf? text.toList).map String.ofList else none

theorem looseText?_eq_some_iff {text hex : String} :
    looseText? text = some hex ↔ Names text hex := by
  rw [looseText?, Names, ← digitsOf?_eq_some_iff]
  split
  · rename_i hlength
    rw [Option.map_eq_some_iff]
    constructor
    · rintro ⟨digits, hdigits, rfl⟩
      exact ⟨hlength, by rw [hdigits, String.toList_ofList]⟩
    · rintro ⟨-, hdigits⟩
      exact ⟨hex.toList, hdigits, String.ofList_toList⟩
  · rename_i hlength
    constructor
    · intro h
      cases h
    · rintro ⟨hlength', -⟩
      exact absurd hlength' hlength

/-- The reading of all texts that write bytes. -/
def loose : Reading where
  read? := looseText?
  read?_of_isDigits h := looseText?_eq_some_iff.mpr h.names
  names_of_read? h := looseText?_eq_some_iff.mp h

-- Only the loose reading passes over white space.
example : strict.read? "64b7f0c2 a1b2c3d4 e5f607" = none ∧
    loose.read? "64b7f0c2 a1b2c3d4 e5f607" = some "64b7f0c2a1b2c3d4e5f607" := by
  decide +kernel

end Reading

/-- The digits of the object id of a number. -/
def numbered (n : Nat) : String :=
  String.ofList (hexDigits textLength n)

end ObjectId

/-- A value as an id in a database: a text that is taken for an object id is that object id. -/
def Value.asStoredId (reading : ObjectId.Reading) : Value → Value
  | .str s =>
      match reading.read? s with
      | some hex => .objectId hex
      | none => .str s
  | value => value

end DocConsole
