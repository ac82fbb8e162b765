import DocConsole.Json.Token
import DocConsole.Json.Writer

/-!
# JSON strings read back

Each character of a text is written in ASCII, as itself or by an escape, and a character beyond the
first plane by the two halves of its UTF-16 form.  Main statement: the string that a text is written
as is one token, and that token is the text.
-/

set_option autoImplicit false

namespace DocConsole.Json

open Text

variable {start cs rest : List Char} {units : List Nat} {c : Char}

/-! ## Units -/

/-- The code points and UTF-16 units that a character is written by. -/
def unitsOf (c : Char) : List Nat :=
  if c.toNat < 0x10000 then [c.toNat]
  else [0xD800 + (c.toNat - 0x10000) / 0x400, 0xDC00 + (c.toNat - 0x10000) % 0x400]

/-- No character is half of one, and each is below the end of the last plane. -/
theorem toNat_valid (c : Char) :
    c.toNat < 0xD800 ∨ 0xDFFF < c.toNat ∧ c.toNat < 0x110000 :=
  c.valid

theorem single_toNat (c : Char) : joinUnits.single c.toNat = c := by
  have hvalid := toNat_valid c
  rw [joinUnits.single, if_neg (by simp; omega), Char.ofNat_toNat]

/-- The units of a character are joined to it. -/
theorem joinUnits_unitsOf (c : Char) (units : List Nat) :
    joinUnits (unitsOf c ++ units) = c :: joinUnits units := by
  rw [unitsOf]
  split
  · cases units with
    | nil =>
        rw [List.append_nil]
        exact congrArg (fun d => [d]) (single_toNat c)
    | cons low units =>
        have hvalid := toNat_valid c
        rw [List.singleton_append, joinUnits, if_neg (by simp; omega), single_toNat]
  · rename_i hbeyond
    have hvalid := toNat_valid c
    have hcode : 0x10000 + (0xD800 + (c.toNat - 0x10000) / 0x400 - 0xD800) * 0x400 +
        (0xDC00 + (c.toNat - 0x10000) % 0x400 - 0xDC00) = c.toNat := by
      omega
    rw [List.cons_append, List.singleton_append, joinUnits, if_pos (by simp; omega), hcode,
      Char.ofNat_toNat]

theorem joinUnits_flatMap (cs : List Char) : joinUnits (cs.flatMap unitsOf) = cs := by
  induction cs with
  | nil => rfl
  | cons c cs ih => rw [List.flatMap_cons, joinUnits_unitsOf, ih]

/-! ## Escapes -/

theorem hexValue?_hexDigit (n : Nat) : hexValue? (hexDigit n) = some (n % 16) := by
  have hall : ∀ d : Fin 16, hexValue? (hexDigit d) = some d.val := by decide
  have hdigit : hexDigit (n % 16) = hexDigit n := by simp [hexDigit]
  rw [← hdigit]
  exact hall ⟨n % 16, Nat.mod_lt _ (by decide)⟩

/-- Four digits behind a backslash and the letter u are read as the unit that they name; a character
follows them. -/
theorem readUnits_digits {a b c d : Char} {unit : Nat} (hunit : unitOf? a b c d = some unit)
    (h : readUnits start cs = .ok (units, rest)) :
    readUnits start ('\\' :: 'u' :: a :: b :: c :: d :: cs) = .ok (unit :: units, rest) := by
  cases cs with
  | nil => cases h
  | cons e cs =>
      rw [readUnits, hunit]
      simp only [h]

/-- The escape of a unit is read as that unit. -/
theorem readUnits_escapeUnit {n : Nat} (hn : n < 0x10000)
    (h : readUnits start cs = .ok (units, rest)) :
    readUnits start (escapeUnit n ++ cs) = .ok (n :: units, rest) := by
  have hunit : unitOf? (hexDigit (n / 16 / 16 / 16)) (hexDigit (n / 16 / 16)) (hexDigit (n / 16))
      (hexDigit n) = some n := by
    have hsum : ((n / 16 / 16 / 16 % 16 * 16 + n / 16 / 16 % 16) * 16 + n / 16 % 16) * 16 +
        n % 16 = n := by
      omega
    simp only [unitOf?, hexValue?_hexDigit, hsum]
  exact readUnits_digits hunit h

/-- A letter behind a backslash is read as the unit that it stands for. -/
theorem readUnits_simpleEscape {unit : Nat} (hunit : simpleEscape? c = some unit)
    (h : readUnits start cs = .ok (units, rest)) :
    readUnits start ('\\' :: c :: cs) = .ok (unit :: units, rest) := by
  have hletter : c ≠ 'u' := by
    rintro rfl
    cases hunit
  rw [readUnits, if_neg hletter, hunit]
  · simp only [h]
  · simp [hletter]

theorem readUnits_plain (hquote : c ≠ '"') (hbackslash : c ≠ '\\') (hcontrol : ¬ c.toNat < 0x20)
    (h : readUnits start cs = .ok (units, rest)) :
    readUnits start (c :: cs) = .ok (c.toNat :: units, rest) := by
  rw [readUnits, if_neg hcontrol]
  · simp only [h]
  · simp [hquote]
  · simp [hbackslash]
  · simp [hbackslash]
  · simp [hbackslash]

/-- The four ways in which a character stands in a string. -/
inductive Escaped (c : Char) : List Char → Prop where
  /-- By a letter behind a backslash. -/
  | simple (letter : Char) (hplane : c.toNat < 0x10000)
      (hletter : simpleEscape? letter = some c.toNat) : Escaped c ['\\', letter]
  /-- As it is. -/
  | plain (hplane : c.toNat < 0x10000) (hquote : c ≠ '"') (hbackslash : c ≠ '\\')
      (hcontrol : ¬ c.toNat < 0x20) : Escaped c [c]
  /-- By its code point. -/
  | unit (hplane : c.toNat < 0x10000) : Escaped c (escapeUnit c.toNat)
  /-- By its two halves. -/
  | halves (hplane : ¬ c.toNat < 0x10000) :
      Escaped c (escapeUnit (0xD800 + (c.toNat - 0x10000) / 0x400) ++
        escapeUnit (0xDC00 + (c.toNat - 0x10000) % 0x400))

theorem escaped_escapeChar (c : Char) : Escaped c (escapeChar c) := by
  by_cases hsimple : c ∈ ['"', '\\', '\n', '\r', '\t', Char.ofNat 0x8, Char.ofNat 0xC]
  · simp only [List.mem_cons, List.not_mem_nil, or_false] at hsimple
    rcases hsimple with rfl | rfl | rfl | rfl | rfl | rfl | rfl
    · exact .simple '"' (by decide) rfl
    · exact .simple '\\' (by decide) rfl
    · exact .simple 'n' (by decide) rfl
    · exact .simple 'r' (by decide) rfl
    · exact .simple 't' (by decide) rfl
    · exact .simple 'b' (by decide) rfl
    · exact .simple 'f' (by decide) rfl
  · simp only [List.mem_cons, List.not_mem_nil, or_false, not_or] at hsimple
    obtain ⟨hquote, hbackslash, hfeed, hreturn, htab, hback, hform⟩ := hsimple
    simp only [escapeChar, beq_iff_eq, hquote, hbackslash, hfeed, hreturn, htab, hback, hform,
      if_false]
    split
    · rename_i hrange
      simp only [Bool.and_eq_true, decide_eq_true_eq, Char.le_def, UInt32.le_iff_toNat_le] at hrange
      have hlow : 0x20 ≤ c.toNat := hrange.1
      have hhigh : c.toNat ≤ 0x7E := hrange.2
      exact .plain (by omega) hquote hbackslash (by omega)
    · split
      · rename_i hplane
        exact .unit hplane
      · rename_i hplane
        exact .halves hplane

/-- A character as it stands in a string is read as its units. -/
theorem readUnits_escapeChar (c : Char) (h : readUnits start cs = .ok (units, rest)) :
    readUnits start (escapeChar c ++ cs) = .ok (unitsOf c ++ units, rest) := by
  have hescaped := escaped_escapeChar c
  unfold unitsOf
  generalize escapeChar c = written at hescaped ⊢
  cases hescaped with
  | simple letter hplane hletter =>
      rw [if_pos hplane]
      exact readUnits_simpleEscape hletter h
  | plain hplane hquote hbackslash hcontrol =>
      rw [if_pos hplane]
      exact readUnits_plain hquote hbackslash hcontrol h
  | unit hplane =>
      rw [if_pos hplane]
      exact readUnits_escapeUnit hplane h
  | halves hplane =>
      have hvalid := toNat_valid c
      rw [if_neg hplane, List.append_assoc]
      exact readUnits_escapeUnit (by omega) (readUnits_escapeUnit (by omega) h)

/-! ## Strings -/

/-- The string of a text is read to its closing quote. -/
theorem readUnits_flatMap (cs rest : List Char) :
    readUnits start (cs.flatMap escapeChar ++ '"' :: rest) = .ok (cs.flatMap unitsOf, rest) := by
  induction cs with
  | nil => rfl
  | cons c cs ih =>
      rw [List.flatMap_cons, List.append_assoc]
      exact readUnits_escapeChar c ih

/-! ## Tokens -/

theorem tokens_cons (h : isSpace c = false) (cs : List Char) :
    tokens (c :: cs) = ⟨(readToken c cs).1, c :: cs⟩ :: tokens (readToken c cs).2 := by
  rw [tokens, if_neg (by simp [h])]

/-- White space before a token is passed over. -/
theorem tokens_append_spaces {spaces : List Char} (h : spaces.all isSpace = true)
    (cs : List Char) : tokens (spaces ++ cs) = tokens cs := by
  induction spaces with
  | nil => rfl
  | cons c spaces ih =>
      rw [List.all_cons, Bool.and_eq_true] at h
      rw [List.cons_append, tokens, if_pos h.1, ih h.2]

/-- The string of a text is one token. -/
theorem tokens_writeText (s : String) (rest : List Char) :
    tokens (writeText s ++ rest) = ⟨.text s, writeText s ++ rest⟩ :: tokens rest := by
  have hread : readToken '"' (s.toList.flatMap escapeChar ++ '"' :: rest) = (.text s, rest) := by
    simp only [readToken, readUnits_flatMap, joinUnits_flatMap, String.ofList_toList]
  have htext : writeText s ++ rest = '"' :: (s.toList.flatMap escapeChar ++ '"' :: rest) := by
    simp [writeText]
  rw [htext, tokens_cons rfl, hread]

end DocConsole.Json
