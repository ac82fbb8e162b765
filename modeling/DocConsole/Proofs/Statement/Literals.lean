import DocConsole.Proofs.Statement.Failures
import DocConsole.Proofs.Statement.Target
import DocConsole.Proofs.Statement.Words

/-!
# Literals written again

The value that a word stands for is written as a word of its own, which need not look like the first
one: signs, zeros in front, missing digits, exponents and digits of other scripts are all gone.
What is written is never longer than what a whole number may be written with, for its digits are no
more than those that were read.  Main statement: a truth value or a number that was read is written
as a word that is read as the same value, with its type and its sign.
-/

set_option autoImplicit false

namespace DocConsole

open Text

attribute [local instance] corePow

variable {word : String} {value : Value}

/-- The number of a literal has at most as many digits as the literal, but at least one. -/
theorem DecimalLiteral.length_naturalText_toInt_le {l : DecimalLiteral} {places : Nat}
    (hplaces : 0 < places) (h : l.whole.length ≤ places) :
    (naturalText l.toInt.natAbs).length ≤ places := by
  have habs : l.toInt.natAbs = digitsValue l.whole := by
    simp only [toInt]
    split
    · exact (Int.natAbs_neg _).trans (Int.natAbs_natCast _)
    · exact Int.natAbs_natCast _
  rw [habs]
  apply length_naturalText_le hplaces
  exact Nat.lt_of_lt_of_le (digitsValue_lt l.whole) (Nat.pow_le_pow_right (by decide) h)

/-- A number that was read can be written without quotes. -/
theorem isBare_of_readNumber (h : readNumber word = .ok (some value)) : value.isBare = true := by
  unfold readNumber at h
  split at h
  · cases h
  · rename_i literal hread
    split at h
    · split at h
      · cases h
      · rename_i hshort
        obtain rfl := Option.some.inj (Except.ok.inj h)
        have hlength : (naturalText literal.toInt.natAbs).length ≤ maxIntegerDigits :=
          DecimalLiteral.length_naturalText_toInt_le (by decide) (Nat.le_of_not_lt hshort)
        exact decide_eq_true hlength
    · simp only [Except.ok.injEq] at h
      split at h
      · rename_i hfinite
        obtain rfl := Option.some.inj h
        exact hfinite
      · cases h

/-- A truth value or a number that a word stands for can be written without quotes. -/
theorem isBare_of_readLiteral (h : readLiteral word = .ok value)
    (hkind : value.kind = .boolean ∨ value.kind = .number) : value.isBare = true := by
  unfold readLiteral at h
  split at h
  · obtain rfl := Except.ok.inj h
    rfl
  · split at h
    · obtain rfl := Except.ok.inj h
      rfl
    · split at h
      · cases h
      · rename_i number hnumber
        obtain rfl := Except.ok.inj h
        exact isBare_of_readNumber hnumber
      · -- What is left are texts, with quotes around them and without.
        split at h
        · obtain rfl := Except.ok.inj h
          rcases hkind with hkind | hkind <;> cases hkind
        · obtain rfl := Except.ok.inj h
          rcases hkind with hkind | hkind <;> cases hkind

/-- What can be written without quotes is written. -/
theorem exists_word_of_isBare (h : value.isBare = true) :
    ∃ text, writeLiteral value = .ok text ∧ Word value text := by
  cases value with
  | bool b => exact ⟨_, rfl, .bare h rfl⟩
  | int n => exact ⟨_, rfl, .bare h rfl⟩
  | float x => exact ⟨_, rfl, .bare h rfl⟩
  | _ => cases h

/-- Every word is read as a value, unless it writes a whole number of too many digits.  A truth
value or a number that it is read as is written as a word, and that word is read as this value
again. -/
theorem literal_reads_back (hshort : ∀ count, ¬ IsOverlong word.toList count) :
    ∃ value, readLiteral word = .ok value ∧
      (value.kind = .boolean ∨ value.kind = .number →
        ∃ text, writeLiteral value = .ok text ∧ readLiteral text = .ok value) := by
  obtain ⟨value, hread⟩ := exists_literal_iff.mpr hshort
  rw [String.ofList_toList] at hread
  refine ⟨value, hread, fun hkind => ?_⟩
  obtain ⟨text, hwrite, hword⟩ := exists_word_of_isBare (isBare_of_readLiteral hread hkind)
  exact ⟨text, hwrite, hword.readLiteral_eq⟩

/-- A negative number with zeros in front, no digits behind the point, and digits of two scripts. -/
def decoratedNumber : String :=
  "-00٧5.E+1٦"

/-- It is written in plain digits, and the number keeps its sign. -/
theorem decorated_number_reads_back :
    (∀ count, ¬ IsOverlong decoratedNumber.toList count) ∧
      ∃ value, readLiteral decoratedNumber = .ok value ∧ value.kind = .number ∧
        writeLiteral value = .ok "-7.5e+17" ∧ readLiteral "-7.5e+17" = .ok value := by
  have hshort : ∀ count, ¬ IsOverlong decoratedNumber.toList count := by
    rintro count ⟨hlong, digits, ⟨-, sign, -, ending, -, hcs⟩, rfl⟩
    have hlength := congrArg List.length hcs
    rw [List.length_append, List.length_append] at hlength
    have hshort : decoratedNumber.toList.length ≤ maxIntegerDigits := by decide
    omega
  obtain ⟨value, hread, hback⟩ := literal_reads_back hshort
  have hvalue : readLiteral decoratedNumber = readLiteral "-7.5e+17" := by decide +kernel
  have hkind : (readLiteral decoratedNumber).toOption.map Value.kind = some .number := by
    decide +kernel
  have htext : (readLiteral decoratedNumber).bind writeLiteral = .ok "-7.5e+17" := by
    decide +kernel
  rw [hread] at hvalue hkind htext
  obtain ⟨text, hwrite, htextBack⟩ := hback (.inr (Option.some.inj hkind))
  obtain rfl : text = "-7.5e+17" := Except.ok.inj (hwrite.symm.trans htext)
  exact ⟨hshort, value, hread, Option.some.inj hkind, hwrite, htextBack⟩

end DocConsole
