import DocConsole.Literal
import DocConsole.Proofs.Number.Grammar
import DocConsole.Proofs.Number.Overflow

/-!
# The numbers that words write

A decimal literal stands for one rational number.  Main statement: a word is read as a number just
if it is written as a literal, up to one line feed at its end, and gives the whole number of that
value when there are only a sign and digits, and otherwise the nearest binary64 number, provided
that the value does not overflow the format.
-/

set_option autoImplicit false

namespace DocConsole

open Text

namespace DecimalLiteral

variable {l : DecimalLiteral}

/-- The number that a literal stands for. -/
def value (l : DecimalLiteral) : ℚ :=
  (if l.negative then -1 else 1) * digitsValue (l.whole ++ l.fraction.getD []) *
    10 ^ (l.exponentValue - (l.fraction.getD []).length)

theorem abs_value : |l.value| = digitsValue (l.whole ++ l.fraction.getD []) *
    10 ^ (l.exponentValue - (l.fraction.getD []).length) := by
  have hpower : (0 : ℚ) ≤ 10 ^ (l.exponentValue - (l.fraction.getD []).length) :=
    zpow_nonneg (by decide) _
  have hsign : |if l.negative = true then (-1 : ℚ) else 1| = 1 := by
    split
    · rw [abs_neg, abs_one]
    · exact abs_one
  rw [value, abs_mul, abs_mul, hsign, one_mul, Nat.abs_cast, abs_of_nonneg hpower]

/-- The binary64 number of a literal is finite just if the value is below the limit. -/
theorem isFinite_toBinary64_iff :
    l.toBinary64.isFinite = true ↔ |l.value| < Binary64.overflowLimit := by
  rw [abs_value]
  exact Binary64.isFinite_ofDecimal_iff

theorem cast_toInt (h : l.isInteger = true) : (l.toInt : ℚ) = l.value := by
  obtain ⟨negative, whole, fraction, exponent⟩ := l
  obtain ⟨rfl, rfl⟩ : fraction = none ∧ exponent = none := by simpa [isInteger] using h
  cases negative <;> simp [toInt, value, exponentValue]

/-- The value of a statement that a literal gives. -/
inductive Gives (l : DecimalLiteral) : Value → Prop where
  /-- Only a sign and digits: the whole number. -/
  | int {n : Int} (hform : l.isInteger = true) (hvalue : (n : ℚ) = l.value) : Gives l (.int n)
  /-- Otherwise the nearest binary64 number, when there is a finite one. -/
  | float (hform : l.isInteger = false) (hfinite : |l.value| < Binary64.overflowLimit) :
      Gives l (.float l.toBinary64)

theorem gives_iff_of_isInteger (h : l.isInteger = true) (v : Value) :
    l.Gives v ↔ v = .int l.toInt := by
  constructor
  · rintro (⟨-, hvalue⟩ | ⟨hform, -⟩)
    · rw [← cast_toInt h] at hvalue
      exact congrArg Value.int (Rat.intCast_inj.mp hvalue)
    · rw [h] at hform
      cases hform
  · rintro rfl
    exact .int h (cast_toInt h)

theorem gives_iff_of_not_isInteger (h : l.isInteger = false) (v : Value) :
    l.Gives v ↔ l.toBinary64.isFinite = true ∧ v = .float l.toBinary64 := by
  rw [isFinite_toBinary64_iff]
  constructor
  · rintro (⟨hform, -⟩ | ⟨-, hfinite⟩)
    · rw [h] at hform
      cases hform
    · exact ⟨hfinite, rfl⟩
  · rintro ⟨hfinite, rfl⟩
    exact .float h hfinite

/-- The digits before the point stand at the front of what is between sign and exponent. -/
theorem IsMantissa.exists_append {p : Char → Bool} {whole mantissa : List Char}
    {fraction : Option (List Char)} (h : IsMantissa p whole fraction mantissa) :
    whole.all p = true ∧ ∃ behind, mantissa = whole ++ behind := by
  cases h with
  | whole hds => exact ⟨hds.2, [], (List.append_nil _).symm⟩
  | pointed hds => exact ⟨hds.2, _, rfl⟩
  | fraction => exact ⟨rfl, _, rfl⟩

/-- No more digits stand before the point than in the whole text. -/
theorem Writes.length_whole_le {cs : List Char} (h : l.Writes cs) :
    l.whole.length ≤ (cs.filter isDigit).length := by
  obtain ⟨-, hmantissa, -⟩ := h
  obtain ⟨hall, behind, rfl⟩ := hmantissa.exists_append
  rw [List.filter_append, List.filter_append, List.filter_append,
    List.filter_eq_self.mpr (List.all_eq_true.mp hall), List.length_append, List.length_append,
    List.length_append]
  dsimp only
  omega

theorem Writes.read?_of_eq {cs front : List Char} (h : l.Writes front)
    (hcs : cs = front ∨ cs = front ++ ['\n']) : read? cs = some l := by
  rcases hcs with rfl | rfl
  · rw [← List.append_nil cs]
    exact h.read?_append .nothing
  · exact h.read?_append .feed

end DecimalLiteral

/-- The reading of a word that a literal is written in. -/
theorem readNumber_of_read? {word : String} {l : DecimalLiteral}
    (h : DecimalLiteral.read? word.toList = some l) (hshort : l.whole.length ≤ maxIntegerDigits) :
    ∃ number, readNumber word = .ok number ∧ ∀ v, number = some v ↔ l.Gives v := by
  have hlength : ¬ maxIntegerDigits < l.whole.length := Nat.not_lt.mpr hshort
  unfold readNumber
  rw [h]
  dsimp only
  cases hform : l.isInteger with
  | true =>
      rw [if_pos rfl, if_neg hlength]
      refine ⟨_, rfl, fun v => ?_⟩
      rw [DecimalLiteral.gives_iff_of_isInteger hform, Option.some.injEq, eq_comm]
  | false =>
      rw [if_neg Bool.false_ne_true]
      refine ⟨_, rfl, fun v => ?_⟩
      rw [DecimalLiteral.gives_iff_of_not_isInteger hform]
      split
      · rename_i hfinite
        rw [Option.some.injEq, eq_comm, and_iff_right hfinite]
      · rename_i hinfinite
        exact iff_of_false nofun fun hgives => hinfinite hgives.1

/-- A word without too many digits is read without a fault, and as a number exactly when it is
written as a literal that gives this number.  A line feed that ends the word does not count. -/
theorem word_is_read_as_its_literal (word : String)
    (hshort : (word.toList.filter isDigit).length ≤ maxIntegerDigits) :
    ∃ number, readNumber word = .ok number ∧ ∀ v, number = some v ↔
      ∃ l front, (word.toList = front ∨ word.toList = front ++ ['\n']) ∧
        DecimalLiteral.Writes l front ∧ l.Gives v := by
  cases hread : DecimalLiteral.read? word.toList with
  | none =>
      refine ⟨none, ?_, fun v => iff_of_false nofun ?_⟩
      · rw [readNumber, hread]
      · rintro ⟨l, front, hword, hwrites, -⟩
        rw [hwrites.read?_of_eq hword] at hread
        cases hread
  | some l =>
      obtain ⟨front, ending, hword, hending, hwrites⟩ := DecimalLiteral.read?_eq_some_iff.mp hread
      have hlength : l.whole.length ≤ maxIntegerDigits := by
        refine Nat.le_trans (hwrites.length_whole_le.trans ?_) hshort
        rw [hword, List.filter_append, List.length_append]
        exact Nat.le_add_right _ _
      obtain ⟨number, hnumber, hgives⟩ := readNumber_of_read? hread hlength
      refine ⟨number, hnumber, fun v => (hgives v).trans ⟨fun hv => ?_, ?_⟩⟩
      · refine ⟨l, front, ?_, hwrites, hv⟩
        cases hending with
        | nothing => exact .inl (hword.trans (List.append_nil front))
        | feed => exact .inr hword
      · rintro ⟨l', front', hword', hwrites', hv⟩
        rw [hwrites'.read?_of_eq hword'] at hread
        cases Option.some.inj hread
        exact hv

/-- Minus three hundred, with a digit of another script, no digit behind the point and a sign in
the exponent. -/
def foreignNumber : DecimalLiteral :=
  ⟨true, ['٣'], some [], some (false, ['2'])⟩

theorem foreign_number_is_read :
    (("-٣.E+2".toList).filter isDigit).length ≤ maxIntegerDigits ∧
      readNumber "-٣.E+2" = .ok (some (.float foreignNumber.toBinary64)) := by
  have hshort : (("-٣.E+2".toList).filter isDigit).length ≤ maxIntegerDigits := by decide
  have hwrites : foreignNumber.Writes (['-'] ++ ((['٣'] ++ ['.']) ++ ('E' :: (['+'] ++ ['2'])))) :=
    .intro .minus (.pointed ⟨nofun, by decide⟩ rfl) (.power (.inr rfl) .plus ⟨nofun, by decide⟩)
  have hgives : foreignNumber.Gives (.float foreignNumber.toBinary64) :=
    .float rfl (DecimalLiteral.isFinite_toBinary64_iff.mp (by decide +kernel))
  refine ⟨hshort, ?_⟩
  obtain ⟨number, hnumber, hvalue⟩ := word_is_read_as_its_literal "-٣.E+2" hshort
  rw [hnumber, (hvalue _).mpr ⟨foreignNumber, _, .inl rfl, hwrites, hgives⟩]

/-- A line feed behind a number is let through. -/
theorem feed_behind_number_is_read :
    readNumber "1\n" = .ok (some (.int 1)) ∧
      ¬ ∃ l, DecimalLiteral.Writes l "1\n".toList := by
  refine ⟨rfl, fun ⟨l, hwrites⟩ => ?_⟩
  have hread := hwrites.read?_append .feed
  rw [show DecimalLiteral.read? ("1\n".toList ++ ['\n']) = none from by decide] at hread
  cases hread

end DocConsole
