import DocConsole.Literal
import DocConsole.Proofs.Number.FloatText
import DocConsole.Proofs.Text.Layout

/-!
# Words for values

A truth value, a number or a text has a word that stands for it in a condition: the literal of the
value, or the text between quotes of either kind.  Main statement: the word of a value is read as
exactly this value, with its type, whatever the text between the quotes looks like.
-/

set_option autoImplicit false

namespace DocConsole

open Text

/-! ## The words -/

/-- Whether a value has a word without quotes: truth values, whole numbers that are not too long and
finite numbers have. -/
def Value.isBare : Value → Bool
  | .bool _ => true
  | .int n => (naturalText n.natAbs).length ≤ maxIntegerDigits
  | .float x => x.isFinite
  | _ => false

/-- Whether a value has a word: a bare value has, and so has a text on one line. -/
def Value.isOneLine : Value → Bool
  | .str s => !s.toList.contains '\n'
  | value => value.isBare

/-- The words that stand for a value in a condition. -/
inductive Word : Value → String → Prop where
  /-- A truth value or a number as its literal. -/
  | bare {value : Value} {word : String} (hbare : value.isBare = true)
      (hword : writeLiteral value = .ok word) : Word value word
  /-- A text on one line between quotes of one kind. -/
  | quoted (quote : Char) (hquote : isQuote quote = true) (s : String)
      (hline : '\n' ∉ s.toList) : Word (.str s) (String.ofList (quote :: (s.toList ++ [quote])))

/-- A number is neither of the words for truth values, and read as the number that it is. -/
theorem readLiteral_of_plain {l : DecimalLiteral} (h : l.IsPlain) {value : Value}
    (hvalue : readNumber (String.ofList l.text) = .ok (some value)) :
    readLiteral (String.ofList l.text) = .ok value := by
  have hchars : ∀ word : String, word.toList.all DecimalLiteral.isLiteralChar = false →
      String.ofList l.text ≠ word := by
    rintro word hword rfl
    rw [String.toList_ofList, h.all_isLiteralChar] at hword
    cases hword
  rw [readLiteral, if_neg (hchars "true" (by decide)), if_neg (hchars "false" (by decide)), hvalue]

/-- A whole number that is not too long is read back from its digits. -/
theorem readNumber_decimalOfInt {n : Int} (h : (naturalText n.natAbs).length ≤ maxIntegerDigits) :
    readNumber (decimalOfInt n) = .ok (some (.int n)) := by
  have hlength : ¬ maxIntegerDigits < (DecimalLiteral.ofInt n).whole.length := Nat.not_lt.mpr h
  rw [decimalOfInt, ← DecimalLiteral.text_ofInt, readNumber, String.toList_ofList,
    (DecimalLiteral.isPlain_ofInt n).read?_text]
  simp only [if_neg hlength, DecimalLiteral.toInt_ofInt]
  rfl

theorem readLiteral_decimalOfInt {n : Int} (h : (naturalText n.natAbs).length ≤ maxIntegerDigits) :
    readLiteral (decimalOfInt n) = .ok (.int n) := by
  have hnumber := readNumber_decimalOfInt h
  rw [decimalOfInt, ← DecimalLiteral.text_ofInt] at hnumber ⊢
  exact readLiteral_of_plain (DecimalLiteral.isPlain_ofInt n) hnumber

/-- The text of a finite number is a literal that stands for this number. -/
theorem exists_floatText (negative : Bool) (size : Magnitude) :
    ∃ l : DecimalLiteral, l.IsPlain ∧
      FloatNotation.plain.text (.finite negative size) = String.ofList l.text ∧
      readNumber (String.ofList l.text) = .ok (some (.float (.finite negative size))) := by
  obtain ⟨l, hplain, hinteger, htext, hvalue⟩ :=
    FloatNotation.plain.exists_literal negative size
  refine ⟨l, hplain, ?_, ?_⟩
  · rw [← htext, String.ofList_toList]
  · rw [readNumber, String.toList_ofList, hplain.read?_text]
    simp only [hinteger, hvalue]
    rfl

theorem readNumber_floatText {negative : Bool} {size : Magnitude} :
    readNumber (FloatNotation.plain.text (.finite negative size)) =
      .ok (some (.float (.finite negative size))) := by
  obtain ⟨l, -, htext, hnumber⟩ := exists_floatText negative size
  rw [htext, hnumber]

theorem readLiteral_floatText {negative : Bool} {size : Magnitude} :
    readLiteral (FloatNotation.plain.text (.finite negative size)) =
      .ok (.float (.finite negative size)) := by
  obtain ⟨l, hplain, htext, hnumber⟩ := exists_floatText negative size
  rw [htext]
  exact readLiteral_of_plain hplain hnumber

theorem eq_of_isQuote {quote : Char} (h : isQuote quote = true) : quote = '\'' ∨ quote = '"' := by
  simpa [isQuote] using h

theorem isBlank_eq_false_of_isQuote {quote : Char} (h : isQuote quote = true) :
    isBlank quote = false := by
  rcases eq_of_isQuote h with rfl | rfl <;> rfl

/-- Blanks between quotes stay. -/
theorem isTrimmed_quoted {quote : Char} (h : isQuote quote = true) (cs : List Char) :
    IsTrimmed (quote :: (cs ++ [quote])) := by
  have hblank := isBlank_eq_false_of_isQuote h
  refine ⟨by simpa [LeadsOutside] using hblank, by simpa [LeadsOutside] using hblank⟩

/-- Quotes keep a text from being read as anything else. -/
theorem readNumber_quoted {quote : Char} (hquote : isQuote quote = true) (cs : List Char) :
    readNumber (String.ofList (quote :: cs)) = .ok none := by
  have hsign : DecimalLiteral.readSign (quote :: cs) = (false, quote :: cs) := by
    rcases eq_of_isQuote hquote with rfl | rfl <;> rfl
  have hspan : DecimalLiteral.spanOf isDigit (quote :: cs) = ([], quote :: cs) := by
    have hdigit : isDigit quote = false := by
      rcases eq_of_isQuote hquote with rfl | rfl <;> decide
    have hnone : ([] : List Char).all isDigit = true := rfl
    exact DecimalLiteral.spanOf_of_startsOutside hnone (startsOutside_cons hdigit)
  have hfraction : DecimalLiteral.readFraction isDigit (quote :: cs) = (none, quote :: cs) := by
    rcases eq_of_isQuote hquote with rfl | rfl <;> rfl
  have hread : DecimalLiteral.read? (quote :: cs) = none := by
    simp only [DecimalLiteral.read?, hsign, hspan, hfraction]
    rfl
  rw [readNumber, String.toList_ofList, hread]

namespace Word

variable {value : Value} {word : String}

theorem exists_of_isOneLine (h : value.isOneLine = true) : ∃ word, Word value word := by
  cases value with
  | str s => exact ⟨_, quoted '\'' rfl s (by simpa [Value.isOneLine] using h)⟩
  | bool b => exact ⟨_, bare h rfl⟩
  | int n => exact ⟨_, bare h rfl⟩
  | float x => exact ⟨_, bare h rfl⟩
  | _ => cases h

/-- A word is read as the value that it stands for. -/
theorem readLiteral_eq (h : Word value word) : readLiteral word = .ok value := by
  cases h with
  | bare hbare hword =>
      cases value with
      | bool b =>
          obtain rfl := Except.ok.inj hword
          cases b <;> rfl
      | int n =>
          obtain rfl := Except.ok.inj hword
          exact readLiteral_decimalOfInt (of_decide_eq_true hbare)
      | float x =>
          obtain rfl := Except.ok.inj hword
          cases x with
          | finite negative size => exact readLiteral_floatText
          | nan => cases hbare
          | infinity negative => cases hbare
      | _ => cases hbare
  | quoted quote hquote s hline =>
      rw [readLiteral_quoted hquote (String.toList_ofList) (readNumber_quoted hquote _),
        String.ofList_toList]

/-- The characters of a bare word are letters of `true` and `false` or stand in a number. -/
theorem all_of_bare (hbare : value.isBare = true) (hword : writeLiteral value = .ok word) :
    word.toList ≠ [] ∧ ∀ c ∈ word.toList,
      DecimalLiteral.isLiteralChar c = true ∨ c ∈ "truefals".toList := by
  have hliteral : ∀ l : DecimalLiteral, l.IsPlain → word.toList = l.text →
      word.toList ≠ [] ∧ ∀ c ∈ word.toList,
        DecimalLiteral.isLiteralChar c = true ∨ c ∈ "truefals".toList := by
    intro l hplain htext
    rw [htext]
    exact ⟨hplain.text_ne_nil, fun c hc => .inl (List.all_eq_true.mp hplain.all_isLiteralChar c hc)⟩
  cases value with
  | bool b =>
      obtain rfl := Except.ok.inj hword
      cases b <;> exact ⟨by decide, List.all_iff_forall_prop.mp (by decide)⟩
  | int n =>
      obtain rfl := Except.ok.inj hword
      refine hliteral _ (DecimalLiteral.isPlain_ofInt n) ?_
      rw [DecimalLiteral.text_ofInt]
      exact String.toList_ofList
  | float x =>
      obtain rfl := Except.ok.inj hword
      cases x with
      | finite negative size =>
          obtain ⟨l, hplain, -, htext, -⟩ := FloatNotation.plain.exists_literal negative size
          exact hliteral l hplain htext
      | nan => cases hbare
      | infinity negative => cases hbare
  | _ => cases hbare

/-- A character of a bare word is no blank and no equals sign. -/
theorem isBlank_eq_false_of_bare {c : Char}
    (h : DecimalLiteral.isLiteralChar c = true ∨ c ∈ "truefals".toList) :
    isBlank c = false ∧ c ≠ '=' ∧ c ≠ '\n' := by
  rcases h with hliteral | hletter
  · simp only [DecimalLiteral.isLiteralChar, Bool.or_eq_true, beq_iff_eq] at hliteral
    rcases hliteral with (((hdigit | rfl) | rfl) | rfl) | rfl
    · obtain ⟨n, rfl⟩ := exists_asciiDigit hdigit
      have hall : ∀ d : Fin 10, isBlank (asciiDigit d) = false ∧ asciiDigit d ≠ '=' ∧
          asciiDigit d ≠ '\n' := by decide
      have hmod := hall ⟨n % 10, Nat.mod_lt _ (by decide)⟩
      rwa [asciiDigit, Nat.mod_mod] at hmod
    · decide
    · decide
    · decide
    · decide
  · have hall : ∀ c ∈ "truefals".toList, isBlank c = false ∧ c ≠ '=' ∧ c ≠ '\n' :=
      List.all_iff_forall_prop.mp (by decide)
    exact hall c hletter

/-- A word stands on one line, without blanks around it, and never starts like the end of an
operator. -/
theorem isTrimmed (h : Word value word) :
    IsTrimmed word.toList ∧ '\n' ∉ word.toList ∧ LeadsOutside (· == '=') word.toList := by
  cases h with
  | bare hbare hword =>
      obtain ⟨hne, hall⟩ := all_of_bare hbare hword
      refine ⟨isTrimmed_of_all hne fun c hc => (isBlank_eq_false_of_bare (hall c hc)).1, ?_, ?_⟩
      · intro hfeed
        exact (isBlank_eq_false_of_bare (hall _ hfeed)).2.2 rfl
      · obtain ⟨c, cs, hcs⟩ := List.exists_cons_of_ne_nil hne
        rw [hcs] at hall ⊢
        simpa [LeadsOutside] using (isBlank_eq_false_of_bare (hall c List.mem_cons_self)).2.1
  | quoted quote hquote s hline =>
      have hchar : quote ≠ '=' ∧ '\n' ≠ quote := by
        rcases eq_of_isQuote hquote with rfl | rfl <;> decide
      obtain ⟨hequals, hfeed⟩ := hchar
      rw [String.toList_ofList]
      refine ⟨isTrimmed_quoted hquote _, ?_, ?_⟩
      · simp [hline, hfeed]
      · simpa [LeadsOutside] using hequals

end Word

end DocConsole
