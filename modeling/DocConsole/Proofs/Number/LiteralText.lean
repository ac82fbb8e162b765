import DocConsole.Proofs.Number.Digits
import DocConsole.Proofs.Number.Grammar

/-!
# The text of a literal

A decimal literal in ASCII digits has one text, with the sign of its exponent always written.
Main statements: that text is read as the literal it was written from, both where a literal must be
the whole of a word and where it is a number in a JSON text with something behind it.
-/

set_option autoImplicit false

namespace DocConsole

open Text

namespace DecimalLiteral

/-! ## Texts -/

/-- The fraction of a literal as it is written. -/
def fractionText : Option (List Char) → List Char
  | none => []
  | some digits => '.' :: digits

/-- The exponent of a literal as it is written. -/
def exponentText : Option (Bool × List Char) → List Char
  | none => []
  | some (negative, digits) => 'e' :: (if negative then '-' else '+') :: digits

/-- The text of a literal. -/
def text (l : DecimalLiteral) : List Char :=
  (if l.negative then ['-'] else []) ++
    (l.whole ++ (fractionText l.fraction ++ exponentText l.exponent))

/-- A run of ASCII digits, at least one. -/
def IsDigits (ds : List Char) : Prop :=
  ds ≠ [] ∧ ds.all Json.isAsciiDigit = true

/-- Every part of the literal that is there has ASCII digits, and no zero stands in front of other
digits. -/
structure IsPlain (l : DecimalLiteral) : Prop where
  whole : IsDigits l.whole
  leading : l.whole.head? = some '0' → l.whole = ['0']
  fraction : ∀ ds ∈ l.fraction, IsDigits ds
  exponent : ∀ e ∈ l.exponent, IsDigits e.2

variable {p : Char → Bool} {l : DecimalLiteral}

/-- What an exponent or nothing starts with is not in a class without the letter e. -/
theorem startsOutside_exponentText (hp : p 'e' = false) (e : Option (Bool × List Char))
    {rest : List Char} (hrest : StartsOutside p rest) :
    StartsOutside p (exponentText e ++ rest) := by
  cases e with
  | none => exact hrest
  | some e => exact startsOutside_cons hp

/-- What a fraction, an exponent or nothing starts with is not in a class without the point and
the letter e. -/
theorem startsOutside_fractionText (hp : p '.' = false) (hp' : p 'e' = false)
    (f : Option (List Char)) (e : Option (Bool × List Char)) {rest : List Char}
    (hrest : StartsOutside p rest) :
    StartsOutside p (fractionText f ++ (exponentText e ++ rest)) := by
  cases f with
  | none => exact startsOutside_exponentText hp' e hrest
  | some ds => exact startsOutside_cons hp

theorem IsDigits.exists_cons {ds : List Char} (h : IsDigits ds) :
    ∃ d more, ds = d :: more ∧ Json.isAsciiDigit d = true := by
  obtain ⟨d, more, rfl⟩ := List.exists_cons_of_ne_nil h.1
  have hall := h.2
  rw [List.all_cons, Bool.and_eq_true] at hall
  exact ⟨d, more, rfl, hall.1⟩

theorem IsDigits.all_isDigit {ds : List Char} (h : IsDigits ds) : ds.all isDigit = true :=
  List.all_eq_true.mpr fun d hd => isDigit_of_isAsciiDigit (List.all_eq_true.mp h.2 d hd)

/-- A digit is none of the marks in a literal. -/
theorem ne_of_isAsciiDigit {c mark : Char} (hc : Json.isAsciiDigit c = true)
    (hmark : Json.isAsciiDigit mark = false) : c ≠ mark := by
  rintro rfl
  rw [hmark] at hc
  cases hc

/-! ## Reading -/

theorem isUnmarked_isAsciiDigit : IsUnmarked Json.isAsciiDigit :=
  ⟨rfl, rfl, rfl, rfl, rfl⟩

theorem isSign_text (negative : Bool) : IsSign negative (if negative then ['-'] else []) := by
  cases negative with
  | true => exact .minus
  | false => exact .absent

theorem isMantissa_text {whole : List Char} {fraction : Option (List Char)} (hwhole : IsRun p whole)
    (hfraction : ∀ ds ∈ fraction, ds.all p = true) :
    IsMantissa p whole fraction (whole ++ fractionText fraction) := by
  cases fraction with
  | none =>
      rw [fractionText, List.append_nil]
      exact .whole hwhole
  | some ds => exact .pointed hwhole (hfraction ds rfl)

theorem isExponent_text {e : Option (Bool × List Char)} (he : ∀ x ∈ e, IsRun p x.2) :
    IsExponent p e (exponentText e) := by
  cases e with
  | none => exact .absent
  | some e =>
      obtain ⟨negative, ds⟩ := e
      cases negative with
      | true => exact .power (.inl rfl) .minus (he _ rfl)
      | false => exact .power (.inl rfl) .plus (he _ rfl)

theorem IsPlain.writes (h : l.IsPlain) : l.Writes l.text := by
  obtain ⟨negative, whole, fraction, exponent⟩ := l
  obtain ⟨hwhole, -, hfraction, hexponent⟩ := h
  rw [text, ← List.append_assoc whole]
  refine .intro (isSign_text negative) (isMantissa_text ⟨hwhole.1, hwhole.all_isDigit⟩ ?_)
    (isExponent_text ?_)
  · exact fun ds hds => (hfraction ds hds).all_isDigit
  · exact fun e he => ⟨(hexponent e he).1, (hexponent e he).all_isDigit⟩

/-- A literal that is the whole of a word is read back. -/
theorem IsPlain.read?_text (h : l.IsPlain) : read? l.text = some l := by
  rw [← List.append_nil l.text]
  exact h.writes.read?_append .nothing

/-! ## Whole numbers -/

/-- The literal of a whole number. -/
def ofInt (n : Int) : DecimalLiteral :=
  ⟨decide (n < 0), naturalText n.natAbs, none, none⟩

theorem text_ofInt (n : Int) : (ofInt n).text = integerText n := by
  unfold text ofInt integerText
  by_cases h : n < 0 <;> simp [h, fractionText, exponentText]

theorem toInt_ofInt (n : Int) : (ofInt n).toInt = n := by
  simp only [toInt, ofInt, digitsValue_naturalText, decide_eq_true_eq]
  split <;> omega

theorem isPlain_ofInt (n : Int) : (ofInt n).IsPlain := by
  refine ⟨⟨naturalText_ne_nil _, isAsciiDigit_naturalText _⟩, ?_, by simp [ofInt], by simp [ofInt]⟩
  intro hhead
  show naturalText n.natAbs = ['0']
  by_cases hzero : n.natAbs = 0
  · rw [hzero, naturalText_zero]
  · obtain ⟨d, ds, htext, hd⟩ := exists_head_naturalText hzero
    have htext' : (ofInt n).whole = d :: ds := htext
    rw [htext'] at hhead
    exact absurd (Option.some.inj hhead) hd

/-! ## Characters -/

/-- The characters of a literal. -/
def isLiteralChar (c : Char) : Bool :=
  Json.isAsciiDigit c || c == '-' || c == '+' || c == '.' || c == 'e'

theorem IsPlain.all_isLiteralChar (h : l.IsPlain) : l.text.all isLiteralChar = true := by
  have hdigits : ∀ ds : List Char, ds.all Json.isAsciiDigit = true →
      ds.all isLiteralChar = true := by
    intro ds hds
    refine List.all_eq_true.mpr fun d hd => ?_
    simp [isLiteralChar, List.all_eq_true.mp hds d hd]
  obtain ⟨negative, whole, fraction, exponent⟩ := l
  obtain ⟨hwhole, -, hfraction, hexponent⟩ := h
  have hsign : (if negative then ['-'] else []).all isLiteralChar = true := by
    cases negative <;> rfl
  have hfractionText : (fractionText fraction).all isLiteralChar = true := by
    cases fraction with
    | none => rfl
    | some ds => exact hdigits ds (hfraction ds rfl).2
  have hexponentText : (exponentText exponent).all isLiteralChar = true := by
    cases exponent with
    | none => rfl
    | some e =>
        obtain ⟨below, ds⟩ := e
        cases below <;> exact hdigits ds (hexponent _ rfl).2
  simp only [text, List.all_append, hsign, hdigits whole hwhole.2, hfractionText, hexponentText,
    Bool.and_self]

theorem IsPlain.text_ne_nil (h : l.IsPlain) : l.text ≠ [] := by
  intro hnil
  have hparts := (List.append_eq_nil_iff.mp (List.append_eq_nil_iff.mp hnil).2).1
  exact h.whole.1 hparts

end DecimalLiteral

namespace Json

open DecimalLiteral

/-- A character that a number in a JSON text can go on with. -/
def goesOnNumber (c : Char) : Bool :=
  isAsciiDigit c || c == '.' || c == 'e' || c == 'E'

theorem readMinus_text (negative : Bool) {ds : List Char} (hds : IsDigits ds) (cs : List Char) :
    readMinus ((if negative then ['-'] else []) ++ (ds ++ cs)) = (negative, ds ++ cs) := by
  cases negative with
  | true => rfl
  | false =>
      obtain ⟨d, more, rfl, hd⟩ := hds.exists_cons
      have hminus : d ≠ '-' := ne_of_isAsciiDigit hd rfl
      show readMinus (d :: (more ++ cs)) = _
      unfold readMinus
      split
      · rename_i heq
        exact absurd (List.cons.inj heq).1 hminus
      · rfl

theorem readWhole_append {ds rest : List Char} (hds : IsDigits ds)
    (hleading : ds.head? = some '0' → ds = ['0']) (hrest : StartsOutside isAsciiDigit rest) :
    readWhole (ds ++ rest) = (ds, rest) := by
  obtain ⟨d, more, rfl, -⟩ := hds.exists_cons
  by_cases hzero : d = '0'
  · subst hzero
    rw [hleading rfl]
    rfl
  · rw [List.cons_append]
    unfold readWhole
    split
    · rename_i heq
      exact absurd (List.cons.inj heq).1 hzero
    · exact spanOf_of_startsOutside hds.2 hrest

theorem readFraction_append {f : Option (List Char)} (hf : ∀ ds ∈ f, IsDigits ds)
    {rest : List Char} (hpoint : StartsOutside (fun c => c == '.') rest)
    (hdigit : StartsOutside isAsciiDigit rest) :
    readFraction (fractionText f ++ rest) = (f, rest) := by
  cases f with
  | none =>
      cases rest with
      | nil => rfl
      | cons c cs =>
          have hc : c ≠ '.' := by simpa using hpoint c rfl
          show readFraction (c :: cs) = _
          unfold readFraction
          split
          · rename_i heq
            exact absurd (List.cons.inj heq).1 hc
          · rfl
  | some ds =>
      have hds := hf ds rfl
      have hempty : ds.isEmpty = false := List.isEmpty_eq_false_iff.mpr hds.1
      show readFraction ('.' :: (ds ++ rest)) = _
      simp only [readFraction, spanOf_of_startsOutside hds.2 hdigit, hempty]
      rfl

/-- A literal is read back from the front of a text, when what follows it does not go on with
it. -/
theorem readNumber?_text {l : DecimalLiteral} (h : l.IsPlain) {rest : List Char}
    (hrest : StartsOutside goesOnNumber rest) :
    readNumber? (l.text ++ rest) = some (l, rest) := by
  obtain ⟨negative, whole, fraction, exponent⟩ := l
  obtain ⟨hwhole, hleading, hfraction, hexponent⟩ := h
  have hdigit : StartsOutside isAsciiDigit rest := hrest.mono (by simp +contextual [goesOnNumber])
  have hpoint : StartsOutside (fun c => c == '.') rest :=
    hrest.mono (by simp +contextual [goesOnNumber])
  have hletter : StartsOutside isExponentLetter rest :=
    hrest.mono (by simp +contextual [goesOnNumber, isExponentLetter, or_imp])
  have hsplit : text ⟨negative, whole, fraction, exponent⟩ ++ rest =
      (if negative then ['-'] else []) ++
        (whole ++ (fractionText fraction ++ (exponentText exponent ++ rest))) := by
    simp only [text, List.append_assoc]
  have hreadWhole := readWhole_append hwhole hleading
    (startsOutside_fractionText (by decide) (by decide) fraction exponent hdigit)
  have hreadFraction := readFraction_append hfraction
    (startsOutside_exponentText (by decide) exponent hpoint)
    (startsOutside_exponentText (by decide) exponent hdigit)
  have hreadExponent := (isExponent_text hexponent).read isUnmarked_isAsciiDigit hdigit hletter
  have hempty : whole.isEmpty = false := List.isEmpty_eq_false_iff.mpr hwhole.1
  rw [hsplit]
  simp only [readNumber?, readMinus_text negative hwhole, hreadWhole, hempty, hreadFraction,
    hreadExponent]
  rfl

end Json

end DocConsole
