import DocConsole.Proofs.Number.LiteralText
import DocConsole.Proofs.Number.Rounding

/-!
# The text of a binary64 number

The shortest decimal of a number is written in one of three forms, and each of them is a literal of
the same decimal.  Main statement: the text of a finite number is a literal that stands for exactly
this number, with its sign, and that is no whole number.
-/

set_option autoImplicit false

namespace DocConsole

open Text

attribute [local instance] corePow

/-! ## The shortest decimal -/

namespace Binary64

/-- A sign is carried through rounding. -/
theorem ofUnits_eq_finite {size : Magnitude} {num den : Nat}
    (h : ofUnits false num den = .finite false size) (negative : Bool) :
    ofUnits negative num den = .finite negative size := by
  unfold ofUnits at h ⊢
  split
  · rename_i hbelow
    rw [dif_pos hbelow] at h
    injection h with _ hsize
    rw [hsize]
  · rename_i hbeyond
    rw [dif_neg hbeyond] at h
    cases h

end Binary64

namespace ScaledDecimal

theorem five_pow_mul_unitsPerOne {places : Nat} (h : places = 1074) :
    5 ^ places * unitsPerOne = 10 ^ places := by
  subst h
  decide +kernel

theorem toBinary64_exact (size : Magnitude) :
    (exact size).toBinary64 false = .finite false size := by
  have hden : 0 < 10 ^ (-(exact size).exponent).toNat := Nat.pow_pos (by decide)
  have hnum : (exact size).digits * 10 ^ (exact size).exponent.toNat * unitsPerOne =
      size.units * 10 ^ (-(exact size).exponent).toNat := by
    have hzero : (exact size).exponent.toNat = 0 := rfl
    obtain ⟨places, hplaces⟩ : ∃ places, places = 1074 := ⟨1074, rfl⟩
    have hpower : (-(exact size).exponent).toNat = places := hplaces.symm
    rw [hzero, hpower, Nat.pow_zero, Nat.mul_one, exact, ← hplaces, Nat.mul_assoc,
      five_pow_mul_unitsPerOne hplaces]
  rw [toBinary64, Binary64.ofDecimal_eq_ofUnits, hnum, Binary64.ofUnits_exact false size hden]

theorem toBinary64_firstOnGrids (size : Magnitude) (places : Int) (counts : List Nat) :
    (firstOnGrids size places counts).toBinary64 false = .finite false size := by
  induction counts with
  | nil => exact toBinary64_exact size
  | cons count counts ih =>
      rw [firstOnGrids]
      split
      · rename_i d hgrid
        exact toBinary64_onGrid? hgrid
      · exact ih

/-- The shortest decimal reads back, with either sign. -/
theorem toBinary64_shortest (size : Magnitude) (negative : Bool) :
    (shortest size).toBinary64 negative = .finite negative size := by
  have hpositive := toBinary64_firstOnGrids size (placesBefore size.units)
    ((List.range 17).map (· + 1))
  rw [toBinary64, Binary64.ofDecimal_eq_ofUnits] at hpositive ⊢
  exact Binary64.ofUnits_eq_finite hpositive negative

theorem digits_shortest_ne_zero {size : Magnitude} (h : size.units ≠ 0) :
    (shortest size).digits ≠ 0 := by
  intro hzero
  have hback := toBinary64_shortest size false
  rw [toBinary64, Binary64.ofDecimal, if_pos hzero] at hback
  injection hback with _ hsize
  exact h (congrArg Magnitude.units hsize.symm)

end ScaledDecimal

/-! ## The forms it is written in -/

namespace FloatNotation

open DecimalLiteral

variable (style : FloatNotation)

/-- The literal that digits and the exponent of the first one are written as. -/
def literal (negative : Bool) (digits : List Char) (exponent : Int) : DecimalLiteral :=
  if style.leastPlain ≤ exponent && exponent < style.firstScientific then
    if exponent < 0 then
      ⟨negative, ['0'], some (List.replicate (-exponent - 1).toNat '0' ++ digits), none⟩
    else
      let before := exponent.toNat + 1
      let fraction := digits.drop before
      ⟨negative, digits.take before ++ List.replicate (before - digits.length) '0',
        some (if fraction.isEmpty then ['0'] else fraction), none⟩
  else
    let fraction := digits.drop 1
    ⟨negative, digits.take 1, if fraction.isEmpty then none else some fraction,
      some (decide (exponent < 0), style.exponentText exponent.natAbs)⟩

theorem text_literal (negative : Bool) {digits : List Char} (h : digits ≠ []) (exponent : Int) :
    (style.literal negative digits exponent).text =
      (if negative then ['-'] else []) ++ style.render digits exponent := by
  unfold literal render DecimalLiteral.text
  split
  · split
    · simp [fractionText, DecimalLiteral.exponentText]
    · simp [fractionText, DecimalLiteral.exponentText]
  · obtain ⟨d, more, rfl⟩ := List.exists_cons_of_ne_nil h
    cases more <;> simp [fractionText, DecimalLiteral.exponentText]

theorem isInteger_literal (negative : Bool) (digits : List Char) (exponent : Int) :
    (style.literal negative digits exponent).isInteger = false := by
  unfold literal isInteger
  split
  · split <;> rfl
  · exact Bool.and_false _

/-! ### Their digits -/

theorem isDigits_append {ds es : List Char} (hds : IsDigits ds)
    (hes : es.all Json.isAsciiDigit = true) : IsDigits (ds ++ es) := by
  refine ⟨fun hnil => hds.1 (List.append_eq_nil_iff.mp hnil).1, ?_⟩
  rw [List.all_append, hds.2, hes]
  rfl

theorem all_isAsciiDigit_replicate (count : Nat) :
    (List.replicate count '0').all Json.isAsciiDigit = true := by
  refine List.all_eq_true.mpr fun c hc => ?_
  rw [List.eq_of_mem_replicate hc]
  rfl

theorem isDigits_exponentText (n : Nat) : IsDigits (style.exponentText n) := by
  refine ⟨fun hnil => naturalText_ne_nil n (List.append_eq_nil_iff.mp hnil).2, ?_⟩
  rw [exponentText, List.all_append, all_isAsciiDigit_replicate, isAsciiDigit_naturalText]
  rfl

theorem digitsValue_exponentText (n : Nat) : digitsValue (style.exponentText n) = n := by
  rw [exponentText, digitsValue_zeros_append, digitsValue_naturalText]

theorem isPlain_literal (negative : Bool) {digits : List Char} (h : IsDigits digits)
    {exponent : Int} (hleading : digits.head? = some '0' → digits = ['0'] ∧ exponent = 0) :
    (style.literal negative digits exponent).IsPlain := by
  obtain ⟨d, more, rfl, -⟩ := h.exists_cons
  have hall := List.all_eq_true.mp h.2
  have hdrop : ∀ n, ((d :: more).drop n).all Json.isAsciiDigit = true :=
    fun n => List.all_eq_true.mpr fun c hc => hall c (List.mem_of_mem_drop hc)
  have htake : ∀ n, IsDigits ((d :: more).take (n + 1)) := fun n =>
    ⟨by simp, List.all_eq_true.mpr fun c hc => hall c (List.mem_of_mem_take hc)⟩
  have hzero : IsDigits ['0'] := ⟨by simp, rfl⟩
  unfold literal
  split
  · split
    · refine ⟨hzero, fun _ => rfl, ?_, by simp⟩
      rintro ds ⟨⟩
      refine ⟨by simp, ?_⟩
      rw [List.all_append, all_isAsciiDigit_replicate, h.2]
      rfl
    · refine ⟨isDigits_append (htake _) (all_isAsciiDigit_replicate _), ?_, ?_, by simp⟩
      · intro hhead
        obtain ⟨hdigits, rfl⟩ := hleading (by simpa using hhead)
        rw [hdigits]
        rfl
      · rintro ds ⟨⟩
        split
        · exact hzero
        · rename_i hne
          exact ⟨by simpa using hne, hdrop _⟩
  · refine ⟨htake 0, ?_, ?_, ?_⟩
    · intro hhead
      obtain ⟨hdigits, -⟩ := hleading (by simpa using hhead)
      rw [hdigits]
      rfl
    · intro ds hds
      simp only at hds
      split at hds
      · cases hds
      · rename_i hne
        obtain rfl := Option.some.inj hds
        exact ⟨by simpa using hne, hdrop _⟩
    · rintro e ⟨⟩
      exact style.isDigits_exponentText _

/-! ### Their number -/

/-- Each form stands for the decimal that it was written from. -/
theorem toBinary64_literal (negative : Bool) {digits : List Char} (h : digits ≠ [])
    (exponent : Int) :
    (style.literal negative digits exponent).toBinary64 =
      .ofDecimal negative (digitsValue digits) (exponent + 1 - digits.length) := by
  have hpos : 0 < digits.length := List.length_pos_iff.mpr h
  unfold literal DecimalLiteral.toBinary64
  split
  · split
    · rename_i hnegative
      have hvalue : digitsValue (['0'] ++
          (List.replicate (-exponent - 1).toNat '0' ++ digits)) = digitsValue digits := by
        rw [← List.append_assoc, ← List.replicate_one, List.replicate_append_replicate,
          digitsValue_zeros_append]
      have hplace : (0 : Int) - (List.replicate (-exponent - 1).toNat '0' ++ digits).length =
          exponent + 1 - digits.length := by
        rw [List.length_append, List.length_replicate]
        omega
      simp only [exponentValue, Option.getD_some, hvalue, hplace]
    · rename_i hpositive
      simp only [exponentValue, Option.getD_some]
      split
      · rename_i hempty
        have hshort : digits.length ≤ exponent.toNat + 1 := by
          simpa [List.isEmpty_iff, List.drop_eq_nil_iff] using hempty
        have hvalue : digitsValue (digits.take (exponent.toNat + 1) ++
            List.replicate (exponent.toNat + 1 - digits.length) '0' ++ ['0']) =
              digitsValue digits * 10 ^ (exponent.toNat + 1 - digits.length + 1) := by
          rw [List.take_of_length_le hshort, List.append_assoc, ← List.replicate_one,
            List.replicate_append_replicate, digitsValue_append_zeros]
        have hplace : (0 : Int) - (1 : Nat) +
            (exponent.toNat + 1 - digits.length + 1 : Nat) = exponent + 1 - digits.length := by
          omega
        rw [hvalue, List.length_singleton, Binary64.ofDecimal_mul_ten_pow, hplace]
      · rename_i hne
        have hlong : exponent.toNat + 1 < digits.length := by
          simpa [List.isEmpty_iff, List.drop_eq_nil_iff] using hne
        have hplace : (0 : Int) - (digits.length - (exponent.toNat + 1) : Nat) =
            exponent + 1 - digits.length := by omega
        rw [Nat.sub_eq_zero_of_le (Nat.le_of_lt hlong), List.replicate_zero, List.append_nil,
          List.take_append_drop, List.length_drop, hplace]
  · have hdigits : digits.take 1 ++ ((if (digits.drop 1).isEmpty then none
        else some (digits.drop 1)).getD []) = digits := by
      split
      · rename_i hempty
        rw [List.isEmpty_iff] at hempty
        have hwhole := List.take_append_drop 1 digits
        rwa [hempty] at hwhole
      · exact List.take_append_drop 1 digits
    have hlength : ((if (digits.drop 1).isEmpty then none
        else some (digits.drop 1)).getD []).length = digits.length - 1 := by
      have hsum := congrArg List.length hdigits
      rw [List.length_append, List.length_take] at hsum
      omega
    have hexponent : (exponentValue ⟨negative, digits.take 1,
        if (digits.drop 1).isEmpty then none else some (digits.drop 1),
        some (decide (exponent < 0), style.exponentText exponent.natAbs)⟩) = exponent := by
      simp only [exponentValue, digitsValue_exponentText, decide_eq_true_eq]
      split <;> omega
    have hplace : exponent - (digits.length - 1 : Nat) = exponent + 1 - digits.length := by omega
    simp only [hdigits, hlength, hexponent, hplace]

/-! ## The text of a number -/

/-- The text of a finite number is a literal for it. -/
theorem exists_literal (negative : Bool) (size : Magnitude) :
    ∃ l : DecimalLiteral, l.IsPlain ∧ l.isInteger = false ∧
      (style.text (.finite negative size)).toList = l.text ∧
      l.toBinary64 = .finite negative size := by
  have htext : (style.text (.finite negative size)).toList =
      (if negative then ['-'] else []) ++ style.sizeText size := by
    cases negative <;> simp [text]
  by_cases hzero : size.units = 0
  · have hsize : size = .zero := by
      cases size
      subst hzero
      rfl
    refine ⟨style.literal negative ['0'] 0, ?_, style.isInteger_literal _ _ _, ?_, ?_⟩
    · exact style.isPlain_literal negative ⟨by simp, rfl⟩ fun _ => ⟨rfl, rfl⟩
    · rw [htext, style.text_literal negative (by simp), sizeText, if_pos hzero]
    · rw [style.toBinary64_literal negative (by simp), Binary64.ofDecimal, if_pos (by decide),
        hsize]
  · have hdigits := ScaledDecimal.digits_shortest_ne_zero hzero
    obtain ⟨d, more, hkept, hd⟩ := exists_head_significantDigits hdigits
    have hne : (significantDigits (ScaledDecimal.shortest size).digits).1 ≠ [] := by simp [hkept]
    have hback := ScaledDecimal.toBinary64_shortest size negative
    rw [ScaledDecimal.toBinary64,
      ← digitsValue_significantDigits (ScaledDecimal.shortest size).digits,
      Binary64.ofDecimal_mul_ten_pow] at hback
    refine ⟨style.literal negative (significantDigits (ScaledDecimal.shortest size).digits).1
      ((ScaledDecimal.shortest size).exponent +
        (significantDigits (ScaledDecimal.shortest size).digits).2 +
        (significantDigits (ScaledDecimal.shortest size).digits).1.length - 1), ?_,
      style.isInteger_literal _ _ _, ?_, ?_⟩
    · refine style.isPlain_literal negative
        ⟨hne, isAsciiDigit_significantDigits (ScaledDecimal.shortest size).digits⟩ ?_
      rw [hkept]
      intro hhead
      exact absurd (Option.some.inj hhead) hd
    · rw [htext, style.text_literal negative hne, sizeText, if_neg hzero]
    · rw [style.toBinary64_literal negative hne, ← hback]
      congr 1
      omega

end FloatNotation

end DocConsole
