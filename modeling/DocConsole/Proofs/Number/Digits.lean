import DocConsole.Json.Token
import DocConsole.Number.Shortest

/-!
# Digits and the numbers they write

The decimal text of a number and the number of a run of digits.  Main statements: the text of a
number writes that number, in ASCII digits and without a zero in front, and the digits that are left
without the zeros at the end write what those zeros multiply to the number.
-/

set_option autoImplicit false

namespace DocConsole.Text

attribute [local instance] corePow

/-! ## Single digits -/

theorem digit?_asciiDigit (n : Nat) : digit? (asciiDigit n) = some (n % 10) := by
  have hall : ∀ d : Fin 10, digit? (asciiDigit d) = some d.val := by decide
  have hmod := hall ⟨n % 10, Nat.mod_lt _ (by decide)⟩
  rwa [asciiDigit, Nat.mod_mod] at hmod

theorem isAsciiDigit_asciiDigit (n : Nat) : Json.isAsciiDigit (asciiDigit n) = true := by
  have hall : ∀ d : Fin 10, Json.isAsciiDigit (asciiDigit d) = true := by decide
  have hmod := hall ⟨n % 10, Nat.mod_lt _ (by decide)⟩
  rwa [asciiDigit, Nat.mod_mod] at hmod

theorem asciiDigit_eq_zero_iff {n : Nat} : asciiDigit n = '0' ↔ n % 10 = 0 := by
  have hall : ∀ d : Fin 10, asciiDigit d = '0' ↔ d.val = 0 := by decide
  have hmod := hall ⟨n % 10, Nat.mod_lt _ (by decide)⟩
  rwa [asciiDigit, Nat.mod_mod] at hmod

/-- An ASCII digit is one of ten characters. -/
theorem exists_asciiDigit {c : Char} (h : Json.isAsciiDigit c = true) : ∃ n, c = asciiDigit n := by
  simp only [Json.isAsciiDigit, Bool.and_eq_true, decide_eq_true_eq, Char.le_def,
    UInt32.le_iff_toNat_le] at h
  obtain ⟨hlow, hhigh⟩ : 48 ≤ c.toNat ∧ c.toNat ≤ 57 := h
  refine ⟨c.toNat - 48, ?_⟩
  have hcode : 0x30 + (c.toNat - 48) % 10 = c.toNat := by omega
  rw [asciiDigit, hcode, Char.ofNat_toNat]

theorem isDigit_of_isAsciiDigit {c : Char} (h : Json.isAsciiDigit c = true) :
    isDigit c = true := by
  obtain ⟨n, rfl⟩ := exists_asciiDigit h
  rw [isDigit, digit?_asciiDigit, Option.isSome_some]

/-! ## Runs of digits -/

theorem digitsValue_concat (cs : List Char) (c : Char) :
    digitsValue (cs ++ [c]) = 10 * digitsValue cs + (digit? c).getD 0 := by
  simp [digitsValue]

/-- What digits add to a number that stands before them. -/
theorem foldl_digits (ds : List Char) (n : Nat) :
    ds.foldl (fun n c => 10 * n + (digit? c).getD 0) n = n * 10 ^ ds.length + digitsValue ds := by
  induction ds generalizing n with
  | nil => simp [digitsValue]
  | cons d ds ih =>
      have hone : digitsValue (d :: ds) = (digit? d).getD 0 * 10 ^ ds.length + digitsValue ds := by
        rw [digitsValue, List.foldl_cons, ih, Nat.mul_zero, Nat.zero_add]
      rw [List.foldl_cons, ih, hone, List.length_cons, Nat.pow_succ, Nat.add_mul, Nat.add_assoc,
        Nat.mul_comm 10 n, Nat.mul_assoc, Nat.mul_comm 10]

theorem digitsValue_append (cs ds : List Char) :
    digitsValue (cs ++ ds) = digitsValue cs * 10 ^ ds.length + digitsValue ds := by
  rw [← foldl_digits, digitsValue, List.foldl_append]
  rfl

theorem digitsValue_replicate_zero (count : Nat) :
    digitsValue (List.replicate count '0') = 0 := by
  have hzero : (digit? '0').getD 0 = 0 := by decide
  induction count with
  | zero => rfl
  | succ count ih => rw [List.replicate_succ', digitsValue_concat, ih, hzero]

/-- Zeros in front do not count. -/
theorem digitsValue_zeros_append (count : Nat) (ds : List Char) :
    digitsValue (List.replicate count '0' ++ ds) = digitsValue ds := by
  rw [digitsValue_append, digitsValue_replicate_zero, Nat.zero_mul, Nat.zero_add]

/-- Zeros at the end multiply. -/
theorem digitsValue_append_zeros (ds : List Char) (count : Nat) :
    digitsValue (ds ++ List.replicate count '0') = digitsValue ds * 10 ^ count := by
  rw [digitsValue_append, digitsValue_replicate_zero, List.length_replicate, Nat.add_zero]

/-- So many digits write a number below that power of ten. -/
theorem digitsValue_lt (ds : List Char) : digitsValue ds < 10 ^ ds.length := by
  induction ds with
  | nil => exact Nat.zero_lt_one
  | cons d ds ih =>
      have hone := digitsValue_append [d] ds
      have hdigit : digitsValue [d] < 10 := by
        have hvalue : digitsValue [d] = (digit? d).getD 0 := by simp [digitsValue]
        rw [hvalue]
        cases hd : digit? d with
        | none => decide
        | some n => exact digit?_lt_ten hd
      rw [List.singleton_append] at hone
      rw [hone, List.length_cons, Nat.pow_succ]
      have hbound : digitsValue [d] * 10 ^ ds.length ≤ 9 * 10 ^ ds.length :=
        Nat.mul_le_mul_right _ (Nat.le_of_lt_succ hdigit)
      omega

/-! ## The text of a number -/

theorem digitsValue_naturalText (n : Nat) : digitsValue (naturalText n) = n := by
  induction n using naturalText.induct with
  | case1 n hsmall =>
      have hmod : n % 10 = n := Nat.mod_eq_of_lt hsmall
      rw [naturalText, if_pos hsmall, digitsValue, List.foldl_cons, digit?_asciiDigit,
        Option.getD_some, hmod, Nat.mul_zero, Nat.zero_add]
      rfl
  | case2 n hlarge ih =>
      rw [naturalText, if_neg hlarge, digitsValue_concat, ih, digit?_asciiDigit, Option.getD_some,
        Nat.div_add_mod]

theorem isAsciiDigit_naturalText (n : Nat) : (naturalText n).all Json.isAsciiDigit = true := by
  induction n using naturalText.induct with
  | case1 n hsmall =>
      rw [naturalText, if_pos hsmall, List.all_cons, isAsciiDigit_asciiDigit, List.all_nil]
      rfl
  | case2 n hlarge ih =>
      rw [naturalText, if_neg hlarge, List.all_append, ih, List.all_cons,
        isAsciiDigit_asciiDigit, List.all_nil]
      rfl

/-- A number other than zero is written without a zero in front. -/
theorem exists_head_naturalText {n : Nat} (h : n ≠ 0) :
    ∃ d ds, naturalText n = d :: ds ∧ d ≠ '0' := by
  induction n using naturalText.induct with
  | case1 n hsmall =>
      refine ⟨asciiDigit n, [], by rw [naturalText, if_pos hsmall], ?_⟩
      rw [Ne, asciiDigit_eq_zero_iff, Nat.mod_eq_of_lt hsmall]
      exact h
  | case2 n hlarge ih =>
      obtain ⟨d, ds, htext, hd⟩ := ih (by omega)
      exact ⟨d, ds ++ [asciiDigit n], by rw [naturalText, if_neg hlarge, htext, List.cons_append],
        hd⟩

/-- A number below a power of ten is written with at most so many digits. -/
theorem length_naturalText_le {n places : Nat} (hplaces : 0 < places) (h : n < 10 ^ places) :
    (naturalText n).length ≤ places := by
  induction n using naturalText.induct generalizing places with
  | case1 n hsmall =>
      rw [naturalText, if_pos hsmall, List.length_singleton]
      exact hplaces
  | case2 n hlarge ih =>
      obtain ⟨more, rfl⟩ := Nat.exists_eq_succ_of_ne_zero (Nat.ne_of_gt hplaces)
      have hmore : 0 < more := by
        rcases Nat.eq_zero_or_pos more with rfl | hpos
        · exact absurd h hlarge
        · exact hpos
      have hdiv : n / 10 < 10 ^ more := by
        rw [Nat.div_lt_iff_lt_mul (by decide), ← Nat.pow_succ]
        exact h
      rw [naturalText, if_neg hlarge, List.length_append, List.length_singleton]
      exact Nat.succ_le_succ (ih hmore hdiv)

theorem naturalText_zero : naturalText 0 = ['0'] := by
  rw [naturalText, if_pos (by decide)]
  rfl

theorem naturalText_ne_nil (n : Nat) : naturalText n ≠ [] := by
  intro hnil
  have hvalue := digitsValue_naturalText n
  rw [hnil] at hvalue
  obtain rfl : 0 = n := hvalue
  rw [naturalText_zero] at hnil
  cases hnil

end DocConsole.Text

namespace DocConsole

open Text

attribute [local instance] corePow

/-! ## Without the zeros at the end -/

/-- The digits of a number are the significant ones and then the zeros that were counted. -/
theorem significantDigits_append_zeros (n : Nat) :
    (significantDigits n).1 ++ List.replicate (significantDigits n).2 '0' = naturalText n := by
  have hzeros : (naturalText n).reverse.takeWhile (· == '0') =
      List.replicate (significantDigits n).2 '0' := by
    refine List.eq_replicate_iff.mpr ⟨?_, fun c hc => ?_⟩
    · have hlength := congrArg List.length
        (List.takeWhile_append_dropWhile (p := (· == '0')) (l := (naturalText n).reverse))
      rw [List.length_append, List.length_reverse] at hlength
      simp only [significantDigits, List.length_reverse]
      omega
    · simpa using List.all_eq_true.mp List.all_takeWhile c hc
  calc (significantDigits n).1 ++ List.replicate (significantDigits n).2 '0'
      = ((naturalText n).reverse.dropWhile (· == '0')).reverse ++
        ((naturalText n).reverse.takeWhile (· == '0')).reverse := by
        rw [hzeros, List.reverse_replicate]
        rfl
    _ = ((naturalText n).reverse.takeWhile (· == '0') ++
        (naturalText n).reverse.dropWhile (· == '0')).reverse := by rw [List.reverse_append]
    _ = naturalText n := by rw [List.takeWhile_append_dropWhile, List.reverse_reverse]

theorem digitsValue_significantDigits (n : Nat) :
    digitsValue (significantDigits n).1 * 10 ^ (significantDigits n).2 = n := by
  rw [← digitsValue_append_zeros, significantDigits_append_zeros, digitsValue_naturalText]

theorem isAsciiDigit_significantDigits (n : Nat) :
    (significantDigits n).1.all Json.isAsciiDigit = true := by
  have hall := isAsciiDigit_naturalText n
  rw [← significantDigits_append_zeros, List.all_append, Bool.and_eq_true] at hall
  exact hall.1

/-- The significant digits of a number other than zero start with another digit than zero. -/
theorem exists_head_significantDigits {n : Nat} (h : n ≠ 0) :
    ∃ d ds, (significantDigits n).1 = d :: ds ∧ d ≠ '0' := by
  obtain ⟨d, ds, htext, hd⟩ := exists_head_naturalText h
  have hsplit := significantDigits_append_zeros n
  rw [htext] at hsplit
  cases hkept : (significantDigits n).1 with
  | nil =>
      rw [hkept, List.nil_append] at hsplit
      have hmem : d ∈ List.replicate (significantDigits n).2 '0' := by
        rw [hsplit]
        exact List.mem_cons_self
      exact absurd (List.eq_of_mem_replicate hmem) hd
  | cons kept more =>
      rw [hkept, List.cons_append, List.cons.injEq] at hsplit
      exact ⟨kept, more, rfl, hsplit.1 ▸ hd⟩

end DocConsole
