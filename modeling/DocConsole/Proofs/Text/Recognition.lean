import DocConsole.Text.Pattern
import Mathlib.Data.Bool.AllAny
import Mathlib.Data.List.DropRight

/-!
# What the recognisers make of a text

A text put together from words, blanks and runs of characters is taken apart again.  Each lemma
follows one recogniser over its own stretch and leaves what comes behind it open, so that they
compose along a text.  Main statements: a run is cut where its class ends, trimming keeps what
stands between the first and the last character that is no blank, and the value at the end of a
text is read without the blanks around it.
-/

set_option autoImplicit false

namespace DocConsole

namespace Text

variable {β : Type} {p : Char → Bool} {next : List Char → Option β} {cs rest run : List Char}

/-! ## Letters -/

theorem lt_of_lowerAscii {c : Char} (h : (lowerAscii c).toNat < 0x80) : c.toNat < 0x80 := by
  unfold lowerAscii at h
  split at h
  · rename_i hrange
    simp only [Bool.and_eq_true, decide_eq_true_eq, Char.le_def, UInt32.le_iff_toNat_le] at hrange
    exact Nat.lt_of_le_of_lt hrange.2 (by decide)
  · exact h

/-- Only letters have another character that folds to them. -/
theorem eq_of_foldLetter {c mark : Char} (h : foldLetter c = mark)
    (hmark : ('a' ≤ mark && mark ≤ 'z') = false) : c = mark := by
  have hsmall : ∀ d ∈ ['i', 's', 'k'], ('a' ≤ d && d ≤ 'z') = true :=
    List.all_eq_true.mp (by decide)
  have hnone : ∀ d ∈ ['i', 's', 'k'], d ≠ mark := by
    rintro d hd rfl
    rw [hsmall d hd] at hmark
    cases hmark
  unfold foldLetter at h
  split at h
  · exact absurd h (hnone _ (by decide))
  · exact absurd h (hnone _ (by decide))
  · exact absurd h (hnone _ (by decide))
  · exact absurd h (hnone _ (by decide))
  · have hcapital : ∀ n : Fin 0x80, lowerAscii (Char.ofNat n) = Char.ofNat n ∨
        ('a' ≤ lowerAscii (Char.ofNat n) && lowerAscii (Char.ofNat n) ≤ 'z') = true := by decide
    by_cases hascii : c.toNat < 0x80
    · have hcases := hcapital ⟨c.toNat, hascii⟩
      rw [Char.ofNat_toNat, h, hmark] at hcases
      exact hcases.elim Eq.symm fun hfalse => absurd hfalse Bool.false_ne_true
    · have hsame : lowerAscii c = c := by
        unfold lowerAscii
        split
        · rename_i hrange
          simp only [Bool.and_eq_true, decide_eq_true_eq, Char.le_def,
            UInt32.le_iff_toNat_le] at hrange
          exact absurd (Nat.lt_of_le_of_lt hrange.2 (by decide)) hascii
        · rfl
      rw [← h, hsame]

/-- A mark that is no letter is written in one way. -/
theorem eq_singleton_of_map_foldLetter {mark : Char} (h : cs.map foldLetter = [mark])
    (hmark : ('a' ≤ mark && mark ≤ 'z') = false) : cs = [mark] := by
  obtain ⟨c, rfl, hc⟩ := List.map_eq_singleton_iff.mp h
  rw [eq_of_foldLetter hc hmark]

/-! ## Runs -/

/-- The text is empty or starts with a character outside the class. -/
def StartsOutside (p : Char → Bool) (cs : List Char) : Prop :=
  ∀ c ∈ cs.head?, p c = false

/-- Nothing that starts with a character of the class is accepted. -/
def Refuses (next : List Char → Option β) (p : Char → Bool) : Prop :=
  ∀ c cs, p c = true → next (c :: cs) = none

/-- The text starts with a character outside the class. -/
def LeadsOutside (p : Char → Bool) (cs : List Char) : Prop :=
  cs.head?.any (fun c => !p c) = true

instance (p : Char → Bool) (cs : List Char) : Decidable (LeadsOutside p cs) :=
  inferInstanceAs (Decidable (_ = true))

theorem startsOutside_nil (p : Char → Bool) : StartsOutside p [] := by
  intro c hc
  cases hc

theorem startsOutside_cons {c : Char} (hc : p c = false) : StartsOutside p (c :: cs) := by
  simp [StartsOutside, hc]

theorem startsOutside_append (hrun : ∀ c ∈ run, p c = false) (hrest : StartsOutside p rest) :
    StartsOutside p (run ++ rest) := by
  cases run with
  | nil => exact hrest
  | cons c run => exact startsOutside_cons (hrun c List.mem_cons_self)

theorem StartsOutside.mono {q : Char → Bool} (h : StartsOutside p cs)
    (hle : ∀ c, q c = true → p c = true) : StartsOutside q cs := by
  intro c hc
  rw [Bool.eq_false_iff]
  intro hq
  have hp := h c hc
  rw [hle c hq] at hp
  cases hp

theorem LeadsOutside.append (h : LeadsOutside p cs) (rest : List Char) :
    StartsOutside p (cs ++ rest) := by
  cases cs with
  | nil => cases h
  | cons c cs => exact startsOutside_cons (by simpa [LeadsOutside] using h)

theorem LeadsOutside.startsOutside (h : LeadsOutside p cs) : StartsOutside p cs := by
  have happend := h.append []
  rwa [List.append_nil] at happend

theorem longestRun_of_startsOutside (h : StartsOutside p cs) : longestRun p next cs = none := by
  cases cs with
  | nil => rfl
  | cons c cs => simp [longestRun, h c rfl]

/-- A run whose rest is accepted is read to its end, when no longer run is accepted. -/
theorem longestRun_append_of_none {b : β} (hrun : run ≠ []) (hall : run.all p = true)
    (hrest : longestRun p next rest = none) (hnext : next rest = some b) :
    longestRun p next (run ++ rest) = some (run, b) := by
  induction run with
  | nil => exact absurd rfl hrun
  | cons c run ih =>
      obtain ⟨hc, hall⟩ : p c = true ∧ run.all p = true := by simpa using hall
      rw [List.cons_append, longestRun, if_pos hc]
      cases run with
      | nil => simp [hrest, hnext]
      | cons c' run => rw [ih (by simp) hall]

/-- A run whose rest is accepted is read to the end of its class. -/
theorem longestRun_append_of_some {b : β} (hrun : run ≠ []) (hall : run.all p = true)
    (hrest : StartsOutside p rest) (hnext : next rest = some b) :
    longestRun p next (run ++ rest) = some (run, b) :=
  longestRun_append_of_none hrun hall (longestRun_of_startsOutside hrest) hnext

/-- No run is found when none of them has a rest that is accepted. -/
theorem longestRun_eq_none (h : ∀ run rest, cs = run ++ rest → run ≠ [] → run.all p = true →
    next rest = none) : longestRun p next cs = none := by
  cases hfound : longestRun p next cs with
  | none => rfl
  | some found =>
      obtain ⟨rest, hsplit, hne, hall, hnext⟩ := longestRun_some hfound
      rw [h found.1 rest hsplit hne hall] at hnext
      cases hnext

/-- Before something that never starts within the class there is only the whole run. -/
theorem longestRun_append (hnext : Refuses next p) (hrun : run ≠ []) (hall : run.all p = true)
    (hrest : StartsOutside p rest) :
    longestRun p next (run ++ rest) = (next rest).map (fun b => (run, b)) := by
  cases haccepted : next rest with
  | some b => exact longestRun_append_of_some hrun hall hrest haccepted
  | none =>
      induction run with
      | nil => exact absurd rfl hrun
      | cons c run ih =>
          obtain ⟨hc, hall⟩ : p c = true ∧ run.all p = true := by simpa using hall
          rw [List.cons_append, longestRun, if_pos hc]
          cases run with
          | nil => simp [longestRun_of_startsOutside hrest, haccepted]
          | cons c' run =>
              have hc' : p c' = true := by simp_all
              rw [ih (by simp) hall, List.cons_append, hnext c' _ hc']
              rfl

/-! ## Words -/

/-- A word is read in any case. -/
theorem keyword_append {word : List Char} (h : cs.map foldLetter = word) (rest : List Char) :
    keyword word next (cs ++ rest) = next rest := by
  induction cs generalizing word with
  | nil => rw [← h]; rfl
  | cons c cs ih =>
      rw [← h]
      simp [keyword, ih rfl]

/-- A word that is read stands, in some case, at the front. -/
theorem keyword_some {word : List Char} {b : β} (h : keyword word next cs = some b) :
    ∃ front rest, cs = front ++ rest ∧ front.map foldLetter = word ∧ next rest = some b := by
  induction word generalizing cs with
  | nil => exact ⟨[], cs, rfl, rfl, h⟩
  | cons w word ih =>
      cases cs with
      | nil => cases h
      | cons c cs =>
          rw [keyword] at h
          split at h
          · rename_i hw
            obtain ⟨front, rest, rfl, rfl, hnext⟩ := ih h
            exact ⟨c :: front, rest, rfl, by rw [List.map_cons, beq_iff_eq.mp hw], hnext⟩
          · cases h

theorem prefix_of_keyword {word : List Char} {b : β} (h : keyword word next cs = some b) :
    word <+: cs.map foldLetter := by
  obtain ⟨front, rest, rfl, rfl, -⟩ := keyword_some h
  rw [List.map_append]
  exact List.prefix_append _ _

/-- Two words of which neither starts the other part before the shorter one ends. -/
theorem not_prefix_append {word other : List Char} (h : ¬ word <+: other ∧ ¬ other <+: word)
    (rest : List Char) : ¬ word <+: other ++ rest := by
  intro hprefix
  rcases List.prefix_or_prefix_of_prefix hprefix (List.prefix_append _ _) with hle | hle
  · exact h.1 hle
  · exact h.2 hle

theorem keyword_of_startsOutside {w : Char} {word : List Char}
    (h : StartsOutside (fun c => foldLetter c == w) cs) : keyword (w :: word) next cs = none := by
  cases cs with
  | nil => rfl
  | cons c cs =>
      have hc : (foldLetter c == w) = false := h c rfl
      rw [keyword, hc]
      rfl

/-! ## Blanks -/

theorem foldLetter_of_isBlank {c : Char} (h : isBlank c = true) : foldLetter c = c := by
  simp only [isBlank, Bool.or_eq_true, Bool.and_eq_true, decide_eq_true_eq, beq_iff_eq] at h
  unfold foldLetter lowerAscii
  split
  · omega
  · omega
  · omega
  · omega
  · refine if_neg ?_
    simp only [Bool.and_eq_true, decide_eq_true_eq, Char.le_def, UInt32.le_iff_toNat_le]
    change ¬ (65 ≤ c.toNat ∧ c.toNat ≤ 90)
    omega

theorem isWord_of_isBlank {c : Char} (h : isBlank c = true) : isWord c = false := by
  have hfold := foldLetter_of_isBlank h
  simp only [isBlank, Bool.or_eq_true, Bool.and_eq_true, decide_eq_true_eq, beq_iff_eq] at h
  have hrange (a b : Char) (hab : b.toNat < a.toNat ∨ b.toNat < c.toNat ∨ c.toNat < a.toNat) :
      (a ≤ c && c ≤ b) = false := by
    simp only [Bool.and_eq_false_iff, decide_eq_false_iff_not, Char.le_def,
      UInt32.le_iff_toNat_le]
    change ¬ a.toNat ≤ c.toNat ∨ ¬ c.toNat ≤ b.toNat
    omega
  have hunderscore : (c == '_') = false := by
    rw [beq_eq_false_iff_ne]
    rintro rfl
    simp at h
  rw [isWord, hfold, isWordAscii, hrange 'a' 'z' (by simp; omega), hrange 'A' 'Z' (by simp; omega),
    hrange '0' '9' (by simp; omega), hunderscore]
  rfl

theorem someBlanks_of_startsOutside (h : StartsOutside isBlank cs) :
    someBlanks next cs = none := by
  rw [someBlanks, longestRun_of_startsOutside h]
  rfl

theorem anyBlanks_of_startsOutside (h : StartsOutside isBlank cs) :
    anyBlanks next cs = next cs := by
  rw [anyBlanks, someBlanks_of_startsOutside h]

/-- One blank more in front of what is not accepted, with blanks or without. -/
theorem someBlanks_cons_of_none {c : Char} (hrest : someBlanks next cs = none)
    (hnext : next cs = none) : someBlanks next (c :: cs) = none := by
  rw [someBlanks, Option.map_eq_none_iff] at hrest ⊢
  rw [longestRun, hrest, hnext]
  split <;> rfl

theorem someBlanks_space (h : StartsOutside isBlank cs) :
    someBlanks next (' ' :: cs) = next cs := by
  have hblank : isBlank ' ' = true := by decide
  rw [someBlanks, longestRun, if_pos hblank, longestRun_of_startsOutside h]
  cases next cs <;> rfl

/-- A word behind a blank. -/
theorem someBlanks_keyword {word : List Char}
    (h : cs.map foldLetter = word ∧ LeadsOutside isBlank cs) (rest : List Char) :
    someBlanks (keyword word next) (' ' :: (cs ++ rest)) = next rest := by
  rw [someBlanks_space (h.2.append rest), keyword_append h.1]

theorem anyBlanks_space (h : StartsOutside isBlank cs) (hnext : next (' ' :: cs) = none) :
    anyBlanks next (' ' :: cs) = next cs := by
  rw [anyBlanks, someBlanks_space h, hnext]
  cases next cs <;> rfl

/-- Blanks in front of what is accepted are passed over. -/
theorem anyBlanks_append {b : β} (hrun : run.all isBlank = true)
    (hrest : StartsOutside isBlank rest) (hnext : next rest = some b) :
    anyBlanks next (run ++ rest) = some b := by
  cases run with
  | nil => rw [List.nil_append, anyBlanks_of_startsOutside hrest, hnext]
  | cons c run =>
      have hfound := longestRun_append_of_some (by simp) hrun hrest hnext
      rw [anyBlanks, someBlanks, hfound]
      rfl

/-! ## Trimming -/

theorem trimEnd_concat (cs : List Char) (c : Char) :
    trimEnd (cs ++ [c]) = if isBlank c then trimEnd cs else cs ++ [c] :=
  List.rdropWhile_concat isBlank cs c

/-- Trimming at the end stops at a character that is no blank. -/
theorem trimEnd_append_cons {c : Char} (hc : isBlank c = false) (front rest : List Char) :
    trimEnd (front ++ c :: rest) = front ++ c :: trimEnd rest := by
  induction rest using List.reverseRecOn with
  | nil => rw [trimEnd_concat, hc]; rfl
  | append_singleton rest x ih =>
      have hassoc : front ++ c :: (rest ++ [x]) = (front ++ c :: rest) ++ [x] := by simp
      rw [hassoc, trimEnd_concat, trimEnd_concat, ih]
      split
      · rfl
      · exact hassoc.symm

theorem trimEnd_of_all (h : cs.all isBlank = true) : trimEnd cs = [] :=
  List.rdropWhile_eq_nil_iff.mpr (List.all_eq_true.mp h)

theorem mem_of_mem_trimEnd {c : Char} (h : c ∈ trimEnd cs) : c ∈ cs :=
  (List.rdropWhile_prefix isBlank cs).subset h

/-- Trimming leaves nothing, or what stands from the first to the last character that is no
blank. -/
theorem trim_cases (cs : List Char) :
    (trim cs = [] ∧ trimEnd cs = []) ∨
      ∃ c w, isBlank c = false ∧ trimEnd cs = cs.takeWhile isBlank ++ c :: w ∧
        trim cs = c :: w := by
  have hwhole : cs.takeWhile isBlank ++ trimStart cs = cs := List.takeWhile_append_dropWhile
  cases hstart : trimStart cs with
  | nil =>
      have hall : (cs.takeWhile isBlank).all isBlank = true := List.all_takeWhile
      rw [hstart, List.append_nil] at hwhole
      rw [hwhole] at hall
      exact .inl ⟨by rw [trim, hstart]; rfl, trimEnd_of_all hall⟩
  | cons c rest =>
      have hc : isBlank c = false := by
        have hhead := List.head?_dropWhile_not isBlank cs
        rw [show cs.dropWhile isBlank = c :: rest from hstart] at hhead
        simpa using hhead
      refine .inr ⟨c, trimEnd rest, hc, ?_, ?_⟩
      · rw [← trimEnd_append_cons hc, ← hstart, hwhole]
      · rw [trim, hstart]
        exact trimEnd_append_cons hc [] rest

theorem trim_trim (cs : List Char) : trim (trim cs) = trim cs := by
  rcases trim_cases cs with ⟨h, -⟩ | ⟨c, w, hc, hend, h⟩
  · rw [h]; rfl
  · have hidem : trimEnd (trimEnd cs) = trimEnd cs := List.rdropWhile_idempotent isBlank cs
    rw [hend, trimEnd_append_cons hc] at hidem
    have hw : c :: trimEnd w = c :: w := List.append_cancel_left hidem
    rw [h, trim, trimStart_cons_of_not_blank hc, ← List.nil_append (c :: w),
      trimEnd_append_cons hc, hw]

/-- The value at the end of a statement is read without the blanks around it. -/
theorem anyBlanks_restOfLine_trimEnd (h : '\n' ∉ cs) :
    anyBlanks restOfLine (trimEnd cs) = if trim cs = [] then none else some (trim cs) := by
  rcases trim_cases cs with ⟨htrim, hend⟩ | ⟨c, w, hc, hend, htrim⟩
  · rw [hend, if_pos htrim]
    rfl
  · have hfree : '\n' ∉ c :: w := by
      intro hmem
      exact h (mem_of_mem_trimEnd (hend ▸ List.mem_append_right _ hmem))
    have hline : restOfLine (c :: w) = some (c :: w) :=
      restOfLine_eq_some_iff.mpr ⟨rfl, by simp, hfree⟩
    rw [hend, htrim, if_neg (by simp)]
    exact anyBlanks_append List.all_takeWhile (startsOutside_cons hc) hline

end Text

end DocConsole
