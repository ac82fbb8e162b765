import DocConsole.Proofs.Text.Recognition

/-!
# The layout of a statement

What may differ between two spellings of the same statement: the case of its words, and the white
space between and around them.  Each piece carries that it is of its form, and a recogniser passes
over it to what follows.  Main statements: a word behind white space is read in any case, and white
space around a text without any at its ends is trimmed away.
-/

set_option autoImplicit false

namespace DocConsole

namespace Text

variable {β : Type} {next : List Char → Option β} {cs rest : List Char} {b : β}

/-! ## Pieces -/

/-- One or more characters of a class between two words. -/
structure Gap (p : Char → Bool) where
  chars : List Char
  nonempty : chars ≠ []
  all : chars.all p = true

/-- Any number of blanks. -/
structure Blanks where
  chars : List Char
  all : chars.all isBlank = true

/-- A word in any case; the word is given in lower case. -/
structure Cased (word : String) where
  chars : List Char
  folds : chars.map foldLetter = word.toList

/-- The mark for all fields, which has no case. -/
def Cased.star : Cased "*" := ⟨"*".toList, rfl⟩

/-- A single space. -/
def Gap.space : Gap isBlank := ⟨[' '], by decide, by decide⟩

/-- A single space, where there need not be one. -/
def Blanks.space : Blanks := ⟨[' '], by decide⟩

/-- No blank at all. -/
def Blanks.none : Blanks := ⟨[], rfl⟩

/-- A text whose folded form starts outside a class starts outside what folds into that class. -/
theorem leadsOutside_of_map_foldLetter {p q : Char → Bool}
    (hp : ∀ c, p c = true → q (foldLetter c) = true) (h : LeadsOutside q (cs.map foldLetter)) :
    LeadsOutside p cs := by
  cases cs with
  | nil => cases h
  | cons c cs =>
      cases hc : p c with
      | false => simp [LeadsOutside, hc]
      | true => simp [LeadsOutside, hp c hc] at h

theorem isBlank_foldLetter (c : Char) (h : isBlank c = true) : isBlank (foldLetter c) = true := by
  rwa [foldLetter_of_isBlank h]

theorem Cased.leadsOutside {word : String} (w : Cased word)
    (hword : LeadsOutside isBlank word.toList) : LeadsOutside isBlank w.chars :=
  leadsOutside_of_map_foldLetter isBlank_foldLetter (w.folds ▸ hword)

/-- A word starts with none but its own first letter, in either case. -/
theorem Cased.startsOutside_fold {word : String} {first : Char} (w : Cased word)
    (hword : LeadsOutside (· == first) word.toList) (rest : List Char) :
    StartsOutside (fun c => foldLetter c == first) (w.chars ++ rest) := by
  have hleads : LeadsOutside (fun c => foldLetter c == first) w.chars :=
    leadsOutside_of_map_foldLetter (fun _ h => h) (w.folds ▸ hword)
  exact hleads.append rest

/-- A word without blanks has none in any case. -/
theorem Cased.isBlank_eq_false {word : String} (w : Cased word)
    (hword : word.toList.all (fun c => !isBlank c) = true) : ∀ c ∈ w.chars, isBlank c = false := by
  intro c hc
  have hfolded : foldLetter c ∈ word.toList := w.folds ▸ List.mem_map_of_mem hc
  cases hblank : isBlank c with
  | false => rfl
  | true =>
      rw [foldLetter_of_isBlank hblank] at hfolded
      have hnone := List.all_eq_true.mp hword c hfolded
      rw [hblank] at hnone
      cases hnone

/-! ## Recognisers over pieces -/

/-- White space before what is accepted is passed over. -/
theorem Gap.someBlanks_append {p : Char → Bool} (gap : Gap p)
    (hp : ∀ c, p c = true → isBlank c = true) (hrest : StartsOutside isBlank rest)
    (hnext : next rest = some b) : someBlanks next (gap.chars ++ rest) = some b := by
  have hall : gap.chars.all isBlank = true :=
    List.all_eq_true.mpr fun c hc => hp c (List.all_eq_true.mp gap.all c hc)
  rw [someBlanks, longestRun_append_of_some gap.nonempty hall hrest hnext]
  rfl

/-- A word behind white space is read in any case. -/
theorem Cased.someBlanks_append {word : String} (w : Cased word) (gap : Gap isBlank)
    (hword : LeadsOutside isBlank word.toList) (hnext : next rest = some b) :
    someBlanks (keyword word.toList next) (gap.chars ++ (w.chars ++ rest)) = some b := by
  refine gap.someBlanks_append (fun _ h => h) ((w.leadsOutside hword).append rest) ?_
  rw [keyword_append w.folds, hnext]

theorem Blanks.anyBlanks_append (blanks : Blanks) (hrest : StartsOutside isBlank rest)
    (hnext : next rest = some b) : anyBlanks next (blanks.chars ++ rest) = some b :=
  Text.anyBlanks_append blanks.all hrest hnext

/-- A run of a class between white space and what cannot go on with it. -/
theorem Gap.someBlanks_longestRun {p : Char → Bool} (gap : Gap isBlank)
    (hp : ∀ c, p c = true → isBlank c = false) {run : List Char} (hrun : run ≠ [])
    (hall : run.all p = true) (hrest : longestRun p next rest = none)
    (hnext : next rest = some b) :
    someBlanks (longestRun p next) (gap.chars ++ (run ++ rest)) = some (run, b) := by
  have hstarts : StartsOutside isBlank (run ++ rest) := by
    obtain ⟨c, run, rfl⟩ := List.exists_cons_of_ne_nil hrun
    exact startsOutside_cons (hp c (List.all_eq_true.mp hall c List.mem_cons_self))
  exact gap.someBlanks_append (fun _ h => h) hstarts
    (longestRun_append_of_none hrun hall hrest hnext)

/-- What a gap starts with is outside a class that shares no character with the gap's. -/
theorem Gap.startsOutside {p q : Char → Bool} (gap : Gap q)
    (hp : ∀ c, q c = true → p c = false) (rest : List Char) :
    StartsOutside p (gap.chars ++ rest) := by
  obtain ⟨chars, hne, hall⟩ := gap
  obtain ⟨c, chars, rfl⟩ := List.exists_cons_of_ne_nil hne
  exact startsOutside_cons (hp c (List.all_eq_true.mp hall c List.mem_cons_self))

/-- Nothing of a class without blanks goes on behind white space. -/
theorem Gap.longestRun_eq_none {p q : Char → Bool} (gap : Gap q)
    (hp : ∀ c, q c = true → p c = false) (rest : List Char) :
    longestRun p next (gap.chars ++ rest) = none :=
  longestRun_of_startsOutside (gap.startsOutside hp rest)

/-- A word is not read where another stands that neither starts it nor is started by it. -/
theorem Cased.keyword_eq_none {word other : String} (w : Cased word)
    (h : ¬ other.toList <+: word.toList ∧ ¬ word.toList <+: other.toList) (rest : List Char) :
    keyword other.toList next (w.chars ++ rest) = none := by
  rw [Option.eq_none_iff_forall_ne_some]
  intro b hb
  have hprefix := prefix_of_keyword hb
  rw [List.map_append, w.folds] at hprefix
  exact not_prefix_append h _ hprefix

/-! ## What was recognised, in pieces -/

theorem exists_of_keyword {word : String} (h : keyword word.toList next cs = some b) :
    ∃ (w : Cased word) (rest : List Char), cs = w.chars ++ rest ∧ next rest = some b := by
  obtain ⟨front, rest, hsplit, hfolds, hnext⟩ := keyword_some h
  exact ⟨⟨front, hfolds⟩, rest, hsplit, hnext⟩

theorem exists_of_someBlanks (h : someBlanks next cs = some b) :
    ∃ (gap : Gap isBlank) (rest : List Char), cs = gap.chars ++ rest ∧ next rest = some b := by
  obtain ⟨⟨run, b'⟩, hfound, rfl⟩ := Option.map_eq_some_iff.mp h
  obtain ⟨rest, hsplit, hne, hall, hnext⟩ := longestRun_some hfound
  exact ⟨⟨run, hne, hall⟩, rest, hsplit, hnext⟩

theorem exists_of_anyBlanks (h : anyBlanks next cs = some b) :
    ∃ (blanks : Blanks) (rest : List Char), cs = blanks.chars ++ rest ∧ next rest = some b := by
  unfold anyBlanks at h
  split at h
  · rename_i b' hsome
    obtain rfl := Option.some.inj h
    obtain ⟨gap, rest, hsplit, hnext⟩ := exists_of_someBlanks hsome
    exact ⟨⟨gap.chars, gap.all⟩, rest, hsplit, hnext⟩
  · exact ⟨.none, cs, rfl, h⟩

/-! ## Trimming -/

/-- A text that stands in a statement on its own: neither its first nor its last character is a
blank, and it has one. -/
structure IsTrimmed (cs : List Char) : Prop where
  first : LeadsOutside isBlank cs
  last : LeadsOutside isBlank cs.reverse

/-- Blanks around a text go. -/
theorem IsTrimmed.trim_append (h : IsTrimmed cs) {before after : List Char}
    (hbefore : before.all isBlank = true) (hafter : after.all isBlank = true) :
    trim (before ++ (cs ++ after)) = cs := by
  have hstart : trimStart (before ++ (cs ++ after)) = cs ++ after := by
    rw [trimStart, List.dropWhile_append_of_pos (List.all_eq_true.mp hbefore)]
    have hfirst := h.first
    cases cs with
    | nil => cases hfirst
    | cons c cs => exact trimStart_cons_of_not_blank (by simpa [LeadsOutside] using hfirst)
  have hlast := h.last
  cases hreverse : cs.reverse with
  | nil => rw [hreverse] at hlast; cases hlast
  | cons c front =>
      rw [hreverse] at hlast
      have hc : isBlank c = false := by simpa [LeadsOutside] using hlast
      have hcs : cs = front.reverse ++ [c] := by
        rw [← List.reverse_reverse cs, hreverse, List.reverse_cons]
      rw [trim, hstart, hcs, List.append_assoc, List.singleton_append, trimEnd_append_cons hc,
        trimEnd_of_all hafter]

theorem IsTrimmed.trim_eq (h : IsTrimmed cs) : trim cs = cs := by
  have htrim : trim ([] ++ (cs ++ [])) = cs := h.trim_append rfl rfl
  rwa [List.nil_append, List.append_nil] at htrim

theorem all_isBlank_of_trim (h : trim cs = []) : cs.all isBlank = true := by
  have hend : ∀ c ∈ trimStart cs, isBlank c = true := List.rdropWhile_eq_nil_iff.mp h
  have hsplit : cs.takeWhile isBlank ++ trimStart cs = cs := List.takeWhile_append_dropWhile
  rw [← hsplit, List.all_append, List.all_takeWhile, List.all_eq_true.mpr hend]
  rfl

/-- What is left when the blanks around a text go, and the blanks. -/
theorem exists_of_trim (h : trim cs ≠ []) :
    IsTrimmed (trim cs) ∧ ∃ before after, before.all isBlank = true ∧ after.all isBlank = true ∧
      cs = before ++ (trim cs ++ after) := by
  have hreverse : (trim cs).reverse = (trimStart cs).reverse.dropWhile isBlank :=
    List.reverse_reverse _
  refine ⟨⟨?_, ?_⟩, cs.takeWhile isBlank, (trimStart cs).rtakeWhile isBlank,
    List.all_takeWhile, List.all_eq_true.mpr fun c hc => List.mem_rtakeWhile_imp hc, ?_⟩
  · rcases trim_cases cs with ⟨hnil, -⟩ | ⟨c, w, hc, -, htrim⟩
    · exact absurd hnil h
    · rw [htrim]
      simpa [LeadsOutside] using hc
  · have hhead := List.head?_dropWhile_not isBlank (trimStart cs).reverse
    rw [← hreverse] at hhead
    obtain ⟨c, front, hsplit⟩ := List.exists_cons_of_ne_nil (List.reverse_ne_nil_iff.mpr h)
    rw [hsplit] at hhead ⊢
    simpa [LeadsOutside] using hhead
  · have hend : trim cs ++ (trimStart cs).rtakeWhile isBlank = trimStart cs :=
      List.rdropWhile_append_rtakeWhile
    rw [hend]
    exact List.takeWhile_append_dropWhile.symm

/-- A text whose characters are all no blanks is trimmed. -/
theorem isTrimmed_of_all (hne : cs ≠ []) (hall : ∀ c ∈ cs, isBlank c = false) :
    IsTrimmed cs := by
  have hleads : ∀ ds : List Char, ds ≠ [] → (∀ c ∈ ds, isBlank c = false) →
      LeadsOutside isBlank ds := by
    intro ds hne hall
    obtain ⟨d, more, rfl⟩ := List.exists_cons_of_ne_nil hne
    simp [LeadsOutside, hall d List.mem_cons_self]
  refine ⟨hleads cs hne hall, hleads _ (by simpa using hne) ?_⟩
  intro c hc
  exact hall c (List.mem_reverse.mp hc)

theorem LeadsOutside.append_right {p : Char → Bool} (h : LeadsOutside p cs) (rest : List Char) :
    LeadsOutside p (cs ++ rest) := by
  cases cs with
  | nil => cases h
  | cons c cs => exact h

theorem LeadsOutside.reverse_append {p : Char → Bool} (h : LeadsOutside p cs.reverse)
    (front : List Char) : LeadsOutside p (front ++ cs).reverse := by
  rw [List.reverse_append]
  exact h.append_right _

end Text

end DocConsole
