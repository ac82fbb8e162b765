import DocConsole.Number.Literal
import DocConsole.Proofs.Text.Recognition

/-!
# The grammar of decimal literals

A decimal literal is an optional sign, then digits with an optional point and optional further
digits or a point followed by digits, and then optionally an exponent with a sign of its own.  The
digits may be those of any script.  Main statement: exactly the texts of this grammar are read as
literals, and the same texts with one line feed behind them.
-/

set_option autoImplicit false

namespace DocConsole

open Text

namespace DecimalLiteral

/-! ## The grammar -/

/-- Characters of a class, at least one. -/
def IsRun (p : Char → Bool) (ds : List Char) : Prop :=
  ds ≠ [] ∧ ds.all p = true

/-- An optional sign, with whether it is a minus. -/
inductive IsSign : Bool → List Char → Prop where
  /-- No sign. -/
  | absent : IsSign false []
  /-- A plus sign. -/
  | plus : IsSign false ['+']
  /-- A minus sign. -/
  | minus : IsSign true ['-']

/-- What stands between the sign and the exponent, with the digits before the point and those
behind it. -/
inductive IsMantissa (p : Char → Bool) : List Char → Option (List Char) → List Char → Prop where
  /-- Digits alone. -/
  | whole {ds : List Char} (hds : IsRun p ds) : IsMantissa p ds none ds
  /-- Digits, a point, and perhaps further digits. -/
  | pointed {ds fs : List Char} (hds : IsRun p ds) (hfs : fs.all p = true) :
      IsMantissa p ds (some fs) (ds ++ '.' :: fs)
  /-- A point and digits. -/
  | fraction {fs : List Char} (hfs : IsRun p fs) : IsMantissa p [] (some fs) ('.' :: fs)

/-- An optional exponent, with whether it is negative and its digits. -/
inductive IsExponent (p : Char → Bool) : Option (Bool × List Char) → List Char → Prop where
  /-- No exponent. -/
  | absent : IsExponent p none []
  /-- The letter e, an optional sign and digits. -/
  | power {letter : Char} {negative : Bool} {sign ds : List Char}
      (hletter : letter = 'e' ∨ letter = 'E') (hsign : IsSign negative sign) (hds : IsRun p ds) :
      IsExponent p (some (negative, ds)) (letter :: (sign ++ ds))

/-- The texts of a literal. -/
inductive Writes : DecimalLiteral → List Char → Prop where
  /-- A sign, digits with or without a point, and an exponent. -/
  | intro {negative : Bool} {whole : List Char} {fraction : Option (List Char)}
      {exponent : Option (Bool × List Char)} {sign mantissa power : List Char}
      (hsign : IsSign negative sign) (hmantissa : IsMantissa isDigit whole fraction mantissa)
      (hexponent : IsExponent isDigit exponent power) :
      Writes ⟨negative, whole, fraction, exponent⟩ (sign ++ (mantissa ++ power))

variable {p : Char → Bool} {cs ds rest sign mantissa power whole : List Char} {negative : Bool}
  {fraction : Option (List Char)} {exponent : Option (Bool × List Char)}

/-! ## Signs, points and letters -/

/-- A sign. -/
def isSign (c : Char) : Bool :=
  c == '+' || c == '-'

/-- The letter of an exponent. -/
def isExponentLetter (c : Char) : Bool :=
  c == 'e' || c == 'E'

/-- A class that holds none of the marks of a literal. -/
structure IsUnmarked (p : Char → Bool) : Prop where
  plus : p '+' = false
  minus : p '-' = false
  point : p '.' = false
  letter : p 'e' = false
  capital : p 'E' = false

theorem isUnmarked_isDigit : IsUnmarked isDigit :=
  ⟨by decide, by decide, by decide, by decide, by decide⟩

theorem IsRun.exists_cons (h : IsRun p ds) : ∃ d more, ds = d :: more ∧ p d = true := by
  obtain ⟨d, more, rfl⟩ := List.exists_cons_of_ne_nil h.1
  exact ⟨d, more, rfl, List.all_eq_true.mp h.2 d List.mem_cons_self⟩

/-- A run does not start with a sign. -/
theorem IsRun.startsOutside_isSign (h : IsRun p ds) (hp : IsUnmarked p) (rest : List Char) :
    StartsOutside isSign (ds ++ rest) := by
  obtain ⟨d, more, rfl, hd⟩ := h.exists_cons
  refine startsOutside_cons (Bool.eq_false_iff.mpr fun hsign => ?_)
  rcases (Bool.or_eq_true _ _).mp hsign with hmark | hmark <;> rw [eq_of_beq hmark] at hd
  · cases hp.plus.symm.trans hd
  · cases hp.minus.symm.trans hd

/-- A mantissa starts with a digit or a point. -/
theorem IsMantissa.startsOutside_isSign (h : IsMantissa p whole fraction mantissa)
    (hp : IsUnmarked p) (rest : List Char) : StartsOutside isSign (mantissa ++ rest) := by
  cases h with
  | whole hds => exact hds.startsOutside_isSign hp rest
  | pointed hds =>
      rw [List.append_assoc]
      exact hds.startsOutside_isSign hp _
  | fraction => exact startsOutside_cons rfl

/-- What an exponent starts with is in no class without its letter. -/
theorem IsExponent.startsOutside {q : Char → Bool} (h : IsExponent p exponent power)
    (hletter : q 'e' = false) (hcapital : q 'E' = false) (hrest : StartsOutside q rest) :
    StartsOutside q (power ++ rest) := by
  cases h with
  | absent => exact hrest
  | power hletters =>
      rcases hletters with rfl | rfl
      · exact startsOutside_cons hletter
      · exact startsOutside_cons hcapital

/-! ## What is written is read -/

/-- A run of a class is split off where the class ends. -/
theorem spanOf_of_startsOutside (hds : ds.all p = true) (hrest : StartsOutside p rest) :
    spanOf p (ds ++ rest) = (ds, rest) := by
  induction ds with
  | nil =>
      cases rest with
      | nil => rfl
      | cons c cs => simp [spanOf, hrest c rfl]
  | cons d ds ih =>
      rw [List.all_cons, Bool.and_eq_true] at hds
      have hspan := Prod.mk.inj (ih hds.2)
      rw [List.cons_append, spanOf, List.takeWhile_cons, List.dropWhile_cons, if_pos hds.1,
        if_pos hds.1, hspan.1, hspan.2]

theorem IsSign.readSign_append (h : IsSign negative sign) (hrest : StartsOutside isSign rest) :
    readSign (sign ++ rest) = (negative, rest) := by
  cases h with
  | absent =>
      rw [List.nil_append]
      unfold readSign
      split
      · cases hrest '+' rfl
      · cases hrest '-' rfl
      · rfl
  | plus => rfl
  | minus => rfl

theorem readFraction_of_startsOutside (hrest : StartsOutside (· == '.') rest) :
    readFraction p rest = (none, rest) := by
  unfold readFraction
  split
  · cases hrest '.' rfl
  · rfl

theorem readFraction_point (hds : ds.all p = true) (hrest : StartsOutside p rest) :
    readFraction p ('.' :: (ds ++ rest)) = (some ds, rest) := by
  have hspan := Prod.mk.inj (spanOf_of_startsOutside hds hrest)
  rw [readFraction, hspan.1, hspan.2]

/-- The digits on both sides of a point are read, up to where neither they nor the point go on. -/
theorem IsMantissa.read (h : IsMantissa p whole fraction mantissa) (hp : IsUnmarked p)
    (hrest : StartsOutside p rest) (hpoint : StartsOutside (· == '.') rest) :
    ∃ afterWhole, spanOf p (mantissa ++ rest) = (whole, afterWhole) ∧
      readFraction p afterWhole = (fraction, rest) := by
  cases h with
  | whole hds =>
      exact ⟨rest, spanOf_of_startsOutside hds.2 hrest, readFraction_of_startsOutside hpoint⟩
  | @pointed ds fs hds hfs =>
      refine ⟨'.' :: (fs ++ rest), ?_, readFraction_point hfs hrest⟩
      rw [List.append_assoc]
      exact spanOf_of_startsOutside hds.2 (startsOutside_cons hp.point)
  | @fraction fs hfs =>
      refine ⟨'.' :: (fs ++ rest), ?_, readFraction_point hfs.2 hrest⟩
      show spanOf p ([] ++ '.' :: (fs ++ rest)) = _
      exact spanOf_of_startsOutside rfl (startsOutside_cons hp.point)

theorem IsExponent.read (h : IsExponent p exponent power) (hp : IsUnmarked p)
    (hrest : StartsOutside p rest) (hletter : StartsOutside isExponentLetter rest) :
    readExponent p (power ++ rest) = (exponent, rest) := by
  cases h with
  | absent =>
      rw [List.nil_append]
      cases rest with
      | nil => rfl
      | cons c cs => exact if_neg (Bool.eq_false_iff.mp (hletter c rfl))
  | @power letter negative sign ds hletters hsign hds =>
      have hsign' : readSign (sign ++ ds ++ rest) = (negative, ds ++ rest) := by
        rw [List.append_assoc]
        exact hsign.readSign_append (hds.startsOutside_isSign hp rest)
      have hempty : ds.isEmpty = false := List.isEmpty_eq_false_iff.mpr hds.1
      have hletter' : (letter == 'e' || letter == 'E') = true := by
        rcases hletters with rfl | rfl <;> rfl
      rw [List.cons_append, readExponent, if_pos hletter', hsign']
      simp only [spanOf_of_startsOutside hds.2 hrest, hempty]
      rfl

/-- Some digit stands before the point or behind it. -/
theorem IsMantissa.holdsDigit (h : IsMantissa p whole fraction mantissa) :
    (whole.isEmpty && (fraction.getD []).isEmpty) = false := by
  cases h with
  | whole hds => rw [List.isEmpty_eq_false_iff.mpr hds.1, Bool.false_and]
  | pointed hds => rw [List.isEmpty_eq_false_iff.mpr hds.1, Bool.false_and]
  | fraction hfs => exact Bool.and_eq_false_imp.mpr fun _ => List.isEmpty_eq_false_iff.mpr hfs.1

/-- The end of a text, or one line feed before it. -/
inductive IsEnding : List Char → Prop where
  /-- Nothing. -/
  | nothing : IsEnding []
  /-- A line feed. -/
  | feed : IsEnding ['\n']

theorem isEnding_iff : IsEnding rest ↔ (rest.isEmpty || rest == ['\n']) = true := by
  rw [Bool.or_eq_true, List.isEmpty_iff, beq_iff_eq]
  constructor
  · rintro (_ | _)
    · exact .inl rfl
    · exact .inr rfl
  · rintro (rfl | rfl)
    · exact .nothing
    · exact .feed

theorem IsEnding.startsOutside {q : Char → Bool} (h : IsEnding rest) (hfeed : q '\n' = false) :
    StartsOutside q rest := by
  cases h with
  | nothing => exact startsOutside_nil q
  | feed => exact startsOutside_cons hfeed

/-- What a literal is written as is read as that literal. -/
theorem Writes.read?_append {l : DecimalLiteral} (h : l.Writes cs) (hrest : IsEnding rest) :
    read? (cs ++ rest) = some l := by
  obtain ⟨hsign, hmantissa, hexponent⟩ := h
  have hp := isUnmarked_isDigit
  have hdigit := hexponent.startsOutside hp.letter hp.capital
    (hrest.startsOutside (q := isDigit) (by decide))
  have hpoint := hexponent.startsOutside (q := (· == '.')) rfl rfl (hrest.startsOutside rfl)
  obtain ⟨afterWhole, hwhole, hfraction⟩ := hmantissa.read hp hdigit hpoint
  have hexponent' := hexponent.read hp (hrest.startsOutside (by decide)) (hrest.startsOutside rfl)
  rw [List.append_assoc, List.append_assoc, read?,
    hsign.readSign_append (hmantissa.startsOutside_isSign hp _)]
  simp only [hwhole, hfraction, hexponent', hmantissa.holdsDigit, Bool.false_eq_true, if_false,
    isEnding_iff.mp hrest, if_true]

/-! ## What is read was written -/

theorem all_takeWhile (p : Char → Bool) (cs : List Char) : (cs.takeWhile p).all p = true :=
  List.all_eq_true.mpr fun _ hd => List.mem_takeWhile_imp hd

theorem exists_isSign (cs : List Char) :
    ∃ sign, IsSign (readSign cs).1 sign ∧ cs = sign ++ (readSign cs).2 := by
  unfold readSign
  split
  · exact ⟨['+'], .plus, rfl⟩
  · exact ⟨['-'], .minus, rfl⟩
  · exact ⟨[], .absent, rfl⟩

/-- Digits on either side of where a point may stand make a mantissa, unless there are none. -/
theorem exists_isMantissa (p : Char → Bool) (cs : List Char)
    (h : ((spanOf p cs).1.isEmpty && ((readFraction p (spanOf p cs).2).1.getD []).isEmpty) =
      false) :
    ∃ mantissa, IsMantissa p (spanOf p cs).1 (readFraction p (spanOf p cs).2).1 mantissa ∧
      cs = mantissa ++ (readFraction p (spanOf p cs).2).2 := by
  have hwhole := all_takeWhile p cs
  have hcs := spanOf_append p cs
  rw [show cs.takeWhile p = (spanOf p cs).1 from rfl] at hwhole
  generalize (spanOf p cs).1 = whole at h hwhole hcs ⊢
  generalize (spanOf p cs).2 = afterWhole at h hcs ⊢
  subst hcs
  unfold readFraction at h ⊢
  split
  · rename_i behind
    have hfraction := all_takeWhile p behind
    have hbehind : behind.takeWhile p ++ behind.dropWhile p = behind :=
      List.takeWhile_append_dropWhile
    by_cases hempty : whole = []
    · subst hempty
      have hne : behind.takeWhile p ≠ [] := by simpa using h
      refine ⟨'.' :: behind.takeWhile p, .fraction ⟨hne, hfraction⟩, ?_⟩
      rw [List.cons_append, hbehind, List.nil_append]
    · refine ⟨whole ++ '.' :: behind.takeWhile p, .pointed ⟨hempty, hwhole⟩ hfraction, ?_⟩
      rw [List.append_assoc, List.cons_append, hbehind]
  · refine ⟨whole, .whole ⟨?_, hwhole⟩, rfl⟩
    simpa using h

theorem exists_isExponent (p : Char → Bool) (cs : List Char) :
    ∃ power, IsExponent p (readExponent p cs).1 power ∧ cs = power ++ (readExponent p cs).2 := by
  unfold readExponent
  split
  · rename_i letter behind
    split
    · rename_i hletter
      dsimp only
      split
      · exact ⟨[], .absent, rfl⟩
      · rename_i hempty
        obtain ⟨sign, hsign, hbehind⟩ := exists_isSign behind
        have hletter' : letter = 'e' ∨ letter = 'E' := by simpa using hletter
        have hrun : IsRun p (spanOf p (readSign behind).2).1 :=
          ⟨by simpa using hempty, all_takeWhile p _⟩
        refine ⟨_, .power hletter' hsign hrun, ?_⟩
        rw [List.cons_append, List.append_assoc, spanOf_append, ← hbehind]
    · exact ⟨[], .absent, rfl⟩
  · exact ⟨[], .absent, rfl⟩

/-- A text is read as a literal exactly when it is written as one, up to a line feed that may
end it. -/
theorem read?_eq_some_iff {l : DecimalLiteral} :
    read? cs = some l ↔
      ∃ front ending, cs = front ++ ending ∧ IsEnding ending ∧ l.Writes front := by
  constructor
  · intro h
    obtain ⟨sign, hsign, hcs⟩ := exists_isSign cs
    unfold read? at h
    dsimp only at h
    split at h
    · cases h
    · rename_i hdigit
      obtain ⟨mantissa, hmantissa, hunsigned⟩ :=
        exists_isMantissa isDigit (readSign cs).2 (Bool.eq_false_iff.mpr hdigit)
      split at h
      · rename_i hending
        obtain ⟨power, hpower, hafter⟩ := exists_isExponent isDigit
          (readFraction isDigit (spanOf isDigit (readSign cs).2).2).2
        cases Option.some.inj h
        refine ⟨_, _, ?_, isEnding_iff.mpr hending, .intro hsign hmantissa hpower⟩
        rw [List.append_assoc, List.append_assoc, ← hafter, ← hunsigned, ← hcs]
      · cases h
  · rintro ⟨front, ending, rfl, hending, hfront⟩
    exact hfront.read?_append hending

end DecimalLiteral

end DocConsole
