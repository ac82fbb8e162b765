import DocConsole.Proofs.Json.RoundTrip

/-!
# Where a JSON text may be cut

Behind a line feed, or behind white space or an equals sign that no string goes on after, a JSON
text is read as if it started there: no string holds the line feed, and neither a number nor a word
holds any of these characters.  So what follows must start like a token, and white space at the ends
of a text must be white space of JSON, which may come and go.  Main statement: a text that is
accepted strictly stays accepted, with its value, when the blanks around it are taken away and
others that JSON allows are put behind it.
-/

set_option autoImplicit false

namespace DocConsole.Json

open Text DecimalLiteral

variable {start start' cs rest back : List Char} {units : List Nat} {c : Char}

/-! ## Breaks -/

/-- White space and equals signs up to the end of the text or to a line feed. -/
inductive IsBreak : List Char → Prop where
  /-- The end of the text. -/
  | nil : IsBreak []
  /-- A line feed, whatever follows. -/
  | feed (cs : List Char) : IsBreak ('\n' :: cs)
  /-- A blank or an equals sign before these. -/
  | cons {c : Char} {cs : List Char} (hc : isBlank c = true ∨ c = '=') (h : IsBreak cs) :
      IsBreak (c :: cs)

theorem isBreak_of_all (h : cs.all isBlank = true) : IsBreak cs := by
  induction cs with
  | nil => exact .nil
  | cons c cs ih =>
      rw [List.all_cons, Bool.and_eq_true] at h
      exact .cons (.inl h.1) (ih h.2)

theorem IsBreak.blanks_append {run : List Char} (hrun : run.all isBlank = true)
    (h : IsBreak cs) : IsBreak (run ++ cs) := by
  induction run with
  | nil => exact h
  | cons c run ih =>
      rw [List.all_cons, Bool.and_eq_true] at hrun
      exact .cons (.inl hrun.1) (ih hrun.2)

/-- A character that a number or a word may go on with. -/
def goesOn (c : Char) : Bool :=
  isWordAscii c || c == '.' || c == '+' || c == '-'

/-- A character that an escape may go on with. -/
def goesOnEscape (c : Char) : Bool :=
  isWordAscii c || c == '\\' || c == '"' || c == '/'

theorem isWordAscii_of_isBlank (h : isBlank c = true) : isWordAscii c = false := by
  rw [Bool.eq_false_iff]
  intro hword
  have hnone := isWord_of_isBlank h
  rw [isWord_of_isWordAscii hword] at hnone
  cases hnone

theorem isWordAscii_of_isAsciiDigit (h : isAsciiDigit c = true) : isWordAscii c = true := by
  rw [isAsciiDigit] at h
  simp [isWordAscii, h]

/-- A break starts outside every class of word characters and marks without blanks. -/
theorem startsOutside_of_marks {p : Char → Bool} (marks : List Char)
    (hp : ∀ c, p c = true → isWordAscii c = true ∨ c ∈ marks)
    (hmarks : marks.any isBlank = false) (hequals : p '=' = false) (h : IsBreak cs) :
    StartsOutside p cs := by
  have hblank {c : Char} (hc : isBlank c = true) : p c = false := by
    rw [Bool.eq_false_iff]
    intro hpc
    rcases hp c hpc with hword | hmark
    · rw [isWordAscii_of_isBlank hc] at hword
      cases hword
    · exact absurd hc (List.any_eq_false.mp hmarks c hmark)
  cases h with
  | nil => exact startsOutside_nil p
  | feed cs => exact startsOutside_cons (hblank rfl)
  | cons hc _ =>
      rcases hc with hc | rfl
      · exact startsOutside_cons (hblank hc)
      · exact startsOutside_cons hequals

theorem IsBreak.startsOutside (h : IsBreak cs) : StartsOutside goesOn cs := by
  refine startsOutside_of_marks ['.', '+', '-'] ?_ rfl rfl h
  simp [goesOn, or_assoc]

theorem IsBreak.startsOutside_escape (h : IsBreak cs) : StartsOutside goesOnEscape cs := by
  refine startsOutside_of_marks ['\\', '"', '/'] ?_ rfl rfl h
  simp [goesOnEscape, or_assoc]

/-! ## Strings -/

/-- One code point or unit as it is written in a string. -/
inductive WritesUnit : List Char → Nat → Prop where
  /-- A character that stands for itself. -/
  | plain (c : Char) (hquote : c ≠ '"') (hbackslash : c ≠ '\\') (hcontrol : ¬ c.toNat < 0x20) :
      WritesUnit [c] c.toNat
  /-- A letter behind a backslash. -/
  | simple {letter : Char} {unit : Nat} (hletter : simpleEscape? letter = some unit) :
      WritesUnit ['\\', letter] unit
  /-- Four hexadecimal digits behind a backslash and the letter u. -/
  | digits {a b c d : Char} {unit : Nat} (hdigits : unitOf? a b c d = some unit) :
      WritesUnit ['\\', 'u', a, b, c, d] unit

/-- A string from behind its opening quote, with its units and what follows its closing quote. -/
inductive WritesUnits : List Char → List Nat → List Char → Prop where
  /-- The closing quote. -/
  | close (rest : List Char) : WritesUnits ('"' :: rest) [] rest
  /-- A unit and those after it. -/
  | unit {front cs rest : List Char} {unit : Nat} {units : List Nat}
      (hfront : WritesUnit front unit) (hmore : WritesUnits cs units rest) :
      WritesUnits (front ++ cs) (unit :: units) rest

/-- What is read as a string is written as one. -/
theorem writesUnits_of_readUnits (h : readUnits start cs = .ok (units, rest)) :
    WritesUnits cs units rest := by
  fun_induction readUnits start cs generalizing units rest with
  | case2 cs =>
      obtain ⟨rfl, rfl⟩ := Prod.mk.inj (Except.ok.inj h)
      exact .close _
  | case6 a b c d e cs unit hunit units' rest' hmore ih =>
      obtain ⟨rfl, rfl⟩ := Prod.mk.inj (Except.ok.inj h)
      exact .unit (.digits hunit) (ih hmore)
  | case10 c cs _ _ unit hunit units' rest' hmore ih =>
      obtain ⟨rfl, rfl⟩ := Prod.mk.inj (Except.ok.inj h)
      exact .unit (.simple hunit) (ih hmore)
  | case13 c cs hquote hend hbackslash hescape hcontrol units' rest' hmore ih =>
      obtain ⟨rfl, rfl⟩ := Prod.mk.inj (Except.ok.inj h)
      have hchar : c ≠ '\\' := by
        intro hc
        cases cs with
        | nil => exact hend hc rfl
        | cons d cs => exact hescape d cs hc rfl
      exact .unit (.plain c hquote hchar hcontrol) (ih hmore)
  | _ => cases h

/-- What is written as a string is read as one. -/
theorem WritesUnits.readUnits (h : WritesUnits cs units rest) (start : List Char) :
    readUnits start cs = .ok (units, rest) := by
  induction h with
  | close rest => rfl
  | unit hfront _ ih =>
      cases hfront with
      | plain c hquote hbackslash hcontrol => exact readUnits_plain hquote hbackslash hcontrol ih
      | simple hletter => exact readUnits_simpleEscape hletter ih
      | digits hdigits => exact readUnits_digits hdigits ih

theorem readUnits_eq_ok_iff :
    readUnits start cs = .ok (units, rest) ↔ WritesUnits cs units rest :=
  ⟨writesUnits_of_readUnits, fun h => h.readUnits start⟩

theorem WritesUnits.append (h : WritesUnits cs units rest) (back : List Char) :
    WritesUnits (cs ++ back) units (rest ++ back) := by
  induction h with
  | close rest => exact .close _
  | unit hfront _ ih =>
      rw [List.append_assoc]
      exact .unit hfront ih

theorem goesOnEscape_of_simpleEscape? {letter : Char} {unit : Nat}
    (h : simpleEscape? letter = some unit) : goesOnEscape letter = true := by
  unfold simpleEscape? at h
  split at h <;> first | rfl | cases h

theorem goesOnEscape_of_hexValue? {n : Nat} (h : hexValue? c = some n) :
    goesOnEscape c = true := by
  have hword : isWordAscii c = true := by
    simp only [isWordAscii, Bool.or_eq_true, Bool.and_eq_true, decide_eq_true_eq]
    unfold hexValue? at h
    split at h
    · rename_i hdigit
      simp only [Bool.and_eq_true, decide_eq_true_eq] at hdigit
      exact .inl (.inr hdigit)
    · split at h
      · rename_i hsmall
        simp only [Bool.and_eq_true, decide_eq_true_eq] at hsmall
        exact .inl (.inl (.inl ⟨hsmall.1, Char.le_trans hsmall.2 (by decide)⟩))
      · split at h
        · rename_i hcapital
          simp only [Bool.and_eq_true, decide_eq_true_eq] at hcapital
          exact .inl (.inl (.inr ⟨hcapital.1, Char.le_trans hcapital.2 (by decide)⟩))
        · cases h
  simp [goesOnEscape, hword]

/-- Only a character that stands for itself is written without an escape. -/
theorem WritesUnit.escape {front : List Char} {unit : Nat} (h : WritesUnit front unit) :
    (∃ c, front = [c]) ∨ ∀ c ∈ front, goesOnEscape c = true := by
  cases h with
  | plain c _ _ _ => exact .inl ⟨c, rfl⟩
  | @simple letter _ hletter =>
      right
      have hgoes := goesOnEscape_of_simpleEscape? hletter
      simp [hgoes, show goesOnEscape '\\' = true from rfl]
  | @digits a b c d _ hdigits =>
      right
      unfold unitOf? at hdigits
      split at hdigits
      · rename_i ha hb hc hd
        simp [goesOnEscape_of_hexValue? ha, goesOnEscape_of_hexValue? hb,
          goesOnEscape_of_hexValue? hc, goesOnEscape_of_hexValue? hd,
          show goesOnEscape '\\' = true from rfl, show goesOnEscape 'u' = true from rfl]
      · cases hdigits

theorem WritesUnit.plain_of_cons {unit : Nat} (h : WritesUnit [c] unit) :
    c ≠ '"' ∧ ¬ c.toNat < 0x20 := by
  cases h with
  | plain _ hquote _ hcontrol => exact ⟨hquote, hcontrol⟩

/-- A unit that reaches into a break is a single character of it. -/
theorem eq_nil_of_append_break (front : List Char) {past : List Char} {unit : Nat}
    (hback : IsBreak (past ++ rest)) (h : WritesUnit (front ++ past) unit) (hne : past ≠ []) :
    front = [] ∧ ∃ c, past = [c] := by
  obtain ⟨c, past, rfl⟩ := List.exists_cons_of_ne_nil hne
  rcases h.escape with ⟨d, hd⟩ | hescape
  · cases front with
    | nil => exact ⟨rfl, d, hd⟩
    | cons f front => simp at hd
  · have hgoes := hescape c (by simp)
    rw [hback.startsOutside_escape c rfl] at hgoes
    cases hgoes

/-- No string ends in a break. -/
theorem IsBreak.not_writesUnits (h : IsBreak cs) : ¬ WritesUnits cs units rest := by
  intro hwrites
  induction hwrites with
  | close rest => exact absurd (h.startsOutside_escape '"' rfl) (by decide)
  | @unit front cs rest unit units hfront hmore ih =>
      have hne : front ≠ [] := by
        rintro rfl
        cases hfront
      obtain ⟨-, c, rfl⟩ := eq_nil_of_append_break [] h hfront hne
      cases h with
      | feed cs => exact hfront.plain_of_cons.2 (by decide)
      | cons hc hcs => exact ih hcs

/-- A string that is read to its end in front of a break does not need what follows. -/
theorem WritesUnits.of_append (hback : IsBreak back) (h : WritesUnits (cs ++ back) units rest) :
    ∃ rest', rest = rest' ++ back ∧ WritesUnits cs units rest' := by
  generalize hwhole : cs ++ back = whole at h
  induction h generalizing cs with
  | close rest =>
      cases cs with
      | nil =>
          subst hwhole
          exact absurd (WritesUnits.close rest) hback.not_writesUnits
      | cons c cs =>
          obtain ⟨rfl, rfl⟩ := List.cons.inj hwhole
          exact ⟨cs, rfl, .close cs⟩
  | @unit front more rest unit units hfront hmore ih =>
      rcases List.append_eq_append_iff.mp hwhole with ⟨past, rfl, hpast⟩ | ⟨middle, rfl, hmiddle⟩
      · cases past with
        | nil =>
            rw [List.nil_append] at hpast
            subst hpast
            exact absurd hmore hback.not_writesUnits
        | cons c past =>
            rw [hpast] at hback
            obtain ⟨rfl, -⟩ := eq_nil_of_append_break cs hback hfront (List.cons_ne_nil c past)
            rw [← hpast] at hback
            have hwrites := WritesUnits.unit hfront hmore
            rw [List.nil_append, ← hpast] at hwrites
            exact absurd hwrites hback.not_writesUnits
      · obtain ⟨rest', rfl, hwrites⟩ := ih hmiddle.symm
        exact ⟨rest', rfl, .unit hfront hwrites⟩

/-! ## Numbers and words -/

/-- A reader of the front of a text takes the same whether a text follows or not. -/
def LeavesOver {α : Type} (read : List Char → α × List Char) (back : List Char) : Prop :=
  ∀ cs, read (cs ++ back) = ((read cs).1, (read cs).2 ++ back)

theorem leavesOver_spanOf {p : Char → Bool} (hback : StartsOutside p back) :
    LeavesOver (spanOf p) back := by
  intro cs
  induction cs with
  | nil =>
      cases back with
      | nil => rfl
      | cons c back => simp [spanOf, hback c rfl]
  | cons c cs ih =>
      obtain ⟨htake, hdrop⟩ := Prod.mk.inj ih
      simp only [spanOf, List.cons_append, List.takeWhile_cons, List.dropWhile_cons]
      split
      · rw [htake, hdrop]; rfl
      · rfl

theorem ne_of_goesOn {mark : Char} (hback : StartsOutside goesOn back)
    (hmark : goesOn mark = true) (more : List Char) : back ≠ mark :: more := by
  rintro rfl
  rw [hback mark rfl] at hmark
  cases hmark

theorem leavesOver_readSign (hback : StartsOutside goesOn back) : LeavesOver readSign back := by
  intro cs
  fun_cases readSign cs with
  | case1 cs => rfl
  | case2 cs => rfl
  | case3 cs hplus hminus =>
      cases cs with
      | nil => exact readSign.eq_3 _ (ne_of_goesOn hback rfl) (ne_of_goesOn hback rfl)
      | cons c cs => exact readSign.eq_3 _ (by simpa using hplus) (by simpa using hminus)

theorem leavesOver_readMinus (hback : StartsOutside goesOn back) : LeavesOver readMinus back := by
  intro cs
  fun_cases readMinus cs with
  | case1 cs => rfl
  | case2 cs hminus =>
      cases cs with
      | nil => exact readMinus.eq_2 _ (ne_of_goesOn hback rfl)
      | cons c cs => exact readMinus.eq_2 _ (by simpa using hminus)

theorem startsOutside_isAsciiDigit (hback : StartsOutside goesOn back) :
    StartsOutside isAsciiDigit back :=
  hback.mono fun c hc => by simp [goesOn, isWordAscii_of_isAsciiDigit hc]

theorem leavesOver_readWhole (hback : StartsOutside goesOn back) : LeavesOver readWhole back := by
  have hspan := leavesOver_spanOf (startsOutside_isAsciiDigit hback)
  intro cs
  fun_cases readWhole cs with
  | case1 cs => rfl
  | case2 cs hzero =>
      rw [← hspan]
      cases cs with
      | nil => exact readWhole.eq_2 _ (ne_of_goesOn hback rfl)
      | cons c cs => exact readWhole.eq_2 _ (by simpa using hzero)

theorem leavesOver_readFraction (hback : StartsOutside goesOn back) :
    LeavesOver Json.readFraction back := by
  have hspan := leavesOver_spanOf (startsOutside_isAsciiDigit hback)
  have hnone {cs : List Char} (hpoint : ∀ more, cs ≠ '.' :: more) :
      Json.readFraction cs = (none, cs) := Json.readFraction.eq_2 cs hpoint
  intro cs
  cases cs with
  | nil => exact hnone (ne_of_goesOn hback rfl)
  | cons c cs =>
      by_cases hpoint : c = '.'
      · subst hpoint
        simp only [List.cons_append, Json.readFraction, hspan cs]
        split <;> rfl
      · rw [hnone (by simpa using hpoint), List.cons_append, hnone (by simpa using hpoint)]
        rfl

theorem leavesOver_readExponent (hback : StartsOutside goesOn back) :
    LeavesOver (readExponent isAsciiDigit) back := by
  have hspan := leavesOver_spanOf (startsOutside_isAsciiDigit hback)
  have hsign := leavesOver_readSign hback
  intro cs
  cases cs with
  | nil =>
      cases back with
      | nil => rfl
      | cons c back =>
          have hletter : (c == 'e' || c == 'E') = false := by
            rw [Bool.or_eq_false_iff, beq_eq_false_iff_ne, beq_eq_false_iff_ne]
            constructor <;> (rintro rfl; exact absurd (hback _ rfl) (by decide))
          rw [List.nil_append, readExponent, hletter]
          rfl
  | cons c cs =>
      simp only [List.cons_append, readExponent, hsign cs, hspan _]
      split
      · split <;> rfl
      · rfl

/-- A number is read the same in front of a text that does not go on with it. -/
theorem readNumber?_append (hback : StartsOutside goesOn back) (cs : List Char) :
    readNumber? (cs ++ back) = (readNumber? cs).map fun (l, rest) => (l, rest ++ back) := by
  simp only [readNumber?, leavesOver_readMinus hback _, leavesOver_readWhole hback _,
    leavesOver_readFraction hback _, leavesOver_readExponent hback _]
  split <;> rfl

theorem afterWord?_append {word : List Char} (hback : StartsOutside goesOn back)
    (hword : word.all goesOn = true) (cs : List Char) :
    afterWord? word (cs ++ back) = (afterWord? word cs).map (· ++ back) := by
  fun_induction afterWord? word cs with
  | case1 cs => rfl
  | case2 w ws cs ih =>
      rw [List.all_cons, Bool.and_eq_true] at hword
      rw [List.cons_append, afterWord?, if_pos rfl, ih hword.2]
  | case3 w ws c cs hne =>
      rw [List.cons_append, afterWord?, if_neg hne]
      rfl
  | case4 w ws =>
      rw [List.all_cons, Bool.and_eq_true] at hword
      cases back with
      | nil => rfl
      | cons c back =>
          have hne : w ≠ c := by
            rintro rfl
            rw [hback w rfl] at hword
            exact absurd hword.1 Bool.false_ne_true
          rw [List.nil_append, afterWord?, if_neg hne]
          rfl

theorem readWord?_append {list : List (List Char × Token)} (hback : StartsOutside goesOn back)
    (hlist : list.all (fun entry => entry.1.all goesOn) = true) (cs : List Char) :
    readWord? (cs ++ back) list = (readWord? cs list).map fun (t, rest) => (t, rest ++ back) := by
  induction list with
  | nil => rfl
  | cons entry others ih =>
      obtain ⟨word, token⟩ := entry
      rw [List.all_cons, Bool.and_eq_true] at hlist
      have hword := afterWord?_append hback hlist.1 cs
      have hothers := ih hlist.2
      cases hfound : afterWord? word cs with
      | some rest =>
          rw [hfound] at hword
          simp only [readWord?, hword, hfound]
          rfl
      | none =>
          rw [hfound] at hword
          simp only [readWord?, hword, hfound]
          exact hothers

/-! ## Tokens -/

/-- A token that a strict reader refuses wherever it stands. -/
def Token.isRefused : Token → Bool
  | .constant _ => true
  | .badText _ _ => true
  | .unknown => true
  | _ => false

/-- The characters that are tokens, and the quote. -/
def marks : List Char :=
  ['[', ']', '\x7b', '\x7d', ',', ':', '"']

/-- What is no mark is read as a number or a word. -/
theorem readToken_of_not_mem (h : c ∉ marks) (cs : List Char) :
    readToken c cs =
      match readNumber? (c :: cs) with
      | some (literal, rest) => (.number literal, rest)
      | none =>
          match readWord? (c :: cs) words with
          | some (token, rest) => (token, rest)
          | none => (.unknown, []) := by
  simp only [marks, List.mem_cons, List.not_mem_nil, or_false, not_or] at h
  obtain ⟨hopen, hclose, hopen', hclose', hcomma, hcolon, hquote⟩ := h
  exact readToken.eq_8 c cs hopen hclose hopen' hclose' hcomma hcolon hquote

/-- A token is read the same in front of a break, or refused with it and without it. -/
theorem readToken_append (hback : IsBreak back) (c : Char) (cs : List Char) :
    readToken c (cs ++ back) = ((readToken c cs).1, (readToken c cs).2 ++ back) ∨
      (readToken c (cs ++ back)).1.isRefused = true ∧ (readToken c cs).1.isRefused = true := by
  have hgoes := hback.startsOutside
  by_cases hmark : c ∈ marks
  · simp only [marks, List.mem_cons, List.not_mem_nil, or_false] at hmark
    rcases hmark with rfl | rfl | rfl | rfl | rfl | rfl | rfl
    · exact .inl rfl
    · exact .inl rfl
    · exact .inl rfl
    · exact .inl rfl
    · exact .inl rfl
    · exact .inl rfl
    · simp only [readToken]
      cases hlonger : readUnits ('"' :: (cs ++ back)) (cs ++ back) with
      | ok read =>
          obtain ⟨units, rest⟩ := read
          obtain ⟨rest', rfl, hwrites⟩ :=
            (readUnits_eq_ok_iff.mp hlonger).of_append hback
          left
          simp only [hwrites.readUnits ('"' :: cs)]
      | error fault =>
          right
          cases hshorter : readUnits ('"' :: cs) cs with
          | ok read =>
              have hwrites := (readUnits_eq_ok_iff.mp hshorter).append back
              rw [hwrites.readUnits] at hlonger
              cases hlonger
          | error fault' => exact ⟨rfl, rfl⟩
  · rw [readToken_of_not_mem hmark, readToken_of_not_mem hmark, ← List.cons_append,
      readNumber?_append hgoes, readWord?_append hgoes (by decide)]
    cases readNumber? (c :: cs) with
    | some read => exact .inl rfl
    | none =>
        cases readWord? (c :: cs) words with
        | some read => exact .inl rfl
        | none => exact .inr ⟨rfl, rfl⟩

/-! ## Reading on -/

section Reading

variable {state state' : State} {t t' : PlacedToken} {ts : List PlacedToken} {value : Value}

/-- The state after some tokens in a strict reading, unless one of them is refused. -/
def State.after? : State → List PlacedToken → Option State
  | state, [] => some state
  | state, t :: ts => (step true state t).toOption.bind fun state' => state'.after? ts

/-- A text is accepted when no token is refused and the value is complete at its end. -/
theorem run_eq_ok_iff :
    run true state ts = .ok value ↔
      ∃ state', state.after? ts = some state' ∧ state'.close = .ok value := by
  induction ts generalizing state with
  | nil => simp [run, State.after?]
  | cons t ts ih =>
      rw [run, State.after?]
      cases step true state t with
      | error stop => simp [Except.toOption]
      | ok state' => exact ih

/-- Where a token stands matters only when it is refused. -/
theorem toOption_step_congr {strict : Bool} (h : t.token = t'.token) :
    (step strict state t).toOption = (step strict state t').toOption := by
  obtain ⟨token, place⟩ := t
  obtain ⟨token', place'⟩ := t'
  subst h
  cases state with
  | fieldName first done stack => cases token <;> cases first <;> rfl
  | _ => cases token <;> rfl

theorem toOption_step_of_isRefused (h : t.token.isRefused = true) :
    (step true state t).toOption = none := by
  obtain ⟨token, place⟩ := t
  cases token with
  | constant constant => cases state <;> rfl
  | badText problem place => cases state <;> rfl
  | unknown => cases state <;> rfl
  | _ => cases h

/-- A text in front of a break is read first, and then the break as if the text started there. -/
theorem after?_tokens_append (hback : IsBreak back) (cs : List Char) (state : State) :
    state.after? (tokens (cs ++ back)) =
      (state.after? (tokens cs)).bind fun state' => state'.after? (tokens back) := by
  -- along the tokens: a token that is refused with the break is refused without it
  induction cs using tokens.induct generalizing state with
  | case1 => simp [tokens, State.after?]
  | case2 c cs hspace ih =>
      rw [List.cons_append, tokens, if_pos hspace, tokens, if_pos hspace]
      exact ih state
  | case3 c cs hspace ih =>
      have hc : isSpace c = false := Bool.eq_false_iff.mpr hspace
      rw [List.cons_append, tokens_cons hc, tokens_cons hc, State.after?, State.after?]
      rcases readToken_append hback c cs with hsame | ⟨hlonger, hshorter⟩
      · have hstep : (step true state ⟨(readToken c cs).1, c :: (cs ++ back)⟩).toOption =
            (step true state ⟨(readToken c cs).1, c :: cs⟩).toOption := toOption_step_congr rfl
        rw [hsame, Option.bind_assoc, hstep]
        exact congrArg (Option.bind _) (funext fun state' => ih state')
      · rw [toOption_step_of_isRefused hlonger, toOption_step_of_isRefused hshorter]
        rfl

/-! ## What a text may start with -/

/-- A character other than a digit that a token may start with that is not refused everywhere. -/
def starters : List Char :=
  marks ++ ['-', 'n', 't', 'f']

/-- A character that a token may start with that is not refused everywhere. -/
def startsToken (c : Char) : Bool :=
  isAsciiDigit c || starters.contains c

theorem isRefused_readToken (h : startsToken c = false) (cs : List Char) :
    (readToken c cs).1.isRefused = true := by
  obtain ⟨hdigit, hstarter⟩ := Bool.or_eq_false_iff.mp h
  have hc : c ∉ starters := by simpa using hstarter
  rw [starters, List.mem_append, not_or] at hc
  obtain ⟨hmark, hletter⟩ := hc
  simp only [List.mem_cons, List.not_mem_nil, or_false, not_or] at hletter
  obtain ⟨hminus, hn, ht, hf⟩ := hletter
  have hnumber : readNumber? (c :: cs) = none := by
    have hread : readMinus (c :: cs) = (false, c :: cs) := readMinus.eq_2 _ (by simpa using hminus)
    have hzero : ∀ more, c :: cs ≠ '0' :: more := by
      rintro more heq
      obtain ⟨rfl, -⟩ := List.cons.inj heq
      cases hdigit
    have hwhole : readWhole (c :: cs) = ([], c :: cs) := by
      rw [readWhole.eq_2 _ hzero]
      simp [spanOf, hdigit]
    simp only [readNumber?, hread, hwhole]
    rfl
  have hnull : afterWord? "null".toList (c :: cs) = none := if_neg (Ne.symm hn)
  have htrue : afterWord? "true".toList (c :: cs) = none := if_neg (Ne.symm ht)
  have hfalse : afterWord? "false".toList (c :: cs) = none := if_neg (Ne.symm hf)
  have hnegative : afterWord? "-Infinity".toList (c :: cs) = none := if_neg (Ne.symm hminus)
  rw [readToken_of_not_mem hmark, hnumber]
  simp only [words, readWord?, hnull, htrue, hfalse, hnegative]
  cases afterWord? "NaN".toList (c :: cs) with
  | some rest => rfl
  | none =>
      cases afterWord? "Infinity".toList (c :: cs) with
      | some rest => rfl
      | none => rfl

theorem startsToken_of_isBlank (h : isBlank c = true) : startsToken c = false := by
  rw [Bool.eq_false_iff]
  intro hstarts
  rcases (Bool.or_eq_true _ _).mp hstarts with hdigit | hstarter
  · have hword := isWordAscii_of_isAsciiDigit hdigit
    rw [isWordAscii_of_isBlank h] at hword
    cases hword
  · have hnone : starters.any isBlank = false := rfl
    exact List.any_eq_false.mp hnone c (List.contains_iff_mem.mp hstarter) h

/-- No token starts with the letter that one of the words of a clause starts with. -/
theorem foldLetter_of_startsToken (h : startsToken c = true) :
    foldLetter c ≠ 'w' ∧ foldLetter c ≠ 'i' := by
  have hall : ∀ n : Fin 0x80, startsToken (Char.ofNat n) = true →
      foldLetter (Char.ofNat n) ≠ 'w' ∧ foldLetter (Char.ofNat n) ≠ 'i' := by decide
  have hascii : c.toNat < 0x80 := by
    rcases (Bool.or_eq_true _ _).mp h with hdigit | hstarter
    · exact lt_of_isWordAscii (isWordAscii_of_isAsciiDigit hdigit)
    · have hsmall : starters.all (fun d => d.toNat < 0x80) = true := rfl
      exact of_decide_eq_true (List.all_eq_true.mp hsmall c (List.contains_iff_mem.mp hstarter))
  have hchar := hall ⟨c.toNat, hascii⟩
  rw [Char.ofNat_toNat] at hchar
  exact hchar h

/-- A character that starts no token is refused. -/
theorem after?_cons (hc : startsToken c = false) (hspace : isSpace c = false) (cs : List Char) :
    state.after? (tokens (c :: cs)) = none := by
  rw [tokens_cons hspace, State.after?, toOption_step_of_isRefused (isRefused_readToken hc cs)]
  rfl

/-- A character that starts no token is refused after any white space. -/
theorem after?_blanks_append {run : List Char} (hrun : run.all isBlank = true)
    (hc : startsToken c = false) (hspace : isSpace c = false) (cs : List Char) :
    state.after? (tokens (run ++ c :: cs)) = none := by
  induction run with
  | nil => exact after?_cons hc hspace cs
  | cons d run ih =>
      rw [List.all_cons, Bool.and_eq_true] at hrun
      cases hd : isSpace d with
      | true =>
          rw [List.cons_append, tokens, if_pos hd]
          exact ih hrun.2
      | false => exact after?_cons (startsToken_of_isBlank hrun.1) hd _

theorem all_isBlank_of_all_isSpace (h : cs.all isSpace = true) : cs.all isBlank = true :=
  List.all_eq_true.mpr fun c hc => isBlank_of_isSpace (List.all_eq_true.mp h c hc)

/-- Blanks in front of what is accepted are white space of JSON. -/
theorem all_isSpace_of_append {run : List Char} (hrun : run.all isBlank = true)
    (h : state.after? (tokens (run ++ cs)) ≠ none) : run.all isSpace = true := by
  induction run with
  | nil => rfl
  | cons c run ih =>
      rw [List.all_cons, Bool.and_eq_true] at hrun
      cases hc : isSpace c with
      | true =>
          rw [List.cons_append, tokens, if_pos hc] at h
          rw [List.all_cons, hc, ih hrun.2 h]
          rfl
      | false =>
          exact absurd (after?_cons (startsToken_of_isBlank hrun.1) hc (run ++ cs)) h

theorem tokens_of_all {spaces : List Char} (h : spaces.all isSpace = true) :
    tokens spaces = [] := by
  have happend := tokens_append_spaces h []
  rwa [List.append_nil, tokens] at happend

/-- White space behind a text does not matter. -/
theorem after?_tokens_append_spaces {spaces : List Char} (h : spaces.all isSpace = true)
    (cs : List Char) : state.after? (tokens (cs ++ spaces)) = state.after? (tokens cs) := by
  rw [after?_tokens_append (isBreak_of_all (all_isBlank_of_all_isSpace h)), tokens_of_all h]
  cases state.after? (tokens cs) <;> rfl

/-! ## Whole texts -/

theorem readChars_eq_ok_iff :
    readChars true cs = .ok value ↔
      ∃ state', (State.value []).after? (tokens cs) = some state' ∧ state'.close = .ok value := by
  rw [← run_eq_ok_iff]
  refine ⟨fun h => ?_, readChars_of_run⟩
  unfold readChars at h
  split at h
  · split at h
    · cases h
    · exact h
  · rwa [tokens]

/-- A text is not accepted when nothing goes on with what stands behind a break in it. -/
theorem readChars_ne_ok (hback : IsBreak back)
    (hnone : ∀ state : State, state.after? (tokens back) = none) (cs : List Char) :
    readChars true (cs ++ back) ≠ .ok value := by
  intro h
  obtain ⟨state', hafter, -⟩ := readChars_eq_ok_iff.mp h
  rw [after?_tokens_append hback] at hafter
  obtain ⟨state, -, hrest⟩ := Option.bind_eq_some_iff.mp hafter
  rw [hnone] at hrest
  cases hrest

/-- Behind a line feed and white space a token starts. -/
theorem readChars_feed_ne_ok {run : List Char} (hrun : run.all isBlank = true)
    (hc : startsToken c = false) (hspace : isSpace c = false) (front cs : List Char) :
    readChars true (front ++ '\n' :: (run ++ c :: cs)) ≠ .ok value := by
  have hblanks : ('\n' :: run).all isBlank = true := hrun
  exact readChars_ne_ok (.feed _) (fun _ => after?_blanks_append hblanks hc hspace cs) front

/-- No equals sign stands before a line feed with nothing but white space between. -/
theorem readChars_equals_ne_ok {run : List Char} (hrun : run.all isBlank = true)
    (front cs : List Char) : readChars true (front ++ '=' :: (run ++ '\n' :: cs)) ≠ .ok value :=
  readChars_ne_ok (.cons (.inr rfl) (IsBreak.blanks_append hrun (.feed cs)))
    (fun _ => after?_cons rfl rfl (run ++ '\n' :: cs)) front

/-- A text that is accepted is one between white space of JSON, and any such white space may stand
behind it. -/
theorem exists_of_readChars (h : readChars true cs = .ok value) :
    IsTrimmed (trim cs) ∧ ∃ before after, before.all isSpace = true ∧ after.all isSpace = true ∧
      cs = before ++ (trim cs ++ after) ∧
      ∀ spaces, spaces.all isSpace = true → readChars true (trim cs ++ spaces) = .ok value := by
  obtain ⟨state', hafter, hclose⟩ := readChars_eq_ok_iff.mp h
  have hne : trim cs ≠ [] := by
    intro hnil
    have hspaces : cs.all isSpace = true := by
      have hpasses : (State.value []).after? (tokens (cs ++ [])) ≠ none := by
        rw [List.append_nil, hafter]
        exact Option.some_ne_none _
      exact all_isSpace_of_append (all_isBlank_of_trim hnil) hpasses
    rw [tokens_of_all hspaces] at hafter
    obtain rfl := Option.some.inj hafter
    cases hclose
  obtain ⟨htrimmed, before, after, hbefore, hback, hsplit⟩ := exists_of_trim hne
  rw [hsplit] at hafter
  have hbefore' := all_isSpace_of_append hbefore (by rw [hafter]; exact Option.some_ne_none _)
  rw [tokens_append_spaces hbefore'] at hafter
  have hback' : after.all isSpace = true := by
    have hbreak := hafter
    rw [after?_tokens_append (isBreak_of_all hback)] at hbreak
    obtain ⟨state, -, hrest⟩ := Option.bind_eq_some_iff.mp hbreak
    rw [← List.append_nil after] at hrest
    exact all_isSpace_of_append hback (by rw [hrest]; exact Option.some_ne_none _)
  refine ⟨htrimmed, before, after, hbefore', hback', hsplit, fun spaces hspaces => ?_⟩
  rw [readChars_eq_ok_iff, after?_tokens_append_spaces hspaces,
    ← after?_tokens_append_spaces hback']
  exact ⟨state', hafter, hclose⟩

end Reading

end DocConsole.Json
