import DocConsole.Text.Blank
import DocConsole.Text.Letter

/-!
# Recognisers

The pieces from which the statement shapes are put together.  A recogniser reads the front of the
characters and hands the rest to the one that follows; a repetition first tries its longest run
and falls back to shorter ones only when what follows does not fit.  Main statements: a run that
was found is a non-empty stretch of the class, and what follows it was accepted by the next
recogniser.
-/

set_option autoImplicit false

namespace DocConsole.Text

variable {β : Type}

/-! ## Repetition -/

/-- One or more characters of a class, as many as possible such that `next` accepts the rest.
Gives the run and the answer of `next`. -/
def longestRun (p : Char → Bool) (next : List Char → Option β) :
    List Char → Option (List Char × β)
  | [] => none
  | c :: cs =>
      if p c then
        match longestRun p next cs with
        | some (run, b) => some (c :: run, b)
        | none => (next cs).map (fun b => ([c], b))
      else none

/-- One or more blanks. -/
def someBlanks (next : List Char → Option β) (cs : List Char) : Option β :=
  (longestRun isBlank next cs).map (·.2)

/-- Any number of blanks. -/
def anyBlanks (next : List Char → Option β) (cs : List Char) : Option β :=
  match someBlanks next cs with
  | some b => some b
  | none => next cs

/-! ## Fixed words -/

/-- A word without regard to case; the word is given in lower case. -/
def keyword : List Char → (List Char → Option β) → List Char → Option β
  | [], next, cs => next cs
  | w :: ws, next, c :: cs => if foldLetter c == w then keyword ws next cs else none
  | _ :: _, _, [] => none

/-- The rest of a text, when it is not empty and holds no line feed. -/
def restOfLine (cs : List Char) : Option (List Char) :=
  if cs.isEmpty || cs.contains '\n' then none else some cs

/-- Whether a phrase stands somewhere in a text. -/
def occursIn (phrase : List Char) : List Char → Bool
  | [] => phrase.isEmpty
  | c :: cs => phrase.isPrefixOf (c :: cs) || occursIn phrase cs

/-! ## What was recognised -/

theorem longestRun_some {p : Char → Bool} {next : List Char → Option β} {cs run : List Char}
    {b : β} (h : longestRun p next cs = some (run, b)) :
    ∃ rest, cs = run ++ rest ∧ run ≠ [] ∧ run.all p = true ∧ next rest = some b := by
  induction cs generalizing run b with
  | nil => simp [longestRun] at h
  | cons c cs ih =>
    unfold longestRun at h
    split at h
    · rename_i hc
      split at h
      · rename_i shorter b' hfound
        obtain ⟨rest, rfl, _, hall, haccepted⟩ := ih hfound
        simp only [Option.some.injEq, Prod.mk.injEq] at h
        obtain ⟨rfl, rfl⟩ := h
        exact ⟨rest, rfl, by simp, by simp [hc, hall], haccepted⟩
      · simp only [Option.map_eq_some_iff, Prod.mk.injEq] at h
        obtain ⟨b', haccepted, rfl, rfl⟩ := h
        exact ⟨cs, rfl, by simp, by simp [hc], haccepted⟩
    · simp at h

theorem longestRun_none {p : Char → Bool} {next : List Char → Option β} {cs : List Char}
    (h : longestRun p next cs = none) {run rest : List Char} (hsplit : cs = run ++ rest)
    (hnonempty : run ≠ []) (hall : run.all p = true) : next rest = none := by
  induction cs generalizing run with
  | nil => simp_all
  | cons c cs ih =>
    obtain ⟨r, run, rfl⟩ := List.exists_cons_of_ne_nil hnonempty
    simp only [List.cons_append, List.cons.injEq] at hsplit
    obtain ⟨rfl, rfl⟩ := hsplit
    simp only [List.all_cons, Bool.and_eq_true] at hall
    rw [longestRun, if_pos hall.1] at h
    split at h
    · simp at h
    · rename_i hshorter
      cases run with
      | nil => simpa using h
      | cons r' run => exact ih hshorter rfl (by simp) hall.2

theorem restOfLine_eq_some_iff {cs line : List Char} :
    restOfLine cs = some line ↔ line = cs ∧ cs ≠ [] ∧ '\n' ∉ cs := by
  unfold restOfLine
  split
  · rename_i h
    simp only [Bool.or_eq_true, List.isEmpty_iff, List.contains_iff_mem] at h
    constructor
    · simp
    · rintro ⟨_, hnonempty, hfree⟩
      rcases h with h | h
      · exact absurd h hnonempty
      · exact absurd h hfree
  · rename_i h
    simp only [Bool.or_eq_true, List.isEmpty_iff, List.contains_iff_mem, not_or] at h
    simp only [Option.some.injEq]
    constructor
    · rintro rfl
      exact ⟨rfl, h.1, h.2⟩
    · rintro ⟨rfl, _, _⟩
      rfl

end DocConsole.Text
