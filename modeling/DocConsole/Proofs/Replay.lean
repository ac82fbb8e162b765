import DocConsole.Proofs.Paging

/-!
# Pages that are entered again

Between two resets a stack is turned on and back any number of times.  The cursors that the pages
report may change from visit to visit, but a stack keeps the one with which a page was first
entered.  The cursor at index `n` belongs to page `n + 1`, so the calls made so far determine the
recorded cursors: each is the one passed by the first call that entered its page.  Main statement:
every page is entered with this cursor, from either side, and the first page with none.
-/

set_option autoImplicit false

namespace DocConsole

namespace CursorStack

/-! ## Turns -/

/-- What a stack is asked to do. -/
inductive Turn where
  /-- On to the next page, with the cursor that the current one reported. -/
  | advance (reported : Option Value)
  /-- Back to the previous page. -/
  | retreat
  deriving DecidableEq

/-- A turn carried out. -/
def turn (stack : CursorStack) : Turn → Except Fault (Option Value × CursorStack)
  | .advance reported => stack.advance reported
  | .retreat => stack.retreat

/-- What a turn does to a sound stack, with the cursor that it gives. -/
inductive Turns (stack : CursorStack) : Turn → Option Value → CursorStack → Prop
  /-- Nothing, after a page that reported no cursor. -/
  | atEnd : Turns stack (.advance none) none stack
  /-- The next page was visited before and is entered with its recorded cursor. -/
  | onAgain (reported : Value) (cursor : Option Value)
      (hcursor : stack.cursors[stack.page.toNat]? = some cursor) :
      Turns stack (.advance (some reported)) cursor { stack with page := stack.page + 1 }
  /-- The next page is entered for the first time, with the reported cursor. -/
  | onFirst (reported : Value) (hlast : stack.page = stack.cursors.length) :
      Turns stack (.advance (some reported)) (some reported)
        ⟨stack.cursors ++ [some reported], stack.page + 1⟩
  /-- Nothing, on the first page. -/
  | atStart (hfirst : stack.page = 1) : Turns stack .retreat none stack
  /-- The previous page is entered with its recorded cursor. -/
  | back (cursor : Option Value) (hlater : 1 < stack.page)
      (hcursor : stack.cursors[(stack.page - 2).toNat]? = some cursor) :
      Turns stack .retreat cursor { stack with page := stack.page - 1 }

/-- The move to a visited page changes nothing but the page. -/
theorem commit_of_records {stack : CursorStack} {move : PageMove} (h : stack.Records move) :
    stack.commit move = .ok { stack with page := move.page } := by
  obtain ⟨hone, hcursor⟩ := h
  obtain ⟨hindex, -⟩ := List.getElem?_eq_some_iff.mp hcursor
  have hvisited : ¬ move.page - 1 = stack.cursors.length := by omega
  have hnear : ¬ (stack.cursors.length : Int) < move.page - 1 := by omega
  simp only [CursorStack.commit, if_neg hvisited, if_neg hnear]

/-- The move to the page behind the last visited one records its cursor. -/
theorem commit_of_last {stack : CursorStack} {move : PageMove}
    (h : move.page = stack.cursors.length + 1) :
    stack.commit move = .ok ⟨stack.cursors ++ [move.cursor], move.page⟩ := by
  have hnext : move.page - 1 = stack.cursors.length := by omega
  simp only [CursorStack.commit, if_pos hnext]

/-- A turn of a sound stack never fails, and leaves it sound. -/
theorem Sound.turn {stack : CursorStack} (h : stack.Sound) (turn : Turn) :
    ∃ returned after, stack.turn turn = .ok (returned, after) ∧ after.Sound ∧
      Turns stack turn returned after := by
  cases turn with
  | advance reported =>
      obtain ⟨planned, hplan, hmove⟩ := h.planAdvance reported
      cases planned with
      | none =>
          obtain rfl := planAdvance_eq_none_iff.mp hplan
          exact ⟨none, stack, rfl, h, .atEnd⟩
      | some move =>
          have hpage := page_of_planAdvance hplan
          obtain ⟨after, hcommit, hsound⟩ := h.commit (h.admits_planned (.inr ⟨reported, hplan⟩))
          refine ⟨move.cursor, after, ?_, hsound, ?_⟩
          · rw [CursorStack.turn, advance, hplan, carryOut, hcommit]
          · obtain ⟨cursor, rfl⟩ : ∃ cursor, reported = some cursor := by
              cases reported with
              | none => cases hplan
              | some cursor => exact ⟨cursor, rfl⟩
            rcases hmove move rfl with hrecords | ⟨hlast, -, hcursor, -⟩
            · rw [commit_of_records hrecords, hpage] at hcommit
              obtain rfl := Except.ok.inj hcommit
              refine .onAgain cursor move.cursor ?_
              rw [← hrecords.2, hpage, Int.add_sub_cancel]
            · rw [commit_of_last (by omega), hpage, hcursor] at hcommit
              obtain rfl := Except.ok.inj hcommit
              rw [hcursor]
              exact .onFirst cursor hlast
  | retreat =>
      have hone := h.one_le_page
      have hlast := h.page_le_length
      by_cases hlater : 1 < stack.page
      · obtain ⟨move, hplan, hpage, hrecords⟩ :=
          stack.recordedMove_eq_ok (stack.page - 1) (by omega) (by omega)
        obtain ⟨after, hcommit, hsound⟩ := h.commit (h.admits_of_records hrecords)
        have hnot : ¬ stack.page ≤ 1 := by omega
        refine ⟨move.cursor, after, ?_, hsound, ?_⟩
        · rw [CursorStack.turn, retreat, CursorStack.planRetreat, if_neg hnot, hplan, carryOut,
            hcommit]
        · rw [commit_of_records hrecords, hpage] at hcommit
          obtain rfl := Except.ok.inj hcommit
          refine .back move.cursor hlater ?_
          rw [← hrecords.2, hpage, Int.sub_sub]
          rfl
      · have hfirst : stack.page = 1 := by omega
        refine ⟨none, stack, ?_, h, .atStart hfirst⟩
        rw [CursorStack.turn, retreat, CursorStack.planRetreat, if_pos (by omega), carryOut]

/-! ## Walks -/

/-- A turn that was made, with the stack before and after it and the cursor that it gave. -/
structure Passage where
  /-- The turn. -/
  turn : Turn
  /-- The stack before it. -/
  before : CursorStack
  /-- The cursor that was given back. -/
  returned : Option Value
  /-- The stack after it. -/
  after : CursorStack

namespace Passage

/-- The turn goes on: a cursor was reported. -/
def advances (p : Passage) : Bool :=
  match p.turn with
  | .advance reported => reported.isSome
  | .retreat => false

/-- The turn goes back: there is a page before the current one. -/
def retreats (p : Passage) : Bool :=
  match p.turn with
  | .advance _ => false
  | .retreat => p.before.canRetreat

/-- The turn has an effect and leads to the page. -/
def enters (p : Passage) (page : Int) : Bool :=
  (p.advances || p.retreats) && decide (p.after.page = page)

end Passage

/-- Turns carried out one after the other. -/
def walk (stack : CursorStack) : List Turn → Except Fault (List Passage)
  | [] => .ok []
  | turn :: rest =>
      match stack.turn turn with
      | .error fault => .error fault
      | .ok (returned, after) =>
          match walk after rest with
          | .error fault => .error fault
          | .ok passages => .ok (⟨turn, stack, returned, after⟩ :: passages)

/-- A walk with a first passage starts with its turn and goes on from where it leads. -/
theorem walk_eq_cons {stack : CursorStack} {turns : List Turn} {p : Passage}
    {rest : List Passage} (h : stack.walk turns = .ok (p :: rest)) :
    p.before = stack ∧ ∃ turns', turns = p.turn :: turns' ∧
      stack.turn p.turn = .ok (p.returned, p.after) ∧ p.after.walk turns' = .ok rest := by
  cases turns with
  | nil => cases h
  | cons turn turns' =>
      rw [walk] at h
      split at h
      · cases h
      · rename_i returned after hturn
        split at h
        · cases h
        · rename_i passages hwalk
          obtain ⟨rfl, rfl⟩ := List.cons.inj (Except.ok.inj h)
          exact ⟨rfl, turns', rfl, hturn, hwalk⟩

/-- A walk of a sound stack never fails. -/
theorem Sound.walk {stack : CursorStack} (h : stack.Sound) (turns : List Turn) :
    ∃ passages, stack.walk turns = .ok passages ∧ passages.map (·.turn) = turns := by
  induction turns generalizing stack with
  | nil => exact ⟨[], rfl, rfl⟩
  | cons turn rest ih =>
      obtain ⟨returned, after, hturn, hafter, -⟩ := h.turn turn
      obtain ⟨passages, hwalk, hturns⟩ := ih hafter
      refine ⟨⟨turn, stack, returned, after⟩ :: passages, ?_, by rw [List.map_cons, hturns]⟩
      simp only [CursorStack.walk, hturn, hwalk]

/-! ## What a stack recalls -/

/-- What the turns made so far tell of a stack: its page is their balance, and each recorded cursor
of a later page was passed by the first turn that entered this page. -/
structure Recalls (stack : CursorStack) (past : List Passage) : Prop where
  sound : stack.Sound
  page : stack.page = 1 + past.countP (·.advances) - past.countP (·.retreats)
  recorded : ∀ (index : Nat) (cursor : Option Value), stack.cursors[index + 1]? = some cursor →
    ∃ first, past.find? (·.enters (index + 2)) = some first ∧ first.turn = .advance cursor
  unvisited : ∀ page : Int, stack.cursors.length < page → past.find? (·.enters page) = none

theorem recalls_initial : initial.Recalls [] :=
  ⟨sound_initial, rfl, fun _ _ hcursor => by simp [initial] at hcursor, fun _ _ => rfl⟩

section Turns

variable {stack after : CursorStack} {turn : Turn} {returned : Option Value}

/-- A turn goes one page on, one page back, or nowhere. -/
theorem Turns.page_eq (h : Turns stack turn returned after) :
    after.page = stack.page +
      [(⟨turn, stack, returned, after⟩ : Passage)].countP (·.advances) -
      [(⟨turn, stack, returned, after⟩ : Passage)].countP (·.retreats) := by
  cases h with
  | atEnd => simp [Passage.advances, Passage.retreats]
  | onAgain reported cursor hcursor => simp [Passage.advances, Passage.retreats]
  | onFirst reported hlast => simp [Passage.advances, Passage.retreats]
  | atStart hfirst => simp [Passage.advances, Passage.retreats, canRetreat, hfirst]
  | back cursor hlater hcursor => simp [Passage.advances, Passage.retreats, canRetreat, hlater]

/-- A page is entered with the cursor that is recorded for it then. -/
theorem Turns.recorded (h : Turns stack turn returned after) {page : Int}
    (henters : Passage.enters ⟨turn, stack, returned, after⟩ page = true) :
    after.page = page ∧ after.cursors[(page - 1).toNat]? = some returned := by
  rw [Passage.enters, Bool.and_eq_true, decide_eq_true_eq] at henters
  obtain ⟨heffect, rfl⟩ := henters
  refine ⟨rfl, ?_⟩
  cases h with
  | atEnd => cases heffect
  | onAgain reported cursor hcursor => rwa [Int.add_sub_cancel]
  | onFirst reported hlast =>
      rw [Int.add_sub_cancel, hlast, Int.toNat_natCast]
      exact List.getElem?_concat_length
  | atStart hfirst =>
      simp [Passage.advances, Passage.retreats, canRetreat, hfirst] at heffect
  | back cursor hlater hcursor => rwa [Int.sub_sub]

/-- Recorded cursors stay in place under a turn. -/
theorem Turns.prefix_cursors (h : Turns stack turn returned after) :
    stack.cursors <+: after.cursors := by
  cases h with
  | onFirst reported hlast => exact List.prefix_append _ _
  | _ => exact List.prefix_refl _

/-- On and back again leads to the page where it started, and nothing is recorded on the way
back. -/
theorem Turns.page_of_retreat {again : CursorStack} {returned' : Option Value}
    (h : Turns stack turn returned after) (hsound : stack.Sound)
    (hon : Passage.advances ⟨turn, stack, returned, after⟩ = true)
    (hback : Turns after .retreat returned' again) :
    again.page = stack.page ∧ again.cursors = after.cursors := by
  have hone := hsound.one_le_page
  have hnext : after.page = stack.page + 1 := by
    cases h with
    | onAgain reported cursor hcursor => rfl
    | onFirst reported hlast => rfl
    | atEnd => cases hon
    | atStart hfirst => cases hon
    | back cursor hlater hcursor => cases hon
  cases hback with
  | atStart hfirst => omega
  | back cursor hlater hcursor =>
      refine ⟨?_, rfl⟩
      show after.page - 1 = stack.page
      omega

/-- One more turn is recalled with those before it. -/
theorem Recalls.concat {past : List Passage} (h : stack.Recalls past) (hafter : after.Sound)
    (hturns : Turns stack turn returned after) :
    after.Recalls (past ++ [⟨turn, stack, returned, after⟩]) := by
  have hkept : ∀ (index : Nat) (cursor : Option Value), stack.cursors[index + 1]? = some cursor →
      ∃ first, (past ++ [(⟨turn, stack, returned, after⟩ : Passage)]).find?
        (·.enters (index + 2)) = some first ∧ first.turn = .advance cursor := by
    intro index cursor hcursor
    obtain ⟨first, hfirst, hturn⟩ := h.recorded index cursor hcursor
    exact ⟨first, by rw [List.find?_append, hfirst, Option.some_or], hturn⟩
  refine ⟨hafter, ?_, ?_, ?_⟩
  · rw [List.countP_append, List.countP_append, hturns.page_eq, h.page]
    omega
  · intro index cursor hcursor
    cases hturns with
    | onFirst reported hlast =>
        by_cases hold : index + 1 < stack.cursors.length
        · rw [List.getElem?_append_left hold] at hcursor
          exact hkept index cursor hcursor
        · -- Only the new page has a cursor that was not recorded before.
          obtain ⟨hlength, -⟩ := List.getElem?_eq_some_iff.mp hcursor
          rw [List.length_append, List.length_singleton] at hlength
          have hnew : index + 1 = stack.cursors.length := by omega
          rw [hnew, List.getElem?_concat_length] at hcursor
          obtain rfl := Option.some.inj hcursor
          have hpage : stack.page + 1 = index + 2 := by omega
          refine ⟨⟨.advance (some reported), stack, some reported,
            ⟨stack.cursors ++ [some reported], stack.page + 1⟩⟩, ?_, rfl⟩
          rw [List.find?_append, h.unvisited _ (by omega), Option.none_or, List.find?_singleton,
            if_pos]
          simp [Passage.enters, Passage.advances, hpage]
    | _ => exact hkept index cursor hcursor
  · intro page hpage
    have hlonger := hturns.prefix_cursors.length_le
    have hlast := hafter.page_le_length
    have hother : ¬ Passage.enters ⟨turn, stack, returned, after⟩ page = true := by
      intro henters
      have := (hturns.recorded henters).1
      omega
    rw [List.find?_append, h.unvisited page (by omega), Option.none_or, List.find?_singleton,
      if_neg hother]

end Turns

/-- The first turn of a walk is recalled with those before it, and the walk goes on from there. -/
theorem Recalls.walk_cons {stack : CursorStack} {past : List Passage} (h : stack.Recalls past)
    {turns : List Turn} {p : Passage} {rest : List Passage}
    (hwalk : stack.walk turns = .ok (p :: rest)) :
    p.before = stack ∧ Turns p.before p.turn p.returned p.after ∧ p.after.Recalls (past ++ [p]) ∧
      ∃ turns', p.after.walk turns' = .ok rest := by
  obtain ⟨rfl, turns', rfl, hturn, hrest⟩ := walk_eq_cons hwalk
  obtain ⟨returned, after, hturn', hafter, hturns⟩ := h.sound.turn p.turn
  obtain ⟨rfl, rfl⟩ := Prod.mk.inj (Except.ok.inj (hturn'.symm.trans hturn))
  exact ⟨rfl, hturns, h.concat hafter hturns, turns', hrest⟩

/-- The turns of a walk are recalled up to any point of it, where the walk goes on. -/
theorem Recalls.walk {stack : CursorStack} {past : List Passage} (h : stack.Recalls past)
    {turns : List Turn} {front rest : List Passage}
    (hwalk : stack.walk turns = .ok (front ++ rest)) :
    ∃ (middle : CursorStack) (turns' : List Turn), middle.walk turns' = .ok rest ∧
      middle.Recalls (past ++ front) := by
  induction front generalizing stack past turns with
  | nil => exact ⟨stack, turns, hwalk, by rwa [List.append_nil]⟩
  | cons p front ih =>
      obtain ⟨-, -, hafter, turns', hrest⟩ := h.walk_cons hwalk
      obtain ⟨middle, turns'', hmiddle, hrecalls⟩ := ih hafter hrest
      exact ⟨middle, turns'', hmiddle, by rwa [List.append_assoc] at hrecalls⟩

/-- Any walk between two resets ends well.  The page is always one more than the turns made on less
those made back; a later page is entered with the cursor of the turn that entered it first, and the
first page with none; and a turn on and one back lead to the page where they started and change no
recorded cursor. -/
theorem pages_replay_first_cursors (turns : List Turn) :
    ∃ passages, initial.walk turns = .ok passages ∧ passages.map (·.turn) = turns ∧
      (∀ front p back, passages = front ++ p :: back →
        p.after.page = 1 + ((front ++ [p]).countP (·.advances) : Int) -
          (front ++ [p]).countP (·.retreats) ∧
        (p.enters 1 → p.returned = none) ∧
        ∀ page, 1 < page → p.enters page →
          ∃ first, (front ++ [p]).find? (·.enters page) = some first ∧
            first.turn = .advance p.returned) ∧
      ∀ front on back rest, passages = front ++ on :: back :: rest →
        on.advances → back.turn = .retreat →
          back.after.page = on.before.page ∧ back.after.cursors = on.after.cursors ∧
            on.before.cursors <+: on.after.cursors := by
  obtain ⟨passages, hwalk, hturns⟩ := sound_initial.walk turns
  refine ⟨passages, hwalk, hturns, ?_, ?_⟩
  · rintro front p back rfl
    obtain ⟨middle, turns', hmiddle, hrecalls⟩ := recalls_initial.walk hwalk
    obtain ⟨-, hp, hafter, -⟩ := hrecalls.walk_cons hmiddle
    rw [List.nil_append] at hafter
    refine ⟨hafter.page, fun henters => ?_, fun page hlater henters => ?_⟩
    · obtain ⟨-, hcursor⟩ := hp.recorded henters
      have hstart := hafter.sound.start
      rw [List.head?_eq_getElem?] at hstart
      exact Option.some.inj (hcursor.symm.trans hstart)
    · obtain ⟨-, hcursor⟩ := hp.recorded henters
      obtain ⟨index, rfl⟩ : ∃ index : Nat, page = index + 2 := ⟨(page - 2).toNat, by omega⟩
      have hindex : ((index : Int) + 2 - 1).toNat = index + 1 := by omega
      rw [hindex] at hcursor
      exact hafter.recorded index p.returned hcursor
  · rintro front on back rest rfl hon hback
    obtain ⟨middle, turns', hmiddle, hrecalls⟩ := recalls_initial.walk hwalk
    obtain ⟨rfl, hforth, hafter, turns'', hrest⟩ := hrecalls.walk_cons hmiddle
    obtain ⟨hbefore, hagain, -, -⟩ := hafter.walk_cons hrest
    rw [hbefore, hback] at hagain
    obtain ⟨hpage, hcursors⟩ := hforth.page_of_retreat hrecalls.sound hon hagain
    exact ⟨hpage, hcursors, hforth.prefix_cursors⟩

/-- The third page is entered again with its old cursor, although the second one reports another
cursor by then. -/
example :
    (initial.walk [.advance (some (.str "b")), .advance (some (.str "c")), .retreat, .retreat,
      .advance (some (.str "x")), .advance (some (.str "y"))]).map (·.map (·.returned)) =
        .ok [some (.str "b"), some (.str "c"), some (.str "b"), none, some (.str "b"),
          some (.str "c")] :=
  rfl

end CursorStack

end DocConsole
