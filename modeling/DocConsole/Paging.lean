import DocConsole.Fault

/-!
# Paging back and forth

The cursors of the pages that were visited.  The cursor at index `n` fetches page `n + 1`; the
first one stands for the start.  A cursor is recorded when its page is entered for the first time
and stays until the stack is reset, so that going back replays it.  A move is planned first and
committed when its page has arrived.  Main statement: committing never changes a recorded cursor.
-/

set_option autoImplicit false

namespace DocConsole

/-- A planned move to a page, with the cursor that fetches it; no cursor stands for the start. -/
structure PageMove where
  /-- The page, from one. -/
  page : Int
  /-- The cursor that fetches it. -/
  cursor : Option Value
  deriving DecidableEq

/-- The cursors of the visited pages and the current page. -/
structure CursorStack where
  /-- The cursor of each visited page. -/
  cursors : List (Option Value)
  /-- The current page, from one. -/
  page : Int
  deriving DecidableEq

namespace CursorStack

/-- On the first page, with nothing but the start recorded. -/
def initial : CursorStack :=
  ⟨[none], 1⟩

/-- The cursor recorded at an index; an index below zero counts from the end. -/
def cursorAt (stack : CursorStack) (index : Int) : Except Fault (Option Value) :=
  let position := if index < 0 then index + stack.cursors.length else index
  if position < 0 then .error .indexOutOfRange
  else
    match stack.cursors[position.toNat]? with
    | some cursor => .ok cursor
    | none => .error .indexOutOfRange

/-- The move to a page with the cursor that is recorded for it. -/
def recordedMove (stack : CursorStack) (page : Int) : Except Fault (Option PageMove) :=
  match stack.cursorAt (page - 1) with
  | .ok cursor => .ok (some ⟨page, cursor⟩)
  | .error fault => .error fault

/-- Whether there is a page before the current one. -/
def canRetreat (stack : CursorStack) : Bool :=
  1 < stack.page

/-- The move to the next page: nowhere when the current page reported no cursor, else with the
cursor that is recorded for the next page, or the reported one when there is none. -/
def planAdvance (stack : CursorStack) (reported : Option Value) :
    Except Fault (Option PageMove) :=
  match reported with
  | none => .ok none
  | some cursor =>
      let target := stack.page + 1
      if target ≤ stack.cursors.length then stack.recordedMove target
      else .ok (some ⟨target, some cursor⟩)

/-- The move to the previous page; nowhere from the first one. -/
def planRetreat (stack : CursorStack) : Except Fault (Option PageMove) :=
  if stack.page ≤ 1 then .ok none else stack.recordedMove (stack.page - 1)

/-- A move carried out: a page that follows the known ones has its cursor recorded. -/
def commit (stack : CursorStack) (move : PageMove) : Except Fault CursorStack :=
  let index := move.page - 1
  if index = stack.cursors.length then .ok ⟨stack.cursors ++ [move.cursor], move.page⟩
  else if (stack.cursors.length : Int) < index then
    .error (.pageGap move.page stack.cursors.length)
  else .ok { stack with page := move.page }

/-- A move that was planned, if any, carried out; gives its cursor. -/
def carryOut (stack : CursorStack) :
    Except Fault (Option PageMove) → Except Fault (Option Value × CursorStack)
  | .error fault => .error fault
  | .ok none => .ok (none, stack)
  | .ok (some move) =>
      match stack.commit move with
      | .ok stack' => .ok (move.cursor, stack')
      | .error fault => .error fault

/-- The move to the next page planned and carried out. -/
def advance (stack : CursorStack) (reported : Option Value) :
    Except Fault (Option Value × CursorStack) :=
  stack.carryOut (stack.planAdvance reported)

/-- The move to the previous page planned and carried out. -/
def retreat (stack : CursorStack) : Except Fault (Option Value × CursorStack) :=
  stack.carryOut stack.planRetreat

/-- The recorded cursors stay in place; at most one is added at the end. -/
theorem commit_cursors {stack stack' : CursorStack} {move : PageMove}
    (h : stack.commit move = .ok stack') :
    stack'.cursors = stack.cursors ∨ stack'.cursors = stack.cursors ++ [move.cursor] := by
  unfold commit at h
  simp only at h
  split at h
  · simp only [Except.ok.injEq] at h
    exact .inr (h ▸ rfl)
  · split at h
    · simp at h
    · simp only [Except.ok.injEq] at h
      exact .inl (h ▸ rfl)

theorem commit_page {stack stack' : CursorStack} {move : PageMove}
    (h : stack.commit move = .ok stack') : stack'.page = move.page := by
  unfold commit at h
  simp only at h
  split at h
  · simp only [Except.ok.injEq] at h
    exact h ▸ rfl
  · split at h
    · simp at h
    · simp only [Except.ok.injEq] at h
      exact h ▸ rfl

end CursorStack

end DocConsole
