import DocConsole.Paging

/-!
# Sound cursor stacks

A stack is sound when it starts with the start, every later page has a cursor, and the current page
is one of the visited ones.  A stack as such takes any move; it stays sound under the moves that it
admits, which go at most one page past the visited ones.  Main statements: every planned move is
admitted, also by every stack that has grown since, and committing an admitted move never fails.
-/

set_option autoImplicit false

namespace DocConsole

namespace CursorStack

/-! ## Soundness -/

/-- The start comes first, every later page has a cursor, and the current page was visited. -/
structure Sound (stack : CursorStack) : Prop where
  start : stack.cursors.head? = some none
  later : ∀ cursor ∈ stack.cursors.tail, cursor ≠ none
  one_le_page : 1 ≤ stack.page
  page_le_length : stack.page ≤ stack.cursors.length

theorem sound_initial : Sound initial :=
  ⟨rfl, by simp [initial], by decide, by decide⟩

/-- The cursor of a later page is there. -/
theorem Sound.ne_none {stack : CursorStack} (h : stack.Sound) {index : Nat} {cursor : Option Value}
    (hcursor : stack.cursors[index + 1]? = some cursor) : cursor ≠ none := by
  refine h.later cursor (List.mem_of_getElem? (i := index) ?_)
  rw [List.getElem?_tail]
  exact hcursor

/-! ## Moves -/

/-- The move goes to a visited page with the cursor recorded for it. -/
def Records (stack : CursorStack) (move : PageMove) : Prop :=
  1 ≤ move.page ∧ stack.cursors[(move.page - 1).toNat]? = some move.cursor

/-- The move goes at most one page past the visited ones, and with a cursor unless to the first
page. -/
structure Admits (stack : CursorStack) (move : PageMove) : Prop where
  one_le_page : 1 ≤ move.page
  page_le : move.page ≤ stack.cursors.length + 1
  cursor : 1 < move.page → move.cursor ≠ none

/-- A stack goes on admitting a move while it grows. -/
theorem Admits.mono {stack stack' : CursorStack} {move : PageMove} (h : stack.Admits move)
    (hgrows : stack.cursors <+: stack'.cursors) : stack'.Admits move := by
  have hlength := hgrows.length_le
  refine ⟨h.one_le_page, ?_, h.cursor⟩
  have := h.page_le
  omega

theorem Sound.admits_of_records {stack : CursorStack} {move : PageMove} (h : stack.Sound)
    (hrecords : stack.Records move) : stack.Admits move := by
  obtain ⟨hpage, hcursor⟩ := hrecords
  obtain ⟨hindex, -⟩ := List.getElem?_eq_some_iff.mp hcursor
  refine ⟨hpage, by omega, fun hlater => ?_⟩
  obtain ⟨index, hsucc⟩ : ∃ index, (move.page - 1).toNat = index + 1 :=
    ⟨(move.page - 2).toNat, by omega⟩
  rw [hsucc] at hcursor
  exact h.ne_none hcursor

/-! ## Planned moves -/

/-- The move to a visited page is found. -/
theorem recordedMove_eq_ok (stack : CursorStack) (page : Int) (hone : 1 ≤ page)
    (hlast : page ≤ stack.cursors.length) :
    ∃ move, stack.recordedMove page = .ok (some move) ∧ move.page = page ∧
      stack.Records move := by
  have hindex : (page - 1).toNat < stack.cursors.length := by omega
  have hcursor : stack.cursors[(page - 1).toNat]? = some stack.cursors[(page - 1).toNat] :=
    List.getElem?_eq_getElem hindex
  refine ⟨⟨page, stack.cursors[(page - 1).toNat]⟩, ?_, rfl, hone, hcursor⟩
  have hnatural : ¬ page - 1 < 0 := by omega
  simp only [recordedMove, cursorAt, if_neg hnatural, hcursor]

/-- Back leads to the visited page before the current one. -/
theorem Sound.planRetreat {stack : CursorStack} (h : stack.Sound) :
    ∃ planned, stack.planRetreat = .ok planned ∧
      ∀ move, planned = some move → stack.Records move := by
  unfold CursorStack.planRetreat
  split
  · exact ⟨none, rfl, fun move hmove => by cases hmove⟩
  · rename_i hlater
    have := h.page_le_length
    obtain ⟨move, hplan, -, hrecords⟩ :=
      stack.recordedMove_eq_ok (stack.page - 1) (by omega) (by omega)
    exact ⟨some move, hplan, fun move' hmove' => Option.some.inj hmove' ▸ hrecords⟩

/-- On leads to a visited page, or from the last one of them to a new page with the reported
cursor. -/
theorem Sound.planAdvance {stack : CursorStack} (h : stack.Sound) (reported : Option Value) :
    ∃ planned, stack.planAdvance reported = .ok planned ∧
      ∀ move, planned = some move → stack.Records move ∨
        (stack.page = stack.cursors.length ∧ move.page = stack.page + 1 ∧
          move.cursor = reported ∧ reported ≠ none) := by
  have hone := h.one_le_page
  have hlast := h.page_le_length
  cases reported with
  | none => exact ⟨none, rfl, fun move hmove => by cases hmove⟩
  | some cursor =>
      by_cases hvisited : stack.page + 1 ≤ stack.cursors.length
      · obtain ⟨move, hplan, -, hrecords⟩ :=
          stack.recordedMove_eq_ok (stack.page + 1) (by omega) hvisited
        refine ⟨some move, ?_, fun move' hmove' => Or.inl (Option.some.inj hmove' ▸ hrecords)⟩
        rw [CursorStack.planAdvance, if_pos hvisited, hplan]
      · refine ⟨some ⟨stack.page + 1, some cursor⟩, ?_, fun move hmove => Or.inr ?_⟩
        · rw [CursorStack.planAdvance, if_neg hvisited]
        · rw [← Option.some.inj hmove]
          exact ⟨by omega, rfl, rfl, by simp⟩

/-- A move leads to the page that it is planned for. -/
theorem page_of_recordedMove {stack : CursorStack} {page : Int} {move : PageMove}
    (h : stack.recordedMove page = .ok (some move)) :
    move.page = page := by
  unfold recordedMove at h
  split at h
  · rw [← Option.some.inj (Except.ok.inj h)]
  · cases h

/-- On leads to the page behind the current one. -/
theorem page_of_planAdvance {stack : CursorStack} {reported : Option Value} {move : PageMove}
    (h : stack.planAdvance reported = .ok (some move)) :
    move.page = stack.page + 1 := by
  unfold planAdvance at h
  split at h
  · cases h
  · simp only at h
    split at h
    · exact page_of_recordedMove h
    · rw [← Option.some.inj (Except.ok.inj h)]

/-- There is nowhere to go on to just where no cursor is reported. -/
theorem planAdvance_eq_none_iff {stack : CursorStack} {reported : Option Value} :
    stack.planAdvance reported = .ok none ↔ reported = none := by
  constructor
  · intro h
    unfold planAdvance at h
    split at h
    · rfl
    · simp only [recordedMove] at h
      split at h
      · split at h <;> cases h
      · cases h
  · rintro rfl
    rfl

/-- Every planned move is admitted. -/
theorem Sound.admits_planned {stack : CursorStack} (h : stack.Sound) {move : PageMove}
    (hplanned : stack.planRetreat = .ok (some move) ∨
      ∃ reported, stack.planAdvance reported = .ok (some move)) : stack.Admits move := by
  rcases hplanned with hback | ⟨reported, hon⟩
  · obtain ⟨planned, hplan, hmove⟩ := h.planRetreat
    rw [hback] at hplan
    exact h.admits_of_records (hmove move (Except.ok.inj hplan).symm)
  · obtain ⟨planned, hplan, hmove⟩ := h.planAdvance reported
    rw [hon] at hplan
    rcases hmove move (Except.ok.inj hplan).symm with hrecords | ⟨hend, hpage, hcursor, hsome⟩
    · exact h.admits_of_records hrecords
    · have := h.one_le_page
      exact ⟨by omega, by omega, fun _ => hcursor ▸ hsome⟩

/-! ## Committed moves -/

/-- A committed move adds its cursor behind the recorded ones, if its page is the next one. -/
theorem getElem?_commit {stack stack' : CursorStack} {move : PageMove}
    (h : stack.commit move = .ok stack') (index : Nat) :
    stack'.cursors[index]? = stack.cursors[index]?.or
      (if index = stack.cursors.length ∧ move.page = index + 1 then some move.cursor
        else none) := by
  unfold commit at h
  simp only at h
  split at h
  · rename_i hnext
    rw [← Except.ok.inj h, List.getElem?_append]
    split
    · rename_i hold
      have hkept : ¬ (index = stack.cursors.length ∧ move.page = index + 1) := by omega
      rw [if_neg hkept, Option.or_none]
    · rename_i hnew
      rw [List.getElem?_eq_none (Nat.le_of_not_lt hnew), Option.none_or]
      split
      · rename_i hlast
        rw [hlast.1, Nat.sub_self, List.getElem?_cons_zero]
      · rename_i hbeyond
        refine List.getElem?_eq_none ?_
        rw [List.length_singleton]
        omega
  · split at h
    · cases h
    · rename_i hother hgap
      have hkept : ¬ (index = stack.cursors.length ∧ move.page = index + 1) := by omega
      rw [← Except.ok.inj h, if_neg hkept, Option.or_none]

/-- Recorded cursors stay in place. -/
theorem prefix_commit {stack stack' : CursorStack} {move : PageMove}
    (h : stack.commit move = .ok stack') : stack.cursors <+: stack'.cursors := by
  rcases commit_cursors h with hsame | hadded
  · exact hsame ▸ List.prefix_refl _
  · exact hadded ▸ List.prefix_append _ _

/-- The stack holds the cursor of a page that was entered, unless it held another one before. -/
theorem Admits.getElem?_commit {stack stack' : CursorStack} {move : PageMove}
    (h : stack.Admits move) (hcommit : stack.commit move = .ok stack') :
    stack'.cursors[(stack'.page - 1).toNat]? =
      some (stack.cursors[(move.page - 1).toNat]?.getD move.cursor) := by
  have hone := h.one_le_page
  have hle := h.page_le
  rw [commit_page hcommit, CursorStack.getElem?_commit hcommit]
  cases hheld : stack.cursors[(move.page - 1).toNat]? with
  | some held => rfl
  | none =>
      have hbeyond := List.getElem?_eq_none_iff.mp hheld
      rw [if_pos (by omega)]
      rfl

/-- An admitted move is committed, and leaves the stack sound. -/
theorem Sound.commit {stack : CursorStack} (h : stack.Sound) {move : PageMove}
    (hadmits : stack.Admits move) : ∃ stack', stack.commit move = .ok stack' ∧ stack'.Sound := by
  have hone := hadmits.one_le_page
  have hle := hadmits.page_le
  unfold CursorStack.commit
  by_cases hnext : move.page - 1 = stack.cursors.length
  · have hlast := h.page_le_length
    have hfirst := h.one_le_page
    refine ⟨_, if_pos hnext, ?_, ?_, hone, ?_⟩
    · rw [List.head?_append, h.start, Option.some_or]
    · intro cursor hcursor
      have hne : stack.cursors ≠ [] := by
        rintro hnil
        rw [hnil] at hlast
        rw [List.length_nil] at hlast
        omega
      rw [List.tail_append_of_ne_nil hne, List.mem_append, List.mem_singleton] at hcursor
      rcases hcursor with hold | rfl
      · exact h.later cursor hold
      · exact hadmits.cursor (by omega)
    · simp only [List.length_append, List.length_singleton]
      omega
  · have hgap : ¬ (stack.cursors.length : Int) < move.page - 1 := by omega
    refine ⟨{ stack with page := move.page }, ?_, h.start, h.later, hone, by simp only; omega⟩
    simp only [if_neg hnext, if_neg hgap]

end CursorStack

end DocConsole
