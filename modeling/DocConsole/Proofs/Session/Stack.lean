import DocConsole.Proofs.Paging
import DocConsole.Proofs.Session.Turns

/-!
# The cursor stack under overlapping requests

Moves are planned when they are asked for and committed when their page arrives, and by then other
pages may have arrived.  As long as the generation is the same the stack has only grown, and a stack
that has grown admits every move that it admitted before; the moves of older generations are
dropped.  Main statement: whatever happens, the stack stays sound, grows at its end only, and never
gives a fault.
-/

set_option autoImplicit false

namespace DocConsole

namespace Session

/-! ## Growth -/

/-- Generations follow each other, and within a generation the query stays the same and cursors
are added at the end only. -/
structure Grows (s s' : Session) : Prop where
  generation_le : s.generation ≤ s'.generation
  pageSize : s'.pageSize = s.pageSize
  activeCommand : s'.generation = s.generation → s'.activeCommand = s.activeCommand
  columns : s'.generation = s.generation → s'.columns = s.columns
  cursors : s'.generation = s.generation → s.cursors.cursors <+: s'.cursors.cursors

theorem Grows.refl (s : Session) : s.Grows s :=
  ⟨Nat.le_refl _, rfl, fun _ => rfl, fun _ => rfl, fun _ => List.prefix_refl _⟩

theorem Grows.trans {s s' s'' : Session} (h : s.Grows s') (h' : s'.Grows s'') : s.Grows s'' := by
  have hfirst := h.generation_le
  have hrest := h'.generation_le
  refine ⟨Nat.le_trans hfirst hrest, h'.pageSize.trans h.pageSize, fun hsame => ?_,
    fun hsame => ?_, fun hsame => ?_⟩
  · exact (h'.activeCommand (by omega)).trans (h.activeCommand (by omega))
  · exact (h'.columns (by omega)).trans (h.columns (by omega))
  · exact (h.cursors (by omega)).trans (h'.cursors (by omega))

theorem SameQuery.grows {s s' : Session} (h : s.SameQuery s') : s.Grows s' :=
  ⟨Nat.le_of_eq h.generation.symm, h.pageSize, fun _ => h.activeCommand, fun _ => h.columns,
    fun _ => h.cursors ▸ List.prefix_refl _⟩

/-- A session of a new generation grows from those before, whatever its query. -/
theorem grows_of_generation_lt {s s' : Session} (h : s.generation < s'.generation)
    (hpageSize : s'.pageSize = s.pageSize) : s.Grows s' := by
  have hother : s'.generation ≠ s.generation := Nat.ne_of_gt h
  exact ⟨Nat.le_of_lt h, hpageSize, fun hsame => absurd hsame hother,
    fun hsame => absurd hsame hother, fun hsame => absurd hsame hother⟩

theorem SameQuery.sound {s s' : Session} (h : s.SameQuery s') (hsound : s.cursors.Sound) :
    s'.cursors.Sound :=
  h.cursors ▸ hsound

end Session

/-! ## Waiting moves -/

/-- A job that waits for a page of the current generation has a move that the stack admits, and no
job comes from a later generation. -/
def Job.AdmittedBy (s : Session) : Job → Prop
  | .page _ generation move _ =>
      generation ≤ s.generation ∧ (generation = s.generation → s.cursors.Admits move)
  | _ => True

theorem Job.AdmittedBy.grows {s s' : Session} {job : Job} (h : job.AdmittedBy s)
    (hgrows : s.Grows s') : job.AdmittedBy s' := by
  cases job with
  | page sequence generation move command =>
      obtain ⟨hle, hadmits⟩ := h
      have hgeneration := hgrows.generation_le
      refine ⟨Nat.le_trans hle hgeneration, fun hsame => ?_⟩
      exact (hadmits (by omega)).mono (hgrows.cursors (by omega))
  | run sequence statement command => trivial
  | settled sequence statement command r => trivial
  | edit statement => trivial
  | insert ticket statement fields => trivial

/-- A run ends or the session is reset. -/
def LogEntry.Restarts (entry : LogEntry) : Prop :=
  (∃ command r, entry.EndsRun command r) ∨ ∃ connected, entry = .began connected .reset

namespace Session

theorem Plans.admits {s : Session} {move : PageMove} (h : s.Plans move)
    (hsound : s.cursors.Sound) : s.cursors.Admits move := by
  rcases h with hback | ⟨shown, -, hon⟩
  · exact hsound.admits_planned (Or.inl hback)
  · exact hsound.admits_planned (Or.inr ⟨_, hon⟩)

/-- A job is asked for with a move that the stack admits. -/
theorem Asks.admittedBy {s : Session} {entry : LogEntry} {call : StoreCall} {job : Job}
    (h : s.Asks entry call job) (hsound : s.cursors.Sound) : job.AdmittedBy s := by
  cases h with
  | run hread => trivial
  | confirm hresult => trivial
  | page hactive hplans => exact ⟨Nat.le_refl _, fun _ => hplans.admits hsound⟩
  | insert => trivial

/-- A read page that arrives comes by a move that the stack admits. -/
theorem admits_of_endsMove {s : Session} {entry : LogEntry} {move : PageMove} {r : QueryResult}
    (hends : entry.EndsMove s.generation move r) (hread : r.type = .read)
    (hentry : ∀ job outcome, entry = .answered job outcome → job.AdmittedBy s) :
    s.cursors.Admits move := by
  cases hends with
  | unconnected => cases hread
  | answered => exact (hentry _ _ rfl).2 rfl

/-! ## One turn -/

section

variable {s s' : Session} {entry : LogEntry} {reaction : Reaction}

/-- A sound stack gives no fault. -/
theorem not_strays {fault : Fault} (hsound : s.cursors.Sound)
    (hentry : ∀ job outcome, entry = .answered job outcome → job.AdmittedBy s) :
    ¬ s.Strays entry fault := by
  rintro (hback | ⟨reported, hon⟩ | ⟨move, r, hends, hread, hcommit⟩)
  · obtain ⟨planned, hplan, -⟩ := hsound.planRetreat
    rw [hback] at hplan
    cases hplan
  · obtain ⟨planned, hplan, -⟩ := hsound.planAdvance reported
    rw [hon] at hplan
    cases hplan
  · obtain ⟨stack, hok, -⟩ := hsound.commit (admits_of_endsMove hends hread hentry)
    rw [hcommit] at hok
    cases hok

/-- A turn leaves the stack sound, and the session grows by it. -/
theorem Turned.sound_grows (h : s.Turned entry s' reaction) (hsound : s.cursors.Sound)
    (hentry : ∀ job outcome, entry = .answered job outcome → job.AdmittedBy s) :
    s'.cursors.Sound ∧ s.Grows s' := by
  cases h with
  | rests hquiet => exact ⟨hquiet.sound hsound, hquiet.grows⟩
  | strays hquiet => exact ⟨hquiet.sound hsound, hquiet.grows⟩
  | asks hquiet => exact ⟨hquiet.sound hsound, hquiet.grows⟩
  | revises _ hrevises => exact ⟨hrevises.sound hsound, hrevises.grows⟩
  | runs hquiet =>
      refine ⟨CursorStack.sound_initial, grows_of_generation_lt (Nat.lt_succ_of_le ?_) ?_⟩
      · exact Nat.le_of_eq hquiet.generation.symm
      · exact hquiet.pageSize
  | enters hquiet hends hread hcommit =>
      obtain ⟨stack, hok, hstack⟩ := hsound.commit (admits_of_endsMove hends hread hentry)
      obtain rfl := Except.ok.inj (hcommit.symm.trans hok)
      refine ⟨hstack, Nat.le_of_eq hquiet.generation.symm, hquiet.pageSize,
        fun _ => hquiet.activeCommand, fun _ => hquiet.columns, fun _ => ?_⟩
      exact CursorStack.prefix_commit hcommit
  | fails hquiet =>
      obtain ⟨hle, hpageSize, hactive, hcolumns, hcursors⟩ := hquiet.grows
      exact ⟨hquiet.sound hsound, hle, hpageSize, hactive, hcolumns, hcursors⟩
  | resets =>
      exact ⟨CursorStack.sound_initial, grows_of_generation_lt (Nat.lt_succ_self _) rfl⟩

/-- Only the end of a run and a reset start a new generation. -/
theorem Turned.generation_eq (h : s.Turned entry s' reaction) (hentry : ¬ entry.Restarts) :
    s'.generation = s.generation := by
  cases h with
  | rests hquiet => exact hquiet.generation
  | strays hquiet => exact hquiet.generation
  | asks hquiet => exact hquiet.generation
  | revises _ hrevises => exact hrevises.generation
  | runs hquiet hends => exact absurd (Or.inl ⟨_, _, hends⟩) hentry
  | enters hquiet => exact hquiet.generation
  | fails hquiet => exact hquiet.generation
  | resets => exact absurd (Or.inr ⟨_, rfl⟩) hentry

/-- A turn leaves a job waiting only with a move that the stack admits. -/
theorem Turned.admittedBy {call : StoreCall} {job : Job} (h : s.Turned entry s' (.calling call job))
    (hsound : s.cursors.Sound) : job.AdmittedBy s' := by
  cases h with
  | asks hquiet hasks => exact (hasks.admittedBy hsound).grows hquiet.grows
  | revises _ _ hreaction =>
      rcases hreaction with ⟨answer, hfinished, -⟩ | ⟨call', statement, hcalling⟩
      · cases hfinished
      · cases hcalling
        trivial

/-- A turn gives back no fault but that of an optimistic change. -/
theorem Turned.ofChange {fault : Fault} (h : s.Turned entry s' (.finished (.error fault)))
    (hsound : s.cursors.Sound)
    (hentry : ∀ job outcome, entry = .answered job outcome → job.AdmittedBy s) :
    fault.OfChange := by
  cases h with
  | rests hquiet hanswer => exact hanswer fault rfl
  | strays hquiet hstrays => exact absurd hstrays (not_strays hsound hentry)
  | revises _ _ hreaction =>
      rcases hreaction with ⟨answer, hfinished, hanswer⟩ | ⟨call', statement, hcalling⟩
      · exact hanswer fault (Reaction.finished.inj hfinished).symm
      · cases hcalling

end

end Session

/-! ## Runs -/

/-- What is known of the stack: it is sound, it has grown since a base, in the same generation as
long as no run ended and no reset was made, and it admits the moves that wait. -/
def Knowledge.stack (base : Session) : Knowledge where
  now log s _ := s.cursors.Sound ∧ base.Grows s ∧
    ((∀ entry ∈ log, ¬ entry.Restarts) → s.generation = base.generation)
  waits _ s _ job _ := job.AdmittedBy s
  gives answer := ∀ fault, answer = .error fault → fault.OfChange

theorem Knowledge.stack_kept (base : Session) : (stack base).Kept (fun _ => True) := by
  refine .of_turned ?_ (fun log s backend event _ hnow => ⟨hnow, fun _ _ hwaits => hwaits⟩)
  rintro log s backend entry s' reaction ⟨hsound, hbase, hsame⟩ hexpects - hturned
  have hentry : ∀ job outcome, entry = .answered job outcome → job.AdmittedBy s := by
    rintro job outcome rfl
    exact hexpects
  obtain ⟨hsound', hgrows⟩ := hturned.sound_grows hsound hentry
  refine ⟨⟨hsound', hbase.trans hgrows, fun hnone => ?_⟩,
    fun job outcome hwaits => hwaits.grows hgrows, ?_, ?_⟩
  · rw [hturned.generation_eq (hnone entry (by simp))]
    exact hsame fun old hold => hnone old (List.mem_append_left _ hold)
  · intro call job hcalling
    subst hcalling
    exact hturned.admittedBy hsound
  · intro answer hfinished fault hfault
    subst hfinished hfault
    exact hturned.ofChange hsound hentry

/-- A console at its start, with nothing on display. -/
def Console.fresh (pageSize : Int) (discardStale : Bool) (backend : Backend) : Console :=
  .initial (.initial pageSize discardStale) backend

theorem Knowledge.stack_holds_fresh (pageSize : Int) (discardStale : Bool) (backend : Backend) :
    (stack (.initial pageSize discardStale)).Holds []
      (Console.fresh pageSize discardStale backend) :=
  ⟨⟨CursorStack.sound_initial, .refl _, fun _ => rfl⟩, fun call hcall => by cases hcall⟩

/-- Pages keep the size that they have at the start. -/
theorem Console.pageSize_after_fresh (pageSize : Int) (discardStale : Bool) (backend : Backend)
    (events : List ConsoleEvent) :
    ((Console.fresh pageSize discardStale backend).after events).session.pageSize = pageSize := by
  obtain ⟨⟨-, hgrows, -⟩, -⟩ := (Knowledge.stack_kept _).after events (fun _ _ => trivial)
    (Knowledge.stack_holds_fresh pageSize discardStale backend)
  exact hgrows.pageSize

end DocConsole
