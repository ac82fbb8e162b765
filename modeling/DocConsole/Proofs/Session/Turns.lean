import DocConsole.Proofs.Execution
import DocConsole.Proofs.Session.Steps

/-!
# Turns of a session

What a single turn can do to the query of a session: the start of an action or the answer to a job
leaves the query alone, asks the store, changes rows on display, or shows a result of its own.
Everything that is kept along runs is proved over these cases.  Main statements: every start of an
action and every answer to a job is one of the turns listed here.
-/

set_option autoImplicit false

namespace DocConsole

/-! ## What stays the same -/

/-- A result after changes made to its rows on display. -/
inductive QueryResult.Revised (r : QueryResult) : QueryResult → Prop
  /-- Nothing was changed. -/
  | refl : Revised r r
  /-- A field was set. -/
  | edited {r' : QueryResult} (h : Revised r r') (id field : String) (value : Value) :
      Revised r (r'.edited id field value)
  /-- A new row was put in front. -/
  | withNewRow {r' : QueryResult} (h : Revised r r') (row : Fields) : Revised r (r'.withNewRow row)

/-- Changes made to the rows leave everything else of a result as it is. -/
theorem QueryResult.Revised.exists_rows {r r' : QueryResult} (h : r.Revised r') :
    ∃ rows, r' = { r with rows := rows } := by
  induction h with
  | refl => exact ⟨r.rows, rfl⟩
  | edited _ id field value ih =>
      obtain ⟨rows, rfl⟩ := ih
      exact ⟨_, rfl⟩
  | withNewRow _ row ih =>
      obtain ⟨rows, rfl⟩ := ih
      exact ⟨_, rfl⟩

theorem QueryResult.Revised.type {r r' : QueryResult} (h : r.Revised r') : r'.type = r.type := by
  obtain ⟨rows, rfl⟩ := h.exists_rows
  rfl

theorem QueryResult.Revised.pageCursor {r r' : QueryResult} (h : r.Revised r') :
    r'.pageCursor = r.pageCursor := by
  obtain ⟨rows, rfl⟩ := h.exists_rows
  rfl

theorem QueryResult.Revised.trans {r r' r'' : QueryResult} (h : r.Revised r')
    (h' : r'.Revised r'') : r.Revised r'' := by
  induction h' with
  | refl => exact h
  | edited _ id field value ih => exact ih.edited id field value
  | withNewRow _ row ih => exact ih.withNewRow row

namespace Session

/-- Two sessions are at the same place of the same query, and nothing new was put on display. -/
structure SameQuery (s s' : Session) : Prop where
  pageSize : s'.pageSize = s.pageSize
  cursors : s'.cursors = s.cursors
  activeCommand : s'.activeCommand = s.activeCommand
  columns : s'.columns = s.columns
  generation : s'.generation = s.generation
  nextTicket : s'.nextTicket = s.nextTicket

/-- The query and the display stay as they are. -/
structure Quiet (s s' : Session) : Prop extends SameQuery s s' where
  displayed : s'.displayed = s.displayed

/-- The query stays as it is, and of the display only the rows are changed. -/
structure Revises (s s' : Session) : Prop extends SameQuery s s' where
  displayed : ∀ shown', s'.displayed = some shown' →
    ∃ shown, s.displayed = some shown ∧ shown.result.Revised shown'.result

theorem Quiet.refl (s : Session) : s.Quiet s :=
  ⟨⟨rfl, rfl, rfl, rfl, rfl, rfl⟩, rfl⟩

theorem Quiet.issue {s s' : Session} (h : s.Quiet s') (sequence : Nat) :
    s.Quiet { s' with issued := sequence } :=
  ⟨⟨h.pageSize, h.cursors, h.activeCommand, h.columns, h.generation, h.nextTicket⟩, h.displayed⟩

theorem Quiet.accept {s s' : Session} (h : s.Quiet s') (sequence : Nat) :
    s.Quiet (s'.accept sequence) :=
  ⟨⟨h.pageSize, h.cursors, h.activeCommand, h.columns, h.generation, h.nextTicket⟩, h.displayed⟩

theorem Quiet.revises {s s' : Session} (h : s.Quiet s') : s.Revises s' :=
  ⟨h.toSameQuery, fun shown' hshown' => ⟨shown', h.displayed ▸ hshown', .refl⟩⟩

end Session

/-! ## The turns -/

/-- A fault of an optimistic change, and of nothing else. -/
def Fault.OfChange : Fault → Prop
  | .notEditable => True
  | .idNotEditable => True
  | .changeFailed _ _ => True
  | _ => False

/-- The entries that change rows on display. -/
def LogEntry.ChangesRows : LogEntry → Prop
  | .began _ (.edit _ _ _) => True
  | .answered (.insert _ _ _) _ => True
  | _ => False

/-- A run ends in a turn, with the command it was read as, if it was, and its result. -/
inductive LogEntry.EndsRun : LogEntry → Option Command → QueryResult → Prop
  /-- The statement cannot be read. -/
  | unread {connected : Bool} {statement : String} {fault : Fault}
      (hread : Command.read statement = .error fault) :
      EndsRun (.began connected (.run statement)) none (errorResult fault.message)
  /-- There is no store. -/
  | unconnected {statement : String} {command : Command}
      (hread : Command.read statement = .ok command) :
      EndsRun (.began false (.run statement)) (some command)
        (errorResult Fault.notConnected.message)
  /-- The first call settled the result. -/
  | answered {sequence : Nat} {statement : String} {command : Command} {outcome : Outcome}
      {r : QueryResult} (hresult : command.resume outcome = .finished r) :
      EndsRun (.answered (.run sequence statement command) outcome) (some command) r
  /-- The last call is done. -/
  | settled {sequence : Nat} {statement : String} {command : Command} {outcome : Outcome}
      {r : QueryResult} :
      EndsRun (.answered (.settled sequence statement command r) outcome) (some command) r

/-- A move ends in a turn, with the generation it was planned in and its result. -/
inductive LogEntry.EndsMove : LogEntry → Nat → PageMove → QueryResult → Prop
  /-- There is no store. -/
  | unconnected {action : Action} {generation : Nat} {move : PageMove} :
      EndsMove (.began false action) generation move (errorResult Fault.notConnected.message)
  /-- The page arrived. -/
  | answered {sequence generation : Nat} {move : PageMove} {command : Command}
      {outcome : Outcome} :
      EndsMove (.answered (.page sequence generation move command) outcome) generation move
        (command.resume outcome).result

namespace Session

/-- A move is planned from the current page. -/
def Plans (s : Session) (move : PageMove) : Prop :=
  s.cursors.planRetreat = .ok (some move) ∨
    ∃ shown, s.displayed = some shown ∧
      s.cursors.planAdvance shown.result.pageCursor = .ok (some move)

/-- The cursor stack itself gives a fault. -/
def Strays (s : Session) (entry : LogEntry) (fault : Fault) : Prop :=
  s.cursors.planRetreat = .error fault ∨
    (∃ reported, s.cursors.planAdvance reported = .error fault) ∨
    ∃ move r, entry.EndsMove s.generation move r ∧ r.type = .read ∧
      s.cursors.commit move = .error fault

/-- A call is made for a job. -/
inductive Asks (s : Session) : LogEntry → StoreCall → Job → Prop
  /-- A run makes its first call. -/
  | run {statement : String} {command : Command} {sequence : Nat}
      (hread : Command.read statement = .ok command) :
      Asks s (.began true (.run statement)) (command.firstCall none s.pageSize)
        (.run sequence statement command)
  /-- A run makes its last call. -/
  | confirm {sequence : Nat} {statement : String} {command : Command} {outcome : Outcome}
      {call : StoreCall} {r : QueryResult}
      (hresult : command.resume outcome = .confirming call r) :
      Asks s (.answered (.run sequence statement command) outcome) call
        (.settled sequence statement command r)
  /-- A page of the active query is asked for. -/
  | page {action : Action} {sequence : Nat} {move : PageMove} {command : Command}
      (hactive : s.activeCommand = some command) (hplans : s.Plans move) :
      Asks s (.began true action) (command.firstCall move.cursor s.pageSize)
        (.page sequence s.generation move command)
  /-- A new document is sent. -/
  | insert {ticket : Nat} {collection statement : String} {fields : Fields} :
      Asks s (.began true (.insert fields)) (.create collection fields)
        (.insert ticket statement fields)

/-- What a turn makes of a session, and how it goes on. -/
inductive Turned (s : Session) : LogEntry → Session → Reaction → Prop
  /-- The query rests, and the action is over. -/
  | rests {entry : LogEntry} {s' : Session} {answer : Except Fault Answer} (hquiet : s.Quiet s')
      (hanswer : ∀ fault, answer = .error fault → fault.OfChange) :
      Turned s entry s' (.finished answer)
  /-- The query rests, and the cursor stack gives a fault. -/
  | strays {entry : LogEntry} {s' : Session} {fault : Fault} (hquiet : s.Quiet s')
      (hstrays : s.Strays entry fault) : Turned s entry s' (.finished (.error fault))
  /-- The query rests, and a call is made. -/
  | asks {entry : LogEntry} {s' : Session} {call : StoreCall} {job : Job} (hquiet : s.Quiet s')
      (hasks : s.Asks entry call job) : Turned s entry s' (.calling call job)
  /-- Rows on display are changed, and the change is perhaps sent to the store. -/
  | revises {entry : LogEntry} {s' : Session} {reaction : Reaction}
      (hentry : entry.ChangesRows) (hrevises : s.Revises s')
      (hreaction : (∃ answer, reaction = .finished answer ∧
          ∀ fault, answer = .error fault → fault.OfChange) ∨
        ∃ call statement, reaction = .calling call (.edit statement)) :
      Turned s entry s' reaction
  /-- A run is applied. -/
  | runs {entry : LogEntry} {t : Session} {statement : String} {command : Option Command}
      {r : QueryResult} (hquiet : s.Quiet t) (hends : entry.EndsRun command r) :
      Turned s entry (t.showRun statement command r) (.finished (.ok (.result (some r))))
  /-- A page is entered. -/
  | enters {entry : LogEntry} {t : Session} {move : PageMove} {r : QueryResult}
      {cursors : CursorStack} (hquiet : s.Quiet t) (hends : entry.EndsMove s.generation move r)
      (hread : r.type = .read) (hcommit : s.cursors.commit move = .ok cursors)
      {answer : Answer} :
      Turned s entry ({ t with cursors := cursors }.display { r with columns := t.columns })
        (.finished (.ok answer))
  /-- The failure of a move is shown. -/
  | fails {entry : LogEntry} {t : Session} {move : PageMove} {r : QueryResult}
      (hquiet : s.Quiet t) (hends : entry.EndsMove s.generation move r) (hread : r.type ≠ .read)
      {answer : Answer} : Turned s entry (t.display r) (.finished (.ok answer))
  /-- The session is reset. -/
  | resets {connected : Bool} :
      Turned s (.began connected .reset) s.reset (.finished (.ok .nothing))

/-! ## Exact turns

The turns once more with all that they change: the count of requests, the number and the statement
of the request that ends, and the history.  Everything else about turns is read off from these
cases. -/

end Session

/-- The number of the request that a job belongs to; a change of rows is no request. -/
def Job.number? : Job → Option Nat
  | .run sequence _ _ => some sequence
  | .settled sequence _ _ _ => some sequence
  | .page sequence _ _ _ => some sequence
  | .edit _ => none
  | .insert _ _ _ => none

/-- The statement of the run that an entry belongs to. -/
def LogEntry.statement? : LogEntry → Option String
  | .began _ (.run statement) => some statement
  | .answered (.run _ statement _) _ => some statement
  | .answered (.settled _ statement _ _) _ => some statement
  | _ => none

/-- An entry ends a request: with the number of the request, and the count of requests then. -/
inductive LogEntry.EndsRequest (s : Session) : LogEntry → Nat → Nat → Prop
  | began {connected : Bool} {action : Action} :
      EndsRequest s (.began connected action) (s.issued + 1) (s.issued + 1)
  | answered {job : Job} {outcome : Outcome} {number : Nat} (hnumber : job.number? = some number) :
      EndsRequest s (.answered job outcome) number s.issued

theorem LogEntry.EndsRequest.issued_le {s : Session} {entry : LogEntry} {number issued : Nat}
    (h : entry.EndsRequest s number issued) : s.issued ≤ issued := by
  cases h with
  | began => exact Nat.le_succ _
  | answered => exact Nat.le_refl _

/-- A page arrives that was asked for in another generation. -/
def LogEntry.IsLate (s : Session) : LogEntry → Prop
  | .answered (.page _ generation _ _) _ => generation ≠ s.generation
  | _ => False

/-- A job is new: a request gets the next number, and a row goes to the result on display. -/
def Job.IsNew (s : Session) (issued : Nat) : Job → Prop
  | .run sequence _ _ => sequence = s.issued + 1 ∧ issued = s.issued + 1
  | .page sequence _ _ _ => sequence = s.issued + 1 ∧ issued = s.issued + 1
  | .insert ticket _ _ => issued = s.issued ∧ ∃ shown, s.displayed = some shown ∧
      shown.ticket = ticket
  | .settled _ _ _ _ => issued = s.issued
  | .edit _ => False

theorem Job.IsNew.issued_le {s : Session} {issued : Nat} {job : Job} (h : job.IsNew s issued) :
    s.issued ≤ issued := by
  cases job with
  | run sequence statement command => exact h.2 ▸ Nat.le_succ _
  | page sequence generation move command => exact h.2 ▸ Nat.le_succ _
  | insert ticket statement fields => exact Nat.le_of_eq h.1.symm
  | settled sequence statement command r => exact Nat.le_of_eq h.symm
  | edit statement => exact absurd h id

namespace Session

/-- What a turn makes of a session, field by field, and how it goes on. -/
inductive Took (s : Session) : LogEntry → Session → Reaction → Prop
  /-- No request ends, and nothing changes but the history. -/
  | idles {entry : LogEntry} {history : History} {answer : Except Fault Answer}
      (hentry : ∀ job outcome, entry = .answered job outcome → job.number? = none)
      (hanswer : ∀ fault, answer = .error fault → fault.OfChange) :
      Took s entry { s with history := history } (.finished answer)
  /-- The cursor stack gives a fault. -/
  | strays {entry : LogEntry} {issued applied : Nat} {fault : Fault} (hissued : s.issued ≤ issued)
      (happlied : s.applied ≤ applied) (hstrays : s.Strays entry fault) :
      Took s entry { s with issued := issued, applied := applied } (.finished (.error fault))
  /-- A call is made for a job. -/
  | asks {entry : LogEntry} {issued : Nat} {call : StoreCall} {job : Job}
      (hasks : s.Asks entry call job) (hnew : job.IsNew s issued) :
      Took s entry { s with issued := issued } (.calling call job)
  /-- Rows on display are changed, and the change is perhaps sent to the store. -/
  | revises {entry : LogEntry} {history : History} {reaction : Reaction}
      (change : Display → QueryResult) (hentry : entry.ChangesRows)
      (hchange : ∀ shown : Display, shown.result.Revised (change shown))
      (hreaction : (∃ answer, reaction = .finished answer ∧
          ∀ fault, answer = .error fault → fault.OfChange) ∨
        ∃ call statement, reaction = .calling call (.edit statement)) :
      Took s entry
        { s with
          history := history
          displayed := s.displayed.map (fun shown => ⟨shown.ticket, change shown⟩) }
        reaction
  /-- The response of a request is dropped. -/
  | drops {entry : LogEntry} {number issued : Nat} {history : History} {r : QueryResult}
      (hends : entry.EndsRequest s number issued)
      (hdropped : s.isStale number = true ∨ entry.IsLate s) :
      Took s entry { s with issued := issued, history := history }
        (.finished (.ok (.result (some r))))
  /-- A run is applied. -/
  | runs {entry : LogEntry} {number issued : Nat} {history : History} {statement : String}
      {command : Option Command} {r : QueryResult} (hends : entry.EndsRequest s number issued)
      (happlied : s.isStale number = false) (hstatement : entry.statement? = some statement)
      (hrun : entry.EndsRun command r) :
      Took s entry
        (({ s with issued := issued, history := history }.accept number).showRun statement
          command r)
        (.finished (.ok (.result (some r))))
  /-- A page is entered. -/
  | enters {entry : LogEntry} {number issued : Nat} {move : PageMove} {r : QueryResult}
      {cursors : CursorStack} (hends : entry.EndsRequest s number issued)
      (happlied : s.isStale number = false) (hstatement : entry.statement? = none)
      (hmove : entry.EndsMove s.generation move r) (hread : r.type = .read)
      (hcommit : s.cursors.commit move = .ok cursors) :
      Took s entry
        ({ { s with issued := issued }.accept number with cursors := cursors }.display
          { r with columns := s.columns })
        (.finished (.ok (.result (some { r with columns := s.columns }))))
  /-- The failure of a move is shown. -/
  | fails {entry : LogEntry} {number issued : Nat} {move : PageMove} {r : QueryResult}
      (hends : entry.EndsRequest s number issued) (happlied : s.isStale number = false)
      (hstatement : entry.statement? = none) (hmove : entry.EndsMove s.generation move r)
      (hread : r.type ≠ .read) :
      Took s entry (({ s with issued := issued }.accept number).display r)
        (.finished (.ok (.result (some r))))
  /-- The session is reset. -/
  | resets {connected : Bool} :
      Took s (.began connected .reset) s.reset (.finished (.ok .nothing))

theorem Took.idles_began {s : Session} {connected : Bool} {action : Action} {history : History}
    {answer : Except Fault Answer} (hanswer : ∀ fault, answer = .error fault → fault.OfChange) :
    s.Took (.began connected action) { s with history := history } (.finished answer) := by
  refine .idles (fun job outcome hentry => ?_) hanswer
  cases hentry

theorem Took.idles_answered {s : Session} {job : Job} {outcome : Outcome} {history : History}
    {answer : Except Fault Answer} (hnumber : job.number? = none)
    (hanswer : ∀ fault, answer = .error fault → fault.OfChange) :
    s.Took (.answered job outcome) { s with history := history } (.finished answer) := by
  refine .idles (fun job' outcome' hentry => ?_) hanswer
  cases hentry
  exact hnumber

theorem ofChange_of_ok (answer : Answer) :
    ∀ fault, (.ok answer : Except Fault Answer) = .error fault → fault.OfChange := by
  intro fault hfault
  cases hfault

theorem ofChange_of_error {fault : Fault} (h : fault.OfChange) :
    ∀ fault', (.error fault : Except Fault Answer) = .error fault' → fault'.OfChange := by
  intro fault' hfault
  rw [← Except.error.inj hfault]
  exact h

/-! ## The ends of requests -/

theorem took_finishRun {s : Session} {entry : LogEntry} {number issued : Nat} {statement : String}
    {command : Option Command} {r : QueryResult} (hends : entry.EndsRequest s number issued)
    (hstatement : entry.statement? = some statement) (hrun : entry.EndsRun command r) :
    s.Took entry ({ s with issued := issued }.finishRun number statement command r).1
      ({ s with issued := issued }.finishRun number statement command r).2 := by
  simp only [finishRun]
  split
  · rename_i hstale
    exact .drops hends (Or.inl hstale)
  · rename_i hfresh
    exact .runs hends (Bool.not_eq_true _ ▸ hfresh) hstatement hrun

theorem took_finishPage {s : Session} {entry : LogEntry} {number issued generation : Nat}
    {move : PageMove} {r : QueryResult} (hends : entry.EndsRequest s number issued)
    (hstatement : entry.statement? = none) (hmove : entry.EndsMove generation move r)
    (hlate : generation ≠ s.generation → entry.IsLate s) :
    s.Took entry ({ s with issued := issued }.finishPage number generation move r).1
      ({ s with issued := issued }.finishPage number generation move r).2 := by
  unfold finishPage
  split
  · rename_i hdropped
    refine .drops hends ?_
    rcases (Bool.or_eq_true _ _).mp hdropped with hold | hstale
    · exact Or.inr (hlate (of_decide_eq_true hold))
    · exact Or.inl hstale
  · rename_i happlied
    obtain ⟨hsame, hfresh⟩ := not_or.mp (mt (Bool.or_eq_true _ _).mpr happlied)
    obtain rfl : generation = s.generation := Decidable.not_not.mp (mt decide_eq_true hsame)
    have hfresh' : s.isStale number = false := Bool.not_eq_true _ ▸ hfresh
    unfold showPage
    split
    · rename_i hread
      split
      · rename_i fault hfault
        exact .strays hends.issued_le (Nat.le_max_left _ _)
          (Or.inr (Or.inr ⟨move, r, hmove, hread, hfault⟩))
      · rename_i cursors hcommit
        exact .enters hends hfresh' hstatement hmove hread hcommit
    · rename_i hread
      exact .fails hends hfresh' hstatement hmove hread

/-! ## The starts of actions -/

theorem took_startRun (s : Session) (connected : Bool) (statement : String) :
    s.Took (.began connected (.run statement)) (s.startRun connected statement).1
      (s.startRun connected statement).2 := by
  unfold startRun
  split
  · exact .idles_began (ofChange_of_ok _)
  · simp only
    split
    · rename_i fault hread
      exact took_finishRun .began rfl (.unread hread)
    · rename_i command hread
      cases connected with
      | true => exact .asks (.run hread) ⟨rfl, rfl⟩
      | false => exact took_finishRun .began rfl (.unconnected hread)

theorem took_fetchPage {s : Session} {command : Command} {move : PageMove} {connected : Bool}
    {action : Action} (hstatement : (LogEntry.began connected action).statement? = none)
    (hactive : s.activeCommand = some command) (hplans : s.Plans move) :
    s.Took (.began connected action) (s.fetchPage connected command move).1
      (s.fetchPage connected command move).2 := by
  cases connected with
  | true => exact .asks (.page hactive hplans) ⟨rfl, rfl⟩
  | false =>
      exact took_finishPage .began hstatement .unconnected (fun hother => absurd rfl hother)

theorem took_startNext (s : Session) (connected : Bool) :
    s.Took (.began connected .nextPage) (s.startNext connected).1 (s.startNext connected).2 := by
  unfold startNext
  split
  · rename_i shown command hshown hactive
    split
    · rename_i move hplan
      exact took_fetchPage rfl hactive (Or.inr ⟨shown, hshown, hplan⟩)
    · exact .idles_began (ofChange_of_ok _)
    · rename_i fault hplan
      exact .strays (Nat.le_refl _) (Nat.le_refl _) (Or.inr (Or.inl ⟨_, hplan⟩))
  · exact .idles_began (ofChange_of_ok _)

theorem took_startPrevious (s : Session) (connected : Bool) :
    s.Took (.began connected .previousPage) (s.startPrevious connected).1
      (s.startPrevious connected).2 := by
  unfold startPrevious
  split
  · rename_i command hactive
    split
    · rename_i move hplan
      exact took_fetchPage rfl hactive (Or.inl hplan)
    · exact .idles_began (ofChange_of_ok _)
    · rename_i fault hplan
      exact .strays (Nat.le_refl _) (Nat.le_refl _) (Or.inl hplan)
  · exact .idles_began (ofChange_of_ok _)

theorem editableCollection_eq_error {result : Option QueryResult} {fault : Fault}
    (h : editableCollection result = .error fault) : fault = .notEditable := by
  unfold editableCollection at h
  split at h
  · exact (Except.error.inj h).symm
  · split at h
    · split at h
      · exact (Except.error.inj h).symm
      · cases h
    · exact (Except.error.inj h).symm

theorem took_startEdit (s : Session) (connected : Bool) (id field : String) (value : Value) :
    s.Took (.began connected (.edit id field value))
      (s.startEdit connected id field value).1 (s.startEdit connected id field value).2 := by
  have hchange : ∀ shown : Display,
      shown.result.Revised (shown.result.edited id field value) :=
    fun shown => .edited .refl id field value
  unfold startEdit
  split
  · rename_i fault hrefused
    rw [editableCollection_eq_error hrefused]
    exact .idles_began (ofChange_of_error trivial)
  · split
    · exact .idles_began (ofChange_of_error trivial)
    · cases connected with
      | true => exact .revises _ trivial hchange (Or.inr ⟨_, _, rfl⟩)
      | false => exact .revises _ trivial hchange (Or.inl ⟨_, rfl, ofChange_of_error trivial⟩)

theorem took_startInsert (s : Session) (connected : Bool) (fields : Fields) :
    s.Took (.began connected (.insert fields)) (s.startInsert connected fields).1
      (s.startInsert connected fields).2 := by
  unfold startInsert
  split
  · rename_i fault hrefused
    rw [editableCollection_eq_error hrefused]
    exact .idles_began (ofChange_of_error trivial)
  · exact .idles_began (ofChange_of_error trivial)
  · rename_i collection shown hcollection hshown
    cases connected with
    | true => exact .asks .insert ⟨rfl, shown, hshown, rfl⟩
    | false => exact .idles_began (ofChange_of_error trivial)

/-! ## Answers -/

theorem resumePage_eq (s : Session) (sequence generation : Nat) (move : PageMove)
    (command : Command) (outcome : Outcome) :
    s.resumePage sequence generation move command outcome =
      s.finishPage sequence generation move (command.resume outcome).result := by
  unfold resumePage
  cases command.resume outcome <;> rfl

/-- A page of an older generation changes nothing when it arrives. -/
theorem resume_of_older {s : Session} {outcome : Outcome} {sequence generation : Nat}
    {move : PageMove} {command : Command} (h : generation ≠ s.generation) :
    s.resume outcome (.page sequence generation move command) =
      (s, .finished (.ok (.result (some (command.resume outcome).result)))) := by
  rw [resume, resumePage_eq, finishPage, decide_eq_true h, Bool.true_or, if_pos rfl]

theorem took_resumeRun (s : Session) (sequence : Nat) (statement : String) (command : Command)
    (outcome : Outcome) :
    s.Took (.answered (.run sequence statement command) outcome)
      (s.resumeRun sequence statement command outcome).1
      (s.resumeRun sequence statement command outcome).2 := by
  unfold resumeRun
  split
  · rename_i r hresult
    exact took_finishRun (.answered rfl) rfl (.answered hresult)
  · rename_i call r hresult
    exact .asks (.confirm hresult) rfl

theorem took_finishInsert (s : Session) (ticket : Nat) (statement : String) (fields : Fields)
    (outcome : Outcome) :
    s.Took (.answered (.insert ticket statement fields) outcome)
      (s.finishInsert ticket statement fields (outcome.map Reply.toId)).1
      (s.finishInsert ticket statement fields (outcome.map Reply.toId)).2 := by
  cases outcome with
  | error reason => exact .idles_answered rfl (ofChange_of_error trivial)
  | ok reply =>
      let row := newRow fields reply.toId
      let change (shown : Display) : QueryResult :=
        if shown.ticket = ticket then shown.result.withNewRow row else shown.result
      have hchange : ∀ shown : Display, shown.result.Revised (change shown) := by
        intro shown
        simp only [change]
        split
        · exact .withNewRow .refl row
        · exact .refl
      have hshow : s.showNewRow ticket row =
          { s with displayed := s.displayed.map (fun shown => ⟨shown.ticket, change shown⟩) } := by
        have hrow : (fun shown : Display =>
            if shown.ticket = ticket then { shown with result := shown.result.withNewRow row }
            else shown) = fun shown => ⟨shown.ticket, change shown⟩ := by
          funext shown
          simp only [change]
          split <;> rfl
        rw [showNewRow, hrow]
      show s.Took _ ((s.showNewRow ticket row).record statement true) (.finished (.ok (.row row)))
      rw [hshow]
      exact .revises change trivial hchange (Or.inl ⟨_, rfl, ofChange_of_ok _⟩)

/-- Every entry takes one of the exact turns. -/
theorem took (s : Session) (entry : LogEntry) :
    s.Took entry (entry.turn s).1 (entry.turn s).2 := by
  cases entry with
  | began connected action =>
      cases action with
      | run statement => exact s.took_startRun connected statement
      | nextPage => exact s.took_startNext connected
      | previousPage => exact s.took_startPrevious connected
      | edit id field value => exact s.took_startEdit connected id field value
      | insert fields => exact s.took_startInsert connected fields
      | exportCsv => exact .idles_began (ofChange_of_ok _)
      | reset => exact .resets
  | answered job outcome =>
      cases job with
      | run sequence statement command => exact s.took_resumeRun sequence statement command outcome
      | settled sequence statement command r => exact took_finishRun (.answered rfl) rfl .settled
      | page sequence generation move command =>
          rw [LogEntry.turn, resume, resumePage_eq]
          exact took_finishPage (.answered rfl) rfl .answered id
      | edit statement =>
          cases outcome with
          | ok reply => exact .idles_answered rfl (ofChange_of_ok _)
          | error reason => exact .idles_answered rfl (ofChange_of_error trivial)
      | insert ticket statement fields => exact s.took_finishInsert ticket statement fields outcome
  | called call job outcome =>
      refine .idles (fun job' outcome' hentry => ?_) (ofChange_of_ok _)
      cases hentry

/-! ## Turns of the query -/

theorem Took.turned {s s' : Session} {entry : LogEntry} {reaction : Reaction}
    (h : s.Took entry s' reaction) : s.Turned entry s' reaction := by
  cases h with
  | idles _ hanswer => exact .rests ⟨⟨rfl, rfl, rfl, rfl, rfl, rfl⟩, rfl⟩ hanswer
  | strays _ _ hstrays => exact .strays ⟨⟨rfl, rfl, rfl, rfl, rfl, rfl⟩, rfl⟩ hstrays
  | asks hasks => exact .asks ((Quiet.refl s).issue _) hasks
  | revises change hentry hchange hreaction =>
      refine .revises hentry ⟨⟨rfl, rfl, rfl, rfl, rfl, rfl⟩, fun shown' hshown' => ?_⟩ hreaction
      obtain ⟨shown, hshown, rfl⟩ := Option.map_eq_some_iff.mp hshown'
      exact ⟨shown, hshown, hchange shown⟩
  | drops => exact .rests ⟨⟨rfl, rfl, rfl, rfl, rfl, rfl⟩, rfl⟩ (ofChange_of_ok _)
  | runs _ _ _ hrun => exact .runs ⟨⟨rfl, rfl, rfl, rfl, rfl, rfl⟩, rfl⟩ hrun
  | @enters entry number issued _ _ _ _ _ _ hmove hread hcommit =>
      have hquiet : s.Quiet ({ s with issued := issued }.accept number) :=
        ((Quiet.refl s).issue issued).accept number
      exact .enters hquiet hmove hread hcommit
  | fails _ _ _ hmove hread => exact .fails (((Quiet.refl s).issue _).accept _) hmove hread
  | resets => exact .resets

/-- The start of an action is one of the turns. -/
theorem turned_start (s : Session) (connected : Bool) (action : Action) :
    s.Turned (.began connected action) (s.start connected action).1
      (s.start connected action).2 :=
  (s.took (.began connected action)).turned

/-- The answer to a job is one of the turns. -/
theorem turned_resume (s : Session) (outcome : Outcome) (job : Job) :
    s.Turned (.answered job outcome) (s.resume outcome job).1 (s.resume outcome job).2 :=
  (s.took (.answered job outcome)).turned

end Session

/-! ## Knowledge kept by every turn -/

/-- The entries that may open a turn: admitted actions, and the answers of waiting jobs. -/
def Knowledge.Expects (K : Knowledge) (admitted : ConsoleEvent → Prop) (log : List LogEntry)
    (s : Session) (backend : Backend) : LogEntry → Prop
  | .began connected action => connected = backend.connected ∧ admitted (.act action)
  | .answered job outcome => K.waits log s backend job outcome
  | .called _ _ _ => False

/-- The session after an entry of the log. -/
def LogEntry.leads (s : Session) : LogEntry → Session
  | .began connected action => (s.start connected action).1
  | .answered job outcome => (s.resume outcome job).1
  | .called _ _ _ => s

/-- Knowledge that every turn keeps is kept along runs. -/
theorem Knowledge.Kept.of_turned {K : Knowledge} {admitted : ConsoleEvent → Prop}
    (hturn : ∀ log s backend entry s' reaction, K.now log s backend →
      K.Expects admitted log s backend entry → entry.leads s = s' →
      s.Turned entry s' reaction → K.Passes log s backend entry (s', reaction))
    (hexchange : ∀ log s backend event, admitted event → K.now log s backend →
      K.now log s (event.exchange backend) ∧
        ∀ job outcome, K.waits log s backend job outcome →
          K.waits log s (event.exchange backend) job outcome) : K.Kept admitted where
  start log s backend action hadmitted hnow :=
    hturn log s backend _ _ _ hnow ⟨rfl, hadmitted⟩ rfl
      (s.turned_start backend.connected action)
  resume log s backend job outcome hnow hwaits :=
    hturn log s backend _ _ _ hnow hwaits rfl (s.turned_resume outcome job)
  exchange := hexchange

end DocConsole
