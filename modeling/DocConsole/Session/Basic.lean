import DocConsole.Edit.Optimistic
import DocConsole.Execution
import DocConsole.History
import DocConsole.Paging
import DocConsole.Result.Csv

/-!
# A console session

The state of one session and what its actions do to it.  An action either finishes at once or
makes a store call and leaves a job that says how to go on when the answer comes; in between,
other actions may run.  Nothing that depends on an answer changes before the answer is there.
Requests are numbered as they are issued, and each applied run or reset starts a new generation:
the page of an older generation is dropped, and with discarding switched on so is every response
older than the latest applied one.  Main statement: a job makes at most one further call.
-/

set_option autoImplicit false

namespace DocConsole

open Text

/-! ## State -/

/-- A result on display.  Every result that is put on display gets a ticket of its own. -/
structure Display where
  /-- The ticket. -/
  ticket : Nat
  /-- The result. -/
  result : QueryResult
  deriving DecidableEq

/-- The state of a session. -/
structure Session where
  /-- How many documents a page holds. -/
  pageSize : Int
  /-- Whether responses older than the latest applied one are dropped. -/
  discardStale : Bool
  /-- The executed statements. -/
  history : History
  /-- The visited pages of the active query. -/
  cursors : CursorStack
  /-- The result on display. -/
  displayed : Option Display
  /-- The statement that the display goes back to. -/
  activeStatement : Option String
  /-- The listing that can be paged. -/
  activeCommand : Option Command
  /-- The columns of the first page. -/
  columns : List String
  /-- The number of the latest request. -/
  issued : Nat
  /-- The number of the latest applied response. -/
  applied : Nat
  /-- How many runs were applied and resets made. -/
  generation : Nat
  /-- The next ticket. -/
  nextTicket : Nat
  deriving DecidableEq

/-- What a session is asked to do. -/
inductive Action where
  /-- Execute a statement. -/
  | run (statement : String)
  /-- Show the page after the current one. -/
  | nextPage
  /-- Show the page before the current one. -/
  | previousPage
  /-- Set a field of a document on display. -/
  | edit (id field : String) (value : Value)
  /-- Create a document and show it in front. -/
  | insert (fields : Fields)
  /-- Write the display as comma-separated text. -/
  | exportCsv
  /-- Forget the display, the query and the history. -/
  | reset
  deriving DecidableEq

/-- What an action gives back. -/
inductive Answer where
  /-- Nothing. -/
  | nothing
  /-- A result, if there is one. -/
  | result (r : Option QueryResult)
  /-- The row of a new document. -/
  | row (fields : Fields)
  /-- A text. -/
  | text (s : String)
  deriving DecidableEq

/-- How an action goes on when its store call is answered. -/
inductive Job where
  /-- The first call of a statement was made. -/
  | run (sequence : Nat) (statement : String) (command : Command)
  /-- The result of a statement is settled and only its last call is open. -/
  | settled (sequence : Nat) (statement : String) (command : Command) (result : QueryResult)
  /-- A page of a query was asked for. -/
  | page (sequence generation : Nat) (move : PageMove) (command : Command)
  /-- An edit that already shows was sent to the store. -/
  | edit (statement : String)
  /-- A new document was sent to the store, to be shown in the result of the ticket. -/
  | insert (ticket : Nat) (statement : String) (fields : Fields)
  deriving DecidableEq

/-- What an action or a job comes to. -/
inductive Reaction where
  /-- It is finished. -/
  | finished (answer : Except Fault Answer)
  /-- It makes a store call and waits. -/
  | calling (call : StoreCall) (job : Job)

namespace Session

/-- A session with nothing on display. -/
def initial (pageSize : Int) (discardStale : Bool) : Session where
  pageSize := pageSize
  discardStale := discardStale
  history := []
  cursors := .initial
  displayed := none
  activeStatement := none
  activeCommand := none
  columns := []
  issued := 0
  applied := 0
  generation := 0
  nextTicket := 0

/-- The result on display. -/
def result (s : Session) : Option QueryResult :=
  s.displayed.map (·.result)

/-- The current page. -/
def page (s : Session) : Int :=
  s.cursors.page

/-- A result put on display. -/
def display (s : Session) (r : QueryResult) : Session :=
  { s with displayed := some ⟨s.nextTicket, r⟩, nextTicket := s.nextTicket + 1 }

/-- Whether a response is too old to be applied. -/
def isStale (s : Session) (sequence : Nat) : Bool :=
  s.discardStale && decide (sequence < s.applied)

/-- A response taken note of as applied. -/
def accept (s : Session) (sequence : Nat) : Session :=
  { s with applied := max s.applied sequence }

/-- A statement added to the history. -/
def record (s : Session) (statement : String) (succeeded : Bool) : Session :=
  { s with history := History.record s.history statement succeeded }

/-- The result on display as an answer. -/
def current (s : Session) : Reaction :=
  .finished (.ok (.result s.result))

/-! ## Statements -/

/-- The command that can be paged after a run: a listing that did not fail. -/
def pageable (command : Option Command) (r : QueryResult) : Option Command :=
  match command with
  | some (.select collection filter) =>
      if r.isError then none else some (.select collection filter)
  | _ => none

/-- The result of a statement made current: it starts a new generation and a new cursor stack. -/
def showRun (s : Session) (statement : String) (command : Option Command) (r : QueryResult) :
    Session :=
  { s.display r with
    generation := s.generation + 1
    activeStatement := some statement
    cursors := .initial
    columns := r.columns
    activeCommand := pageable command r }

/-- The end of a run: it goes to the history, and its result is shown unless it is stale. -/
def finishRun (s : Session) (sequence : Nat) (statement : String) (command : Option Command)
    (r : QueryResult) : Session × Reaction :=
  let s := s.record statement (!r.isError)
  let s := if s.isStale sequence then s else (s.accept sequence).showRun statement command r
  (s, .finished (.ok (.result (some r))))

/-- The start of a run.  A blank statement is passed over. -/
def startRun (s : Session) (connected : Bool) (statement : String) : Session × Reaction :=
  if isBlankText statement then (s, s.current)
  else
    let sequence := s.issued + 1
    let s := { s with issued := sequence }
    match Command.read statement with
    | .error fault => s.finishRun sequence statement none (errorResult fault.message)
    | .ok command =>
        if connected then
          (s, .calling (command.firstCall none s.pageSize) (.run sequence statement command))
        else s.finishRun sequence statement (some command) (errorResult Fault.notConnected.message)

/-- The answer to the first call of a run. -/
def resumeRun (s : Session) (sequence : Nat) (statement : String) (command : Command)
    (outcome : Outcome) : Session × Reaction :=
  match command.resume outcome with
  | .finished r => s.finishRun sequence statement (some command) r
  | .confirming call r => (s, .calling call (.settled sequence statement command r))

/-! ## Pages -/

/-- A page put on display, with the columns of the first page when it is a listing. -/
def showPage (s : Session) (move : PageMove) (r : QueryResult) : Session × Reaction :=
  if r.type = .read then
    match s.cursors.commit move with
    | .error fault => (s, .finished (.error fault))
    | .ok cursors =>
        let r := { r with columns := s.columns }
        ({ s with cursors := cursors }.display r, .finished (.ok (.result (some r))))
  else (s.display r, .finished (.ok (.result (some r))))

/-- The end of a move: its page is shown unless it belongs to an older generation or is stale. -/
def finishPage (s : Session) (sequence generation : Nat) (move : PageMove) (r : QueryResult) :
    Session × Reaction :=
  if generation ≠ s.generation || s.isStale sequence then
    (s, .finished (.ok (.result (some r))))
  else (s.accept sequence).showPage move r

/-- A page asked for. -/
def fetchPage (s : Session) (connected : Bool) (command : Command) (move : PageMove) :
    Session × Reaction :=
  let sequence := s.issued + 1
  let s := { s with issued := sequence }
  if connected then
    (s, .calling (command.firstCall move.cursor s.pageSize)
      (.page sequence s.generation move command))
  else s.finishPage sequence s.generation move (errorResult Fault.notConnected.message)

/-- The start of a move to the next page: nothing happens without a query or a result, and after a
page that reported no cursor. -/
def startNext (s : Session) (connected : Bool) : Session × Reaction :=
  match s.displayed, s.activeCommand with
  | some shown, some command =>
      match s.cursors.planAdvance shown.result.pageCursor with
      | .ok (some move) => s.fetchPage connected command move
      | .ok none => (s, s.current)
      | .error fault => (s, .finished (.error fault))
  | _, _ => (s, s.current)

/-- The start of a move to the previous page: nothing happens without a query and on page one. -/
def startPrevious (s : Session) (connected : Bool) : Session × Reaction :=
  match s.activeCommand with
  | some command =>
      match s.cursors.planRetreat with
      | .ok (some move) => s.fetchPage connected command move
      | .ok none => (s, s.current)
      | .error fault => (s, .finished (.error fault))
  | none => (s, s.current)

/-- The answer to the call for a page. -/
def resumePage (s : Session) (sequence generation : Nat) (move : PageMove) (command : Command)
    (outcome : Outcome) : Session × Reaction :=
  match command.resume outcome with
  | .finished r => s.finishPage sequence generation move r
  | .confirming _ r => s.finishPage sequence generation move r

/-! ## Optimistic changes -/

/-- The end of an edit, with whether the store took it. -/
def finishEdit (s : Session) (statement : String) (outcome : Except Fault Unit) :
    Session × Reaction :=
  match outcome with
  | .ok () => (s.record statement true, .finished (.ok .nothing))
  | .error fault =>
      (s.record statement false, .finished (.error (.changeFailed .edit fault.message)))

/-- The start of an edit: it shows at once. -/
def startEdit (s : Session) (connected : Bool) (id field : String) (value : Value) :
    Session × Reaction :=
  match editableCollection s.result with
  | .error fault => (s, .finished (.error fault))
  | .ok collection =>
      if field = "id" then (s, .finished (.error .idNotEditable))
      else
        let s := { s with displayed := s.displayed.map (fun shown =>
          { shown with result := shown.result.edited id field value }) }
        let statement := editStatement collection id field value
        if connected then
          (s, .calling (.update collection (some id) [(field, value)]) (.edit statement))
        else s.finishEdit statement (.error .notConnected)

/-- A new row put in front of the result of a ticket, if that is still on display. -/
def showNewRow (s : Session) (ticket : Nat) (row : Fields) : Session :=
  { s with displayed := s.displayed.map (fun shown =>
      if shown.ticket = ticket then { shown with result := shown.result.withNewRow row }
      else shown) }

/-- The end of an insertion, with the id that the store gave. -/
def finishInsert (s : Session) (ticket : Nat) (statement : String) (fields : Fields)
    (outcome : Except Fault String) : Session × Reaction :=
  match outcome with
  | .ok id =>
      let row := newRow fields id
      ((s.showNewRow ticket row).record statement true, .finished (.ok (.row row)))
  | .error fault =>
      (s.record statement false, .finished (.error (.changeFailed .insert fault.message)))

/-- The start of an insertion. -/
def startInsert (s : Session) (connected : Bool) (fields : Fields) : Session × Reaction :=
  match editableCollection s.result, s.displayed with
  | .error fault, _ => (s, .finished (.error fault))
  | .ok _, none => (s, .finished (.error .notEditable))
  | .ok collection, some shown =>
      let statement := insertStatement collection fields
      if connected then
        (s, .calling (.create collection fields) (.insert shown.ticket statement fields))
      else s.finishInsert shown.ticket statement fields (.error .notConnected)

/-! ## Everything else -/

/-- The display as comma-separated text. -/
def exportText (s : Session) : String :=
  match s.result with
  | some r => Csv.ofResult r
  | none => ""

/-- The display, the query and the history forgotten. -/
def reset (s : Session) : Session :=
  { s with
    generation := s.generation + 1
    displayed := none
    activeStatement := none
    activeCommand := none
    columns := []
    cursors := .initial
    history := [] }

/-- The start of an action; `connected` tells whether there is an open store. -/
def start (s : Session) (connected : Bool) : Action → Session × Reaction
  | .run statement => s.startRun connected statement
  | .nextPage => s.startNext connected
  | .previousPage => s.startPrevious connected
  | .edit id field value => s.startEdit connected id field value
  | .insert fields => s.startInsert connected fields
  | .exportCsv => (s, .finished (.ok (.text s.exportText)))
  | .reset => (s.reset, .finished (.ok .nothing))

/-- The answer to the call of a job. -/
def resume (s : Session) (outcome : Outcome) : Job → Session × Reaction
  | .run sequence statement command => s.resumeRun sequence statement command outcome
  | .settled sequence statement command r => s.finishRun sequence statement (some command) r
  | .page sequence generation move command => s.resumePage sequence generation move command outcome
  | .edit statement => s.finishEdit statement (outcome.map (fun _ => ()))
  | .insert ticket statement fields =>
      s.finishInsert ticket statement fields (outcome.map Reply.toId)

end Session

/-! ## A job makes at most one further call -/

/-- How many calls a job may still make. -/
def Job.furtherCalls : Job → Nat
  | .run _ _ _ => 1
  | _ => 0

/-- How many calls may still be made from here on. -/
def Reaction.callsLeft : Reaction → Nat
  | .finished _ => 0
  | .calling _ job => job.furtherCalls + 1

namespace Session

theorem callsLeft_finishRun (s : Session) (sequence : Nat) (statement : String)
    (command : Option Command) (r : QueryResult) :
    (s.finishRun sequence statement command r).2.callsLeft = 0 := rfl

theorem callsLeft_showPage (s : Session) (move : PageMove) (r : QueryResult) :
    (s.showPage move r).2.callsLeft = 0 := by
  unfold showPage
  split
  · split <;> rfl
  · rfl

theorem callsLeft_finishPage (s : Session) (sequence generation : Nat) (move : PageMove)
    (r : QueryResult) : (s.finishPage sequence generation move r).2.callsLeft = 0 := by
  unfold finishPage
  split
  · rfl
  · exact callsLeft_showPage _ _ _

/-- After the answer to its call a job has fewer calls left than before. -/
theorem callsLeft_resume_le (s : Session) (outcome : Outcome) (job : Job) :
    (s.resume outcome job).2.callsLeft ≤ job.furtherCalls := by
  cases job with
  | run sequence statement command =>
    simp only [resume, resumeRun, Job.furtherCalls]
    split
    · simp [callsLeft_finishRun]
    · simp [Reaction.callsLeft, Job.furtherCalls]
  | settled sequence statement command r => simp [resume, callsLeft_finishRun]
  | page sequence generation move command =>
    simp only [resume, resumePage]
    split <;> simp [callsLeft_finishPage]
  | edit statement =>
    simp only [resume, finishEdit]
    split <;> simp [Reaction.callsLeft]
  | insert ticket statement fields =>
    simp only [resume, finishInsert]
    split <;> simp [Reaction.callsLeft]

end Session

end DocConsole
