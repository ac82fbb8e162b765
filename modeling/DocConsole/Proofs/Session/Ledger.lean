import DocConsole.Proofs.Session.LastRun

/-!
# What the history accounts for

Every action owes the history something that is fixed when it begins: a run its statement, with
whether its own result succeeds; an edit or an insertion that is let through its display statement,
with whether the store took it; and everything else nothing.  A ledger books what is paid as the
actions are resolved, from nothing but the actions that begin and the answers they end with.  Main
statement: whatever overlaps, fails or is discarded, the history is what was paid since the last
reset, every action is resolved once or still waits, and no entry ever changes.
-/

set_option autoImplicit false

namespace DocConsole

open Text

/-! ## What actions owe -/

/-- What an action owes the history once it is resolved. -/
inductive Due where
  /-- No entry. -/
  | nothing
  /-- An entry for a statement, with whether the action ends with a result that is no error. -/
  | statement (text : String)
  /-- An entry that is known from the start. -/
  | known (entry : HistoryEntry)
  deriving DecidableEq

/-- Whether an action ended with a result that is no error. -/
def answerSucceeds : Except Fault Answer → Bool
  | .ok (.result (some r)) => !r.isError
  | _ => false

/-- What an action that ends with an answer pays. -/
def Due.paid (answer : Except Fault Answer) : Due → History
  | .nothing => []
  | .statement text => [⟨text, answerSucceeds answer⟩]
  | .known entry => [entry]

/-- Whether a call to the store would succeed now. -/
def Backend.takes (backend : Backend) (call : StoreCall) : Bool :=
  (backend.perform call).1.isOk

/-- What an action owes that begins now.  A blank statement is passed over, and a change that is
turned down leaves no trace.  The words of the entry for a change are written out: the collection,
and the field with its value and the id, or all the fields. -/
def Session.due (s : Session) (backend : Backend) : Action → Due
  | .run statement => if isBlankText statement then .nothing else .statement statement
  | .edit id field value =>
      match editableCollection s.result with
      | .error _ => .nothing
      | .ok collection =>
          if field = "id" then .nothing
          else .known
            ⟨"UPDATE " ++ collection ++ " SET " ++ field ++ " = " ++ shownValue value ++
                " WHERE id = '" ++ id ++ "' (Inline Edit)",
              backend.takes (.update collection (some id) [(field, value)])⟩
  | .insert fields =>
      match editableCollection s.result with
      | .error _ => .nothing
      | .ok collection => .known
          ⟨"INSERT INTO " ++ collection ++ " JSON " ++ Json.write .spaced (.obj fields) ++
              " (Inline Insert)",
            backend.takes (.create collection fields)⟩
  | _ => .nothing

/-- What is left of the history when an action begins: only a reset clears it. -/
def Action.leaves (history : History) : Action → History
  | .reset => []
  | _ => history

/-! ## The ledger -/

/-- What the actions of a console owe and what was paid. -/
structure Ledger where
  /-- What each action owes, in the order in which they began. -/
  dues : List Due
  /-- The numbers of the resolved actions, in the order in which they were resolved. -/
  resolved : List Nat
  /-- What was paid since the last reset. -/
  entries : History

namespace Ledger

/-- Nothing was done yet. -/
def empty : Ledger :=
  ⟨[], [], []⟩

/-- The action that begins with an event is booked with what it owes. -/
def begin (l : Ledger) (c : Console) : ConsoleEvent → Ledger
  | .act action =>
      ⟨l.dues ++ [c.session.due c.backend action], l.resolved, action.leaves l.entries⟩
  | .disconnect => { l with dues := l.dues ++ [.nothing] }
  | .connect _ _ => { l with dues := l.dues ++ [.nothing] }
  | _ => l

/-- Resolved actions are booked with what they pay. -/
def resolve (l : Ledger) (finished : List (Nat × Except Fault Answer)) : Ledger :=
  { l with
    resolved := l.resolved ++ finished.map (·.1)
    entries := l.entries ++ finished.flatMap (fun f => (l.dues.getD f.1 .nothing).paid f.2) }

/-- An event is booked. -/
def book (l : Ledger) (c : Console) (event : ConsoleEvent) : Ledger :=
  (l.begin c event).resolve (c.handle event).2.finished

end Ledger

/-- The ledger after a row of events. -/
def Console.ledger (c : Console) (l : Ledger) : List ConsoleEvent → Ledger
  | [] => l
  | event :: rest => ledger (c.handle event).1 (l.book c event) rest

/-! ## Turns -/

/-- What a job owes whose answer is out. -/
def Job.due (outcome : Outcome) : Job → Due
  | .run _ statement _ => .statement statement
  | .settled _ statement _ _ => .statement statement
  | .page _ _ _ _ => .nothing
  | .edit statement => .known ⟨statement, outcome.isOk⟩
  | .insert _ statement _ => .known ⟨statement, outcome.isOk⟩

/-- A turn leads from a history to one with what is due, or to a job that still owes it. -/
inductive Due.Settles (due : Due) (history : History) (backend : Backend) :
    Session × Reaction → Prop
  | pays {s : Session} {answer : Except Fault Answer}
      (hhistory : s.history = history ++ due.paid answer) :
      Settles due history backend (s, .finished answer)
  | waits {s : Session} {call : StoreCall} {job : Job} (hhistory : s.history = history)
      (hdue : job.due (backend.perform call).1 = due) :
      Settles due history backend (s, .calling call job)

/-- A turn that adds no entry and ends its action pays what it owes, if that is nothing. -/
theorem Due.Settles.rests {s : Session} {history : History} (backend : Backend)
    {answer : Except Fault Answer} (hhistory : s.history = history) :
    Due.nothing.Settles history backend (s, .finished answer) :=
  .pays (hhistory.trans (List.append_nil _).symm)

/-- No call succeeds without an open store. -/
theorem Backend.takes_of_unconnected {backend : Backend} (h : backend.connected = false)
    (call : StoreCall) : backend.takes call = false := by
  unfold takes perform
  split
  · rfl
  · unfold connected at h
    split at h
    · rename_i store hstore
      rw [hstore]
      simp only [h, Bool.false_eq_true, if_false]
      rfl
    · rename_i hstore
      rw [hstore]
      rfl

namespace Session

variable {s : Session} {backend : Backend}

theorem settles_finishRun (s : Session) (backend : Backend) (number : Nat) (statement : String)
    (command : Option Command) (r : QueryResult) :
    (Due.statement statement).Settles s.history backend
      (s.finishRun number statement command r) := by
  rw [finishRun_eq]
  refine .pays ?_
  simp only [finishRun]
  split <;> rfl

theorem settles_finishPage (s : Session) (backend : Backend) (number generation : Nat)
    (move : PageMove) (r : QueryResult) :
    Due.nothing.Settles s.history backend (s.finishPage number generation move r) := by
  unfold finishPage
  split
  · exact .rests backend rfl
  · unfold showPage
    split
    · split
      · exact .rests backend rfl
      · exact .rests backend rfl
    · exact .rests backend rfl

theorem settles_fetchPage (s : Session) (backend : Backend) (command : Command)
    (move : PageMove) :
    Due.nothing.Settles s.history backend (s.fetchPage backend.connected command move) := by
  unfold fetchPage
  dsimp only
  split
  · exact .waits rfl rfl
  · exact settles_finishPage { s with issued := s.issued + 1 } backend _ _ _ _

theorem settles_startRun (s : Session) (backend : Backend) (statement : String) :
    (s.due backend (.run statement)).Settles s.history backend
      (s.startRun backend.connected statement) := by
  unfold startRun
  dsimp only [due]
  split
  · exact .rests backend rfl
  · split
    · exact settles_finishRun { s with issued := s.issued + 1 } _ _ _ _ _
    · split
      · exact .waits rfl rfl
      · exact settles_finishRun { s with issued := s.issued + 1 } _ _ _ _ _

theorem settles_startNext (s : Session) (backend : Backend) :
    Due.nothing.Settles s.history backend (s.startNext backend.connected) := by
  unfold startNext
  split
  · split
    · exact settles_fetchPage _ _ _ _
    · exact .rests backend rfl
    · exact .rests backend rfl
  · exact .rests backend rfl

theorem settles_startPrevious (s : Session) (backend : Backend) :
    Due.nothing.Settles s.history backend (s.startPrevious backend.connected) := by
  unfold startPrevious
  split
  · split
    · exact settles_fetchPage _ _ _ _
    · exact .rests backend rfl
    · exact .rests backend rfl
  · exact .rests backend rfl

theorem settles_startEdit (s : Session) (backend : Backend) (id field : String) (value : Value) :
    (s.due backend (.edit id field value)).Settles s.history backend
      (s.startEdit backend.connected id field value) := by
  rw [startEdit, due]
  cases editableCollection s.result with
  | error fault => exact .rests backend rfl
  | ok collection =>
      dsimp only
      split
      · exact .rests backend rfl
      · cases hconnected : backend.connected with
        | true => exact .waits rfl rfl
        | false =>
            rw [Backend.takes_of_unconnected hconnected]
            exact .pays rfl

theorem settles_startInsert (s : Session) (backend : Backend) (fields : Fields) :
    (s.due backend (.insert fields)).Settles s.history backend
      (s.startInsert backend.connected fields) := by
  rw [startInsert, due]
  cases hdisplayed : s.displayed with
  | none =>
      have hresult : s.result = none := by rw [result, hdisplayed, Option.map_none]
      rw [hresult]
      exact .rests backend rfl
  | some shown =>
      cases editableCollection s.result with
      | error fault => exact .rests backend rfl
      | ok collection =>
          cases hconnected : backend.connected with
          | true => exact .waits rfl rfl
          | false =>
              dsimp only
              rw [Backend.takes_of_unconnected hconnected]
              exact .pays rfl

/-- The start of an action pays what it owes, or leaves it to its job. -/
theorem settles_start (s : Session) (backend : Backend) (action : Action) :
    (s.due backend action).Settles (action.leaves s.history) backend
      (s.start backend.connected action) := by
  cases action with
  | run statement => exact s.settles_startRun backend statement
  | nextPage => exact s.settles_startNext backend
  | previousPage => exact s.settles_startPrevious backend
  | edit id field value => exact s.settles_startEdit backend id field value
  | insert fields => exact s.settles_startInsert backend fields
  | exportCsv => exact .rests backend rfl
  | reset => exact .rests backend rfl

/-- The answer to a job pays what it owes, or leaves it to the next job. -/
theorem settles_resume (s : Session) (backend : Backend) (outcome : Outcome) (job : Job) :
    (job.due outcome).Settles s.history backend (s.resume outcome job) := by
  cases job with
  | run number statement command =>
      rw [resume, resumeRun]
      split
      · exact s.settles_finishRun _ _ _ _ _
      · exact .waits rfl rfl
  | settled number statement command r => exact s.settles_finishRun _ _ _ _ _
  | page number generation move command =>
      rw [resume, resumePage_eq]
      exact s.settles_finishPage _ _ _ _ _
  | edit statement => cases outcome <;> exact .pays rfl
  | insert ticket statement fields => cases outcome <;> exact .pays rfl

end Session

/-! ## Events -/

/-- What carrying on the reaction of an action comes to: the action is resolved and paid what was
due, or one more call waits that still owes it. -/
inductive Console.Carries (c : Console) (action : Nat) (due : Due) (history : History) :
    Console × Report → Prop
  | resolved {c' : Console} {answer : Except Fault Answer} {calls : List StoreCall}
      (hheld : c'.held = c.held) (hactions : c'.actions = c.actions)
      (hhistory : c'.session.history = history ++ due.paid answer) :
      Carries c action due history (c', ⟨[(action, answer)], calls⟩)
  | held {c' : Console} {call : HeldCall} {calls : List StoreCall}
      (hheld : c'.held = c.held ++ [call]) (hactions : c'.actions = c.actions)
      (haction : call.action = action) (hdue : call.job.due call.outcome = due)
      (hhistory : c'.session.history = history) :
      Carries c action due history (c', ⟨[], calls⟩)

/-- A call that was answered at once shows in the report and nowhere else. -/
theorem Console.Carries.afterCall (c : Console) {c₁ : Console} {action : Nat} {due : Due}
    {history : History} {x : Console × Report} (h : c₁.Carries action due history x)
    (hheld : c₁.held = c.held) (hactions : c₁.actions = c.actions) (call : StoreCall) :
    c.Carries action due history (x.1, x.2.afterCall call) := by
  cases h with
  | resolved hheld' hactions' hhistory =>
      exact .resolved (hheld'.trans hheld) (hactions'.trans hactions) hhistory
  | held hheld' hactions' haction hdue hhistory =>
      exact .held (hheld ▸ hheld') (hactions'.trans hactions) haction hdue hhistory

theorem Console.carries_carryOn (c : Console) (action : Nat) (reaction : Reaction) (due : Due)
    (history : History) (h : due.Settles history c.backend (c.session, reaction)) :
    c.Carries action due history (c.carryOn action reaction) := by
  fun_induction Console.carryOn c action reaction generalizing due history with
  | case1 c answer =>
      cases h with
      | pays hhistory => exact .resolved rfl rfl hhistory
  | case2 c call job answered c' hholding =>
      cases h with
      | waits hhistory hdue => exact .held rfl rfl rfl hdue hhistory
  | case3 c call job answered c' hholding next rest ih =>
      cases h with
      | waits hhistory hdue =>
          have hnext := c.session.settles_resume answered.2 answered.1 job
          rw [hdue, hhistory] at hnext
          exact (ih due history hnext).afterCall c rfl rfl call

/-- The books are right: the history is what was paid, every action has its due and was resolved
once or waits, and what waits still owes its due. -/
structure Console.Balanced (c : Console) (l : Ledger) : Prop where
  history : c.session.history = l.entries
  dues : l.dues.length = c.actions
  held : ∀ call ∈ c.held, l.dues[call.action]? = some (call.job.due call.outcome)
  once : (l.resolved ++ c.held.map (·.action)).Perm (List.range c.actions)

/-- The books are right but for one action that is in the middle of a turn. -/
structure Console.Owing (c : Console) (l : Ledger) (action : Nat) (due : Due) : Prop where
  dues : l.dues.length = c.actions
  held : ∀ call ∈ c.held, l.dues[call.action]? = some (call.job.due call.outcome)
  own : l.dues[action]? = some due
  once : (l.resolved ++ (c.held.map (·.action) ++ [action])).Perm (List.range c.actions)

/-- At the end of the turn the books are right again. -/
theorem Console.Owing.balanced {c : Console} {l : Ledger} {action : Nat} {due : Due}
    (h : c.Owing l action due) {x : Console × Report}
    (hcarries : c.Carries action due l.entries x) :
    x.1.Balanced (l.resolve x.2.finished) := by
  cases hcarries with
  | resolved hheld hactions hhistory =>
      refine ⟨?_, h.dues.trans hactions.symm, fun call hcall => h.held call (hheld ▸ hcall), ?_⟩
      · rw [hhistory, Ledger.resolve]
        simp only [List.flatMap_singleton, List.getD_eq_getElem?_getD, h.own, Option.getD_some]
      · rw [hheld, hactions]
        refine List.Perm.trans ?_ h.once
        rw [Ledger.resolve, List.append_assoc]
        exact (List.perm_append_comm).append_left _
  | @held c' call calls hheld hactions haction hdue hhistory =>
      refine ⟨?_, h.dues.trans hactions.symm, fun call' hcall' => ?_, ?_⟩
      · rw [hhistory, Ledger.resolve]
        simp only [List.flatMap_nil, List.append_nil]
      · rw [hheld] at hcall'
        rcases List.mem_append.mp hcall' with hold | hnew
        · exact h.held call' hold
        · rw [List.mem_singleton.mp hnew, haction, hdue]
          exact h.own
      · rw [hheld, hactions, List.map_append, List.map_singleton, haction]
        simp only [Ledger.resolve, List.map_nil, List.append_nil]
        exact h.once

namespace Console.Balanced

variable {c : Console} {l : Ledger}

/-- An action that begins owes what is booked for it. -/
theorem begin_act (h : c.Balanced l) (action : Action) (s : Session) :
    Console.Owing { c with session := s, actions := c.actions + 1 } (l.begin c (.act action))
      c.actions (c.session.due c.backend action) := by
  refine ⟨?_, fun call hcall => ?_, ?_, ?_⟩
  · rw [Ledger.begin, List.length_append, h.dues, List.length_singleton]
  · have hdue := h.held call hcall
    rw [Ledger.begin, List.getElem?_append_left (List.getElem?_eq_some_iff.mp hdue).1]
    exact hdue
  · rw [Ledger.begin, ← h.dues, List.getElem?_concat_length]
  · rw [List.range_succ, Ledger.begin, ← List.append_assoc]
    exact h.once.append_right _

/-- An action of the connection alone owes nothing and is resolved at once. -/
theorem reconnect (h : c.Balanced l) (backend : Backend) :
    (c.reconnect backend).1.Balanced (Ledger.resolve
      { l with dues := l.dues ++ [.nothing] } (c.reconnect backend).2.finished) := by
  have howing : Console.Owing { c with backend := backend, actions := c.actions + 1 }
      { l with dues := l.dues ++ [.nothing] } c.actions .nothing := by
    have hbegun := h.begin_act .exportCsv c.session
    exact ⟨hbegun.dues, hbegun.held, hbegun.own, hbegun.once⟩
  refine howing.balanced (.resolved rfl rfl ?_)
  exact h.history.trans (List.append_nil _).symm

/-- An event that resolves nothing books nothing. -/
theorem resolve_nil (h : c.Balanced l) : c.Balanced (l.resolve []) := by
  rwa [Ledger.resolve, List.map_nil, List.flatMap_nil, List.append_nil, List.append_nil]

/-- The action whose answer arrives owes what its job owed. -/
theorem answered (h : c.Balanced l) {front back : List HeldCall} {call : HeldCall}
    (hheld : c.held = front ++ call :: back) (s : Session) :
    Console.Owing { c with session := s, held := front ++ back } l call.action
      (call.job.due call.outcome) := by
  have hsub : ∀ other ∈ front ++ back, other ∈ c.held := by
    intro other hother
    rw [hheld]
    exact (List.mem_append.mp hother).elim (List.mem_append_left _)
      fun hback => List.mem_append_right _ (List.mem_cons_of_mem _ hback)
  refine ⟨h.dues, fun other hother => h.held other (hsub other hother), ?_, ?_⟩
  · exact h.held call (hheld ▸ List.mem_append_right _ List.mem_cons_self)
  · refine List.Perm.trans (List.Perm.append_left _ ?_) h.once
    rw [hheld, List.map_append, List.map_append, List.map_cons, List.append_assoc]
    exact (List.perm_append_singleton _ _).append_left _

/-- A booked event keeps the books right. -/
theorem handle (h : c.Balanced l) (hgated : c.Gated) (event : ConsoleEvent) :
    (c.handle event).1.Balanced (l.book c event) := by
  cases event with
  | act action =>
      have hstart := c.session.settles_start c.backend action
      rw [h.history] at hstart
      exact (h.begin_act action _).balanced (Console.carries_carryOn _ _ _ _ _ hstart)
  | release gate =>
      rw [Ledger.book, Console.handle, Console.release]
      split
      · exact h.resolve_nil
      · rename_i call hfound
        obtain ⟨front, back, hheld, hfilter⟩ := hgated.exists_split hfound
        have hresume := c.session.settles_resume c.backend call.outcome call.job
        rw [h.history] at hresume
        rw [hfilter]
        exact (h.answered hheld _).balanced (Console.carries_carryOn _ _ _ _ _ hresume)
  | disconnect => exact h.reconnect _
  | connect store failures => exact h.reconnect _
  | setFailures failures => exact ⟨h.resolve_nil.history, h.dues, h.held, h.resolve_nil.once⟩
  | setHolding on => exact ⟨h.resolve_nil.history, h.dues, h.held, h.resolve_nil.once⟩

/-- The books are right after every row of events. -/
theorem after (h : c.Balanced l) (hgated : c.Gated) (events : List ConsoleEvent) :
    (c.after events).Balanced (c.ledger l events) := by
  induction events generalizing c l with
  | nil => exact h
  | cons event rest ih => exact ih (h.handle hgated event) (hgated.handle event)

/-- Only a reset takes entries out of the history. -/
theorem prefix_handle (h : c.Balanced l) (hgated : c.Gated) {event : ConsoleEvent}
    (hevent : event ≠ .act .reset) :
    c.session.history <+: (c.handle event).1.session.history := by
  have hkept : (l.begin c event).entries = l.entries := by
    cases event with
    | act action =>
        cases action with
        | reset => exact absurd rfl hevent
        | _ => rfl
    | _ => rfl
  rw [h.history, (h.handle hgated event).history, Ledger.book, Ledger.resolve, hkept]
  exact List.prefix_append _ _

end Console.Balanced

theorem Console.balanced_fresh (pageSize : Int) (discardStale : Bool) (backend : Backend) :
    (Console.fresh pageSize discardStale backend).Balanced .empty :=
  ⟨rfl, rfl, fun call hcall => (by cases hcall), .refl _⟩

/-- After any events, with answers in any order and whether or not old responses are discarded: the
history holds, in the order in which the actions were resolved since the last reset, exactly what
each of them owed; every action that was started is resolved once or still waits for one answer; and
no event but a reset takes an entry back or changes it. -/
theorem history_accounts_for_every_action (pageSize : Int) (discardStale : Bool)
    (backend : Backend) (events : List ConsoleEvent) :
    let c := (Console.fresh pageSize discardStale backend).after events
    let l := (Console.fresh pageSize discardStale backend).ledger .empty events
    c.session.history = l.entries ∧ l.dues.length = c.actions ∧
      (l.resolved ++ c.held.map (·.action)).Perm (List.range c.actions) ∧
      ∀ event, event ≠ .act .reset →
        c.session.history <+: (c.handle event).1.session.history := by
  intro c l
  have hgated := Console.gated_fresh pageSize discardStale backend
  have hbalanced : c.Balanced l :=
    (Console.balanced_fresh pageSize discardStale backend).after hgated events
  have hafter : c.Gated := Console.gated_after_fresh pageSize discardStale backend events
  exact ⟨hbalanced.history, hbalanced.dues, hbalanced.once,
    fun event hevent => hbalanced.prefix_handle hafter hevent⟩

end DocConsole
