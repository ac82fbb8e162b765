import DocConsole.Proofs.Session.Exhibits
import DocConsole.Proofs.Session.LastRun

/-!
# Where changes go

A change is asked for while one result is on display, and by the time its answer arrives another one
may be.  The answer to an edit touches no rows, since the edit was made before the store was asked;
that to an insertion carries the ticket of the result it was made on.  Main statement: in every
state that any events lead to, a change writes to the collection of the result on display and
changes the rows of that result alone, the edited ones now and the new one when its answer arrives,
and every row of a listing on display has an id from its own collection.
-/

set_option autoImplicit false

namespace DocConsole

/-! ## The start of a change -/

/-- The call that a change makes in a collection. -/
def Action.write? (collection : String) : Action → Option StoreCall
  | .edit id field value => some (.update collection (some id) [(field, value)])
  | .insert fields => some (.create collection fields)
  | _ => none

/-- What a change does to the rows when it is asked for: an edit is made in the rows of its id. -/
def Action.RowsAsked : Action → List Fields → List Fields → Prop
  | .edit id field value => List.Forall₂ (RowEdited id field value)
  | _ => Eq

/-- What the answer to a change does to the rows, once there is one: a document that was created
gets a row in front of all others. -/
def Action.RowsAnswered (change : Action) (answer? : Option Outcome) :
    List Fields → List Fields → Prop :=
  match change, answer? with
  | .insert fields, some (.ok reply) => fun rows rows' =>
      ∃ row, Fields.Assigned "id" (.str reply.toId) fields row ∧ rows' = row :: rows
  | _, _ => Eq

@[simp] theorem Action.rowsAnswered_none (change : Action) : change.RowsAnswered none = Eq := by
  cases change <;> rfl

/-- The answer that a call gets at once: there is none without an open store, and none yet while
answers are held back. -/
def Console.answerAtOnce? (c : Console) (call : StoreCall) : Option Outcome :=
  if c.backend.connected && !c.holding then some (c.backend.perform call).1 else none

/-- A job whose answer ends a change that was made on the result of a ticket. -/
def Job.GoesTo (ticket : Nat) (change : Action) (job : Job) : Prop :=
  match change, job with
  | .edit _ _ _, .edit _ => True
  | .insert fields, .insert own _ fields' => own = ticket ∧ fields' = fields
  | _, _ => False

section

variable {s : Session} {shown : Display} {collection : String} {action : Action}

/-- A change makes one call, in its collection, when there is an open store. -/
theorem Session.TakesChange.start_connected (h : s.TakesChange shown collection action) :
    ∃ s' call job, s.start true action = (s', .calling call job) ∧
      action.write? collection = some call ∧ job.GoesTo shown.ticket action := by
  cases action with
  | edit id field value =>
      obtain ⟨hshown, hfield⟩ := h
      exact ⟨_, _, _, hshown.start_edit id hfield value, rfl, trivial⟩
  | insert fields => exact ⟨_, _, _, Session.ShowsListing.start_insert h fields, rfl, rfl, rfl⟩
  | _ => exact absurd h id

/-- Without one it ends at once. -/
theorem Session.TakesChange.start_unconnected (h : s.TakesChange shown collection action) :
    ∃ s' answer, s.start false action = (s', .finished answer) := by
  cases action with
  | edit id field value =>
      obtain ⟨hshown, hfield⟩ := h
      exact ⟨_, _, hshown.start_edit_unconnected id hfield value⟩
  | insert fields => exact ⟨_, _, Session.ShowsListing.start_insert_unconnected h fields⟩
  | _ => exact absurd h id

/-- The call of a change leaves the documents of all other collections alone. -/
theorem Backend.documents_perform_write {backend : Backend} {store : Store} {call : StoreCall}
    (hwrite : action.write? collection = some call) (hstore : backend.store = some store) :
    ∃ store', (backend.perform call).2.store = some store' ∧
      ∀ other, other ≠ collection → store'.documents other = store.documents other := by
  cases hperform : (backend.perform call).1 with
  | error fault =>
      rw [Backend.perform_of_error hstore hperform]
      exact ⟨store, hstore, fun _ _ => rfl⟩
  | ok reply =>
      cases action with
      | edit id field value =>
          obtain rfl := Option.some.inj hwrite
          obtain ⟨store', hupdate, hbackend⟩ := Backend.perform_update_of_ok hstore hperform
          obtain ⟨fields, -, rfl⟩ := Store.update_eq_ok hupdate
          rw [hbackend]
          refine ⟨_, rfl, fun other hother => ?_⟩
          rw [Store.documents_withShelf, if_neg hother]
      | insert fields =>
          obtain rfl := Option.some.inj hwrite
          obtain ⟨-, hbackend⟩ := Backend.perform_create_of_ok hstore hperform
          rw [hbackend]
          exact ⟨_, rfl, (store.sameOutside_put collection _ fields).documents⟩
      | _ => cases hwrite

end

/-! ## One result among the others -/

/-- Only the result of a ticket is changed, and of it only the rows, in a given way. -/
structure OnlyChanges (ticket : Nat) (change : List Fields → List Fields → Prop)
    (exhibits exhibits' : List QueryResult) : Prop where
  length : exhibits'.length = exhibits.length
  others : ∀ other, other ≠ ticket → exhibits'[other]? = exhibits[other]?
  own : ∀ r : QueryResult, exhibits[ticket]? = some r →
    ∃ r', exhibits'[ticket]? = some r' ∧ r.Revised r' ∧ change r.rows r'.rows

section

variable {exhibits exhibits' exhibits'' : List QueryResult} {ticket : Nat}
  {change change' : List Fields → List Fields → Prop}

theorem OnlyChanges.refl (ticket : Nat) (exhibits : List QueryResult) :
    OnlyChanges ticket Eq exhibits exhibits :=
  ⟨rfl, fun _ _ => rfl, fun r hr => ⟨r, hr, .refl, rfl⟩⟩

theorem OnlyChanges.trans (h : OnlyChanges ticket change exhibits exhibits')
    (h' : OnlyChanges ticket change' exhibits' exhibits'') :
    OnlyChanges ticket (Relation.Comp change change') exhibits exhibits'' := by
  refine ⟨h'.length.trans h.length,
    fun other hother => (h'.others other hother).trans (h.others other hother), fun r hr => ?_⟩
  obtain ⟨r', hr', hrevised, hrows⟩ := h.own r hr
  obtain ⟨r'', hr'', hrevised', hrows'⟩ := h'.own r' hr'
  exact ⟨r'', hr'', hrevised.trans hrevised', r'.rows, hrows, hrows'⟩

theorem onlyChanges_modify {revise : QueryResult → QueryResult} (ticket : Nat)
    (exhibits : List QueryResult) (hrevised : ∀ r : QueryResult, r.Revised (revise r))
    (hrows : ∀ r : QueryResult, change r.rows (revise r).rows) :
    OnlyChanges ticket change exhibits (exhibits.modify ticket revise) := by
  refine ⟨List.length_modify _ _ _, fun other hother => ?_,
    fun r hr => ⟨revise r, ?_, hrevised r, hrows r⟩⟩
  · exact List.getElem?_modify_ne revise exhibits hother.symm
  · rw [List.getElem?_modify_eq, hr]
    rfl

end

/-! ## One turn of a change -/

section

variable {s : Session} {shown : Display} {collection : String} {action : Action}
  {entry : LogEntry} {job : Job} {ticket : Nat}

theorem onlyChanges_unveils (ticket : Nat) (exhibits : List QueryResult)
    (htickets : (entry.leads s).nextTicket = s.nextTicket) :
    OnlyChanges ticket Eq exhibits (exhibits ++ entry.unveils s) := by
  rw [LogEntry.unveils_of_keeps rfl htickets, List.append_nil]
  exact .refl ticket exhibits

/-- At the start of a change only the result on display is changed. -/
theorem Session.TakesChange.onlyChanges (h : s.TakesChange shown collection action)
    (connected : Bool) (exhibits : List QueryResult) :
    OnlyChanges shown.ticket action.RowsAsked exhibits
      ((LogEntry.began connected action).exhibits s exhibits) := by
  cases action with
  | edit id field value =>
      obtain ⟨hshown, hfield⟩ := h
      simp only [LogEntry.exhibits, hshown.editableCollection_eq, hshown.displayed, if_neg hfield]
      exact onlyChanges_modify _ _ (fun r => .edited .refl id field value)
        (fun r => forall₂_rowEdited id field value r.rows)
  | insert fields =>
      apply onlyChanges_unveils
      cases connected with
      | true => rw [LogEntry.leads, Session.ShowsListing.start_insert h]
      | false =>
          rw [LogEntry.leads, Session.ShowsListing.start_insert_unconnected h]
          rfl
  | _ => exact absurd h id

theorem Job.GoesTo.cases (h : job.GoesTo ticket action) :
    (∃ id field value statement, action = .edit id field value ∧ job = .edit statement) ∨
      ∃ fields statement, action = .insert fields ∧ job = .insert ticket statement fields := by
  unfold GoesTo at h
  split at h
  · exact .inl ⟨_, _, _, _, rfl, rfl⟩
  · obtain ⟨rfl, rfl⟩ := h
    exact .inr ⟨_, _, rfl, rfl⟩
  · exact h.elim

/-- The answer to a change ends it. -/
theorem Job.GoesTo.exists_finished (h : job.GoesTo ticket action) (s : Session)
    (outcome : Outcome) : ∃ s' answer, s.resume outcome job = (s', .finished answer) := by
  rcases h.cases with ⟨_, _, _, statement, -, rfl⟩ | ⟨fields, statement, -, rfl⟩
  · cases outcome with
    | ok reply => exact ⟨_, _, rfl⟩
    | error fault => exact ⟨_, _, rfl⟩
  · cases outcome with
    | ok reply => exact ⟨_, _, rfl⟩
    | error fault => exact ⟨_, _, rfl⟩

/-- It changes rows of the result of the ticket alone, whatever is on display by then. -/
theorem Job.GoesTo.onlyChanges (h : job.GoesTo ticket action) (s : Session) (outcome : Outcome)
    (exhibits : List QueryResult) :
    OnlyChanges ticket (action.RowsAnswered (some outcome)) exhibits
      ((LogEntry.answered job outcome).exhibits s exhibits) := by
  rcases h.cases with ⟨_, _, _, statement, rfl, rfl⟩ | ⟨fields, statement, rfl, rfl⟩
  · apply onlyChanges_unveils
    cases outcome with
    | ok reply => rfl
    | error fault => rfl
  · cases outcome with
    | ok reply =>
        exact onlyChanges_modify _ _ (fun r => .withNewRow .refl _)
          (fun r => ⟨_, Fields.assigned_set fields "id" _, rfl⟩)
    | error fault => exact onlyChanges_unveils ticket exhibits rfl

end

/-! ## Carried on -/

namespace Console

variable {call : StoreCall} {job : Job} {ticket : Nat} {change : Action}

/-- A change makes no call after its first. -/
theorem carryOn_goesTo (hjob : job.GoesTo ticket change) (c : Console) (action : Nat)
    (call : StoreCall) :
    (c.carryOn action (.calling call job)).2.calls = [call] ∧
      (c.carryOn action (.calling call job)).1.backend = (c.backend.perform call).2 := by
  rw [carryOn]
  split
  · exact ⟨rfl, rfl⟩
  · obtain ⟨s', answer, hresume⟩ := hjob.exists_finished c.session (c.backend.perform call).1
    simp only [hresume, carryOn_finished]
    exact ⟨rfl, trivial⟩

theorem answerAtOnce?_of_unconnected {c : Console} (hconnected : c.backend.connected = false)
    (call : StoreCall) : c.answerAtOnce? call = none := by
  rw [answerAtOnce?, hconnected, Bool.false_and, if_neg Bool.false_ne_true]

theorem answerAtOnce?_of_holding {c : Console} (hholding : c.holding = true) (call : StoreCall) :
    c.answerAtOnce? call = none := by
  rw [answerAtOnce?, hholding, Bool.not_true, Bool.and_false, if_neg Bool.false_ne_true]

theorem answerAtOnce?_of_connected {c : Console} (hconnected : c.backend.connected = true)
    (hholding : c.holding = false) (call : StoreCall) :
    c.answerAtOnce? call = some (c.backend.perform call).1 := by
  rw [answerAtOnce?, hconnected, hholding, Bool.not_false, Bool.and_true, if_pos rfl]

/-- Whether its answer is held back or not, only the result of the ticket is changed. -/
theorem onlyChanges_reactionLog (hjob : job.GoesTo ticket change) (c : Console)
    (hconnected : c.backend.connected = true) (s : Session) (exhibits : List QueryResult) :
    OnlyChanges ticket (change.RowsAnswered (c.answerAtOnce? call)) exhibits
      ((c.reactionLog (.calling call job)).foldl Exhibits.follow (s, exhibits)).2 := by
  rw [reactionLog]
  cases hholding : c.holding with
  | true =>
      rw [answerAtOnce?_of_holding hholding, Action.rowsAnswered_none, if_pos rfl, List.foldl_cons,
        Exhibits.follow_called]
      exact .refl ticket exhibits
  | false =>
      obtain ⟨s', answer, hresume⟩ := hjob.exists_finished c.session (c.backend.perform call).1
      rw [answerAtOnce?_of_connected hconnected hholding, if_neg Bool.false_ne_true]
      simp only [hresume, List.foldl_cons, Exhibits.follow_called]
      rw [reactionLog]
      exact hjob.onlyChanges s _ exhibits

end Console

/-! ## Calls that wait -/

namespace Scene

variable {x y : Scene} {admitted : ConsoleEvent → Prop} {action ticket : Nat} {change : Action}

/-- Every call that waits is one of an action that was started. -/
def Numbered (x : Scene) : Prop :=
  ∀ call ∈ x.waiting, call.action < x.actions

theorem Numbered.step (h : x.Numbered) (hstep : Step admitted x y) : y.Numbered := by
  intro call hcall
  cases hstep with
  | exchange _ hcount => exact Nat.lt_of_lt_of_le (h call hcall) hcount
  | turn hopens =>
      rcases hopens.mem_waiting_turn hcall with hold | ⟨haction, -⟩
      · cases hopens with
        | begins => exact Nat.lt_succ_of_lt (h call hold)
        | answers => exact h call hold
      · rw [haction]
        cases hopens with
        | begins => exact Nat.lt_succ_self _
        | answers hwaiting => exact h _ (hwaiting ▸ List.mem_append_right _ List.mem_cons_self)

/-- An action was started, and the answer that it waits for ends a change made on the result of the
ticket. -/
structure Sends (action ticket : Nat) (change : Action) (x : Scene) : Prop where
  started : action < x.actions
  waiting : ∀ call ∈ x.waiting, call.action = action → call.job.GoesTo ticket change

theorem Sends.step (h : x.Sends action ticket change) (hstep : Step admitted x y) :
    y.Sends action ticket change := by
  cases hstep with
  | exchange _ hcount => exact ⟨Nat.lt_of_lt_of_le h.started hcount, h.waiting⟩
  | turn hopens =>
      refine ⟨?_, fun call hcall haction => ?_⟩
      · cases hopens with
        | begins => exact Nat.lt_succ_of_lt h.started
        | answers => exact h.started
      · rcases hopens.mem_waiting_turn hcall with hold | ⟨hown, storeCall, hcalling⟩
        · exact h.waiting call hold haction
        -- Another action has another number, and the answer to a change makes no call.
        · cases hopens with
          | begins => exact absurd (haction.symm.trans hown) (Nat.ne_of_lt h.started)
          | @answers front back answered hwaiting =>
              have hmem : answered ∈ x.waiting :=
                hwaiting ▸ List.mem_append_right _ List.mem_cons_self
              have hjob := h.waiting answered hmem (hown.symm.trans haction)
              obtain ⟨s', answer, hresume⟩ := hjob.exists_finished x.session answered.outcome
              rw [LogEntry.turn, hresume] at hcalling
              cases hcalling

/-- A change that begins sends its answer to the result on display. -/
theorem Numbered.sends_turn (h : x.Numbered) {shown : Display} {collection : String}
    (htakes : x.session.TakesChange shown collection change) :
    (x.turn (.began x.backend.connected change) x.actions x.waiting (x.actions + 1)).Sends
      x.actions shown.ticket change := by
  refine ⟨Nat.lt_succ_self _, fun call hcall haction => ?_⟩
  have hopens : x.Opens (fun _ => True) (.began x.backend.connected change) x.actions x.waiting
      (x.actions + 1) := .begins trivial
  rcases hopens.mem_waiting_turn hcall with hold | ⟨-, storeCall, hcalling⟩
  · exact absurd haction (Nat.ne_of_lt (h call hold))
  · cases hconnected : x.backend.connected with
    | true =>
        obtain ⟨s', call', job, hstart, -, hjob⟩ := htakes.start_connected
        rw [hconnected, LogEntry.turn, hstart] at hcalling
        cases hcalling
        exact hjob
    | false =>
        obtain ⟨s', answer, hstart⟩ := htakes.start_unconnected
        rw [hconnected, LogEntry.turn, hstart] at hcalling
        cases hcalling

end Scene

/-! ## Changes along runs -/

theorem Console.log_append (c : Console) (events more : List ConsoleEvent) :
    c.log (events ++ more) = c.log events ++ (c.after events).log more := by
  induction events generalizing c with
  | nil => rfl
  | cons event rest ih =>
      rw [List.cons_append, log, log, ih, List.append_assoc]
      rfl

/-- The exhibits after one more event. -/
theorem Console.exhibits_append (c : Console) (events : List ConsoleEvent) (event : ConsoleEvent) :
    c.exhibits (events ++ [event]) = (((c.after events).eventLog event).foldl Exhibits.follow
      (exhibited c.session (c.log events))).2 := by
  rw [exhibits, log_append, exhibited_append, log, log, List.append_nil]

/-- A change stays in the result that was on display when it was asked for. -/
structure Console.ChangeStays (start : Console) (events : List ConsoleEvent) (change : Action)
    (shown : Display) (collection : String) : Prop where
  /-- Its call, the only one, is in the collection of that result. -/
  calls : ((start.after events).handle (.act change)).2.calls =
    if (start.after events).backend.connected then (change.write? collection).toList else []
  /-- Every other collection keeps its documents. -/
  documents : ∀ store, (start.after events).backend.store = some store →
    ∃ store', ((start.after events).handle (.act change)).1.backend.store = some store' ∧
      ∀ other, other ≠ collection → store'.documents other = store.documents other
  /-- At once only the rows of that result are changed, by an edit those of its id. -/
  atOnce : OnlyChanges shown.ticket
    (Relation.Comp change.RowsAsked (change.RowsAnswered
      ((change.write? collection).bind (start.after events).answerAtOnce?)))
    (start.exhibits events) (start.exhibits (events ++ [.act change]))
  /-- So it is when the answer arrives, whatever has happened in between: a new row goes there. -/
  answered : ∀ (later : List ConsoleEvent) (call : HeldCall),
    call ∈ (start.after (events ++ .act change :: later)).held →
    call.action = (start.after events).actions →
    ((start.after (events ++ .act change :: later)).handle (.release call.gate)).2.calls = [] ∧
      OnlyChanges shown.ticket (change.RowsAnswered (some call.outcome))
        (start.exhibits (events ++ .act change :: later))
        (start.exhibits (events ++ .act change :: later ++ [.release call.gate]))

section

variable {start : Console} {events : List ConsoleEvent} {shown : Display} {collection : String}
  {change : Action}

/-- The call of a change and the documents of the other collections. -/
theorem Session.TakesChange.act {c : Console}
    (h : c.session.TakesChange shown collection change) :
    (c.handle (.act change)).2.calls =
        (if c.backend.connected then (change.write? collection).toList else []) ∧
      ∀ store, c.backend.store = some store →
        ∃ store', (c.handle (.act change)).1.backend.store = some store' ∧
          ∀ other, other ≠ collection → store'.documents other = store.documents other := by
  simp only [Console.handle, Console.act, Console.countAction]
  cases hconnected : c.backend.connected with
  | true =>
      obtain ⟨s', call, job, hstart, hwrite, hjob⟩ := h.start_connected
      obtain ⟨hcalls, hbackend⟩ := Console.carryOn_goesTo hjob
        { c with session := s', actions := c.actions + 1 } c.actions call
      rw [hstart, hcalls, hbackend, hwrite]
      exact ⟨rfl, fun store hstore => Backend.documents_perform_write hwrite hstore⟩
  | false =>
      obtain ⟨s', answer, hstart⟩ := h.start_unconnected
      rw [hstart, Console.carryOn_finished]
      exact ⟨rfl, fun store hstore => ⟨store, hstore, fun _ _ => rfl⟩⟩

/-- The exhibits after an action was started. -/
theorem Console.exhibits_act
    (hplace : (exhibited start.session (start.log events)).1 = (start.after events).session)
    (action : Action) :
    let c := start.after events
    let started := c.session.start c.backend.connected action
    start.exhibits (events ++ [.act action]) =
      (({ c.countAction.2 with session := started.1 }.reactionLog started.2).foldl Exhibits.follow
        (started.1, (LogEntry.began c.backend.connected action).exhibits c.session
          (start.exhibits events))).2 := by
  intro c started
  rw [exhibits_append, eventLog, List.foldl_cons, Exhibits.follow, hplace]
  rfl

/-- The exhibits after a change was asked for. -/
theorem Session.TakesChange.onlyChanges_act
    (h : (start.after events).session.TakesChange shown collection change)
    (hplace : (exhibited start.session (start.log events)).1 = (start.after events).session) :
    OnlyChanges shown.ticket
      (Relation.Comp change.RowsAsked (change.RowsAnswered
        ((change.write? collection).bind (start.after events).answerAtOnce?)))
      (start.exhibits events) (start.exhibits (events ++ [.act change])) := by
  rw [Console.exhibits_act hplace]
  have hbegan := h.onlyChanges (start.after events).backend.connected (start.exhibits events)
  refine hbegan.trans ?_
  cases hconnected : (start.after events).backend.connected with
  | true =>
      obtain ⟨s', call, job, hstart, hwrite, hjob⟩ := h.start_connected
      rw [hstart, hwrite, Option.bind_some]
      exact Console.onlyChanges_reactionLog hjob
        { (start.after events).countAction.2 with session := s' } hconnected _ _
  | false =>
      obtain ⟨s', answer, hstart⟩ := h.start_unconnected
      rw [hstart, Console.reactionLog,
        funext (Console.answerAtOnce?_of_unconnected hconnected), Option.bind_fun_none,
        Action.rowsAnswered_none]
      exact .refl _ _

/-- A change that is turned down makes no call and changes no rows. -/
theorem Session.Rejects.act {kind : Change} {fault : Fault}
    (h : (start.after events).session.Rejects (.ok change) fault)
    (hkind : change.change? = some kind)
    (hplace : (exhibited start.session (start.log events)).1 = (start.after events).session) :
    ((start.after events).handle (.act change)).2.calls = [] ∧
      start.exhibits (events ++ [.act change]) = start.exhibits events := by
  have hstart := h.start_eq hkind (start.after events).backend.connected
  constructor
  · rw [Console.handle, Console.act_of_finished rfl hstart]
    rfl
  · rw [Console.exhibits_act hplace, hstart, Console.reactionLog]
    exact h.exhibits_eq hkind _ _

/-- The answer to a change that was held back. -/
theorem Job.GoesTo.onlyChanges_release {call : HeldCall} (h : call.job.GoesTo shown.ticket change)
    (hgated : (start.after events).Gated) (hcall : call ∈ (start.after events).held) :
    ((start.after events).handle (.release call.gate)).2.calls = [] ∧
      OnlyChanges shown.ticket (change.RowsAnswered (some call.outcome)) (start.exhibits events)
        (start.exhibits (events ++ [.release call.gate])) := by
  have hfound := hgated.find?_eq_some hcall
  obtain ⟨s', answer, hresume⟩ := h.exists_finished (start.after events).session call.outcome
  rw [Console.exhibits_append]
  simp only [Console.handle, Console.release, Console.eventLog, hfound, hresume,
    Console.carryOn_finished]
  rw [Console.reactionLog, List.foldl_cons]
  exact ⟨rfl, h.onlyChanges _ _ _⟩

/-- The answer that a change waits for goes to the result that was on display at its start, after
any later events. -/
theorem Session.TakesChange.goesTo_held
    (h : (start.after events).session.TakesChange shown collection change)
    (hgated : start.Gated) (hnumbered : (start.scene []).Numbered) (later : List ConsoleEvent)
    {call : HeldCall} (hcall : call ∈ (start.after (events ++ .act change :: later)).held)
    (haction : call.action = (start.after events).actions) :
    call.job.GoesTo shown.ticket change := by
  obtain ⟨hbefore, hgated'⟩ := hgated.steps_after (fun _ _ => trivial : ∀ event ∈ events, True) []
  have hbegun := Scene.Numbered.sends_turn (hbefore.keeps Scene.Numbered.step hnumbered) h
  have hacted := ((start.after events).steps_act change _).keeps Scene.Sends.step hbegun
  obtain ⟨hlater, -⟩ := (hgated'.handle (.act change)).steps_after
    (fun _ _ => trivial : ∀ event ∈ later, True) ([] ++ start.log events ++
      (start.after events).eventLog (.act change))
  have hsends := hlater.keeps Scene.Sends.step hacted
  rw [Console.after_append_cons] at hcall
  exact hsends.waiting call.toWaiting (List.mem_map_of_mem hcall) haction

end

/-- After any events: the display is one of the results that were ever put on display, and if it is
a listing, each of its rows has the id of a document that was listed from its collection or created
in it.  A change is turned down without any trace, or it goes to the collection and the rows of the
result on display, and to no others, whatever is on display when its answer arrives: an edit to the
rows of its id, an insertion to a new row with the id that the store gave. -/
theorem changes_stay_in_their_result (pageSize : Int) (discardStale : Bool) (backend : Backend)
    (events : List ConsoleEvent) :
    let start := Console.fresh pageSize discardStale backend
    let c := start.after events
    (∀ shown, c.session.displayed = some shown →
        (start.exhibits events)[shown.ticket]? = some shown.result ∧
          (shown.result.type = .read → shown.result.Owned (start.log events))) ∧
      ∀ change kind, Action.change? change = some kind →
        (∃ shown collection, c.session.TakesChange shown collection change ∧
            start.ChangeStays events change shown collection) ∨
          ∃ fault, c.session.Rejects (.ok change) fault ∧
            (c.handle (.act change)).2.calls = [] ∧
              start.exhibits (events ++ [.act change]) = start.exhibits events := by
  intro start c
  have hgated : start.Gated := Console.gated_fresh pageSize discardStale backend
  have hnumbered : (start.scene []).Numbered := fun call hcall => (by cases hcall)
  obtain ⟨hplace, hexhibits⟩ := Console.exhibits_after pageSize discardStale backend events
  refine ⟨fun shown hshown => ?_, fun change kind hkind => ?_⟩
  · have hexhibit := hexhibits.displayed shown hshown
    exact ⟨hexhibit, hexhibits.owned _ (List.mem_of_getElem? hexhibit)⟩
  · rcases c.session.takesChange_or_rejects hkind with
      ⟨shown, collection, htakes⟩ | ⟨fault, hrejects⟩
    · obtain ⟨hcalls, hdocuments⟩ := htakes.act
      refine .inl ⟨shown, collection, htakes, hcalls, hdocuments,
        htakes.onlyChanges_act hplace, fun later call hcall haction => ?_⟩
      have hjob := htakes.goesTo_held hgated hnumbered later hcall haction
      exact hjob.onlyChanges_release
        (Console.gated_after_fresh pageSize discardStale backend _) hcall
    · exact .inr ⟨fault, hrejects, hrejects.act hkind hplace⟩

-- A row that arrives when another listing is on display goes to the one it was inserted into.
example :
    let backend : Backend := ⟨some (.ofData [("items", [("n1", [("n", .int 1)])])]), [], .fresh⟩
    ((Console.fresh 50 true backend).exhibits
        [.act (.run "SELECT * FROM items"), .setHolding true, .act (.insert [("n", .int 2)]),
          .act (.run "SELECT * FROM others"), .release 1, .release 0]).map
      (fun r => (r.collection, r.rows.map (Fields.get? · "n"))) =
      [(some "items", [some (.int 2), some (.int 1)]), (some "others", [])] := by
  decide +kernel

end DocConsole
