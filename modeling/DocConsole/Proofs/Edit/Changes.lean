import DocConsole.Proofs.Execution
import DocConsole.Proofs.Session.Turns

/-!
# How a change ends

A cell that is edited or a row that is inserted passes three places that can each say no: the text
that was typed, the display, and the store.  An edit shows before the store has answered, a new row
only afterwards, and both leave a statement in the history once the store was asked.  Main
statement: without other actions in between, a change ends in one of three ways, and each of them
settles the rows, the store, the history and the calls altogether.
-/

set_option autoImplicit false

namespace DocConsole

/-! ## Before the store is asked -/

/-- The change that an action makes, if it makes one. -/
def Action.change? : Action → Option Change
  | .edit _ _ _ => some .edit
  | .insert _ => some .insert
  | _ => none

namespace Session

variable {s : Session} {shown : Display} {collection : String}

/-- A listing of a known collection is on display. -/
structure ShowsListing (s : Session) (shown : Display) (collection : String) : Prop where
  displayed : s.displayed = some shown
  reads : shown.result.type = .read
  about : shown.result.collection = some collection
  named : collection ≠ ""

/-- What is asked for is turned down before anything is done. -/
inductive Rejects (s : Session) : Except Fault Action → Fault → Prop
  /-- It cannot be read. -/
  | unread {fault : Fault} : Rejects s (.error fault) fault
  /-- There is no listing of a known collection to change. -/
  | notEditable {action : Action}
      (hnone : ∀ shown collection, ¬ s.ShowsListing shown collection) :
      Rejects s (.ok action) .notEditable
  /-- The column of the ids is never changed. -/
  | idColumn {shown : Display} {collection id : String} {value : Value}
      (hshown : s.ShowsListing shown collection) :
      Rejects s (.ok (.edit id "id" value)) .idNotEditable

theorem ShowsListing.result_eq (h : s.ShowsListing shown collection) :
    s.result = some shown.result := by
  rw [result, h.displayed]
  rfl

theorem ShowsListing.editableCollection_eq (h : s.ShowsListing shown collection) :
    editableCollection s.result = .ok collection := by
  rw [h.result_eq, editableCollection]
  simp only [h.reads, h.about, if_neg h.named]

/-- The collection that can be changed is that of the listing on display. -/
theorem exists_showsListing (h : editableCollection s.result = .ok collection) :
    ∃ shown, s.ShowsListing shown collection := by
  cases hdisplayed : s.displayed with
  | none =>
      rw [result, hdisplayed] at h
      cases h
  | some shown =>
      rw [result, hdisplayed, Option.map_some, editableCollection] at h
      split at h
      · rename_i hresult collection' htype hcollection
        split at h
        · cases h
        · rename_i hnamed
          obtain rfl := Except.ok.inj h
          exact ⟨shown, hdisplayed, htype, hcollection, hnamed⟩
      · cases h

/-- Either nothing on display can be changed, or a listing of a known collection is there. -/
theorem editableCollection_cases (s : Session) :
    (editableCollection s.result = .error .notEditable ∧
        ∀ shown collection, ¬ s.ShowsListing shown collection) ∨
      ∃ shown collection, s.ShowsListing shown collection := by
  cases hcollection : editableCollection s.result with
  | error fault =>
      refine .inl ⟨by rw [editableCollection_eq_error hcollection], fun shown collection h => ?_⟩
      cases hcollection.symm.trans h.editableCollection_eq
  | ok collection =>
      obtain ⟨shown, hshown⟩ := exists_showsListing hcollection
      exact .inr ⟨shown, collection, hshown⟩

/-- A change can be made in the result on display: it lists the collection, and its column of ids
is not the one to be edited. -/
def TakesChange (s : Session) (shown : Display) (collection : String) : Action → Prop
  | .edit _ field _ => s.ShowsListing shown collection ∧ field ≠ "id"
  | .insert _ => s.ShowsListing shown collection
  | _ => False

/-- A change is made in the result on display, or turned down. -/
theorem takesChange_or_rejects (s : Session) {action : Action} {kind : Change}
    (hkind : action.change? = some kind) :
    (∃ shown collection, s.TakesChange shown collection action) ∨
      ∃ fault, s.Rejects (.ok action) fault := by
  rcases s.editableCollection_cases with ⟨-, hnone⟩ | ⟨shown, collection, hshown⟩
  · exact .inr ⟨_, .notEditable hnone⟩
  · cases action with
    | edit id field value =>
        by_cases hfield : field = "id"
        · subst hfield
          exact .inr ⟨_, .idColumn hshown⟩
        · exact .inl ⟨shown, collection, hshown, hfield⟩
    | insert fields => exact .inl ⟨shown, collection, hshown⟩
    | _ => cases hkind

/-- A change that is turned down leaves the session as it was. -/
theorem Rejects.start_eq {action : Action} {kind : Change} {fault : Fault}
    (h : s.Rejects (.ok action) fault) (hkind : action.change? = some kind) (connected : Bool) :
    s.start connected action = (s, .finished (.error fault)) := by
  cases h with
  | notEditable hnone =>
      rcases s.editableCollection_cases with ⟨hrefused, -⟩ | ⟨shown, collection, hshown⟩
      · cases action with
        | edit id field value => simp only [start, startEdit, hrefused]
        | insert fields => simp only [start, startInsert, hrefused]
        | _ => cases hkind
      · exact absurd hshown (hnone shown collection)
  | idColumn hshown =>
      simp only [start, startEdit, hshown.editableCollection_eq, if_true]

end Session

/-! ## What a change leaves behind -/

/-- The session, the backend, the calls and the answer that a change leaves behind. -/
structure ChangeEffect where
  /-- The session. -/
  session : Session
  /-- The backend. -/
  backend : Backend
  /-- The calls that were made. -/
  calls : List StoreCall
  /-- What the action gives back. -/
  answer : Except Fault Answer

/-- The ways in which a change ends. -/
inductive ChangeEnd where
  /-- It is turned down. -/
  | rejected
  /-- The store does not take it. -/
  | failed
  /-- It is done. -/
  | done
  deriving DecidableEq, Repr

/-- The row of the id has the field set, and any other row stays as it is. -/
structure RowEdited (id field : String) (value : Value) (row row' : Fields) : Prop where
  edited : Fields.get? row "id" = some (.str id) → Fields.Assigned field value row row'
  kept : Fields.get? row "id" ≠ some (.str id) → row' = row

theorem rowEdited_editRow (id field : String) (value : Value) (row : Fields) :
    RowEdited id field value row (editRow id field value row) where
  edited hid := by
    have hrow : rowHasId row id = true := beq_iff_eq.mpr hid
    rw [editRow, if_pos hrow]
    exact Fields.assigned_set row field value
  kept hid := editRow_of_other (beq_eq_false_iff_ne.mpr hid)

/-- Rows edited one by one, none left out and none moved. -/
theorem forall₂_rowEdited (id field : String) (value : Value) (rows : List Fields) :
    List.Forall₂ (RowEdited id field value) rows (rows.map (editRow id field value)) := by
  rw [List.forall₂_map_right_iff, List.forall₂_same]
  exact fun row _ => rowEdited_editRow id field value row

/-- The session with other rows on display and with one more entry in its history, and with
everything else as it was. -/
def Session.changed (s : Session) (rows : List Fields) (statement : String) (succeeded : Bool) :
    Session :=
  { s with
    displayed := s.displayed.map (fun shown =>
      { shown with result := { shown.result with rows := rows } })
    history := s.history ++ [⟨statement, succeeded⟩] }

/-- A call that is wanted but not answered: there is no open store, and so it is not made, or it
fails. -/
inductive Backend.Refuses (backend : Backend) (call : StoreCall) : Fault → List StoreCall → Prop
  | unconnected (hclosed : backend.connected = false) : Refuses backend call .notConnected []
  | failing {fault : Fault} (hopen : backend.connected = true)
      (hperform : (backend.perform call).1 = .error fault) : Refuses backend call fault [call]

/-- A call that is made and answered. -/
def Backend.Takes (backend : Backend) (call : StoreCall) : Prop :=
  ∃ reply, (backend.perform call).1 = .ok reply

/-- A change and how it ends, with everything that it leaves behind. -/
inductive ChangeEnds (s : Session) (backend : Backend) :
    Except Fault Action → ChangeEnd → ChangeEffect → Prop
  /-- It is turned down: nothing changes, and the store is not asked. -/
  | rejected {requested : Except Fault Action} {fault : Fault}
      (hrejects : s.Rejects requested fault) :
      ChangeEnds s backend requested .rejected ⟨s, backend, [], .error fault⟩
  /-- The store does not take an edit: it shows all the same. -/
  | editFailed {shown : Display} {collection id field : String} {value : Value} {reason : Fault}
      {calls : List StoreCall} {rows : List Fields}
      (hshown : s.ShowsListing shown collection) (hfield : field ≠ "id")
      (hrefuses : backend.Refuses (.update collection (some id) [(field, value)]) reason calls)
      (hrows : List.Forall₂ (RowEdited id field value) shown.result.rows rows) :
      ChangeEnds s backend (.ok (.edit id field value)) .failed
        ⟨s.changed rows (editStatement collection id field value) false, backend, calls,
          .error (.changeFailed .edit reason.message)⟩
  /-- The store does not take a new row: the rows stay as they are. -/
  | insertFailed {shown : Display} {collection : String} {fields : Fields} {reason : Fault}
      {calls : List StoreCall}
      (hshown : s.ShowsListing shown collection)
      (hrefuses : backend.Refuses (.create collection fields) reason calls) :
      ChangeEnds s backend (.ok (.insert fields)) .failed
        ⟨s.changed shown.result.rows (insertStatement collection fields) false, backend, calls,
          .error (.changeFailed .insert reason.message)⟩
  /-- An edit is done, in the rows of the id and in the document. -/
  | editDone {shown : Display} {collection id field : String} {value : Value}
      {store store' : Store} {rows : List Fields}
      (hshown : s.ShowsListing shown collection) (hfield : field ≠ "id")
      (htakes : backend.Takes (.update collection (some id) [(field, value)]))
      (hstore : backend.store = some store)
      (hset : store.FieldSet collection id field value store')
      (hrows : List.Forall₂ (RowEdited id field value) shown.result.rows rows) :
      ChangeEnds s backend (.ok (.edit id field value)) .done
        ⟨s.changed rows (editStatement collection id field value) true,
          { backend with store := some store' },
          [.update collection (some id) [(field, value)]], .ok .nothing⟩
  /-- A new row is in front of all others, and its document in the store. -/
  | insertDone {shown : Display} {collection : String} {fields row : Fields}
      {store store' : Store}
      (hshown : s.ShowsListing shown collection)
      (htakes : backend.Takes (.create collection fields))
      (hstore : backend.store = some store)
      (hadded : store.DocumentAdded collection backend.ids.draw.1 fields store')
      (hrow : Fields.Assigned "id" (.str backend.ids.draw.1) fields row) :
      ChangeEnds s backend (.ok (.insert fields)) .done
        ⟨s.changed (row :: shown.result.rows) (insertStatement collection fields) true,
          { backend with store := some store', ids := backend.ids.draw.2 },
          [.create collection fields], .ok (.row row)⟩

/-- The end that an answer tells of. -/
def ChangeEnd.ofAnswer : Except Fault Answer → ChangeEnd
  | .ok _ => .done
  | .error (.changeFailed _ _) => .failed
  | .error _ => .rejected

theorem ChangeEnds.ending_eq {s : Session} {backend : Backend} {action : Action}
    {ending : ChangeEnd} {effect : ChangeEffect}
    (h : ChangeEnds s backend (.ok action) ending effect) : ending = .ofAnswer effect.answer := by
  cases h with
  | rejected hrejects => cases hrejects <;> rfl
  | editFailed => rfl
  | insertFailed => rfl
  | editDone => rfl
  | insertDone => rfl

/-- A change that is answered ends in one way only. -/
theorem ChangeEnds.unique {s : Session} {backend : Backend} {requested : Except Fault Action}
    {ending ending' : ChangeEnd} {effect effect' : ChangeEffect}
    (h : ChangeEnds s backend requested ending effect)
    (h' : ChangeEnds s backend requested ending' effect')
    (hanswer : effect'.answer = effect.answer) : ending' = ending := by
  cases requested with
  | error fault =>
      cases h
      cases h'
      rfl
  | ok action => rw [h.ending_eq, h'.ending_eq, hanswer]

/-! ## A change in the session -/

namespace Session

variable {s : Session} {shown : Display} {collection : String}

/-- The rows exchanged in the result on display, and a statement recorded. -/
theorem ShowsListing.changed_eq (hshown : s.ShowsListing shown collection) (rows : List Fields)
    (statement : String) (succeeded : Bool) :
    s.changed rows statement succeeded =
      { s with
        displayed := some { shown with result := { shown.result with rows := rows } } }.record
        statement succeeded := by
  rw [changed, hshown.displayed]
  rfl

theorem ShowsListing.displayed_changed (hshown : s.ShowsListing shown collection)
    (rows : List Fields) (statement : String) (succeeded : Bool) :
    (s.changed rows statement succeeded).displayed =
      some { shown with result := { shown.result with rows := rows } } := by
  rw [hshown.changed_eq]
  rfl

/-- An edit starts on the rows, and asks for an update when there is an open store. -/
theorem ShowsListing.start_edit (hshown : s.ShowsListing shown collection) (id : String)
    {field : String} (hfield : field ≠ "id") (value : Value) :
    s.start true (.edit id field value) =
      ({ s with displayed := some { shown with result := shown.result.edited id field value } },
        .calling (.update collection (some id) [(field, value)])
          (.edit (editStatement collection id field value))) := by
  rw [start, startEdit, hshown.editableCollection_eq, hshown.displayed]
  simp only [if_neg hfield]
  rfl

/-- Without an open store an edit still shows. -/
theorem ShowsListing.start_edit_unconnected (hshown : s.ShowsListing shown collection)
    (id : String) {field : String} (hfield : field ≠ "id") (value : Value) :
    s.start false (.edit id field value) =
      (s.changed (shown.result.rows.map (editRow id field value))
          (editStatement collection id field value) false,
        .finished (.error (.changeFailed .edit Fault.notConnected.message))) := by
  rw [start, startEdit, hshown.editableCollection_eq, hshown.changed_eq, hshown.displayed]
  simp only [if_neg hfield]
  rfl

/-- A new row asks for its document when there is an open store. -/
theorem ShowsListing.start_insert (hshown : s.ShowsListing shown collection) (fields : Fields) :
    s.start true (.insert fields) =
      (s, .calling (.create collection fields)
        (.insert shown.ticket (insertStatement collection fields) fields)) := by
  rw [start, startInsert, hshown.editableCollection_eq, hshown.displayed]
  rfl

/-- Without an open store there is no new row. -/
theorem ShowsListing.start_insert_unconnected (hshown : s.ShowsListing shown collection)
    (fields : Fields) :
    s.start false (.insert fields) =
      (s.record (insertStatement collection fields) false,
        .finished (.error (.changeFailed .insert Fault.notConnected.message))) := by
  rw [start, startInsert, hshown.editableCollection_eq, hshown.displayed]
  rfl

/-- Nothing but the history tells of a new row that the store did not take. -/
theorem ShowsListing.changed_rows (hshown : s.ShowsListing shown collection) (statement : String)
    (succeeded : Bool) :
    s.changed shown.result.rows statement succeeded = s.record statement succeeded := by
  rw [hshown.changed_eq]
  exact congrArg (fun displayed => { s with displayed := displayed }.record statement succeeded)
    hshown.displayed.symm

/-- A new row that the store took is put in front. -/
theorem ShowsListing.changed_newRow (hshown : s.ShowsListing shown collection) (row : Fields)
    (statement : String) :
    s.changed (row :: shown.result.rows) statement true =
      (s.showNewRow shown.ticket row).record statement true := by
  rw [hshown.changed_eq, showNewRow, hshown.displayed, Option.map_some, if_pos rfl]
  rfl

end Session

/-! ## A change carried through -/

namespace Console

/-- The console and the report that a change leaves behind. -/
def leaves (c : Console) (effect : ChangeEffect) : Console × Report :=
  ({ c with session := effect.session, backend := effect.backend, actions := c.actions + 1 },
    ⟨[(c.actions, effect.answer)], effect.calls⟩)

/-- What is left behind includes the answer. -/
theorem answer_of_leaves {c : Console} {effect effect' : ChangeEffect}
    (h : c.leaves effect' = c.leaves effect) : effect'.answer = effect.answer := by
  simp only [leaves, Prod.mk.injEq, Report.mk.injEq, List.cons.injEq] at h
  exact h.2.1.1.2

variable {c : Console} {connected : Bool} {action : Action} {s s' : Session}
  {answer : Except Fault Answer}

/-- An action that finishes at once makes no call. -/
theorem act_of_finished (hconnected : c.backend.connected = connected)
    (hstart : c.session.start connected action = (s, .finished answer)) :
    c.act action = c.leaves ⟨s, c.backend, [], answer⟩ := by
  simp only [act, countAction, hconnected, hstart, carryOn_finished]
  rfl

/-- An action whose call is answered at once makes that call alone. -/
theorem act_of_answered (hopen : c.holding = false) (hconnected : c.backend.connected = connected)
    {call : StoreCall} {job : Job}
    (hstart : c.session.start connected action = (s, .calling call job))
    (hresume : s.resume (c.backend.perform call).1 job = (s', .finished answer)) :
    c.act action = c.leaves ⟨s', (c.backend.perform call).2, [call], answer⟩ := by
  have hheld : ¬ c.holding = true := by simp [hopen]
  simp only [act, countAction, hconnected, hstart]
  rw [carryOn, if_neg hheld]
  simp only [hresume, carryOn_finished]
  rfl

/-- Where answers are held back, an action waits at the next gate. -/
theorem act_of_held (hholding : c.holding = true) {call : StoreCall} {job : Job}
    (hstart : c.session.start c.backend.connected action = (s, .calling call job)) :
    c.act action =
      ({ c with
          session := s
          backend := (c.backend.perform call).2
          held := c.held ++ [⟨c.gates, c.actions, job, (c.backend.perform call).1⟩]
          gates := c.gates + 1
          actions := c.actions + 1 }, ⟨[], [call]⟩) := by
  simp only [act, countAction, hstart]
  rw [carryOn, if_pos hholding]
  rfl

/-- An edit of a listing ends as the store has it. -/
theorem exists_editEnds (hopen : c.holding = false)
    (hreachable : c.backend.Reachable)
    {shown : Display} {collection : String} (hshown : c.session.ShowsListing shown collection)
    (id : String) {field : String} (hfield : field ≠ "id") (value : Value) :
    ∃ ending effect, ChangeEnds c.session c.backend (.ok (.edit id field value)) ending effect ∧
      c.act (.edit id field value) = c.leaves effect := by
  -- The rows are edited before the store is asked, so they are the same in all three cases.
  have hrows := forall₂_rowEdited id field value shown.result.rows
  cases hconnected : c.backend.connected with
  | false =>
      have hstart := hshown.start_edit_unconnected id hfield value
      exact ⟨_, _, .editFailed hshown hfield (.unconnected hconnected) hrows,
        act_of_finished hconnected hstart⟩
  | true =>
      have hstart := hshown.start_edit id hfield value
      obtain ⟨store, hstore⟩ := Backend.exists_store_of_connected hconnected
      cases hcall : (c.backend.perform (.update collection (some id) [(field, value)])).1 with
      | error fault =>
          refine ⟨_, _, .editFailed hshown hfield (.failing hconnected hcall) hrows, ?_⟩
          rw [act_of_answered hopen hconnected hstart (by rw [hcall]; rfl),
            Backend.perform_of_error hstore hcall, hshown.changed_eq]
          rfl
      | ok reply =>
          obtain ⟨store', hupdate, hbackend⟩ := Backend.perform_update_of_ok hstore hcall
          have hset := (hreachable store hstore).ordered.fieldSet_update hupdate
          refine ⟨_, _, .editDone hshown hfield ⟨reply, hcall⟩ hstore hset hrows, ?_⟩
          rw [act_of_answered hopen hconnected hstart (by rw [hcall]; rfl), hbackend,
            hshown.changed_eq]
          rfl

/-- An insertion into a listing ends as the store has it. -/
theorem exists_insertEnds (hopen : c.holding = false)
    {shown : Display} {collection : String} (hshown : c.session.ShowsListing shown collection)
    (fields : Fields) :
    ∃ ending effect, ChangeEnds c.session c.backend (.ok (.insert fields)) ending effect ∧
      c.act (.insert fields) = c.leaves effect := by
  cases hconnected : c.backend.connected with
  | false =>
      have hstart := hshown.start_insert_unconnected fields
      refine ⟨_, _, .insertFailed hshown (.unconnected hconnected), ?_⟩
      rw [act_of_finished hconnected hstart, hshown.changed_rows]
  | true =>
      have hstart := hshown.start_insert fields
      obtain ⟨store, hstore⟩ := Backend.exists_store_of_connected hconnected
      cases hcall : (c.backend.perform (.create collection fields)).1 with
      | error fault =>
          refine ⟨_, _, .insertFailed hshown (.failing hconnected hcall), ?_⟩
          rw [act_of_answered hopen hconnected hstart (by rw [hcall]; rfl),
            Backend.perform_of_error hstore hcall, hshown.changed_rows]
      | ok reply =>
          obtain ⟨rfl, hbackend⟩ := Backend.perform_create_of_ok hstore hcall
          have hadded := store.documentAdded_put collection c.backend.ids.draw.1 fields
          have hrow := Fields.assigned_set fields "id" (.str c.backend.ids.draw.1)
          refine ⟨_, _, .insertDone hshown ⟨_, hcall⟩ hstore hadded hrow, ?_⟩
          rw [act_of_answered hopen hconnected hstart (by rw [hcall]; rfl), hbackend,
            hshown.changed_newRow]
          rfl

/-- A change ends in one of the ways, and leaves behind what that says. -/
theorem exists_changeEnds (hopen : c.holding = false)
    (hreachable : c.backend.Reachable) {kind : Change}
    (hkind : action.change? = some kind) :
    ∃ ending effect, ChangeEnds c.session c.backend (.ok action) ending effect ∧
      c.act action = c.leaves effect := by
  rcases c.session.takesChange_or_rejects hkind with
    ⟨shown, collection, htakes⟩ | ⟨fault, hrejects⟩
  · cases action with
    | edit id field value =>
        obtain ⟨hshown, hfield⟩ := htakes
        exact exists_editEnds hopen hreachable hshown id hfield value
    | insert fields => exact exists_insertEnds hopen htakes fields
    | _ => cases hkind
  · exact ⟨_, _, .rejected hrejects, act_of_finished rfl (hrejects.start_eq hkind _)⟩

end Console

end DocConsole
