import DocConsole.Execution
import DocConsole.Proofs.Store.Writes

/-!
# What a result says about the store

A statement is executed by at most two calls, and its result is all that a user learns.  A call that
fails leaves the backend as it is, and so do the calls that read.  Main statement: a result never
lies about the store, whichever calls fail: an error or a listing means that nothing changed, and a
report of a write that exactly this write was done.
-/

set_option autoImplicit false

namespace DocConsole

/-! ## Calls -/

namespace Backend

variable {backend : Backend} {store : Store}

/-- A call either fails because it is made to or for want of an open store, or the store answers. -/
theorem perform_cases (hstore : backend.store = some store) (call : StoreCall) :
    (∃ fault, backend.perform call = (.error fault, backend)) ∨
      store.isOpen = true ∧ backend.perform call =
        ((answer store backend.ids call).1, { backend with
          store := some (answer store backend.ids call).2.1
          ids := (answer store backend.ids call).2.2 }) := by
  unfold perform
  split
  · exact .inl ⟨_, rfl⟩
  · rw [hstore]
    by_cases hopen : store.isOpen = true
    · exact .inr ⟨hopen, by simp only [hopen, if_true]⟩
    · exact .inl ⟨_, by simp only [hopen]; rfl⟩

/-- A call that the store refuses changes nothing. -/
theorem answer_of_error {ids : IdSupply} {call : StoreCall} {fault : Fault}
    (h : (answer store ids call).1 = .error fault) : (answer store ids call).2 = (store, ids) := by
  cases call with
  | update collection id fields =>
      cases id with
      | none => rfl
      | some id =>
          cases hupdate : store.update collection id fields with
          | error fault => simp only [answer, hupdate]
          | ok store' => simp only [answer, hupdate] at h; cases h
  | list collection filter cursor limit => cases h
  | create collection fields => cases h
  | delete collection id => cases id <;> cases h
  | get collection id => cases id <;> cases h
  | ping => cases h

theorem perform_same (hstore : backend.store = some store) {call : StoreCall}
    (h : (answer store backend.ids call).2 = (store, backend.ids)) :
    (backend.perform call).2 = backend := by
  rcases perform_cases hstore call with ⟨fault, hperform⟩ | ⟨-, hperform⟩
  · rw [hperform]
  · rw [hperform, h, ← hstore]

/-- A call that fails leaves the backend as it is. -/
theorem perform_of_error (hstore : backend.store = some store) {call : StoreCall} {fault : Fault}
    (h : (backend.perform call).1 = .error fault) : (backend.perform call).2 = backend := by
  rcases perform_cases hstore call with ⟨fault', hperform⟩ | ⟨-, hperform⟩
  · rw [hperform]
  · rw [hperform] at h
    exact perform_same hstore (answer_of_error h)

theorem exists_store_of_connected (h : backend.connected = true) :
    ∃ store, backend.store = some store := by
  cases hstore : backend.store with
  | none =>
      rw [connected, hstore] at h
      cases h
  | some store => exact ⟨store, rfl⟩

/-- A listing is answered by a page, unless it is made to fail. -/
theorem exists_page_of_connected (hconnected : backend.connected = true)
    (hlisting : backend.failures.lookup "list" = none) (collection : String)
    (filter : Option Filter) (cursor : Option Value) (limit : Int) :
    ∃ page, (backend.perform (.list collection filter cursor limit)).1 = .ok (.page page) := by
  obtain ⟨store, hstore⟩ := exists_store_of_connected hconnected
  have hopen : store.isOpen = true := by
    rwa [connected, hstore] at hconnected
  refine ⟨store.list collection filter (cursor.map Value.display) limit, ?_⟩
  simp only [perform, StoreCall.name, hlisting, hstore, hopen, if_true, answer]

/-- A call that does not fail is answered by the store. -/
theorem perform_of_ok (hstore : backend.store = some store) {call : StoreCall} {reply : Reply}
    (h : (backend.perform call).1 = .ok reply) :
    (answer store backend.ids call).1 = .ok reply ∧
      (backend.perform call).2 = { backend with
        store := some (answer store backend.ids call).2.1
        ids := (answer store backend.ids call).2.2 } := by
  rcases perform_cases hstore call with ⟨fault, hperform⟩ | ⟨-, hperform⟩
  · rw [hperform] at h
    cases h
  · rw [hperform] at h ⊢
    exact ⟨h, rfl⟩

/-- An update that does not fail sets the fields of a document that is there. -/
theorem perform_update_of_ok (hstore : backend.store = some store) {collection id : String}
    {changes : Fields} {reply : Reply}
    (h : (backend.perform (.update collection (some id) changes)).1 = .ok reply) :
    ∃ store', store.update collection id changes = .ok store' ∧
      (backend.perform (.update collection (some id) changes)).2 =
        { backend with store := some store' } := by
  obtain ⟨hanswer, hafter⟩ := perform_of_ok hstore h
  rw [hafter]
  cases hupdate : store.update collection id changes with
  | error fault =>
      simp only [answer, hupdate] at hanswer
      cases hanswer
  | ok store' =>
      simp only [answer, hupdate]
      exact ⟨store', rfl, rfl⟩

/-- A document that is created without failure lies under the next id. -/
theorem perform_create_of_ok (hstore : backend.store = some store) {collection : String}
    {fields : Fields} {reply : Reply}
    (h : (backend.perform (.create collection fields)).1 = .ok reply) :
    reply = .created backend.ids.draw.1 ∧
      (backend.perform (.create collection fields)).2 =
        { backend with
          store := some (store.put collection backend.ids.draw.1 fields)
          ids := backend.ids.draw.2 } := by
  obtain ⟨hanswer, hafter⟩ := perform_of_ok hstore h
  exact ⟨(Except.ok.inj hanswer).symm, hafter⟩

/-- A document is read without any change. -/
theorem perform_get (hstore : backend.store = some store) (collection : String)
    (id : Option String) : (backend.perform (.get collection id)).2 = backend := by
  refine perform_same hstore ?_
  cases id <;> rfl

end Backend

/-! ## Writes carried out -/

/-- A write between two states of the store, with the result that reports it. -/
inductive CarriedOut (ids : IdSupply) (store store' : Store) : Command → QueryResult → Prop where
  /-- A document with the payload was stored under a generated id: after all others, when the id
  was never used in the collection before. -/
  | inserted {collection : String} {payload : Fields}
      (hfound : store'.get? collection ids.draw.1 = some ⟨ids.draw.1, payload⟩)
      (hothers : ∀ id, id ≠ ids.draw.1 → store'.get? collection id = store.get? collection id)
      (hlast : (store.shelf collection).slot? ids.draw.1 = none →
        store'.documents collection = store.documents collection ++ [⟨ids.draw.1, payload⟩]) :
      CarriedOut ids store store' (.insert collection payload)
        (Command.createdResult collection ids.draw.1)
  /-- The payload was set in the document that was named, which was there: a name of the payload
  reads there as the payload has it last, any other name as before. -/
  | updated {collection target : String} {payload : Fields}
      (hthere : ∃ d ∈ store.documents collection, d.id = target)
      (hmerged : store'.documents collection = (store.documents collection).map
        (fun d => if d.id = target then ⟨d.id, Fields.merge d.fields payload⟩ else d))
      (hreads : ∀ d ∈ store.documents collection, d.id = target → ∀ name,
        Fields.get? (Fields.merge d.fields payload) name =
          (Fields.get? payload.reverse name).or (Fields.get? d.fields name)) :
      CarriedOut ids store store' (.update collection (some target) payload)
        (Command.updatedResult collection (some target))
  /-- The document that was named is not there any more. -/
  | deleted {collection target : String}
      (hgone : store'.documents collection =
        (store.documents collection).filter (fun d => d.id ≠ target)) :
      CarriedOut ids store store' (.delete collection (some target))
        (Command.deletedResult collection (some target))

/-- What makes a statement fail: it cannot be read, there is no open store, or its first call
fails. -/
inductive FailsBy (statement : String) (cursor : Option Value) (pageSize : Int)
    (backend : Backend) : Fault → Prop where
  | unread {fault : Fault} (hread : Command.read statement = .error fault) :
      FailsBy statement cursor pageSize backend fault
  | unconnected {command : Command} (hread : Command.read statement = .ok command)
      (hclosed : backend.connected = false) :
      FailsBy statement cursor pageSize backend .notConnected
  | refused {command : Command} {fault : Fault} (hread : Command.read statement = .ok command)
      (hopen : backend.connected = true)
      (hcall : (backend.perform (command.firstCall cursor pageSize)).1 = .error fault) :
      FailsBy statement cursor pageSize backend fault

/-- What a result says about the store before a statement and after it. -/
structure Truthful (statement : String) (cursor : Option Value) (pageSize : Int)
    (backend : Backend) (store store' : Store) (result : QueryResult) : Prop where
  /-- An error names what caused it, and nothing was changed. -/
  failed : result.type = .error → store' = store ∧
    ∃ fault, FailsBy statement cursor pageSize backend fault ∧
      result.message = if fault.message = "" then "Unknown error occurred" else fault.message
  /-- What makes the statement fail is reported. -/
  reported : ∀ fault, FailsBy statement cursor pageSize backend fault →
    result = errorResult fault.message
  /-- A listing changed nothing. -/
  listed : result.type = .read → store' = store ∧
    ∃ collection filter, Command.read statement = .ok (.select collection filter)
  /-- A write was done as the statement says, and nowhere else. -/
  written : result.type = .write → ∃ command, Command.read statement = .ok command ∧
    CarriedOut backend.ids store store' command result ∧
      store.SameOutside command.collection store'
  /-- An update that went through is reported, whatever reading it back gives. -/
  confirmed : ∀ collection target payload reply,
    Command.read statement = .ok (.update collection target payload) →
    backend.connected = true →
    (backend.perform (.update collection target payload)).1 = .ok reply →
    result = Command.updatedResult collection target

section Statements

variable {statement : String} {cursor : Option Value} {pageSize : Int} {backend : Backend}
  {store : Store} {command : Command} {fault : Fault} {reply : Reply}

/-- A statement fails for one reason. -/
theorem FailsBy.unique {fault' : Fault} (h : FailsBy statement cursor pageSize backend fault)
    (h' : FailsBy statement cursor pageSize backend fault') : fault' = fault := by
  cases h with
  | unread hread =>
      cases h' with
      | unread hread' => exact Except.error.inj (hread'.symm.trans hread)
      | unconnected hread' _ => cases hread.symm.trans hread'
      | refused hread' _ _ => cases hread.symm.trans hread'
  | unconnected hread hclosed =>
      cases h' with
      | unread hread' => cases hread.symm.trans hread'
      | unconnected _ _ => rfl
      | refused _ hopen _ => cases hclosed.symm.trans hopen
  | refused hread hopen hcall =>
      cases h' with
      | unread hread' => cases hread.symm.trans hread'
      | unconnected _ hclosed => cases hclosed.symm.trans hopen
      | refused hread' _ hcall' =>
          obtain rfl := Except.ok.inj (hread.symm.trans hread')
          exact Except.error.inj (hcall'.symm.trans hcall)

/-- A statement whose first call is answered does not fail. -/
theorem not_failsBy (hread : Command.read statement = .ok command)
    (hopen : backend.connected = true)
    (hcall : (backend.perform (command.firstCall cursor pageSize)).1 = .ok reply) :
    ¬ FailsBy statement cursor pageSize backend fault := by
  intro h
  cases h with
  | unread hread' => cases hread.symm.trans hread'
  | unconnected _ hclosed => cases hclosed.symm.trans hopen
  | refused hread' _ hcall' =>
      obtain rfl := Except.ok.inj (hread.symm.trans hread')
      cases hcall.symm.trans hcall'

theorem message_errorResult (message : String) :
    (errorResult message).message =
      if message = "" then "Unknown error occurred" else message := by
  by_cases h : message = ""
  · rw [h]; rfl
  · have hempty : message.isEmpty = false := by simpa using h
    simp only [errorResult, hempty, if_neg h]
    rfl

/-- The result of a failure tells the truth when nothing changed. -/
theorem truthful_errorResult (h : FailsBy statement cursor pageSize backend fault) :
    Truthful statement cursor pageSize backend store store (errorResult fault.message) where
  failed _ := ⟨rfl, fault, h, message_errorResult fault.message⟩
  reported fault' h' := by rw [h.unique h']
  listed htype := by cases htype
  written htype := by cases htype
  confirmed collection target payload reply hread hopen hcall :=
    absurd h (not_failsBy hread hopen hcall)

/-- A shape that names a document to change names it by an id. -/
theorem Shape.target?_of_command {shape : Shape} (h : shape.command = .ok command)
    (hkind : command.kind = .update ∨ command.kind = .delete) :
    ∃ id, command.target? = some id := by
  cases shape with
  | select collection condition =>
      have hmade : ∃ filter, command = .select (String.ofList collection) filter := by
        cases condition with
        | none => exact ⟨none, (Command.checked_eq_ok h).1⟩
        | some condition =>
            simp only [Shape.command] at h
            split at h
            · cases h
            · exact ⟨_, (Command.checked_eq_ok h).1⟩
      obtain ⟨filter, rfl⟩ := hmade
      rcases hkind with hkind | hkind <;> cases hkind
  | insert collection body =>
      simp only [Shape.command] at h
      split at h
      · cases h
      · obtain ⟨rfl, -⟩ := Command.checked_eq_ok h
        rcases hkind with hkind | hkind <;> cases hkind
  | update collection body target =>
      simp only [Shape.command] at h
      split at h
      · cases h
      · obtain ⟨rfl, -⟩ := Command.checked_eq_ok h
        exact ⟨_, rfl⟩
  | delete collection target =>
      obtain ⟨rfl, -⟩ := Command.checked_eq_ok h
      exact ⟨_, rfl⟩

theorem target?_of_read (hread : Command.read statement = .ok command)
    (hkind : command.kind = .update ∨ command.kind = .delete) :
    ∃ id, command.target? = some id := by
  unfold Command.read at hread
  split at hread
  · cases hread
  · exact Shape.target?_of_command hread hkind

/-! ## Answered calls -/

/-- The result that an answer to the first call settles. -/
def Progress.result : Progress → QueryResult
  | .finished r => r
  | .confirming _ r => r

/-- A statement that is read and whose first call is answered makes at most one more call, and that
one changes nothing. -/
theorem executeStatement_of_reply (hread : Command.read statement = .ok command)
    (hopen : backend.connected = true) {backend' : Backend} {store' : Store}
    (hcall : backend.perform (command.firstCall cursor pageSize) = (.ok reply, backend'))
    (hstore' : backend'.store = some store') :
    (Command.executeStatement statement cursor pageSize backend).1 =
        (command.afterReply reply).result ∧
      (Command.executeStatement statement cursor pageSize backend).2.2 = backend' := by
  simp only [Command.executeStatement, hread, Command.execute, hopen, if_true, hcall,
    Command.resume]
  cases command with
  | update collection target payload =>
      exact ⟨rfl, Backend.perform_get hstore' collection target⟩
  | select collection filter => exact ⟨rfl, rfl⟩
  | insert collection payload => exact ⟨rfl, rfl⟩
  | delete collection target => exact ⟨rfl, rfl⟩

theorem Command.rows_pageResult (collection : String) (documents : List Document) :
    (pageResult collection (.of documents)).rows = documents.map Document.row := rfl

/-- A page of a listing reports the end of its documents. -/
theorem Command.pageCursor_pageResult (collection : String) (documents : List Document) :
    (pageResult collection (.of documents)).pageCursor = endCursor documents := by
  cases documents with
  | nil => rfl
  | cons first rest =>
      show ((first :: rest).getLast?.map (·.id)).map Value.str = endCursor (first :: rest)
      rw [endCursor, Option.map_map]
      rfl

/-- A listing gives the page that the store lists, and changes nothing. -/
theorem executeStatement_listing (hserves : backend.Serves store) {collection : String}
    {filter : Option Filter} (hread : Command.read statement = .ok (.select collection filter))
    (cursor : Option Value) (pageSize : Int) :
    (Command.executeStatement statement cursor pageSize backend).1 = Command.pageResult collection
        (store.list collection filter (cursor.map Value.display) pageSize) ∧
      (Command.executeStatement statement cursor pageSize backend).2.2 = backend :=
  executeStatement_of_reply hread hserves.connected
    (hserves.perform_list collection filter cursor pageSize) hserves.held

/-- A write that the store answers was carried out. -/
theorem exists_carriedOut (hstore : backend.store = some store) (hordered : store.Ordered)
    (hread : Command.read statement = .ok command) (hkind : command.kind ≠ .select)
    {backend' : Backend}
    (hcall : backend.perform (command.firstCall cursor pageSize) = (.ok reply, backend')) :
    ∃ store', backend'.store = some store' ∧
      CarriedOut backend.ids store store' command (command.afterReply reply).result ∧
        store.SameOutside command.collection store' := by
  obtain ⟨hreply, hafter⟩ := Backend.perform_of_ok hstore (congrArg Prod.fst hcall)
  rw [hcall] at hafter
  obtain rfl : backend' = _ := hafter
  refine ⟨_, rfl, ?_⟩
  cases command with
  | select collection filter => exact absurd rfl hkind
  | insert collection payload =>
      obtain rfl := Except.ok.inj hreply
      have hadded := store.documentAdded_put collection backend.ids.draw.1 payload
      exact ⟨.inserted hadded.found hadded.others hadded.last, hadded.outside⟩
  | update collection target payload =>
      obtain ⟨id, hid⟩ := target?_of_read hread (.inl rfl)
      obtain rfl : target = some id := hid
      cases hupdate : store.update collection id payload with
      | error fault =>
          simp only [Command.firstCall, Backend.answer, hupdate] at hreply
          cases hreply
      | ok store' =>
          simp only [Command.firstCall, Backend.answer, hupdate]
          obtain ⟨hthere, hmerged⟩ := hordered.documents_update hupdate
          have hreads := fun (d : Document) (_ : d ∈ store.documents collection) (_ : d.id = id) =>
            Fields.get?_merge d.fields payload
          exact ⟨.updated hthere hmerged hreads, hordered.sameOutside_update hupdate⟩
  | delete collection target =>
      obtain ⟨id, hid⟩ := target?_of_read hread (.inr rfl)
      obtain rfl : target = some id := hid
      exact ⟨.deleted (store.documents_remove collection id),
        store.sameOutside_remove collection id⟩

theorem CarriedOut.type_eq {ids : IdSupply} {store' : Store} {result : QueryResult}
    (h : CarriedOut ids store store' command result) : result.type = .write := by
  cases h <;> rfl

/-- The report of a write tells the truth when the write was carried out. -/
theorem truthful_of_carriedOut (hread : Command.read statement = .ok command)
    (hopen : backend.connected = true)
    (hcall : (backend.perform (command.firstCall cursor pageSize)).1 = .ok reply)
    {store' : Store} {result : QueryResult}
    (hdone : CarriedOut backend.ids store store' command result)
    (hsame : store.SameOutside command.collection store') :
    Truthful statement cursor pageSize backend store store' result where
  failed htype := by cases hdone.type_eq.symm.trans htype
  reported fault hfails := absurd hfails (not_failsBy hread hopen hcall)
  listed htype := by cases hdone.type_eq.symm.trans htype
  written _ := ⟨command, hread, hdone, hsame⟩
  confirmed collection target payload _ hupdate _ _ := by
    obtain rfl := Except.ok.inj (hread.symm.trans hupdate)
    cases hdone
    rfl

/-- A page tells the truth when nothing changed. -/
theorem truthful_pageResult {collection : String} {filter : Option Filter}
    (hread : Command.read statement = .ok (.select collection filter))
    (hopen : backend.connected = true)
    (hcall : (backend.perform (.list collection filter cursor pageSize)).1 = .ok reply)
    (page : Page) :
    Truthful statement cursor pageSize backend store store
      (Command.pageResult collection page) where
  failed htype := by cases htype
  reported fault hfails := absurd hfails (not_failsBy hread hopen hcall)
  listed _ := ⟨rfl, collection, filter, hread⟩
  written htype := by cases htype
  confirmed _ _ _ _ hupdate _ _ := by cases hread.symm.trans hupdate

end Statements

/-- Whatever store calls fail, and whether the store is open or closed, a statement has a result
that tells the truth about the store. -/
theorem result_tells_truth {backend : Backend} {store : Store}
    (hstore : backend.store = some store) (hreachable : store.Reachable) (statement : String)
    (cursor : Option Value) (pageSize : Int) :
    ∃ store',
      (Command.executeStatement statement cursor pageSize backend).2.2.store = some store' ∧
      Truthful statement cursor pageSize backend store store'
        (Command.executeStatement statement cursor pageSize backend).1 := by
  cases hread : Command.read statement with
  | error fault =>
      simp only [Command.executeStatement, hread]
      exact ⟨store, hstore, truthful_errorResult (.unread hread)⟩
  | ok command =>
      cases hopen : backend.connected with
      | false =>
          simp only [Command.executeStatement, hread, Command.execute, hopen]
          exact ⟨store, hstore, truthful_errorResult (.unconnected hread hopen)⟩
      | true =>
          cases hcall : backend.perform (command.firstCall cursor pageSize) with
          | mk outcome backend' =>
              cases outcome with
              | error fault =>
                  have hfailed := congrArg Prod.fst hcall
                  have hsame := Backend.perform_of_error hstore hfailed
                  rw [hcall] at hsame
                  simp only [Command.executeStatement, hread, Command.execute, hopen, if_true,
                    hcall, Command.resume]
                  rw [show backend' = backend from hsame]
                  exact ⟨store, hstore, truthful_errorResult (.refused hread hopen hfailed)⟩
              | ok reply =>
                  have hanswered := congrArg Prod.fst hcall
                  by_cases hkind : command.kind = .select
                  · cases command with
                    | select collection filter =>
                        have hsame := backend.perform_list collection filter cursor pageSize
                        rw [show backend.perform (.list collection filter cursor pageSize) =
                          (.ok reply, backend') from hcall] at hsame
                        obtain rfl : backend' = backend := hsame
                        obtain ⟨hresult, hbackend⟩ :=
                          executeStatement_of_reply hread hopen hcall hstore
                        rw [hresult, hbackend]
                        exact ⟨store, hstore, truthful_pageResult hread hopen hanswered _⟩
                    | _ => cases hkind
                  · obtain ⟨store', hstore', hdone, hsame⟩ :=
                      exists_carriedOut hstore hreachable.ordered hread hkind hcall
                    obtain ⟨hresult, hbackend⟩ :=
                      executeStatement_of_reply hread hopen hcall hstore'
                    rw [hresult, hbackend]
                    exact ⟨store', hstore',
                      truthful_of_carriedOut hread hopen hanswered hdone hsame⟩

/-- A store with one item of two fields, reading back from which is made to fail. -/
def itemsWithoutReadBack : Backend :=
  ⟨some (.ofData [("items", [("a", [("n", .int 1), ("kept", .bool true)])])]),
    [("get", "read back")], .fresh⟩

/-- An update whose confirmation fails is reported as the write that it was: the field that it names
is changed, and the other one is kept. -/
theorem unconfirmed_update_tells_truth :
    (∃ store',
      (Command.executeStatement "UPDATE items SET JSON \x7b\"n\": 2\x7d WHERE id = a" none 50
        itemsWithoutReadBack).2.2.store = some store' ∧
      Truthful "UPDATE items SET JSON \x7b\"n\": 2\x7d WHERE id = a" none 50 itemsWithoutReadBack
        (.ofData [("items", [("a", [("n", .int 1), ("kept", .bool true)])])]) store'
        (Command.executeStatement "UPDATE items SET JSON \x7b\"n\": 2\x7d WHERE id = a" none 50
          itemsWithoutReadBack).1) ∧
      (Command.executeStatement "UPDATE items SET JSON \x7b\"n\": 2\x7d WHERE id = a" none 50
        itemsWithoutReadBack).1 = Command.updatedResult "items" (some "a") ∧
      (Command.executeStatement "UPDATE items SET JSON \x7b\"n\": 2\x7d WHERE id = a" none 50
        itemsWithoutReadBack).2.2.store.map (·.documents "items") =
          some [⟨"a", [("n", .int 2), ("kept", .bool true)]⟩] := by
  refine ⟨result_tells_truth rfl
    (.seeded [("items", [("a", [("n", .int 1), ("kept", .bool true)])])]) _ _ _, ?_, ?_⟩
  · with_unfolding_all rfl
  · with_unfolding_all rfl

end DocConsole
