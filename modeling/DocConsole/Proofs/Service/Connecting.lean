import DocConsole.Proofs.Service.Changes
import DocConsole.Proofs.Store.Scan

/-!
# Connecting another store

Connecting builds a store from settings, asks it for a sign of life, and only then puts it in the
place of the current one.  Main statement: whoever is turned down finds everything as it was and the
new store closed, and otherwise the session starts over, the old store is closed, and every later
call is made to the new one.  A closed store refuses whatever it is asked.
-/

set_option autoImplicit false

namespace DocConsole

/-! ## Calls change the store, and nothing else does -/

namespace Console

/-- A reaction carried on changes the backend by the calls that it reports. -/
theorem backend_carryOn (c : Console) (action : Nat) (reaction : Reaction) :
    (c.carryOn action reaction).1.backend =
      c.backend.afterCalls (c.carryOn action reaction).2.calls := by
  fun_induction Console.carryOn c action reaction with
  | case1 c answer => rfl
  | case2 c call job answered c' hholding => rfl
  | case3 c call job answered c' hholding next rest ih => exact ih

theorem backend_act (c : Console) (action : Action) :
    (c.act action).1.backend = c.backend.afterCalls (c.act action).2.calls :=
  backend_carryOn _ _ _

end Console

/-! ## Closed stores -/

/-- A store is out of use: there is no connection to it, and whatever it is asked fails and leaves
everything as it is. -/
structure Store.IsClosed (store : Store) : Prop where
  unconnected : ∀ backend : Backend, backend.store = some store → backend.connected = false
  refuses : ∀ (backend : Backend) (call : StoreCall), backend.store = some store →
    ∃ fault, backend.perform call = (.error fault, backend) ∧
      (backend.failures.lookup call.name = none → fault = .notConnected)

theorem Store.isClosed_close (store : Store) : store.close.IsClosed := by
  have hclosed : store.close.isOpen = false := rfl
  refine ⟨fun backend hstore => ?_, fun backend call hstore => ?_⟩
  · rw [Backend.connected, hstore]
    exact hclosed
  · cases hfailure : backend.failures.lookup call.name with
    | some message =>
        exact ⟨.storeFailure message, Backend.perform_of_failure hfailure,
          fun hnone => by cases hnone⟩
    | none =>
        refine ⟨.notConnected, ?_, fun _ => rfl⟩
        simp only [Backend.perform, hfailure, hstore, hclosed, Bool.false_eq_true, if_false]

/-! ## Requests to a started service -/

/-- The action that a request asks of the session; what it brings must be read. -/
def Request.action? : Request → Option Action
  | .query statement => some (.run statement)
  | .next => some .nextPage
  | .previous => some .previousPage
  | .editCell document field text type =>
      (readEdited text type).toOption.map fun value => .edit document field value
  | .insertRow form => (InsertField.payload form).toOption.map .insert
  | .logout => some .reset
  | .history => none
  | .exportFile => none
  | .connect _ => none

/-- A request for anything but another store. -/
def Request.Stays (request : Request) : Prop :=
  ∀ settings, request ≠ .connect settings

/-- A request, the day on which it is made, and the store that settings would give access to. -/
structure Visit where
  /-- The day. -/
  today : Day
  /-- The store. -/
  offer : StoreOffer
  /-- The request. -/
  request : Request

/-- Nothing is on display, no query is active, and stack and history are those of the start. -/
structure Session.IsBlank (s : Session) : Prop where
  displayed : s.displayed = none
  activeStatement : s.activeStatement = none
  activeCommand : s.activeCommand = none
  columns : s.columns = []
  cursors : s.cursors = .initial
  history : s.history = []

theorem Session.isBlank_reset (s : Session) : s.reset.IsBlank :=
  ⟨rfl, rfl, rfl, rfl, rfl, rfl⟩

namespace Service

variable {s s' : Service} {session : Session} {today : Day} {offer : StoreOffer}
  {request : Request} {text : String} {response : Response} {visits : List Visit}

/-- The calls that a request makes to the current store. -/
def calls (s : Service) (request : Request) : List StoreCall :=
  match s.session, request.action? with
  | some session, some action => ((Console.initial session s.backend).act action).2.calls
  | _, _ => []

theorem ensure_of_session (h : s.session = some session) : s.ensure = .ok (session, s) := by
  rw [ensure, h]

/-- What a request other than for another store leaves of a started service. -/
theorem handle_of_stays (hsession : s.session = some session) (hstays : request.Stays) :
    (s.handle today offer request).2 =
      match request.action? with
      | some action => (s.act session action).2.2
      | none => s := by
  have hdisplay (action : Action) :
      (s.display session action).2 = (s.act session action).2.2 := by
    unfold display
    split <;> rename_i hact <;> rw [hact]
  have hchange (action : Action) :
      (s.change session (.ok action)).2 = (s.act session action).2.2 := by
    simp only [change]
    split <;> rename_i hact <;> rw [hact]
  cases request with
  | connect settings => exact absurd rfl (hstays settings)
  | editCell document field text type =>
      simp only [handle, withSession, ensure_of_session hsession, Request.action?]
      cases readEdited text type with
      | error fault => rfl
      | ok value => exact hchange _
  | insertRow form =>
      simp only [handle, withSession, ensure_of_session hsession, Request.action?]
      cases InsertField.payload form with
      | error fault => rfl
      | ok fields => exact hchange _
  | history => simp only [handle, withSession, ensure_of_session hsession, Request.action?]
  | exportFile => simp only [handle, withSession, ensure_of_session hsession, Request.action?]
  | _ =>
      simp only [handle, withSession, ensure_of_session hsession, Request.action?]
      exact hdisplay _

/-- Such a request changes the session, and the backend by its calls. -/
theorem exists_session_of_stays (hsession : s.session = some session) (hstays : request.Stays) :
    ∃ session', (s.handle today offer request).2 =
      { s with session := some session', backend := s.backend.afterCalls (s.calls request) } := by
  rw [handle_of_stays hsession hstays]
  cases haction : request.action? with
  | none =>
      have hcalls : s.calls request = [] := by
        rw [calls, hsession, haction]
      exact ⟨session, by rw [hcalls, ← hsession]; rfl⟩
  | some action =>
      have hcalls : s.calls request =
          ((Console.initial session s.backend).act action).2.calls := by
        rw [calls, hsession, haction]
      have hbackend := Console.backend_act (.initial session s.backend) action
      refine ⟨((Console.initial session s.backend).act action).1.session, ?_⟩
      show ({ s with
        session := some ((Console.initial session s.backend).act action).1.session
        backend := ((Console.initial session s.backend).act action).1.backend } : Service) = _
      rw [hbackend, hcalls]
      rfl

/-- The service after some requests. -/
def after (s : Service) (visits : List Visit) : Service :=
  visits.foldl (fun s visit => (s.handle visit.today visit.offer visit.request).2) s

/-- The calls that some requests make, one request after the other. -/
def callsAlong (s : Service) : List Visit → List StoreCall
  | [] => []
  | visit :: rest =>
      s.calls visit.request ++
        callsAlong (s.handle visit.today visit.offer visit.request).2 rest

/-- As long as no other store is asked for, all calls are made to the same one, one after the
other, and no store goes out of use. -/
theorem exists_session_after (hsession : s.session = some session)
    (hstays : ∀ visit ∈ visits, visit.request.Stays) :
    ∃ session', s.after visits =
      { s with
        session := some session'
        backend := s.backend.afterCalls (s.callsAlong visits) } := by
  induction visits generalizing s session with
  | nil => exact ⟨session, by rw [← hsession]; rfl⟩
  | cons visit rest ih =>
      obtain ⟨session₁, hfirst⟩ :
          ∃ session₁, (s.handle visit.today visit.offer visit.request).2 = { s with
            session := some session₁
            backend := s.backend.afterCalls (s.calls visit.request) } :=
        exists_session_of_stays hsession (hstays visit List.mem_cons_self)
      have hsession₁ : (s.handle visit.today visit.offer visit.request).2.session =
          some session₁ := by rw [hfirst]
      obtain ⟨session', hrest⟩ := ih hsession₁
        fun later hlater => hstays later (List.mem_cons_of_mem visit hlater)
      refine ⟨session', ?_⟩
      rw [after, List.foldl_cons]
      refine hrest.trans ?_
      rw [callsAlong, Backend.afterCalls_append, hfirst]

/-! ## The ways connecting ends -/

/-- Whether the store of an offer gives a sign of life, and with which answer. -/
def ping (s : Service) (offer : StoreOffer) : Outcome :=
  (Backend.perform ⟨some offer.store, offer.failures, s.backend.ids⟩ .ping).1

/-- Session and store are as before, and the given stores went out of use and are closed. -/
structure Keeps (s s' : Service) (stores : List Store) : Prop where
  session : s'.session = s.session
  backend : s'.backend = s.backend
  retired : s'.retired = s.retired ++ stores.map Store.close
  closed : ∀ store ∈ stores.map Store.close, store.IsClosed

/-- The store of an offer is the current one and open, the one before went out of use and is closed,
and the session starts over. -/
structure Exchanges (s s' : Service) (offer : StoreOffer) : Prop where
  session : ∃ session, s'.session = some session ∧ session.IsBlank
  backend : s'.backend = ⟨some offer.store, offer.failures, s.backend.ids⟩
  connected : s'.backend.connected = true
  retired : s'.retired = s.retired ++ (s.backend.store.map Store.close).toList
  closed : ∀ store ∈ s.backend.store.map Store.close, store.IsClosed

/-- After an exchange all calls are made to the new store. -/
theorem Exchanges.after (h : s.Exchanges s' offer)
    (hstays : ∀ visit ∈ visits, visit.request.Stays) :
    (s'.after visits).retired = s'.retired ∧
      (s'.after visits).backend =
        (Backend.mk (some offer.store) offer.failures s.backend.ids).afterCalls
          (s'.callsAlong visits) := by
  obtain ⟨session, hsession, -⟩ := h.session
  obtain ⟨session', hafter⟩ := exists_session_after hsession hstays
  rw [hafter, h.backend]
  exact ⟨rfl, rfl⟩

theorem connect_of_silence {settings : Settings} {fault : Fault}
    (hsettings : Settings.ofJson text = .ok settings) (hping : s.ping offer = .error fault) :
    s.connect text offer =
      (.ok (.denied (.unreachable fault.message)), s.turnAway offer) := by
  unfold ping at hping
  simp only [connect, hsettings, hping]

theorem connect_of_answer {settings : Settings} {reply : Reply}
    (hsettings : Settings.ofJson text = .ok settings) (hping : s.ping offer = .ok reply) :
    s.connect text offer = s.withSession fun session s =>
      (.ok (s.adopt session offer).1, (s.adopt session offer).2) := by
  unfold ping at hping
  simp only [connect, hsettings, hping]
  rfl

/-- A store that gives a sign of life is open. -/
theorem isOpen_of_ping {reply : Reply} (hping : s.ping offer = .ok reply) :
    offer.store.isOpen = true := by
  have hstore : (Backend.mk (some offer.store) offer.failures s.backend.ids).store =
      some offer.store := rfl
  unfold ping at hping
  rcases Backend.perform_cases hstore .ping with ⟨fault, hrefused⟩ | ⟨hopen, -⟩
  · rw [hrefused] at hping
    cases hping
  · exact hopen

theorem exchanges_adopt (s : Service) (session : Session) (hopen : offer.store.isOpen = true) :
    s.Exchanges (s.adopt session offer).2 offer := by
  refine ⟨⟨session.reset, rfl, session.isBlank_reset⟩, rfl, hopen, rfl, fun closed hclosed => ?_⟩
  obtain ⟨store, -, rfl⟩ := Option.map_eq_some_iff.mp hclosed
  exact store.isClosed_close

/-- Connecting ends in one of three ways.  Settings that are refused build no store, and a store
that gives no sign of life is closed; both leave everything as it was.  Otherwise the current store
is closed, the session starts over, and every later call is made to the new store, which is open.
What was closed refuses every call. -/
theorem connecting_is_all_or_nothing (s : Service) (today : Day) (offer : StoreOffer)
    (text : String) (response : Response)
    (h : (s.handle today offer (.connect text)).1 = .ok response) :
    (response.status = 422 ∧ (∃ fault, Settings.ofJson text = .error fault) ∧
        s.Keeps (s.handle today offer (.connect text)).2 []) ∨
      (response.status = 502 ∧ (∃ settings, Settings.ofJson text = .ok settings) ∧
        (∃ fault, s.ping offer = .error fault) ∧
        s.Keeps (s.handle today offer (.connect text)).2 [offer.store]) ∨
      (response.status = 200 ∧ (∃ settings, Settings.ofJson text = .ok settings) ∧
        (∃ reply, s.ping offer = .ok reply) ∧
        ∃ session s', s.ensure = .ok (session, s') ∧
          s'.Exchanges (s.handle today offer (.connect text)).2 offer ∧
          ∀ visits : List Visit, (∀ visit ∈ visits, visit.request.Stays) →
            ((s.handle today offer (.connect text)).2.after visits).retired =
              (s.handle today offer (.connect text)).2.retired ∧
            ((s.handle today offer (.connect text)).2.after visits).backend =
              (Backend.mk (some offer.store) offer.failures s'.backend.ids).afterCalls
                ((s.handle today offer (.connect text)).2.callsAlong visits)) := by
  have hhandle : s.handle today offer (.connect text) = s.connect text offer := rfl
  rw [hhandle] at h ⊢
  cases hsettings : Settings.ofJson text with
  | error fault =>
      rw [connect_of_bad_settings hsettings] at h ⊢
      obtain rfl := Except.ok.inj h
      exact .inl ⟨rfl, ⟨fault, rfl⟩, rfl, rfl, (List.append_nil _).symm, nofun⟩
  | ok settings =>
      cases hping : s.ping offer with
      | error fault =>
          rw [connect_of_silence hsettings hping] at h ⊢
          obtain rfl := Except.ok.inj h
          refine .inr (.inl ⟨rfl, ⟨settings, rfl⟩, ⟨fault, rfl⟩, rfl, rfl, rfl,
            fun closed hclosed => ?_⟩)
          obtain rfl := List.mem_singleton.mp hclosed
          exact offer.store.isClosed_close
      | ok reply =>
          rw [connect_of_answer hsettings hping] at h ⊢
          cases hensure : s.ensure with
          | error fault =>
              rw [withSession, hensure] at h
              cases h
          | ok pair =>
              obtain ⟨session, s'⟩ := pair
              have hexchanges := exchanges_adopt s' session (isOpen_of_ping hping)
              rw [withSession, hensure] at h ⊢
              obtain rfl := Except.ok.inj h
              exact .inr (.inr ⟨rfl, ⟨settings, rfl⟩, ⟨reply, rfl⟩, session, s', rfl, hexchanges,
                fun visits hstays => hexchanges.after hstays⟩)

/-- A session that shows an item of its store. -/
def browsing : Service :=
  .started shownItem withoutUpdates

/-- Another store, with notes. -/
def notes : StoreOffer :=
  ⟨.ofData [("notes", [("x", [("title", .str "a")])])], []⟩

/-- Settings of a database. -/
def notesSettings : String :=
  "\x7b\"mongo_uri\": \"db://notes\", \"database_name\": \"notes\"\x7d"

/-- A note is read and then removed. -/
def noteVisits : List Visit :=
  [⟨⟨2024, 5, 1⟩, notes, .query "SELECT * FROM notes"⟩,
    ⟨⟨2024, 5, 2⟩, notes, .query "DELETE FROM notes WHERE id = x"⟩]

/-- The old store is closed and refuses every call, and the notes are read and removed in the new
one. -/
theorem notes_are_exchanged :
    (browsing.handle ⟨2024, 5, 1⟩ notes (.connect notesSettings)).1 = .ok (.display none 1) ∧
      (browsing.handle ⟨2024, 5, 1⟩ notes (.connect notesSettings)).2.retired =
        (withoutUpdates.store.map Store.close).toList ∧
      (∃ store ∈ (browsing.handle ⟨2024, 5, 1⟩ notes (.connect notesSettings)).2.retired,
        store.IsClosed) ∧
      ((browsing.handle ⟨2024, 5, 1⟩ notes (.connect notesSettings)).2.after noteVisits).backend =
        (Backend.mk (some notes.store) [] .fresh).afterCalls
          [.list "notes" none none 50, .delete "notes" (some "x")] := by
  have hresponse : (browsing.handle ⟨2024, 5, 1⟩ notes (.connect notesSettings)).1 =
      .ok (.display none 1) := by decide +kernel
  have hcalls : (browsing.handle ⟨2024, 5, 1⟩ notes (.connect notesSettings)).2.callsAlong
      noteVisits = [.list "notes" none none 50, .delete "notes" (some "x")] := by decide +kernel
  have hstays : ∀ visit ∈ noteVisits, visit.request.Stays := by
    intro visit hvisit settings
    rcases List.mem_pair.mp hvisit with rfl | rfl
    · exact nofun
    · exact nofun
  rcases connecting_is_all_or_nothing _ _ _ _ _ hresponse with
    ⟨hstatus, -⟩ | ⟨hstatus, -⟩ | ⟨-, -, -, session, s', hensure, hexchanges, hlater⟩
  · cases hstatus
  · cases hstatus
  · obtain ⟨-, rfl⟩ := Prod.mk.inj (Except.ok.inj hensure)
    obtain ⟨-, hbackend⟩ := hlater noteVisits hstays
    rw [hcalls] at hbackend
    refine ⟨hresponse, hexchanges.retired, ⟨_, ?_, hexchanges.closed _ rfl⟩, hbackend⟩
    rw [hexchanges.retired]
    exact List.mem_singleton_self _

end Service

end DocConsole
