import DocConsole.Proofs.Number.Digits
import DocConsole.Proofs.Service.Connecting
import DocConsole.Proofs.Session.Counting
import DocConsole.Proofs.Session.Retrying
import DocConsole.Proofs.Settings.Reading

/-!
# Settings in force

Connecting reads the settings of a session and checks them all, but the session that was there goes
on with the size of its pages and with its way of treating stale responses.  Main statement: a
connected session goes on as one opened with the settings just if the sizes agree, as long as every
call is answered before the next one, and just if both agree when answers overtake each other.
-/

set_option autoImplicit false

namespace DocConsole

open Text

/-! ## A store with many items -/

/-- A store with the given number of items. -/
def Store.crowd (n : Nat) : Store :=
  .ofData [("items", (List.range n).map fun i => (decimalOfNat i, []))]

namespace Store

theorem crowd_succ (n : Nat) : crowd (n + 1) = (crowd n).put "items" (decimalOfNat n) [] := by
  simp only [crowd, ofData, List.range_succ, List.map_append, List.map_cons, List.map_nil,
    List.foldl_append, List.foldl_cons, List.foldl_nil]

/-- The items of a crowd lie one after the other. -/
theorem shelf_crowd (n : Nat) :
    (crowd n).shelf "items" = (List.range n).map (fun i => ⟨decimalOfNat i, i, some []⟩) ∧
      (crowd n).next = n ∧ (crowd n).isOpen = true := by
  induction n with
  | zero => exact ⟨rfl, rfl, rfl⟩
  | succ n ih =>
      obtain ⟨hshelf, hnext, hopen⟩ := ih
      have hfresh : ((crowd n).shelf "items").slot? (decimalOfNat n) = none := by
        rw [hshelf, Shelf.slot?, List.find?_eq_none]
        intro slot hslot hsame
        obtain ⟨i, hi, rfl⟩ := List.mem_map.mp hslot
        have hvalue := congrArg (fun text : String => digitsValue text.toList)
          (eq_of_beq hsame)
        simp only [decimalOfNat, String.toList_ofList, digitsValue_naturalText] at hvalue
        exact absurd hvalue (Nat.ne_of_lt (List.mem_range.mp hi))
      obtain ⟨hshelf', hnext'⟩ := shelf_put hfresh []
      rw [crowd_succ, hshelf', hnext', (sameOutside_put _ _ _ _).isOpen, hshelf, hnext,
        List.range_succ, List.map_append]
      exact ⟨rfl, rfl, hopen⟩

/-- A page of a crowd is as long as its limit, or as the crowd. -/
theorem length_list_crowd (n : Nat) (limit : Int) :
    ((crowd n).list "items" none none limit).documents.length = min (max 1 limit.toNat) n := by
  have hdocument : Slot.document? ∘ (fun i => ⟨decimalOfNat i, i, some []⟩) =
      fun i => some ⟨decimalOfNat i, []⟩ := rfl
  have hdocuments : (Shelf.documents ((crowd n).shelf "items")).length = n := by
    rw [(shelf_crowd n).1, Shelf.documents, List.filterMap_map, hdocument, List.filterMap_eq_map',
      List.length_map, List.length_range]
  have hall : meets none = fun _ => true := rfl
  rw [list, Page.of, List.length_take, hall, List.filter_true]
  exact congrArg (min _) hdocuments

end Store

/-! ## What tells sessions apart -/

/-- A listing of the items. -/
def itemListing : String :=
  "SELECT * FROM items"

/-- A deletion of one of them. -/
def itemDeletion : String :=
  "DELETE FROM items WHERE id = a"

/-- No statement. -/
def noStatement : String :=
  "?"

theorem read_itemListing : isBlankText itemListing = false ∧
    Command.read itemListing = .ok (.select "items" none) := by
  decide +kernel

theorem read_itemDeletion : isBlankText itemDeletion = false ∧
    Command.read itemDeletion = .ok (.delete "items" (some "a")) := by
  decide +kernel

theorem read_noStatement : isBlankText noStatement = false ∧
    Command.read noStatement = .error .unrecognized := by
  decide +kernel

/-- The answer to a deletion is held back until something else was answered. -/
def overtaking : List ConsoleEvent :=
  [.setHolding true, .act (.run itemDeletion), .act (.run noStatement)]

/-- The deletion while its answer is held back. -/
def heldDeletion : HeldCall :=
  ⟨0, 0, .run 1 itemDeletion (.delete "items" (some "a")), .ok .done⟩

/-- A session that shows that the other statement cannot be read. -/
def refusing (pageSize : Int) (discardStale : Bool) : Session :=
  (Session.finishRun { Session.initial pageSize discardStale with issued := 2 } 2 noStatement none
    (errorResult Fault.unrecognized.message)).1

namespace Console

/-- A listing that is answered at once is shown. -/
theorem result_of_listing {c : Console} {store : Store} {statement collection : String}
    {filter : Option Filter} (hopen : c.holding = false) (hserves : c.backend.Serves store)
    (happlied : c.session.applied ≤ c.session.issued) (hblank : isBlankText statement = false)
    (hread : Command.read statement = .ok (.select collection filter)) :
    (c.act (.run statement)).1.session.result = some (Command.pageResult collection
      (store.list collection filter none c.session.pageSize)) := by
  have hstart := Session.startRun_of_read (s := c.session) hblank hread
  have hperform := hserves.perform_list collection filter none c.session.pageSize
  have hresume : Session.resume { c.session with issued := c.session.issued + 1 }
      (c.backend.perform (.list collection filter none c.session.pageSize)).1
      (.run (c.session.issued + 1) statement (.select collection filter)) =
      Session.finishRun { c.session with issued := c.session.issued + 1 } (c.session.issued + 1)
        statement (some (.select collection filter)) (Command.pageResult collection
          (store.list collection filter none c.session.pageSize)) := by
    rw [hperform]
    rfl
  rw [act_of_answered hopen hserves.connected hstart
    (hresume.trans (Session.finishRun_eq _ _ _ _ _))]
  have hnewest : Session.applied { c.session with issued := c.session.issued + 1 } ≤
      c.session.issued + 1 := Nat.le_succ_of_le happlied
  exact (Session.shows_finishRun hnewest).2.result

variable (pageSize : Int) (discardStale : Bool) (ids : IdSupply)

/-- The first listing of a crowd fills a page. -/
theorem exists_result_of_crowd (n : Nat) :
    ∃ r, ((Console.fresh pageSize discardStale ⟨some (.crowd n), [], ids⟩).after
        [.act (.run itemListing)]).session.result = some r ∧
      r.rows.length = min (max 1 pageSize.toNat) n := by
  have hserves : (Backend.mk (some (.crowd n)) [] ids).Serves (.crowd n) :=
    ⟨rfl, (Store.shelf_crowd n).2.2, rfl, Store.ordered_ofData _⟩
  exact ⟨_, result_of_listing rfl hserves (Nat.le_refl 0) read_itemListing.1 read_itemListing.2,
    (List.length_map _).trans (Store.length_list_crowd n pageSize)⟩

/-- The deletion waits at the first gate while something else is on display. -/
theorem after_overtaking :
    (Console.fresh pageSize discardStale ⟨some .empty, [], ids⟩).after overtaking =
      ⟨refusing pageSize discardStale,
        ((Backend.mk (some .empty) [] ids).perform (.delete "items" (some "a"))).2,
        true, [heldDeletion], 1, 2⟩ := by
  let c := Console.fresh pageSize discardStale ⟨some .empty, [], ids⟩
  have hheld : (Console.act { c with holding := true } (.run itemDeletion)).1 =
      ⟨{ c.session with issued := 1 }, (c.backend.perform (.delete "items" (some "a"))).2,
        true, [heldDeletion], 1, 1⟩ := by
    rw [act_of_held rfl (Session.startRun_of_read read_itemDeletion.1 read_itemDeletion.2)]
    rfl
  show (Console.act (Console.act { c with holding := true } (.run itemDeletion)).1
    (.run noStatement)).1 = _
  rw [hheld, act_of_finished rfl ((Session.startRun_of_unread read_noStatement.1
    read_noStatement.2).trans (Session.finishRun_eq _ _ _ _ _))]
  rfl

/-- Of two overlapping statements the one that is answered last is shown, unless stale responses
are dropped. -/
theorem isError_of_overtaking :
    ((Console.fresh pageSize discardStale ⟨some .empty, [], ids⟩).after
      (overtaking ++ [.release 0])).session.result.map (·.isError) = some discardStale := by
  have hgated := Console.gated_after_fresh pageSize discardStale ⟨some .empty, [], ids⟩ overtaking
  rw [after_overtaking] at hgated
  have hrelease := hgated.session_release List.mem_cons_self
    (Session.finishRun_eq (refusing pageSize discardStale) 1 itemDeletion
      (some (.delete "items" (some "a"))) (Command.deletedResult "items" (some "a")))
  rw [after_append_cons, after_overtaking]
  refine (congrArg (fun s => s.result.map (·.isError)) hrelease).trans ?_
  cases discardStale with
  | false => rfl
  | true => rfl

variable {pageSize : Int} {discardStale : Bool} {ids : IdSupply} {size : Int} {drops : Bool}

/-- Sessions that show the same of every crowd have pages of the same size. -/
theorem pageSize_eq_of_transcript (hpageSize : 0 < pageSize) (hsize : 0 < size)
    (h : ∀ n, (Console.fresh pageSize discardStale ⟨some (.crowd n), [], ids⟩).transcript
        [.act (.run itemListing)] =
      (Console.fresh size drops ⟨some (.crowd n), [], ids⟩).transcript
        [.act (.run itemListing)]) : pageSize = size := by
  -- A crowd that fills a page of either size.
  let n := max pageSize.toNat size.toNat
  obtain ⟨r, hresult, hlength⟩ := exists_result_of_crowd pageSize discardStale ids n
  obtain ⟨r', hresult', hlength'⟩ := exists_result_of_crowd size drops ids n
  obtain rfl : r = r' := Option.some.inj
    (hresult.symm.trans ((result_of_transcript (h n)).trans hresult'))
  omega

/-- Sessions that show the same of two overlapping statements treat stale responses alike. -/
theorem discardStale_eq_of_transcript
    (h : (Console.fresh pageSize discardStale ⟨some .empty, [], ids⟩).transcript
        (overtaking ++ [.release 0]) =
      (Console.fresh size drops ⟨some .empty, [], ids⟩).transcript
        (overtaking ++ [.release 0])) : discardStale = drops := by
  have hresult := congrArg (Option.map (·.isError)) (result_of_transcript h)
  exact Option.some.inj ((isError_of_overtaking pageSize discardStale ids).symm.trans
    (hresult.trans (isError_of_overtaking size drops ids)))

end Console

/-! ## The session after connecting -/

/-- A session opened with settings, on the store that they give access to. -/
def Settings.console (settings : Settings) (offer : StoreOffer) (ids : IdSupply) : Console :=
  .fresh settings.pageSize settings.discardStale ⟨some offer.store, offer.failures, ids⟩

namespace Service

variable {s s' : Service} {session : Session} {today : Day} {offer : StoreOffer} {text : String}
  {settings : Settings}

/-- The session, if there is one, was opened with pages of at least one document, and anything may
have happened to it since. -/
def WasOpened (s : Service) : Prop :=
  ∀ session, s.session = some session → ∃ pageSize discardStale backend events,
    0 < pageSize ∧ session = ((Console.fresh pageSize discardStale backend).after events).session

/-- The store that settings give access to is connected. -/
def Connects (s : Service) (today : Day) (offer : StoreOffer) (text : String) : Prop :=
  ∃ response, (s.handle today offer (.connect text)).1 = .ok response ∧ response.status = 200

/-- With no answer held back, the session of a service goes through events as a console does. -/
def GoesOnAs (s : Service) (c : Console) (events : List ConsoleEvent) : Prop :=
  ∃ session, s.session = some session ∧
    (Console.initial session s.backend).transcript events = c.transcript events

theorem WasOpened.exists_console (h : s.WasOpened) (hensure : s.ensure = .ok (session, s')) :
    s'.backend.ids = s.backend.ids ∧ ∃ pageSize discardStale backend events, 0 < pageSize ∧
      session = ((Console.fresh pageSize discardStale backend).after events).session := by
  unfold ensure at hensure
  cases hsession : s.session with
  | some session' =>
      rw [hsession] at hensure
      obtain ⟨rfl, rfl⟩ := Prod.mk.inj (Except.ok.inj hensure)
      exact ⟨rfl, h _ hsession⟩
  | none =>
      rw [hsession] at hensure
      cases hsettings : Settings.ofEnvironment s.environment with
      | error fault =>
          simp only [hsettings] at hensure
          cases hensure
      | ok settings =>
          simp only [hsettings] at hensure
          obtain ⟨rfl, rfl⟩ := Prod.mk.inj (Except.ok.inj hensure)
          exact ⟨rfl, settings.pageSize, settings.discardStale, s.backend, [],
            Settings.pageSize_pos_of_ofEnvironment hsettings, rfl⟩

theorem WasOpened.pageSize_pos (h : s.WasOpened) (hensure : s.ensure = .ok (session, s')) :
    0 < session.pageSize := by
  obtain ⟨-, pageSize, discardStale, backend, events, hpos, rfl⟩ := h.exists_console hensure
  rw [Console.pageSize_after_fresh]
  exact hpos

/-- Settings that are read are connected just if the store gives a sign of life, and then the
session is reset on that store. -/
theorem connects_iff (hsettings : Settings.ofJson text = .ok settings)
    (hensure : s.ensure = .ok (session, s')) :
    s.Connects today offer text ↔ ∃ reply, s.ping offer = .ok reply := by
  have hhandle : s.handle today offer (.connect text) = s.connect text offer := rfl
  rw [Connects, hhandle]
  cases hping : s.ping offer with
  | error fault =>
      rw [connect_of_silence hsettings hping]
      refine ⟨?_, nofun⟩
      rintro ⟨_, ⟨⟩, ⟨⟩⟩
  | ok reply =>
      rw [connect_of_answer hsettings hping, withSession, hensure]
      exact ⟨fun _ => ⟨reply, rfl⟩, fun _ => ⟨_, rfl, rfl⟩⟩

theorem handle_connect_of_connects (hsettings : Settings.ofJson text = .ok settings)
    (hensure : s.ensure = .ok (session, s')) (hconnects : s.Connects today offer text) :
    (s.handle today offer (.connect text)).2 = (s'.adopt session offer).2 := by
  obtain ⟨reply, hping⟩ := (connects_iff hsettings hensure).mp hconnects
  have hhandle : s.handle today offer (.connect text) = s.connect text offer := rfl
  rw [hhandle, connect_of_answer hsettings hping, withSession, hensure]

/-- A store that is open and does as it is told is connected. -/
theorem connects_of_isOpen (hsettings : Settings.ofJson text = .ok settings)
    (hensure : s.ensure = .ok (session, s')) {store : Store} (hopen : store.isOpen = true) :
    s.Connects today ⟨store, []⟩ text := by
  refine (connects_iff hsettings hensure).mpr ⟨.done, ?_⟩
  simp only [ping, Backend.perform, List.lookup_nil, hopen, if_true]
  rfl

/-- After connecting, the session goes on as one that was just opened with what it had before. -/
theorem goesOnAs_iff (hsettings : Settings.ofJson text = .ok settings) (hopened : s.WasOpened)
    (hensure : s.ensure = .ok (session, s')) (hconnects : s.Connects today offer text)
    {c : Console} {events : List ConsoleEvent} :
    (s.handle today offer (.connect text)).2.GoesOnAs c events ↔
      (Console.fresh session.pageSize session.discardStale
        ⟨some offer.store, offer.failures, s.backend.ids⟩).transcript events =
          c.transcript events := by
  obtain ⟨hids, pageSize, discardStale, backend, before, -, hsession⟩ :=
    hopened.exists_console hensure
  have happlied : session.applied ≤ session.issued := hsession ▸ Console.applied_le_issued rfl
  rw [handle_connect_of_connects hsettings hensure hconnects,
    ← Console.transcript_reset happlied _ (.inl rfl), ← hids]
  refine ⟨?_, fun htranscript => ⟨_, rfl, htranscript⟩⟩
  rintro ⟨_, ⟨⟩, htranscript⟩
  exact htranscript

/-- A session connected by settings goes on as one opened with them just if its pages have the size
that the settings ask for, as long as every call is answered before the next one; and just if it
treats stale responses as they ask for as well, when answers may overtake each other. -/
theorem connected_goes_on_as_opened (s : Service) (today : Day)
    (hsettings : Settings.ofJson text = .ok settings) (hopened : s.WasOpened)
    (hensure : s.ensure = .ok (session, s')) :
    (session.pageSize = settings.pageSize ↔
      ∀ offer, s.Connects today offer text →
        ∀ events : List ConsoleEvent, (∀ event ∈ events, event.AnswersAtOnce) →
          (s.handle today offer (.connect text)).2.GoesOnAs
            (settings.console offer s.backend.ids) events) ∧
      (session.pageSize = settings.pageSize ∧ session.discardStale = settings.discardStale ↔
        ∀ offer, s.Connects today offer text → ∀ events : List ConsoleEvent,
          (s.handle today offer (.connect text)).2.GoesOnAs
            (settings.console offer s.backend.ids) events) := by
  have hgoes {offer : StoreOffer} (hconnects : s.Connects today offer text)
      {events : List ConsoleEvent} :
      (s.handle today offer (.connect text)).2.GoesOnAs
          (settings.console offer s.backend.ids) events ↔
        (Console.fresh session.pageSize session.discardStale
          ⟨some offer.store, offer.failures, s.backend.ids⟩).transcript events =
          (Console.fresh settings.pageSize settings.discardStale
            ⟨some offer.store, offer.failures, s.backend.ids⟩).transcript events :=
    goesOnAs_iff hsettings hopened hensure hconnects
  have hconnects {store : Store} (hopen : store.isOpen = true) :
      s.Connects today ⟨store, []⟩ text := connects_of_isOpen hsettings hensure hopen
  have hsizes (hall : ∀ offer, s.Connects today offer text →
      ∀ events : List ConsoleEvent, (∀ event ∈ events, event.AnswersAtOnce) →
        (s.handle today offer (.connect text)).2.GoesOnAs
          (settings.console offer s.backend.ids) events) :
      session.pageSize = settings.pageSize := by
    have hcrowd (n : Nat) := hconnects (Store.shelf_crowd n).2.2
    exact Console.pageSize_eq_of_transcript (hopened.pageSize_pos hensure)
      (Settings.isUsable_of_ofJson hsettings).pageSize fun n =>
        (hgoes (hcrowd n)).mp (hall _ (hcrowd n) _ (List.forall_mem_singleton.mpr nofun))
  refine ⟨⟨fun hsize offer hconnects events honce => ?_, hsizes⟩,
    ⟨fun hsame offer hconnects events => ?_, fun hall => ⟨?_, ?_⟩⟩⟩
  · rw [hgoes hconnects, hsize]
    exact Console.transcript_fresh _ _ _ _ honce
  · rw [hgoes hconnects, hsame.1, hsame.2]
  · exact hsizes fun offer hconnects events _ => hall offer hconnects events
  · have hempty := hconnects (show Store.empty.isOpen = true from rfl)
    exact Console.discardStale_eq_of_transcript ((hgoes hempty).mp (hall _ hempty _))

/-- A session that was opened with pages of fifty documents and shows the items of its store. -/
def showingItems : Service :=
  .started ((Console.fresh 50 false ⟨withoutUpdates.store, [], .fresh⟩).after
    [.act (.run itemListing)]).session ⟨withoutUpdates.store, [], .fresh⟩

/-- Settings that say nothing of pages and stale responses are in force where the session was opened
without such settings as well. -/
theorem notes_are_shown_as_opened :
    showingItems.Connects ⟨2024, 5, 1⟩ notes notesSettings ∧
      ∀ events : List ConsoleEvent,
        (showingItems.handle ⟨2024, 5, 1⟩ notes (.connect notesSettings)).2.GoesOnAs
          (Settings.console ⟨some "db://notes", "notes", 50, false⟩ notes .fresh) events := by
  have hsettings : Settings.ofJson notesSettings =
      .ok ⟨some "db://notes", "notes", 50, false⟩ := by decide +kernel
  have hopened : showingItems.WasOpened := by
    rintro _ ⟨⟩
    exact ⟨50, false, _, _, by decide, rfl⟩
  have hensure := ensure_of_session (s := showingItems) rfl
  have hconnects : showingItems.Connects ⟨2024, 5, 1⟩ notes notesSettings :=
    connects_of_isOpen hsettings hensure rfl
  have hsame := (connected_goes_on_as_opened showingItems ⟨2024, 5, 1⟩ hsettings hopened
    hensure).2.mp ⟨Console.pageSize_after_fresh _ _ _ _, by decide +kernel⟩
  exact ⟨hconnects, hsame notes hconnects⟩

/-- Settings of a database that ask for pages of one document. -/
def singlePages : String :=
  "\x7b\"mongo_uri\": \"db://notes\", \"database_name\": \"notes\", \"page_size\": 1\x7d"

/-- Two items are shown on one page though the settings ask for pages of one. -/
theorem single_pages_are_not_in_force :
    Settings.ofJson singlePages = .ok ⟨some "db://notes", "notes", 1, false⟩ ∧
      showingItems.Connects ⟨2024, 5, 1⟩ ⟨.crowd 2, []⟩ singlePages ∧
      ¬ (showingItems.handle ⟨2024, 5, 1⟩ ⟨.crowd 2, []⟩ (.connect singlePages)).2.GoesOnAs
        (Settings.console ⟨some "db://notes", "notes", 1, false⟩ ⟨.crowd 2, []⟩ .fresh)
        [.act (.run itemListing)] := by
  have hsettings : Settings.ofJson singlePages = .ok ⟨some "db://notes", "notes", 1, false⟩ := by
    decide +kernel
  have hconnects : showingItems.Connects ⟨2024, 5, 1⟩ ⟨.crowd 2, []⟩ singlePages :=
    connects_of_isOpen hsettings (ensure_of_session rfl) (Store.shelf_crowd 2).2.2
  refine ⟨hsettings, hconnects, ?_⟩
  rintro ⟨session, hsession, htranscript⟩
  let s := (showingItems.handle ⟨2024, 5, 1⟩ ⟨.crowd 2, []⟩ (.connect singlePages)).2
  have hrows : s.session.map (fun session =>
      ((Console.initial session s.backend).transcript [.act (.run itemListing)]).map
        fun seen => seen.result.map (·.rows.length)) = some [some 2] := by
    decide +kernel
  rw [hsession, Option.map_some, htranscript] at hrows
  exact absurd hrows (by decide +kernel)

end Service

end DocConsole
