import DocConsole.Proofs.Session.Stack
import DocConsole.Proofs.Store.Listing

/-!
# Browsing a store that does not change

While nothing is written and nothing fails, statements that list documents and moves from page to
page may overlap in any way.  Every recorded cursor then stands for the end of the pages before it,
and every waiting move asks for its page by that cursor.  Main statement: whatever the order in
which answers arrive, the display shows exactly the documents that counting gives for the current
page.
-/

set_option autoImplicit false

namespace DocConsole

/-- The events of browsing: listings and statements that cannot be read, moves, resets, and holding
answers back and letting them through. -/
def ConsoleEvent.Browses : ConsoleEvent → Prop
  | .act (.run statement) => ∀ command, Command.read statement = .ok command →
      ∃ collection filter, command = .select collection filter
  | .act (.edit _ _ _) => False
  | .act (.insert _) => False
  | .act _ => True
  | .setHolding _ => True
  | .release _ => True
  | _ => False

section Browsing

variable (store : Store) (size : Int)

/-! ## Exact sessions -/

/-- A result shows the page of a number. -/
structure QueryResult.ShowsPage (r : QueryResult) (documents : List Document) (page : Int) :
    Prop where
  /-- It is a listing. -/
  type : r.type = .read
  /-- Its rows are those of the documents of the page. -/
  rows : r.rows = (pageOf documents size page).map Document.row
  /-- Its cursor is the end of the page. -/
  pageCursor : r.pageCursor = endCursor (pageOf documents size page)

/-- A session shows the current page of a listing, and its cursors are the ends of the pages. -/
structure Session.Browsing (s : Session) (collection : String) (filter : Option Filter) :
    Prop where
  /-- The display shows the current page. -/
  displayed : ∃ shown, s.displayed = some shown ∧
    shown.result.ShowsPage size (store.matching collection filter) s.page
  /-- Every recorded cursor is the end of the pages before its page. -/
  cursors : ∀ index cursor, s.cursors.cursors[index]? = some cursor →
    cursor = cursorOf (store.matching collection filter) size index

/-- Whenever a query is active it is a listing, and it is browsed. -/
def Session.Exact (s : Session) : Prop :=
  ∀ command, s.activeCommand = some command →
    ∃ collection filter, command = .select collection filter ∧
      s.Browsing store size collection filter

/-- A waiting job that gets what the store lists.  A move of the current generation asks for a page
of the active query by the cursor of that page. -/
def Job.Lists (s : Session) : Job → Outcome → Prop
  | .run _ _ command, outcome => ∃ collection filter, command = .select collection filter ∧
      outcome = .ok (.page (store.list collection filter none size))
  | .page _ generation move command, outcome => generation = s.generation →
      ∃ collection filter, command = .select collection filter ∧
        s.activeCommand = some command ∧
        move.cursor = cursorOf (store.matching collection filter) size (move.page - 1).toNat ∧
        outcome = .ok (.page
          (store.list collection filter (move.cursor.map Value.display) size))
  | _, _ => False

variable {store size}

/-- The result of listing a page by its cursor shows that page. -/
theorem showsPage_pageResult (hordered : store.Ordered) (hsize : 1 ≤ size) (collection : String)
    (filter : Option Filter) {cursor : Option Value} {page : Int} (hpage : 1 ≤ page)
    (hcursor : cursor = cursorOf (store.matching collection filter) size (page - 1).toNat) :
    (Command.pageResult collection
        (store.list collection filter (cursor.map Value.display) size)).ShowsPage size
      (store.matching collection filter) page := by
  rw [hcursor, hordered.list_cursorOf collection filter hsize hpage]
  exact ⟨rfl, rfl, Command.pageCursor_pageResult _ _⟩

theorem showsPage_columns {r : QueryResult} {documents : List Document} {page : Int}
    (h : r.ShowsPage size documents page) (columns : List String) :
    QueryResult.ShowsPage size { r with columns := columns } documents page :=
  ⟨h.type, h.rows, h.pageCursor⟩

theorem exact_of_activeCommand_none {s : Session} (h : s.activeCommand = none) :
    s.Exact store size := by
  intro command hactive
  rw [h] at hactive
  cases hactive

/-- A session at the same place of the same query is as exact. -/
theorem Session.Exact.quiet {s s' : Session} (h : s.Exact store size) (hquiet : s.Quiet s') :
    s'.Exact store size := by
  intro command hactive
  rw [hquiet.activeCommand] at hactive
  obtain ⟨collection, filter, hcommand, hdisplayed, hcursors⟩ := h command hactive
  refine ⟨collection, filter, hcommand, ?_, ?_⟩
  · rw [hquiet.displayed, Session.page, hquiet.cursors]
    exact hdisplayed
  · rw [hquiet.cursors]
    exact hcursors

/-- Every planned move asks for its page by the cursor of that page. -/
theorem Session.Plans.cursor_eq {s : Session} {move : PageMove} {collection : String}
    {filter : Option Filter} (h : s.Plans move) (hsound : s.cursors.Sound) (hsize : 0 ≤ size)
    (hbrowsing : s.Browsing store size collection filter) :
    move.cursor = cursorOf (store.matching collection filter) size (move.page - 1).toNat := by
  obtain ⟨⟨shown, hshown, -, -, hend⟩, hcursors⟩ := hbrowsing
  rcases h with hback | ⟨shown', hshown', hon⟩
  · obtain ⟨planned, hplan, hmove⟩ := hsound.planRetreat
    rw [hback] at hplan
    exact hcursors _ _ (hmove move (Except.ok.inj hplan).symm).2
  · obtain rfl := Option.some.inj (hshown.symm.trans hshown')
    obtain ⟨planned, hplan, hmove⟩ := hsound.planAdvance shown.result.pageCursor
    rw [hon] at hplan
    rcases hmove move (Except.ok.inj hplan).symm with hrecords | ⟨-, hpage, hcursor, hsome⟩
    · exact hcursors _ _ hrecords.2
    · -- The new page is asked for by the end of the page on display.
      obtain ⟨cursor, hreported⟩ := Option.ne_none_iff_exists'.mp hsome
      have hnext : move.page - 1 = s.page := by
        rw [Session.page]
        omega
      rw [hcursor, hnext, hreported]
      refine (cursorOf_of_endCursor_pageOf hsize hsound.one_le_page ?_).symm
      rw [← hreported, hend]
      rfl

/-! ## One turn -/

variable {s s' : Session} {entry : LogEntry} {reaction : Reaction}

/-- What is known of the entry that opens a turn while a store is browsed. -/
def LogEntry.Browses (store : Store) (size : Int) (s : Session) : LogEntry → Prop
  | .began connected action => connected = true ∧ (ConsoleEvent.act action).Browses
  | .answered job outcome => job.AdmittedBy s ∧ job.Lists store size s outcome
  | .called _ _ _ => False

theorem LogEntry.Browses.admittedBy (h : entry.Browses store size s) :
    ∀ job outcome, entry = .answered job outcome → job.AdmittedBy s := by
  rintro job outcome rfl
  exact h.1

theorem LogEntry.Browses.not_changesRows (h : entry.Browses store size s) :
    ¬ entry.ChangesRows := by
  intro hchanges
  cases entry with
  | began connected action =>
      cases action with
      | edit id field value => exact h.2
      | _ => exact hchanges
  | answered job outcome =>
      cases job with
      | insert ticket statement fields => exact h.2
      | _ => exact hchanges
  | called call job outcome => exact hchanges

/-- A run that ends shows the first page of its listing, or there is nothing to page. -/
theorem LogEntry.EndsRun.showsPage {command : Option Command} {r : QueryResult}
    (h : entry.EndsRun command r) (hentry : entry.Browses store size s)
    (hordered : store.Ordered) (hsize : 1 ≤ size) :
    command = none ∨ ∃ collection filter, command = some (.select collection filter) ∧
      r.ShowsPage size (store.matching collection filter) 1 := by
  cases h with
  | unread hread => exact Or.inl rfl
  | unconnected hread => cases hentry.1
  | answered hresult =>
      obtain ⟨-, collection, filter, rfl, rfl⟩ := hentry
      obtain rfl := Progress.finished.inj hresult
      exact Or.inr ⟨collection, filter, rfl, showsPage_pageResult hordered hsize collection filter
        (Int.le_refl 1) (cursorOf_zero _ _).symm⟩
  | settled => exact absurd hentry.2 id

/-- A page that arrives in its generation is the page that its move was planned to. -/
theorem LogEntry.EndsMove.showsPage {move : PageMove} {r : QueryResult}
    (h : entry.EndsMove s.generation move r) (hentry : entry.Browses store size s)
    (hordered : store.Ordered) (hsize : 1 ≤ size) :
    s.cursors.Admits move ∧ ∃ collection filter,
      s.activeCommand = some (.select collection filter) ∧
      move.cursor = cursorOf (store.matching collection filter) size (move.page - 1).toNat ∧
      r.ShowsPage size (store.matching collection filter) move.page := by
  cases h with
  | unconnected => cases hentry.1
  | answered =>
      obtain ⟨hadmitted, hlists⟩ := hentry
      have hadmits := hadmitted.2 rfl
      obtain ⟨collection, filter, rfl, hactive, hcursor, rfl⟩ := hlists rfl
      exact ⟨hadmits, collection, filter, hactive, hcursor,
        showsPage_pageResult hordered hsize collection filter hadmits.one_le_page hcursor⟩

/-- A run that is applied is exact. -/
theorem exact_showRun (s : Session) (statement : String) {command : Option Command}
    {r : QueryResult}
    (h : command = none ∨ ∃ collection filter, command = some (.select collection filter) ∧
      r.ShowsPage size (store.matching collection filter) 1) :
    (s.showRun statement command r).Exact store size := by
  rcases h with rfl | ⟨collection, filter, rfl, hshows⟩
  · exact exact_of_activeCommand_none rfl
  · have hpageable : Session.pageable (some (.select collection filter)) r =
        some (.select collection filter) := by
      rw [Session.pageable, QueryResult.isError, hshows.type]
      rfl
    intro command hactive
    obtain rfl := Option.some.inj (hpageable.symm.trans hactive)
    refine ⟨collection, filter, rfl, ⟨_, rfl, hshows⟩, fun index cursor hcursor => ?_⟩
    cases index with
    | zero => rw [cursorOf_zero, ← Option.some.inj hcursor]
    | succ index => cases hcursor

/-- A page that is entered leaves the session exact. -/
theorem exact_enters {t : Session} {move : PageMove} {r : QueryResult} {cursors : CursorStack}
    {collection : String} {filter : Option Filter} (hexact : s.Exact store size)
    (hquiet : s.Quiet t) (hactive : s.activeCommand = some (.select collection filter))
    (hcursor : move.cursor =
      cursorOf (store.matching collection filter) size (move.page - 1).toNat)
    (hshows : r.ShowsPage size (store.matching collection filter) move.page)
    (hcommit : s.cursors.commit move = .ok cursors) (columns : List String) :
    ({ t with cursors := cursors }.display { r with columns := columns }).Exact store size := by
  obtain ⟨_, _, hcommand, -, hcursors⟩ := hexact _ hactive
  cases hcommand
  intro command hcommand
  have hcommand' : t.activeCommand = some command := hcommand
  rw [hquiet.activeCommand, hactive] at hcommand'
  obtain rfl := Option.some.inj hcommand'
  refine ⟨collection, filter, rfl, ⟨_, rfl, ?_⟩, fun index held hheld => ?_⟩
  · have hpage : ({ t with cursors := cursors }.display { r with columns := columns }).page =
        move.page := CursorStack.commit_page hcommit
    rw [hpage]
    exact showsPage_columns hshows columns
  · have hheld' : cursors.cursors[index]? = some held := hheld
    rw [CursorStack.getElem?_commit hcommit, Option.or_eq_some_iff] at hheld'
    rcases hheld' with hold | ⟨-, hnew⟩
    · exact hcursors index held hold
    · split at hnew
      · rename_i hnext
        have hindex : (move.page - 1).toNat = index := by omega
        rw [← Option.some.inj hnew, hcursor, hindex]
      · cases hnew

/-- A turn leaves an exact session exact. -/
theorem Session.Turned.exact (h : s.Turned entry s' reaction)
    (hentry : entry.Browses store size s) (hordered : store.Ordered) (hsize : 1 ≤ size)
    (hexact : s.Exact store size) : s'.Exact store size := by
  cases h with
  | rests hquiet => exact hexact.quiet hquiet
  | strays hquiet => exact hexact.quiet hquiet
  | asks hquiet => exact hexact.quiet hquiet
  | revises hchanges => exact absurd hchanges hentry.not_changesRows
  | runs hquiet hends => exact exact_showRun _ _ (hends.showsPage hentry hordered hsize)
  | enters hquiet hends hread hcommit =>
      obtain ⟨-, collection, filter, hactive, hcursor, hshows⟩ :=
        hends.showsPage hentry hordered hsize
      exact exact_enters hexact hquiet hactive hcursor hshows hcommit _
  | fails hquiet hends hread =>
      obtain ⟨-, collection, filter, hactive, hcursor, hshows⟩ :=
        hends.showsPage hentry hordered hsize
      exact absurd hshows.type hread
  | resets => exact exact_of_activeCommand_none rfl

/-- A turn calls for nothing but a listing, and the job that waits for it gets what is listed. -/
theorem Session.Turned.lists {call : StoreCall} {job : Job} {backend : Backend}
    (h : s.Turned entry s' (.calling call job)) (hentry : entry.Browses store size s)
    (hserves : backend.Serves store) (hsize : 1 ≤ size) (hpageSize : s.pageSize = size)
    (hsound : s.cursors.Sound) (hexact : s.Exact store size) :
    (backend.perform call).2 = backend ∧
      job.Lists store size s' (backend.perform call).1 := by
  cases h with
  | asks hquiet hasks =>
      cases hasks with
      | run hread =>
          obtain ⟨collection, filter, rfl⟩ := hentry.2 _ hread
          rw [hpageSize, Command.firstCall, hserves.perform_list]
          exact ⟨rfl, collection, filter, rfl, rfl⟩
      | confirm hresult =>
          obtain ⟨-, collection, filter, rfl, rfl⟩ := hentry
          cases hresult
      | page hactive hplans =>
          obtain ⟨collection, filter, rfl, hbrowsing⟩ := hexact _ hactive
          rw [hpageSize, Command.firstCall, hserves.perform_list]
          refine ⟨rfl, fun _ => ⟨collection, filter, rfl, hquiet.activeCommand.trans hactive, ?_,
            rfl⟩⟩
          exact hplans.cursor_eq hsound (by omega) hbrowsing
      | insert => exact absurd hentry.2 id
  | revises hchanges => exact absurd hchanges hentry.not_changesRows

/-- A waiting job goes on waiting for what it asked for. -/
theorem Job.Lists.grows {job : Job} {outcome : Outcome} (h : job.Lists store size s outcome)
    (hadmitted : job.AdmittedBy s) (hgrows : s.Grows s') : job.Lists store size s' outcome := by
  cases job with
  | page sequence generation move command =>
      intro hcurrent
      have hle := hgrows.generation_le
      have hold := hadmitted.1
      obtain ⟨collection, filter, hcommand, hactive, hcursor, houtcome⟩ := h (by omega)
      refine ⟨collection, filter, hcommand, ?_, hcursor, houtcome⟩
      exact (hgrows.activeCommand (by omega)).trans hactive
  | _ => exact h

/-! ## Runs -/

/-- What is known while a store is browsed: the backend stays as it is, the session is exact, and
the waiting jobs get what the store lists. -/
def Knowledge.browsing (store : Store) (size : Int) (backend : Backend) : Knowledge where
  now _ s backend' :=
    backend' = backend ∧ s.pageSize = size ∧ s.cursors.Sound ∧ s.Exact store size
  waits _ s _ job outcome := job.AdmittedBy s ∧ job.Lists store size s outcome
  gives _ := True

theorem Knowledge.browsing_kept {backend : Backend} (hserves : backend.Serves store)
    (hsize : 1 ≤ size) : (browsing store size backend).Kept ConsoleEvent.Browses := by
  refine .of_turned ?_ ?_
  · rintro log s _ entry s' reaction ⟨rfl, hpageSize, hsound, hexact⟩ hexpects -
      hturned
    have hentry : entry.Browses store size s := by
      cases entry with
      | began connected action => exact ⟨hexpects.1.trans hserves.connected, hexpects.2⟩
      | answered job outcome => exact hexpects
      | called call job outcome => exact hexpects
    obtain ⟨hsound', hgrows⟩ := hturned.sound_grows hsound hentry.admittedBy
    have hexact' := hturned.exact hentry hserves.ordered hsize hexact
    refine ⟨⟨?_, hgrows.pageSize.trans hpageSize, hsound', hexact'⟩, ?_, ?_, fun _ _ => trivial⟩
    · cases reaction with
      | finished answer => rfl
      | calling call job =>
          exact (hturned.lists hentry hserves hsize hpageSize hsound hexact).1
    · rintro job outcome ⟨hadmitted, hwaits⟩
      exact ⟨hadmitted.grows hgrows, hwaits.grows hadmitted hgrows⟩
    · intro call job hcalling
      subst hcalling
      exact ⟨hturned.admittedBy hsound,
        (hturned.lists hentry hserves hsize hpageSize hsound hexact).2⟩
  · rintro log s held event hbrowses ⟨rfl, hpageSize, hsound, hexact⟩
    have hsame : event.exchange held = held := by
      cases event with
      | disconnect => exact absurd hbrowses id
      | connect store failures => exact absurd hbrowses id
      | setFailures failures => exact absurd hbrowses id
      | _ => rfl
    exact ⟨⟨hsame, hpageSize, hsound, hexact⟩, fun job outcome hwaits => hwaits⟩

end Browsing

/-- On a store that does not change, with listings and moves overlapping in any way and their
answers arriving in any order, the display of an active query shows exactly the documents that
counting in pages gives for the current page, and reports the id of the last of them. -/
theorem display_shows_page {backend : Backend} {store : Store}
    (hstore : backend.store = some store) (hreachable : store.Reachable)
    (hopen : store.isOpen = true) (hlisting : backend.failures.lookup "list" = none)
    {size : Int} (hsize : 1 ≤ size) (discardStale : Bool) {events : List ConsoleEvent}
    (hbrowses : ∀ event ∈ events, event.Browses) {command : Command}
    (hactive : ((Console.fresh size discardStale backend).after events).session.activeCommand =
      some command) :
    ∃ collection filter r, command = .select collection filter ∧
      ((Console.fresh size discardStale backend).after events).session.result = some r ∧
      1 ≤ ((Console.fresh size discardStale backend).after events).session.page ∧
      r.ShowsPage size (store.matching collection filter)
        ((Console.fresh size discardStale backend).after events).session.page := by
  have hserves : backend.Serves store := ⟨hstore, hopen, hlisting, hreachable.ordered⟩
  have hstart : (Knowledge.browsing store size backend).Holds []
      (Console.fresh size discardStale backend) :=
    ⟨⟨rfl, rfl, CursorStack.sound_initial, exact_of_activeCommand_none rfl⟩,
      fun call hcall => by cases hcall⟩
  obtain ⟨⟨-, -, hsound, hexact⟩, -⟩ :=
    (Knowledge.browsing_kept hserves hsize).after events hbrowses hstart
  obtain ⟨collection, filter, hcommand, ⟨shown, hshown, hshows⟩, -⟩ := hexact command hactive
  refine ⟨collection, filter, shown.result, hcommand, ?_, hsound.one_le_page, hshows⟩
  exact congrArg (Option.map Display.result) hshown

/-- A store with three documents in one collection. -/
def threeItems : Store :=
  .ofData [("items", [("a", []), ("b", []), ("c", [])])]

/-- Two moves to the second page overlap, and the second one is answered first. -/
def crossingMoves : List ConsoleEvent :=
  [.act (.run "SELECT * FROM items"), .setHolding true, .act .nextPage, .act .nextPage, .release 1,
    .release 0]

theorem browses_of_mem_crossingMoves : ∀ event ∈ crossingMoves, event.Browses := by
  have hread : Command.read "SELECT * FROM items" = .ok (.select "items" none) := by
    decide +kernel
  intro event hevent
  simp only [crossingMoves, List.mem_cons, List.not_mem_nil, or_false] at hevent
  rcases hevent with rfl | rfl | rfl | rfl | rfl | rfl
  · intro command hcommand
    exact ⟨"items", none, Except.ok.inj (hcommand.symm.trans hread)⟩
  all_goals trivial

theorem display_shows_page_of_crossingMoves :
    ∃ collection filter r, Command.select "items" none = .select collection filter ∧
      ((Console.fresh 2 false ⟨some threeItems, [], .fresh⟩).after crossingMoves).session.result =
        some r ∧
      1 ≤ ((Console.fresh 2 false ⟨some threeItems, [], .fresh⟩).after crossingMoves).session.page ∧
      r.ShowsPage 2 (threeItems.matching collection filter)
        ((Console.fresh 2 false ⟨some threeItems, [], .fresh⟩).after crossingMoves).session.page :=
  display_shows_page rfl (.seeded _) rfl rfl (by decide) false browses_of_mem_crossingMoves
    (by decide +kernel)

end DocConsole
