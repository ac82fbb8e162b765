import DocConsole.Proofs.Session.Stack
import DocConsole.Proofs.Store.Listing

/-!
# Where the display comes from

While data changes, two moves to the same new page can be under way with different cursors.  The
stack keeps the cursor of the page that arrives first, and the display shows the page that arrives
last.  The origin of the display is followed along the log of a run.  Main statement: a listing on
display is always the answer to a listing of the active query, and the stack holds the cursor of
that listing exactly when it held no other one as the page arrived.
-/

set_option autoImplicit false

namespace DocConsole

/-! ## Origins -/

/-- Where a display comes from. -/
structure Origin where
  /-- The cursor that it was fetched with. -/
  source : Option Value
  /-- Whether another cursor was held for its page when it arrived. -/
  overtaken : Bool
  deriving DecidableEq

/-- The origin of what an entry puts on display: a page comes from the cursor of its move, and
everything else from the start. -/
def LogEntry.origin (s : Session) : LogEntry → Origin
  | .answered (.page _ _ move _) _ =>
      ⟨move.cursor,
        decide (s.cursors.cursors[(move.page - 1).toNat]?.getD move.cursor ≠ move.cursor)⟩
  | _ => ⟨none, false⟩

namespace Origin

/-- A session and the origin of its display followed through an entry: the origin changes with the
tickets. -/
def follow (place : Session × Origin) (entry : LogEntry) : Session × Origin :=
  let s' := entry.leads place.1
  (s', if s'.nextTicket = place.1.nextTicket then place.2 else entry.origin place.1)

/-- A session and the origin of its display after a log. -/
def followed (s : Session) (log : List LogEntry) : Session × Origin :=
  log.foldl follow (s, ⟨none, false⟩)

theorem follow_of_ticket_eq {s s' : Session} {origin : Origin} {entry : LogEntry}
    (hleads : entry.leads s = s') (hticket : s'.nextTicket = s.nextTicket) :
    follow (s, origin) entry = (s', origin) := by
  subst hleads
  rw [follow, if_pos hticket]

theorem follow_of_ticket_ne {s s' : Session} {origin : Origin} {entry : LogEntry}
    (hleads : entry.leads s = s') (hticket : s'.nextTicket ≠ s.nextTicket) :
    follow (s, origin) entry = (s', entry.origin s) := by
  subst hleads
  rw [follow, if_neg hticket]

/-- Calls change neither the session nor what is on display. -/
theorem followed_append_turn (s : Session) (log : List LogEntry) (entry : LogEntry)
    (reaction : Reaction) (backend : Backend) :
    followed s (log ++ entry :: reaction.entries backend) = follow (followed s log) entry := by
  rw [followed, List.foldl_append, List.foldl_cons]
  cases reaction with
  | finished answer => rfl
  | calling call job =>
      exact follow_of_ticket_eq rfl rfl

end Origin

/-! ## Listings in the log -/

/-- A call for a command is in the log with its outcome, and a listing is answered by a page. -/
structure Listed (log : List LogEntry) (size : Int) (command : Command) (cursor : Option Value)
    (outcome : Outcome) : Prop where
  /-- The call is in the log. -/
  called : ∃ job, .called (command.firstCall cursor size) job outcome ∈ log
  /-- A listing is answered by a page. -/
  page : ∀ collection filter reply, command = .select collection filter → outcome = .ok reply →
    ∃ page, reply = .page page

/-- A result is the answer to a listing in the log, with the given columns and perhaps with changes
made to its rows. -/
def AnswersListing (log : List LogEntry) (size : Int) (columns : List String)
    (collection : String) (filter : Option Filter) (cursor : Option Value) (r : QueryResult) :
    Prop :=
  ∃ job page, LogEntry.called (.list collection filter cursor size) job (.ok (.page page)) ∈ log ∧
    QueryResult.Revised { Command.pageResult collection page with columns := columns } r

section

variable {log log' : List LogEntry} {size : Int} {collection : String} {filter : Option Filter}
  {cursor : Option Value} {outcome : Outcome}

theorem Listed.mono {command : Command} (h : Listed log size command cursor outcome)
    (hlog : ∀ entry ∈ log, entry ∈ log') : Listed log' size command cursor outcome := by
  obtain ⟨⟨job, hcalled⟩, hpage⟩ := h
  exact ⟨⟨job, hlog _ hcalled⟩, hpage⟩

/-- What was shown of a listing goes on answering it. -/
theorem AnswersListing.revised {columns : List String} {r r' : QueryResult}
    (h : AnswersListing log size columns collection filter cursor r)
    (hlog : ∀ entry ∈ log, entry ∈ log') (hrevised : r.Revised r') :
    AnswersListing log' size columns collection filter cursor r' := by
  obtain ⟨job, page, hcalled, hfirst⟩ := h
  exact ⟨job, page, hlog _ hcalled, hfirst.trans hrevised⟩

/-- A listing makes no second call. -/
theorem Command.resume_select_ne_confirming {call : StoreCall} {r : QueryResult} :
    (Command.select collection filter).resume outcome ≠ .confirming call r := by
  cases outcome with
  | error fault => exact fun h => by cases h
  | ok reply => exact fun h => by cases h

theorem isError_errorResult (message : String) : (errorResult message).isError = true := rfl

/-- A result that did not fail comes from the page that was listed. -/
theorem Listed.answersListing (h : Listed log size (.select collection filter) cursor outcome)
    (hsucceeds : ((Command.select collection filter).resume outcome).result.isError = false)
    (columns : List String) :
    AnswersListing log size columns collection filter cursor
      { ((Command.select collection filter).resume outcome).result with columns := columns } := by
  obtain ⟨⟨job, hcalled⟩, hpage⟩ := h
  cases outcome with
  | error fault =>
      cases (isError_errorResult fault.message).symm.trans hsucceeds
  | ok reply =>
      obtain ⟨page, rfl⟩ := hpage collection filter reply rfl rfl
      exact ⟨job, page, hcalled, .refl⟩

end

/-! ## One turn -/

section

variable {log log' : List LogEntry} {size : Int} {s s' : Session} {entry : LogEntry}
  {reaction : Reaction} {origin : Origin}

/-- A waiting job is answered by what it called for, and a move of the current generation is a move
through the active query. -/
def Job.Sourced (log : List LogEntry) (size : Int) (s : Session) : Job → Outcome → Prop
  | .run _ _ command, outcome => Listed log size command none outcome
  | .settled _ _ command _, _ => ∀ collection filter, command ≠ .select collection filter
  | .page _ generation move command, outcome => generation = s.generation →
      s.activeCommand = some command ∧ Listed log size command move.cursor outcome
  | _, _ => True

/-- A listing on display answers a listing in the log, made with the cursor of its origin, and that
cursor is held for the current page unless the page was overtaken. -/
structure Session.Stems (s : Session) (log : List LogEntry) (size : Int) (origin : Origin)
    (collection : String) (filter : Option Filter) (r : QueryResult) : Prop where
  /-- It answers a listing. -/
  answers : AnswersListing log size s.columns collection filter origin.source r
  /-- The cursor is held, unless another one was held before. -/
  held_iff : s.cursors.cursors[(s.page - 1).toNat]? = some origin.source ↔
    origin.overtaken = false

/-- Whenever a query is active it is a listing, and a listing on display stems from it. -/
def Session.Sourced (s : Session) (log : List LogEntry) (size : Int) (origin : Origin) : Prop :=
  ∀ command, s.activeCommand = some command →
    ∃ collection filter, command = .select collection filter ∧
      ∀ shown, s.displayed = some shown → shown.result.type = .read →
        s.Stems log size origin collection filter shown.result

/-- What is known of the entry that opens a turn: an answer is that of a waiting job. -/
def LogEntry.Sourced (log : List LogEntry) (size : Int) (s : Session) : LogEntry → Prop
  | .answered job outcome => job.AdmittedBy s ∧ job.Sourced log size s outcome
  | _ => True

theorem LogEntry.Sourced.admittedBy (h : entry.Sourced log size s) :
    ∀ job outcome, entry = .answered job outcome → job.AdmittedBy s := by
  rintro job outcome rfl
  exact h.1

theorem sourced_of_activeCommand_none (h : s.activeCommand = none) :
    s.Sourced log size origin := by
  intro command hactive
  rw [h] at hactive
  cases hactive

/-- Changes of rows leave the origin of the display as it is. -/
theorem Session.Sourced.revises (h : s.Sourced log size origin)
    (hlog : ∀ entry ∈ log, entry ∈ log') (hrevises : s.Revises s') :
    s'.Sourced log' size origin := by
  intro command hactive
  rw [hrevises.activeCommand] at hactive
  obtain ⟨collection, filter, hcommand, hstems⟩ := h command hactive
  refine ⟨collection, filter, hcommand, fun shown' hshown' hread' => ?_⟩
  obtain ⟨shown, hshown, hrevised⟩ := hrevises.displayed shown' hshown'
  obtain ⟨hanswers, hheld⟩ := hstems shown hshown (hrevised.type.symm.trans hread')
  rw [← hrevises.columns] at hanswers
  refine ⟨hanswers.revised hlog hrevised, ?_⟩
  rw [Session.page, hrevises.cursors]
  exact hheld

theorem Session.Sourced.follow_of_revises (h : s.Sourced log size origin)
    (hleads : entry.leads s = s') (hrevises : s.Revises s')
    (hlog : ∀ entry ∈ log, entry ∈ log') :
    ∃ origin', Origin.follow (s, origin) entry = (s', origin') ∧ s'.Sourced log' size origin' :=
  ⟨origin, Origin.follow_of_ticket_eq hleads hrevises.nextTicket, h.revises hlog hrevises⟩

/-- A display gets a ticket that no earlier one had. -/
theorem Session.Quiet.succ_ticket_ne (h : s.Quiet s') : s'.nextTicket + 1 ≠ s.nextTicket := by
  rw [h.nextTicket]
  exact Nat.succ_ne_self _

/-- What can be paged is a listing that did not fail. -/
theorem eq_select_of_pageable {command : Option Command} {r : QueryResult} {active : Command}
    (h : Session.pageable command r = some active) :
    ∃ collection filter, command = some (.select collection filter) ∧
      active = .select collection filter ∧ r.isError = false := by
  unfold Session.pageable at h
  split at h
  · rename_i collection filter
    split at h
    · cases h
    · rename_i hsucceeds
      exact ⟨collection, filter, rfl, (Option.some.inj h).symm, by simpa using hsucceeds⟩
  · cases h

/-- A run that ends in a listing to be paged shows the answer to a listing from the start. -/
theorem LogEntry.EndsRun.answersListing {command : Option Command} {r : QueryResult}
    {active : Command} (h : entry.EndsRun command r) (hentry : entry.Sourced log size s)
    (hpageable : Session.pageable command r = some active) :
    ∃ collection filter, active = .select collection filter ∧
      AnswersListing log size r.columns collection filter none r := by
  obtain ⟨collection, filter, hcommand, rfl, hsucceeds⟩ := eq_select_of_pageable hpageable
  refine ⟨collection, filter, rfl, ?_⟩
  cases h with
  | unread hread => cases hcommand
  | unconnected hread =>
      cases (isError_errorResult _).symm.trans hsucceeds
  | answered hresult =>
      obtain rfl := Option.some.inj hcommand
      obtain ⟨-, hlisted⟩ := hentry
      have hr : ((Command.select collection filter).resume _).result = r :=
        congrArg Progress.result hresult
      rw [← hr] at hsucceeds ⊢
      exact Listed.answersListing hlisted hsucceeds _
  | settled =>
      obtain rfl := Option.some.inj hcommand
      exact absurd rfl (hentry.2 collection filter)

theorem LogEntry.EndsRun.origin_eq {command : Option Command} {r : QueryResult}
    (h : entry.EndsRun command r) : entry.origin s = ⟨none, false⟩ := by
  cases h <;> rfl

/-- A page that arrives in its generation is the answer to a listing of the active query, made with
the cursor of its move. -/
theorem LogEntry.EndsMove.answersListing {move : PageMove} {r : QueryResult}
    (h : entry.EndsMove s.generation move r) (hread : r.type = .read)
    (hentry : entry.Sourced log size s) (columns : List String) :
    entry.origin s = ⟨move.cursor,
        decide (s.cursors.cursors[(move.page - 1).toNat]?.getD move.cursor ≠ move.cursor)⟩ ∧
      s.cursors.Admits move ∧
      ∀ collection filter, s.activeCommand = some (.select collection filter) →
        AnswersListing log size columns collection filter move.cursor
          { r with columns := columns } := by
  cases h with
  | unconnected => cases hread
  | answered =>
      obtain ⟨hadmitted, hsourced⟩ := hentry
      obtain ⟨hactive, hlisted⟩ := hsourced rfl
      refine ⟨rfl, hadmitted.2 rfl, fun collection filter hselect => ?_⟩
      obtain rfl := Option.some.inj (hactive.symm.trans hselect)
      refine hlisted.answersListing ?_ columns
      rw [QueryResult.isError, hread]
      rfl

/-- A run that is applied stems from its listing. -/
theorem sourced_showRun (t : Session) (statement : String) {command : Option Command}
    {r : QueryResult} (hends : entry.EndsRun command r) (hentry : entry.Sourced log size s)
    (hlog : ∀ entry ∈ log, entry ∈ log') :
    (t.showRun statement command r).Sourced log' size ⟨none, false⟩ := by
  intro active hactive
  obtain ⟨collection, filter, hcommand, hanswers⟩ := hends.answersListing hentry hactive
  refine ⟨collection, filter, hcommand, fun shown hshown hread => ?_⟩
  obtain rfl := Option.some.inj hshown
  exact ⟨hanswers.revised hlog .refl, by simp [Session.showRun, Session.page, CursorStack.initial]⟩

/-- A page that is entered stems from its listing. -/
theorem sourced_enters {t : Session} {move : PageMove} {r : QueryResult} {cursors : CursorStack}
    (hsourced : s.Sourced log size origin) (hquiet : s.Quiet t)
    (hends : entry.EndsMove s.generation move r) (hread : r.type = .read)
    (hcommit : s.cursors.commit move = .ok cursors) (hentry : entry.Sourced log size s)
    (hlog : ∀ entry ∈ log, entry ∈ log') :
    ({ t with cursors := cursors }.display { r with columns := t.columns }).Sourced log' size
      (entry.origin s) := by
  obtain ⟨horigin, hadmits, hanswers⟩ := hends.answersListing hread hentry t.columns
  intro command hactive
  have hactive' : t.activeCommand = some command := hactive
  rw [hquiet.activeCommand] at hactive'
  obtain ⟨collection, filter, rfl, -⟩ := hsourced command hactive'
  refine ⟨collection, filter, rfl, fun shown hshown _ => ?_⟩
  obtain rfl := Option.some.inj hshown
  rw [horigin]
  refine ⟨(hanswers collection filter hactive').revised hlog .refl, ?_⟩
  -- The cursor held for the page is the one it was entered with first.
  have hheld := hadmits.getElem?_commit hcommit
  show cursors.cursors[(cursors.page - 1).toNat]? = some move.cursor ↔ _
  rw [hheld, Option.some_inj, decide_eq_false_iff_not, ne_eq, Decidable.not_not]

/-- The origin of the display is followed through a turn, and the display goes on stemming from
it. -/
theorem Session.Turned.sourced (h : s.Turned entry s' reaction) (hleads : entry.leads s = s')
    (hentry : entry.Sourced log size s) (hsourced : s.Sourced log size origin)
    (hlog : ∀ entry ∈ log, entry ∈ log') :
    ∃ origin', Origin.follow (s, origin) entry = (s', origin') ∧ s'.Sourced log' size origin' := by
  cases h with
  | rests hquiet => exact hsourced.follow_of_revises hleads hquiet.revises hlog
  | strays hquiet => exact hsourced.follow_of_revises hleads hquiet.revises hlog
  | asks hquiet => exact hsourced.follow_of_revises hleads hquiet.revises hlog
  | revises _ hrevises => exact hsourced.follow_of_revises hleads hrevises hlog
  | runs hquiet hends =>
      refine ⟨_, Origin.follow_of_ticket_ne hleads hquiet.succ_ticket_ne, ?_⟩
      rw [hends.origin_eq]
      exact sourced_showRun _ _ hends hentry hlog
  | enters hquiet hends hread hcommit =>
      exact ⟨_, Origin.follow_of_ticket_ne hleads hquiet.succ_ticket_ne,
        sourced_enters hsourced hquiet hends hread hcommit hentry hlog⟩
  | fails hquiet hends hread =>
      refine ⟨_, Origin.follow_of_ticket_ne hleads hquiet.succ_ticket_ne, ?_⟩
      intro command hactive
      obtain ⟨collection, filter, hcommand, -⟩ := hsourced command (hquiet.activeCommand ▸ hactive)
      refine ⟨collection, filter, hcommand, fun shown hshown hread' => ?_⟩
      obtain rfl := Option.some.inj hshown
      exact absurd hread' hread
  | resets =>
      exact ⟨origin, Origin.follow_of_ticket_eq hleads rfl, sourced_of_activeCommand_none rfl⟩

/-- A job that a turn leaves waiting is answered by what it called for. -/
theorem Session.Turned.sourced_job {call : StoreCall} {job : Job} {backend : Backend}
    (h : s.Turned entry s' (.calling call job)) (hpageSize : s.pageSize = size)
    (hcalled : .called call job (backend.perform call).1 ∈ log) :
    job.Sourced log size s' (backend.perform call).1 := by
  have hpage : ∀ (command : Command) (cursor : Option Value), call = command.firstCall cursor size →
      ∀ collection filter reply, command = .select collection filter →
        (backend.perform call).1 = .ok reply → ∃ page, reply = .page page := by
    rintro command cursor rfl collection filter reply rfl houtcome
    exact Backend.exists_page_of_perform_list houtcome
  cases h with
  | asks hquiet hasks =>
      subst hpageSize
      cases hasks with
      | run hread => exact ⟨⟨_, hcalled⟩, hpage _ _ rfl⟩
      | confirm hresult =>
          rintro collection filter rfl
          exact Command.resume_select_ne_confirming hresult
      | page hactive hplans =>
          exact fun _ => ⟨hquiet.activeCommand.trans hactive, ⟨_, hcalled⟩, hpage _ _ rfl⟩
      | insert => trivial
  | revises _ _ hreaction =>
      rcases hreaction with ⟨answer, hfinished, -⟩ | ⟨call', statement, hcalling⟩
      · cases hfinished
      · cases hcalling
        trivial

/-- A waiting job goes on waiting for what it called for. -/
theorem Job.Sourced.grows {job : Job} {outcome : Outcome} (h : job.Sourced log size s outcome)
    (hadmitted : job.AdmittedBy s) (hgrows : s.Grows s') (hlog : ∀ entry ∈ log, entry ∈ log') :
    job.Sourced log' size s' outcome := by
  cases job with
  | run sequence statement command => exact Listed.mono h hlog
  | page sequence generation move command =>
      intro hcurrent
      have hle := hgrows.generation_le
      have hold := hadmitted.1
      obtain ⟨hactive, hlisted⟩ := h (by omega)
      exact ⟨(hgrows.activeCommand (by omega)).trans hactive, hlisted.mono hlog⟩
  | settled sequence statement command r => exact h
  | edit statement => trivial
  | insert ticket statement fields => trivial

end

/-! ## Runs -/

/-- What is known of origins along a run: the display stems from the origin that is followed along
the log, and the waiting jobs are answered by what they called for. -/
def Knowledge.sourced (start : Session) (size : Int) : Knowledge where
  now log s _ := s.pageSize = size ∧ s.cursors.Sound ∧
    ∃ origin, Origin.followed start log = (s, origin) ∧ s.Sourced log size origin
  waits log s _ job outcome := job.AdmittedBy s ∧ job.Sourced log size s outcome
  gives _ := True

theorem Knowledge.sourced_kept (start : Session) (size : Int) :
    (sourced start size).Kept (fun _ => True) := by
  refine .of_turned ?_ (fun log s backend event _ hnow => ⟨hnow, fun _ _ hwaits => hwaits⟩)
  rintro log s backend entry s' reaction ⟨hpageSize, hsound, origin, hfollowed, hsourced⟩
    hexpects hleads hturned
  have hentry : entry.Sourced log size s := by
    cases entry with
    | answered job outcome => exact hexpects
    | began connected action => trivial
    | called call job outcome => trivial
  have hlog : ∀ old ∈ log, old ∈ log ++ entry :: reaction.entries backend :=
    fun old hold => List.mem_append_left _ hold
  obtain ⟨hsound', hgrows⟩ := hturned.sound_grows hsound hentry.admittedBy
  obtain ⟨origin', hfollow, hsourced'⟩ := hturned.sourced hleads hentry hsourced hlog
  refine ⟨⟨hgrows.pageSize.trans hpageSize, hsound', origin', ?_, hsourced'⟩, ?_, ?_,
    fun _ _ => trivial⟩
  · rw [Origin.followed_append_turn, hfollowed, hfollow]
  · rintro job outcome ⟨hadmitted, hwaits⟩
    exact ⟨hadmitted.grows hgrows, hwaits.grows hadmitted hgrows hlog⟩
  · intro call job hcalling
    subst hcalling
    exact ⟨hturned.admittedBy hsound, hturned.sourced_job hpageSize (by simp [Reaction.entries])⟩

/-- The origin of the display after a row of events. -/
def Console.origin (c : Console) (events : List ConsoleEvent) : Origin :=
  (Origin.followed c.session (c.log events)).2

/-- In every state that any events lead to, with answers in any order, a listing on display answers
a listing of the active query in the log; and the stack holds the cursor of that listing for the
current page exactly when it held no other one for it as the page arrived. -/
theorem display_stems_from_listing (pageSize : Int) (discardStale : Bool) (backend : Backend)
    (events : List ConsoleEvent) {command : Command} {r : QueryResult}
    (hactive : ((Console.fresh pageSize discardStale backend).after
      events).session.activeCommand = some command)
    (hresult : ((Console.fresh pageSize discardStale backend).after events).session.result =
      some r)
    (hread : r.type = .read) :
    ∃ collection filter, command = .select collection filter ∧
      ((Console.fresh pageSize discardStale backend).after events).session.Stems
        ((Console.fresh pageSize discardStale backend).log events) pageSize
        ((Console.fresh pageSize discardStale backend).origin events) collection filter r := by
  have hstart : (Knowledge.sourced (.initial pageSize discardStale) pageSize).Holds []
      (Console.fresh pageSize discardStale backend) :=
    ⟨⟨rfl, CursorStack.sound_initial, _, rfl, sourced_of_activeCommand_none rfl⟩,
      fun call hcall => by cases hcall⟩
  obtain ⟨⟨-, -, origin, hfollowed, hsourced⟩, -⟩ :=
    (Knowledge.sourced_kept _ _).after events (fun _ _ => trivial) hstart
  have horigin : (Console.fresh pageSize discardStale backend).origin events = origin :=
    congrArg Prod.snd hfollowed
  obtain ⟨collection, filter, hcommand, hstems⟩ := hsourced command hactive
  obtain ⟨shown, hshown, rfl⟩ := Option.map_eq_some_iff.mp hresult
  refine ⟨collection, filter, hcommand, ?_⟩
  rw [horigin]
  exact hstems shown hshown hread

/-- A store with three documents in one collection, and two ids in line for new ones. -/
def numberedItems : Backend :=
  ⟨some (.ofData [("items", [("n1", []), ("n2", []), ("n3", [])])]), [], ⟨["n4", "n5"], 0⟩⟩

/-- The first page is shown by a run alone. -/
theorem display_stems_from_listing_of_run :
    ∃ collection filter, Command.select "items" none = .select collection filter ∧
      ((Console.fresh 2 false numberedItems).after
        [.act (.run "SELECT * FROM items")]).session.Stems
        ((Console.fresh 2 false numberedItems).log [.act (.run "SELECT * FROM items")]) 2
        ((Console.fresh 2 false numberedItems).origin [.act (.run "SELECT * FROM items")])
        collection filter
        (Command.pageResult "items" (.of [⟨"n1", []⟩, ⟨"n2", []⟩])) :=
  display_stems_from_listing 2 false numberedItems [.act (.run "SELECT * FROM items")]
    (by decide +kernel) (by decide +kernel) rfl

/-! ## A display out of step

The third page is asked for twice, with a document created in between, so that the second request
has another cursor.  Both answers arrive in the order of the requests, so that dropping stale
responses would change nothing. -/

/-- Two moves to the third page, with different cursors. -/
def crossingInserts : List ConsoleEvent :=
  [.act (.run "SELECT * FROM items"), .act .nextPage, .setHolding true, .act .nextPage,
    .setHolding false, .act (.insert []), .act .previousPage, .act .nextPage, .act (.insert []),
    .setHolding true, .act .nextPage, .release 0, .release 1]

/-- Whether an entry is a listing with a cursor that is answered by a page reporting another one. -/
def LogEntry.reports (cursor reported : Option Value) : LogEntry → Bool
  | .called (.list collection _ cursor' _) _ (.ok (.page page)) =>
      cursor' = cursor ∧ (Command.pageResult collection page).pageCursor = reported
  | _ => false

/-- The display shows a listing whose page was overtaken: no listing with the cursor that the stack
holds for its page was answered by it. -/
theorem display_out_of_step :
    let c := (Console.fresh 2 false numberedItems).after crossingInserts
    c.session.activeCommand = some (.select "items" none) ∧ c.session.page = 3 ∧
      (Console.fresh 2 false numberedItems).origin crossingInserts = ⟨some (.str "n4"), true⟩ ∧
      ∃ r held, c.session.result = some r ∧ r.type = .read ∧
        c.session.cursors.cursors[(c.session.page - 1).toNat]? = some held ∧
        ¬ AnswersListing ((Console.fresh 2 false numberedItems).log crossingInserts) 2
          c.session.columns "items" none held r := by
  intro c
  have hactive : c.session.activeCommand = some (.select "items" none) := by decide +kernel
  have hpage : c.session.page = 3 := by decide +kernel
  have horigin : (Console.fresh 2 false numberedItems).origin crossingInserts =
      ⟨some (.str "n4"), true⟩ := by
    decide +kernel
  have hheld : c.session.cursors.cursors[(c.session.page - 1).toNat]? =
      some (some (.str "n3")) := by
    decide +kernel
  have hresult : c.session.result =
      some { Command.pageResult "items" (.of [⟨"n5", []⟩]) with columns := ["id"] } := by
    decide +kernel
  have hlog : ((Console.fresh 2 false numberedItems).log crossingInserts).any
      (LogEntry.reports (some (.str "n3")) (some (.str "n5"))) = false := by
    decide +kernel
  refine ⟨hactive, hpage, horigin, _, _, hresult, rfl, hheld, ?_⟩
  rintro ⟨job, page, hcalled, hrevised⟩
  -- Changes of rows keep the page cursor, so the listing would have reported the one on display.
  have hreported : some (.str "n5") = (Command.pageResult "items" page).pageCursor :=
    hrevised.pageCursor
  refine List.any_eq_false.mp hlog _ hcalled ?_
  simp [LogEntry.reports, ← hreported]

end DocConsole
