import DocConsole.Proofs.Session.Origins
import DocConsole.Proofs.Session.Responses

/-!
# One query at a time

The command to be paged, the statement, the columns and the display change in different turns: the
end of a run sets them all, and a page that arrives sets the display alone.  A page belongs to the
command that was active when it was asked for, and it is shown only while that generation lasts.
Main statement: in every state that any events lead to, all of them belong to one query.
-/

set_option autoImplicit false

namespace DocConsole

/-! ## Results of commands -/

/-- A command that is carried on fails, lists its collection, or changes a document. -/
theorem Command.resume_cases (command : Command) (outcome : Outcome) :
    (command.resume outcome).result.type = .error ∨
      (∃ collection filter, command = .select collection filter ∧
        (command.resume outcome).result.type = .read ∧
        (command.resume outcome).result.collection = some collection) ∨
      ((∀ collection filter, command ≠ .select collection filter) ∧
        (command.resume outcome).result.type = .write) := by
  cases outcome with
  | error fault => exact Or.inl rfl
  | ok reply =>
      refine Or.inr ?_
      cases command with
      | select collection filter => exact Or.inl ⟨collection, filter, rfl, rfl, rfl⟩
      | insert collection payload => exact Or.inr ⟨fun _ _ h => Command.noConfusion h, rfl⟩
      | update collection target payload => exact Or.inr ⟨fun _ _ h => Command.noConfusion h, rfl⟩
      | delete collection target => exact Or.inr ⟨fun _ _ h => Command.noConfusion h, rfl⟩

/-- Only a change of a document makes a second call. -/
theorem Command.type_of_confirming {command : Command} {outcome : Outcome} {call : StoreCall}
    {r : QueryResult} (h : command.resume outcome = .confirming call r) :
    (∀ collection filter, command ≠ .select collection filter) ∧ r.type = .write := by
  have hresult : (command.resume outcome).result = r := congrArg Progress.result h
  cases outcome with
  | error fault => cases h
  | ok reply =>
      cases command with
      | update collection target payload =>
          rw [← hresult]
          exact ⟨fun _ _ h => Command.noConfusion h, rfl⟩
      | _ => cases h

theorem ResultType.write_or_error {type : ResultType} (h : type ≠ .read) :
    type = .write ∨ type = .error := by
  cases type with
  | read => exact absurd rfl h
  | write => exact Or.inl rfl
  | error => exact Or.inr rfl

/-! ## What belongs to a query -/

/-- What a waiting job was read from, and which query a page of the current generation is for. -/
def Job.Belongs (s : Session) : Job → Prop
  | .run _ statement command => Command.read statement = .ok command
  | .settled _ statement command r => Command.read statement = .ok command ∧
      (∀ collection filter, command ≠ .select collection filter) ∧ r.type = .write
  | .page _ generation _ command => generation = s.generation → s.activeCommand = some command
  | _ => True

namespace Account

/-- A listing is active: its statement is shown, its columns are those of the run that listed it
first, and the display is a page of its collection or the failure of a move. -/
structure Lists (a : Account) (statement collection : String) (run : QueryResponse)
    (shown : QueryResult) : Prop where
  activeStatement : a.session.activeStatement = some statement
  active : a.active = some run
  statement : run.statement = some statement
  listed : run.result.type = .read
  columns : a.session.columns = run.result.columns
  displayed : a.session.result = some shown
  shown :
    (shown.type = .read ∧ shown.collection = some collection ∧
      shown.columns = run.result.columns) ∨
    (shown.type = .error ∧ ∃ page, a.shown = some page ∧ page.statement = none ∧
      page.result.Revised shown)

/-- The state of the session belongs to one query, or to none. -/
structure OneQuery (a : Account) : Prop where
  /-- An active command is the listing that the active statement is read as. -/
  active : ∀ command, a.session.activeCommand = some command →
    ∃ statement collection filter run shown, Command.read statement = .ok command ∧
      command = .select collection filter ∧ a.Lists statement collection run shown
  /-- Without one there is only the first page, and no listing on display. -/
  inactive : a.session.activeCommand = none → a.session.cursors = .initial ∧
    ∀ shown, a.session.result = some shown → shown.type = .write ∨ shown.type = .error

variable {a a' : Account} {entry : LogEntry}

/-- The rows on display make no difference. -/
theorem OneQuery.revised (h : a.OneQuery)
    (hcommand : a'.session.activeCommand = a.session.activeCommand)
    (hstatement : a'.session.activeStatement = a.session.activeStatement)
    (hcolumns : a'.session.columns = a.session.columns)
    (hcursors : a'.session.cursors = a.session.cursors)
    (hactive : a'.active = a.active) (hshown : a'.shown = a.shown)
    (hresult : ∀ shown, a.session.result = some shown →
      ∃ shown', a'.session.result = some shown' ∧ shown.Revised shown')
    (hnone : a.session.result = none → a'.session.result = none) : a'.OneQuery := by
  refine ⟨fun command hsome => ?_, fun hidle => ?_⟩
  · obtain ⟨statement, collection, filter, run, shown, hread, hselect, hlists⟩ :=
      h.active command (hcommand.symm.trans hsome)
    obtain ⟨shown', hshown', hrevised⟩ := hresult shown hlists.displayed
    refine ⟨statement, collection, filter, run, shown', hread, hselect,
      hstatement.trans hlists.activeStatement, hactive.trans hlists.active, hlists.statement,
      hlists.listed, hcolumns.trans hlists.columns, hshown', ?_⟩
    obtain ⟨rows, hrows⟩ := hrevised.exists_rows
    rcases hlists.shown with ⟨htype, hcollection, hsame⟩ | ⟨htype, page, hpage, hmove, hold⟩
    · rw [hrows]
      exact Or.inl ⟨htype, hcollection, hsame⟩
    · exact Or.inr ⟨hrevised.type.trans htype, page, hshown.trans hpage, hmove,
        hold.trans hrevised⟩
  · obtain ⟨hinitial, htypes⟩ := h.inactive (hcommand.symm.trans hidle)
    refine ⟨hcursors.trans hinitial, fun shown' hshown' => ?_⟩
    cases hold : a.session.result with
    | none =>
        rw [hnone hold] at hshown'
        cases hshown'
    | some shown =>
        obtain ⟨shown'', hshown'', hrevised⟩ := hresult shown hold
        rw [Option.some.inj (hshown'.symm.trans hshown''), hrevised.type]
        exact htypes shown hold

/-- A turn that leaves the query and the display alone. -/
theorem OneQuery.same (h : a.OneQuery)
    (hcommand : a'.session.activeCommand = a.session.activeCommand)
    (hstatement : a'.session.activeStatement = a.session.activeStatement)
    (hcolumns : a'.session.columns = a.session.columns)
    (hcursors : a'.session.cursors = a.session.cursors)
    (hresult : a'.session.result = a.session.result)
    (hactive : a'.active = a.active) (hshown : a'.shown = a.shown) : a'.OneQuery :=
  h.revised hcommand hstatement hcolumns hcursors hactive hshown
    (fun shown hold => ⟨shown, hresult.trans hold, .refl⟩) hresult.trans

end Account

/-! ## One turn -/

section

variable {s s' : Session} {entry : LogEntry}

/-- A run that ends makes its listing active, or there is nothing to page. -/
theorem LogEntry.EndsRun.belongs {command : Option Command} {r : QueryResult} {statement : String}
    (h : entry.EndsRun command r)
    (hentry : ∀ job outcome, entry = .answered job outcome → job.Belongs s)
    (hstatement : entry.statement? = some statement) :
    (∀ active, Session.pageable command r = some active → ∃ collection filter,
      Command.read statement = .ok active ∧ active = .select collection filter ∧
        r.type = .read ∧ r.collection = some collection) ∧
    (Session.pageable command r = none → r.type = .write ∨ r.type = .error) := by
  have hfailed : ∀ {message active}, Session.pageable command (errorResult message) ≠
      some active := by
    intro message active hactive
    obtain ⟨collection, filter, -, -, hsucceeds⟩ := eq_select_of_pageable hactive
    cases (isError_errorResult _).symm.trans hsucceeds
  cases h with
  | unread hread => exact ⟨fun active hactive => absurd hactive hfailed, fun _ => Or.inr rfl⟩
  | unconnected hread => exact ⟨fun active hactive => absurd hactive hfailed, fun _ => Or.inr rfl⟩
  | @answered sequence statement' command outcome r hresult =>
      obtain rfl : statement' = statement := Option.some.inj hstatement
      have hread : Command.read statement' = .ok command := hentry _ _ rfl
      have hr : (command.resume outcome).result = r := congrArg Progress.result hresult
      have hcases := command.resume_cases outcome
      rw [hr] at hcases
      refine ⟨fun active hactive => ?_, fun hnone => ?_⟩
      · obtain ⟨collection, filter, hcommand, rfl, hsucceeds⟩ := eq_select_of_pageable hactive
        obtain rfl := Option.some.inj hcommand
        rcases hcases with herror | ⟨_, _, hselect, htype, hcollection⟩ | ⟨hother, -⟩
        · rw [QueryResult.isError, herror] at hsucceeds
          cases hsucceeds
        · cases hselect
          exact ⟨collection, filter, hread, rfl, htype, hcollection⟩
        · exact absurd rfl (hother collection filter)
      · rcases hcases with herror | ⟨collection, filter, rfl, htype, -⟩ | ⟨-, hwrite⟩
        · exact Or.inr herror
        · rw [Session.pageable, QueryResult.isError, htype] at hnone
          cases hnone
        · exact Or.inl hwrite
  | settled =>
      obtain ⟨-, hother, hwrite⟩ := hentry _ _ rfl
      refine ⟨fun active hactive => ?_, fun _ => Or.inl hwrite⟩
      obtain ⟨collection, filter, hcommand, -, -⟩ := eq_select_of_pageable hactive
      exact absurd (Option.some.inj hcommand) (hother collection filter)

/-- A move that ends brings a page of the active collection, or a failure. -/
theorem LogEntry.EndsMove.belongs {move : PageMove} {r : QueryResult} {collection : String}
    {filter : Option Filter} (h : entry.EndsMove s.generation move r)
    (hentry : ∀ job outcome, entry = .answered job outcome → job.Belongs s)
    (hactive : s.activeCommand = some (.select collection filter)) :
    (r.type = .read ∧ r.collection = some collection) ∨ r.type = .error := by
  cases h with
  | unconnected => exact Or.inr rfl
  | @answered sequence _ _ command outcome =>
      have hcommand : s.activeCommand = some command := hentry _ _ rfl rfl
      obtain rfl := Option.some.inj (hactive.symm.trans hcommand)
      rcases (Command.select collection filter).resume_cases outcome with
        herror | ⟨_, _, hselect, htype, hcollection⟩ | ⟨hother, -⟩
      · exact Or.inr herror
      · cases hselect
        exact Or.inl ⟨htype, hcollection⟩
      · exact absurd rfl (hother collection filter)

theorem LogEntry.EndsMove.exists_active {move : PageMove} {r : QueryResult}
    (h : entry.EndsMove s.generation move r)
    (hentry : ∀ job outcome, entry = .answered job outcome → job.Belongs s)
    (hread : r.type = .read) : ∃ command, s.activeCommand = some command := by
  cases h with
  | unconnected => cases hread
  | @answered sequence _ _ command outcome => exact ⟨command, hentry _ _ rfl rfl⟩

/-- A waiting job goes on belonging to its query as long as that is active. -/
theorem Job.Belongs.grows {job : Job} (h : job.Belongs s) (hadmitted : job.AdmittedBy s)
    (hgrows : s.Grows s') : job.Belongs s' := by
  cases job with
  | page sequence generation move command =>
      intro hcurrent
      have hle := hgrows.generation_le
      have hold := hadmitted.1
      exact (hgrows.activeCommand (by omega)).trans (h (by omega))
  | _ => exact h

/-- A job that a turn leaves waiting belongs to its query. -/
theorem Session.Took.belongs {call : StoreCall} {job : Job}
    (h : s.Took entry s' (.calling call job))
    (hentry : ∀ job outcome, entry = .answered job outcome → job.Belongs s) : job.Belongs s' := by
  cases h with
  | asks hasks hnew =>
      cases hasks with
      | run hread => exact hread
      | confirm hresult => exact ⟨hentry _ _ rfl, Command.type_of_confirming hresult⟩
      | page hactive hplans => exact fun _ => hactive
      | insert => trivial
  | revises change hchanges hchange hreaction =>
      rcases hreaction with ⟨answer, hfinished, -⟩ | ⟨call', statement, hcalling⟩
      · cases hfinished
      · cases hcalling
        trivial

end

namespace Account

variable {a a' : Account} {entry : LogEntry}

/-- Whatever an entry does, the state goes on belonging to one query. -/
theorem OneQuery.follows (h : a.OneQuery) (hfollows : a.Follows entry a')
    (hentry : ∀ job outcome, entry = .answered job outcome → job.Belongs a.session) :
    a'.OneQuery := by
  cases hfollows with
  | rests => exact h.same rfl rfl rfl rfl rfl rfl rfl
  | revises change hchanges hchange =>
      refine h.revised rfl rfl rfl rfl rfl rfl ?_ ?_
      · intro shown hshown
        obtain ⟨display, hdisplay, rfl⟩ := Option.map_eq_some_iff.mp hshown
        refine ⟨change display, ?_, hchange display⟩
        simp only [Session.result, hdisplay, Option.map_some]
      · intro hnone
        rw [Session.result, Option.map_eq_none_iff] at hnone
        simp only [Session.result, hnone, Option.map_none]
  | drops => exact h.same rfl rfl rfl rfl rfl rfl rfl
  | @runs _ issued history statement command response hends hstatement hsame hfresh hrun =>
      obtain ⟨hactive, hinactive⟩ := hrun.belongs hentry hsame
      refine ⟨fun active hsome => ?_, fun hnone => ⟨rfl, ?_⟩⟩
      · obtain ⟨collection, filter, hread, hselect, htype, hcollection⟩ := hactive active hsome
        exact ⟨statement, collection, filter, response, response.result, hread, hselect, rfl, rfl,
          hstatement, htype, rfl, rfl, Or.inl ⟨htype, hcollection, rfl⟩⟩
      · intro shown hshown
        rw [← Option.some.inj hshown]
        exact hinactive hnone
  | @enters _ issued move r cursors response hends hstatement hfresh hmove hread hcommit hresult =>
      refine ⟨fun active hsome => ?_, fun hnone => ?_⟩
      · obtain ⟨statement, collection, filter, run, shown, hparsed, rfl, hlists⟩ :=
          h.active active hsome
        refine ⟨statement, collection, filter, run, response.result, hparsed, rfl,
          hlists.activeStatement, hlists.active, hlists.statement, hlists.listed, hlists.columns,
          rfl, ?_⟩
        rcases hmove.belongs hentry hsome with ⟨-, hcollection⟩ | herror
        · rw [hresult]
          exact Or.inl ⟨hread, hcollection, hlists.columns⟩
        · cases hread.symm.trans herror
      · obtain ⟨active, hsome⟩ := hmove.exists_active hentry hread
        cases hsome.symm.trans hnone
  | @fails _ issued move response hends hstatement hfresh hmove hread =>
      refine ⟨fun active hsome => ?_, fun hnone => ?_⟩
      · obtain ⟨statement, collection, filter, run, shown, hparsed, rfl, hlists⟩ :=
          h.active active hsome
        refine ⟨statement, collection, filter, run, response.result, hparsed, rfl,
          hlists.activeStatement, hlists.active, hlists.statement, hlists.listed, hlists.columns,
          rfl, ?_⟩
        rcases hmove.belongs hentry hsome with ⟨hlisted, -⟩ | herror
        · exact absurd hlisted hread
        · exact Or.inr ⟨herror, response, rfl, hstatement, .refl⟩
      · refine ⟨(h.inactive hnone).1, fun shown hshown => ?_⟩
        rw [← Option.some.inj hshown]
        exact ResultType.write_or_error hread
  | resets =>
      refine ⟨fun active hsome => ?_, fun _ => ⟨rfl, fun shown hshown => ?_⟩⟩
      · cases hsome
      · cases hshown

end Account

/-! ## Runs -/

/-- The state belongs to one query, and so does every call that waits. -/
structure Scene.OneQuery (x : Scene) (a : Account) : Prop where
  account : a.OneQuery
  jobs : ∀ call ∈ x.waiting, call.job.Belongs a.session

theorem Scene.oneQuery_keeps : Account.Keeps (fun _ => True) Scene.OneQuery := by
  refine ⟨?_, fun hquery _ _ => ⟨hquery.account, hquery.jobs⟩⟩
  intro x a entry action count rest haccounted hquery hopens
  have hentry : ∀ job outcome, entry = .answered job outcome → job.Belongs a.session :=
    fun job outcome heq => hquery.jobs _ (hopens.exists_waiting heq)
  refine ⟨hquery.account.follows (haccounted.follows hopens) hentry, fun call hcall => ?_⟩
  have htook := a.session.took entry
  obtain ⟨-, hgrows⟩ := htook.turned.sound_grows haccounted.sound
    (fun job outcome heq => (haccounted.answered hopens job outcome heq).admitted)
  rw [Account.follow_session]
  rcases hopens.mem_waiting_turn hcall with hold | ⟨-, storeCall, hreaction⟩
  · exact (hquery.jobs call hold).grows (haccounted.jobs call hold).admitted hgrows
  · rw [← haccounted.session] at hreaction
    rw [hreaction] at htook
    exact htook.belongs hentry

/-- In every state that any events lead to, with answers and failures in any order, the active
command, the active statement, the columns, the stack and the display belong to one query; and the
answer to a page that was asked for before a run was last applied or a reset last made changes
nothing. -/
theorem display_belongs_to_one_query (pageSize : Int) (discardStale : Bool) (backend : Backend)
    (events : List ConsoleEvent) :
    let c := (Console.fresh pageSize discardStale backend).after events
    let a := Account.after (.initial pageSize discardStale)
      ((Console.fresh pageSize discardStale backend).log events)
    a.session = c.session ∧ a.OneQuery ∧
      ∀ call ∈ c.held, ∀ number generation move command,
        call.job = .page number generation move command → number ≤ a.restart →
          (c.handle (.release call.gate)).1.session = c.session := by
  intro c a
  have hstart : ((Console.fresh pageSize discardStale backend).scene []).OneQuery
      (.initial (.initial pageSize discardStale)) := by
    refine ⟨⟨fun command hsome => ?_, fun _ => ⟨rfl, fun shown hshown => ?_⟩⟩, fun call hcall => ?_⟩
    · cases hsome
    · cases hshown
    · cases hcall
  obtain ⟨haccounted, hquery⟩ := Scene.oneQuery_keeps.fresh (fun _ _ => trivial) hstart
  have hsession : a.session = c.session := haccounted.session
  have hgated : c.Gated := Console.gated_after_fresh pageSize discardStale backend events
  refine ⟨hsession, hquery.account, ?_⟩
  intro call hcall number generation move command hjob hbefore
  have hjobAccounted : call.job.Accounted a :=
    haccounted.jobs call.toWaiting (List.mem_map_of_mem hcall)
  have hother : generation ≠ c.session.generation := by
    intro hsame
    have hafter := (hjobAccounted.generation_iff number generation move command hjob).mp
      (hsession ▸ hsame)
    exact absurd hafter (Nat.not_lt.mpr hbefore)
  apply hgated.session_release hcall
  rw [hjob]
  exact Session.resume_of_older hother

end DocConsole
