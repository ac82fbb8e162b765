import DocConsole.Proofs.Session.Responses

/-!
# Overlapping runs

The result of a statement is settled when its first call is made, whenever the answer arrives.  So
each run that is still out has its response already, and with discarding switched on only the
response of the run issued last stays on display once it was there.  Main statement: when every
answer of a row of overlapping runs has arrived, the last run is on display.
-/

set_option autoImplicit false

namespace DocConsole

open Text

/-! ## Responses of waiting runs -/

/-- The response that a run is going to bring when its job has the given outcome. -/
def Job.response? (outcome : Outcome) : Job → Option QueryResponse
  | .run number statement command =>
      some ⟨number, some statement, (command.resume outcome).result⟩
  | .settled number statement _ r => some ⟨number, some statement, r⟩
  | _ => none

/-- The response that a waiting run is going to bring. -/
def Waiting.response? (call : Waiting) : Option QueryResponse :=
  call.job.response? call.outcome

/-- The answer to a waiting run makes one more call or ends the run with the same response. -/
theorem Waiting.resume_cases {call : Waiting} {response : QueryResponse}
    (h : call.response? = some response) (s : Session) :
    (∃ storeCall job, s.resume call.outcome call.job = (s, .calling storeCall job) ∧
      ∀ action outcome, Waiting.response? ⟨action, job, outcome⟩ = some response) ∨
    ∃ statement command, response.statement = some statement ∧
      s.resume call.outcome call.job =
        s.finishRun response.number statement (some command) response.result := by
  obtain ⟨action, job, outcome⟩ := call
  cases job with
  | run number statement command =>
      obtain rfl := Option.some.inj h
      simp only [Session.resume, Session.resumeRun]
      cases command.resume outcome with
      | finished r => exact Or.inr ⟨statement, command, rfl, rfl⟩
      | confirming storeCall r => exact Or.inl ⟨storeCall, _, rfl, fun _ _ => rfl⟩
  | settled number statement command r =>
      obtain rfl := Option.some.inj h
      exact Or.inr ⟨statement, command, rfl, rfl⟩
  | page sequence generation move command => cases h
  | edit statement => cases h
  | insert ticket statement fields => cases h

/-- A command that is executed gives the result that its first call settles. -/
theorem Command.execute_result (command : Command) (cursor : Option Value) (pageSize : Int)
    {backend : Backend} (hconnected : backend.connected = true) :
    (command.execute cursor pageSize backend).1 =
      (command.resume (backend.perform (command.firstCall cursor pageSize)).1).result := by
  unfold execute
  rw [if_pos hconnected]
  simp only
  cases command.resume (backend.perform (command.firstCall cursor pageSize)).1 <;> rfl

/-- A run that starts leaves a call waiting for the result of its statement, or ends with it. -/
theorem Session.startRun_cases (s : Session) (backend : Backend) {statement : String}
    (hblank : isBlankText statement = false) :
    let r := (Command.executeStatement statement none s.pageSize backend).1
    (∃ call job, s.startRun backend.connected statement =
        ({ s with issued := s.issued + 1 }, .calling call job) ∧
      ∀ action, Waiting.response? ⟨action, job, (backend.perform call).1⟩ =
        some ⟨s.issued + 1, some statement, r⟩) ∨
    ∃ command, s.startRun backend.connected statement =
      { s with issued := s.issued + 1 }.finishRun (s.issued + 1) statement command r := by
  simp only [startRun, hblank, Bool.false_eq_true, if_false, Command.executeStatement]
  cases Command.read statement with
  | error fault => exact Or.inr ⟨none, rfl⟩
  | ok command =>
      cases hconnected : backend.connected with
      | true =>
          refine Or.inl ⟨_, _, rfl, fun action => ?_⟩
          simp only [command.execute_result none s.pageSize hconnected]
          rfl
      | false =>
          refine Or.inr ⟨some command, ?_⟩
          simp only [Command.execute, hconnected]
          rfl

theorem Session.startRun_of_read {s : Session} {statement : String} {command : Command}
    (hblank : isBlankText statement = false) (hread : Command.read statement = .ok command) :
    s.start true (.run statement) = ({ s with issued := s.issued + 1 },
      .calling (command.firstCall none s.pageSize) (.run (s.issued + 1) statement command)) := by
  simp only [start, startRun, hblank, hread, Bool.false_eq_true, if_false, if_true]

theorem Session.startRun_of_unread {s : Session} {connected : Bool} {statement : String}
    {fault : Fault} (hblank : isBlankText statement = false)
    (hread : Command.read statement = .error fault) :
    s.start connected (.run statement) = Session.finishRun { s with issued := s.issued + 1 }
      (s.issued + 1) statement none (errorResult fault.message) := by
  simp only [start, startRun, hblank, hread, Bool.false_eq_true, if_false]

/-! ## Ends of runs -/

namespace Session

/-- The result of a statement is on display, on its first page. -/
structure Shows (s : Session) (statement : String) (r : QueryResult) : Prop where
  result : s.result = some r
  activeStatement : s.activeStatement = some statement
  columns : s.columns = r.columns
  cursors : s.cursors = .initial

theorem finishRun_eq (s : Session) (number : Nat) (statement : String)
    (command : Option Command) (r : QueryResult) :
    s.finishRun number statement command r =
      ((s.finishRun number statement command r).1, .finished (.ok (.result (some r)))) := rfl

theorem finishRun_same (s : Session) (number : Nat) (statement : String)
    (command : Option Command) (r : QueryResult) :
    (s.finishRun number statement command r).1.discardStale = s.discardStale ∧
      (s.finishRun number statement command r).1.pageSize = s.pageSize ∧
      (s.finishRun number statement command r).1.issued = s.issued := by
  simp only [finishRun]
  split <;> exact ⟨rfl, rfl, rfl⟩

variable {s : Session} {number bound : Nat} {statement : String} {command : Option Command}
  {r : QueryResult}

theorem applied_finishRun_lt (happlied : s.applied < bound) (hnumber : number < bound) :
    (s.finishRun number statement command r).1.applied < bound := by
  simp only [finishRun]
  split
  · exact happlied
  · exact Nat.max_lt.mpr ⟨happlied, hnumber⟩

/-- A run that is the newest when it ends is shown. -/
theorem shows_finishRun (happlied : s.applied ≤ number) :
    (s.finishRun number statement command r).1.applied = number ∧
      (s.finishRun number statement command r).1.Shows statement r := by
  have hfresh : (s.record statement (!r.isError)).isStale number = false := by
    rw [isStale, record, decide_eq_false (Nat.not_lt.mpr happlied), Bool.and_false]
  simp only [finishRun, hfresh, Bool.false_eq_true, if_false]
  exact ⟨Nat.max_eq_right happlied, ⟨rfl, rfl, rfl, rfl⟩⟩

/-- An older run changes only the history. -/
theorem finishRun_of_lt (hdiscards : s.discardStale = true) (hnumber : number < s.applied) :
    (s.finishRun number statement command r).1 = s.record statement (!r.isError) := by
  have hstale : (s.record statement (!r.isError)).isStale number = true := by
    rw [isStale, record, hdiscards, decide_eq_true hnumber]
    rfl
  simp only [finishRun, hstale, if_true]

end Session

/-! ## Runs before the last one -/

/-- Statements are run, and everything else but other actions may happen. -/
def ConsoleEvent.Overlaps : ConsoleEvent → Prop
  | .act (.run _) => True
  | .act _ => False
  | _ => True

/-- Nothing but blank statements begins, and everything else but other actions may happen. -/
def ConsoleEvent.Resolves : ConsoleEvent → Prop
  | .act (.run statement) => isBlankText statement = true
  | .act _ => False
  | _ => True

namespace Scene

/-- The responses that the waiting calls are going to bring. -/
def responses (x : Scene) : List (Option QueryResponse) :=
  x.waiting.map Waiting.response?

/-- Only runs are out, and discarding is switched on. -/
structure Overlapping (pageSize : Int) (x : Scene) : Prop where
  discards : x.session.discardStale = true
  pageSize : x.session.pageSize = pageSize
  applied_lt : x.session.applied < x.session.issued + 1
  waiting : ∀ waits ∈ x.responses, ∃ response, waits = some response ∧
    response.number < x.session.issued + 1

/-- The last run is on display, or its response is still out; all others are older. -/
structure Latest (number : Nat) (statement : String) (r : QueryResult) (x : Scene) : Prop where
  discards : x.session.discardStale = true
  waiting : ∀ waits ∈ x.responses, ∃ response, waits = some response ∧
    (response = ⟨number, some statement, r⟩ ∨ response.number < number)
  shown : (x.session.applied = number ∧ x.session.Shows statement r) ∨
    (x.session.applied < number ∧ some ⟨number, some statement, r⟩ ∈ x.responses)

variable {x : Scene} {entry : LogEntry} {number : Nat} {statement : String} {r : QueryResult}
  {pageSize : Int}

theorem turn_of_calling {s' : Session} {call : StoreCall} {job : Job}
    (h : entry.turn x.session = (s', .calling call job)) (action : Nat) (rest : List Waiting)
    (count : Nat) :
    (x.turn entry action rest count).session = s' ∧
      (x.turn entry action rest count).responses = rest.map Waiting.response? ++
        [Waiting.response? ⟨action, job, (x.backend.perform call).1⟩] := by
  rw [turn, h]
  exact ⟨rfl, List.map_append⟩

theorem turn_of_finished {s' : Session} {answer : Except Fault Answer}
    (h : entry.turn x.session = (s', .finished answer)) (action : Nat) (rest : List Waiting)
    (count : Nat) :
    (x.turn entry action rest count).session = s' ∧
      (x.turn entry action rest count).responses = rest.map Waiting.response? := by
  rw [turn, h]
  exact ⟨rfl, congrArg _ (List.append_nil _)⟩

/-- With a new run the scene waits for that run, or shows it. -/
theorem Overlapping.latest (h : x.Overlapping pageSize) (hblank : isBlankText statement = false)
    (action count : Nat) :
    let y := x.turn (.began x.backend.connected (.run statement)) action x.waiting count
    y.session.issued = x.session.issued + 1 ∧ y.session.pageSize = x.session.pageSize ∧
      y.Latest (x.session.issued + 1) statement
        (Command.executeStatement statement none x.session.pageSize x.backend).1 := by
  have hwaiting : ∀ waits ∈ x.responses, ∃ response, waits = some response ∧
      (response = ⟨x.session.issued + 1, some statement,
          (Command.executeStatement statement none x.session.pageSize x.backend).1⟩ ∨
        response.number < x.session.issued + 1) := by
    intro waits hwaits
    obtain ⟨response, hresponse, hlt⟩ := h.waiting waits hwaits
    exact ⟨response, hresponse, Or.inr hlt⟩
  rcases x.session.startRun_cases x.backend hblank with
    ⟨call, job, hstart, hresponse⟩ | ⟨command, hstart⟩
  · have hturn : (LogEntry.began x.backend.connected (.run statement)).turn x.session =
        ({ x.session with issued := x.session.issued + 1 }, .calling call job) := hstart
    obtain ⟨hsession, hresponses⟩ := turn_of_calling hturn action x.waiting count
    rw [hresponse] at hresponses
    refine ⟨hsession ▸ rfl, hsession ▸ rfl, hsession ▸ h.discards, ?_,
      Or.inr ⟨hsession ▸ h.applied_lt, ?_⟩⟩
    · intro waits hwaits
      rw [hresponses] at hwaits
      rcases List.mem_append.mp hwaits with hold | hnew
      · exact hwaiting waits hold
      · exact ⟨_, List.mem_singleton.mp hnew, Or.inl rfl⟩
    · rw [hresponses]
      exact List.mem_append_right _ (List.mem_singleton_self _)
  · have hturn : (LogEntry.began x.backend.connected (.run statement)).turn x.session = _ :=
      hstart.trans (Session.finishRun_eq _ _ _ _ _)
    obtain ⟨hsession, hresponses⟩ := turn_of_finished hturn action x.waiting count
    obtain ⟨hdiscards, hpageSize, hissued⟩ := Session.finishRun_same
      { x.session with issued := x.session.issued + 1 } (x.session.issued + 1) statement command
      (Command.executeStatement statement none x.session.pageSize x.backend).1
    refine ⟨hsession ▸ hissued, hsession ▸ hpageSize, ?_, ?_, Or.inl ?_⟩
    · rw [hsession, hdiscards]
      exact h.discards
    · rw [hresponses]
      exact hwaiting
    · rw [hsession]
      exact Session.shows_finishRun (Nat.le_of_lt h.applied_lt)

/-- A blank statement changes nothing. -/
theorem turn_of_blank (hblank : isBlankText statement = true) (connected : Bool)
    (action count : Nat) :
    (x.turn (.began connected (.run statement)) action x.waiting count).session = x.session ∧
      (x.turn (.began connected (.run statement)) action x.waiting count).responses =
        x.responses := by
  have hturn : (LogEntry.began connected (.run statement)).turn x.session =
      (x.session, x.session.current) := by
    simp only [LogEntry.turn, Session.start, Session.startRun, hblank, if_true]
  exact turn_of_finished hturn action x.waiting count

/-- An answer to a run leaves all responses out and the session as it is, or ends the run. -/
theorem answers_cases {front back : List Waiting} {call : Waiting} {response : QueryResponse}
    (hcall : x.waiting = front ++ call :: back) (hresponse : call.response? = some response) :
    let y := x.turn (.answered call.job call.outcome) call.action (front ++ back) x.actions
    (y.session = x.session ∧ x.responses.Perm y.responses) ∨
    (∃ statement command, response.statement = some statement ∧
      y.session =
        (x.session.finishRun response.number statement (some command) response.result).1 ∧
      x.responses.Perm (some response :: y.responses)) := by
  intro y
  have hperm : x.responses.Perm (some response :: (front ++ back).map Waiting.response?) := by
    rw [responses, hcall, List.map_append, List.map_cons, hresponse, List.map_append]
    exact List.perm_middle
  rcases Waiting.resume_cases hresponse x.session with
    ⟨storeCall, job, hresume, hsame⟩ | ⟨statement, command, hstatement, hresume⟩
  · have hturn : (LogEntry.answered call.job call.outcome).turn x.session =
        (x.session, .calling storeCall job) := hresume
    obtain ⟨hsession, hresponses⟩ := turn_of_calling hturn call.action (front ++ back) x.actions
    rw [hsame] at hresponses
    refine Or.inl ⟨hsession, hperm.trans ?_⟩
    rw [hresponses]
    exact (List.perm_append_singleton _ _).symm
  · have hturn : (LogEntry.answered call.job call.outcome).turn x.session = _ :=
      hresume.trans (Session.finishRun_eq _ _ _ _ _)
    obtain ⟨hsession, hresponses⟩ := turn_of_finished hturn call.action (front ++ back) x.actions
    exact Or.inr ⟨statement, command, hstatement, hsession, hresponses ▸ hperm⟩

/-- A waiting call and the response it is going to bring. -/
theorem exists_response {P : QueryResponse → Prop} {front back : List Waiting} {call : Waiting}
    (h : ∀ waits ∈ x.responses, ∃ response, waits = some response ∧ P response)
    (hcall : x.waiting = front ++ call :: back) :
    ∃ response, call.response? = some response ∧ P response := by
  apply h
  rw [responses, hcall, List.map_append, List.map_cons]
  exact List.mem_append_right _ List.mem_cons_self

/-! ## Steps -/

/-- While runs overlap, nothing but runs is out. -/
theorem Overlapping.step {y : Scene} (h : x.Overlapping pageSize)
    (hstep : Step ConsoleEvent.Overlaps x y) : y.Overlapping pageSize := by
  cases hstep with
  | exchange => exact ⟨h.discards, h.pageSize, h.applied_lt, h.waiting⟩
  | turn hopens =>
      cases hopens with
      | @begins action hadmitted =>
          cases action with
          | run statement =>
              cases hblank : isBlankText statement with
              | true =>
                  obtain ⟨hsession, hresponses⟩ := turn_of_blank (x := x) hblank
                    x.backend.connected x.actions (x.actions + 1)
                  refine ⟨?_, ?_, ?_, ?_⟩
                  · exact hsession ▸ h.discards
                  · exact hsession ▸ h.pageSize
                  · exact hsession ▸ h.applied_lt
                  · rw [hsession, hresponses]
                    exact h.waiting
              | false =>
                  obtain ⟨hissued, hpageSize, hlatest⟩ := h.latest hblank x.actions (x.actions + 1)
                  refine ⟨hlatest.discards, hpageSize.trans h.pageSize, ?_, ?_⟩
                  · rw [hissued]
                    rcases hlatest.shown with ⟨happlied, -⟩ | ⟨happlied, -⟩
                    · exact happlied ▸ Nat.lt_succ_self _
                    · exact Nat.lt_succ_of_lt happlied
                  · intro waits hwaits
                    rw [hissued]
                    obtain ⟨response, hresponse, rfl | holder⟩ := hlatest.waiting waits hwaits
                    · exact ⟨_, hresponse, Nat.lt_succ_self _⟩
                    · exact ⟨response, hresponse, Nat.lt_succ_of_lt holder⟩
          | _ => exact absurd hadmitted id
      | @answers front back call hcall =>
          obtain ⟨response, hresponse, hlt⟩ := exists_response h.waiting hcall
          rcases answers_cases hcall hresponse with
            ⟨hsession, hperm⟩ | ⟨statement, command, -, hsession, hperm⟩
          · refine ⟨hsession ▸ h.discards, hsession ▸ h.pageSize, hsession ▸ h.applied_lt, ?_⟩
            intro waits hwaits
            rw [hsession]
            exact h.waiting waits (hperm.mem_iff.mpr hwaits)
          · obtain ⟨hdiscards, hpageSize, hissued⟩ := x.session.finishRun_same response.number
              statement (some command) response.result
            refine ⟨?_, ?_, ?_, ?_⟩
            · rw [hsession, hdiscards]
              exact h.discards
            · rw [hsession, hpageSize]
              exact h.pageSize
            · rw [hsession, hissued]
              exact Session.applied_finishRun_lt h.applied_lt hlt
            · intro waits hwaits
              rw [hsession, hissued]
              exact h.waiting waits (hperm.mem_iff.mpr (List.mem_cons_of_mem _ hwaits))

/-- After the last run nothing begins but blank statements. -/
theorem Latest.step {y : Scene} (h : x.Latest number statement r)
    (hstep : Step ConsoleEvent.Resolves x y) : y.Latest number statement r := by
  cases hstep with
  | exchange => exact ⟨h.discards, h.waiting, h.shown⟩
  | turn hopens =>
      cases hopens with
      | @begins action hadmitted =>
          cases action with
          | run blank =>
              obtain ⟨hsession, hresponses⟩ := turn_of_blank (x := x) hadmitted
                x.backend.connected x.actions (x.actions + 1)
              refine ⟨hsession ▸ h.discards, ?_, ?_⟩
              · rw [hresponses]
                exact h.waiting
              · rw [hsession, hresponses]
                exact h.shown
          | _ => exact absurd hadmitted id
      | @answers front back call hcall =>
          obtain ⟨response, hresponse, hlast⟩ := exists_response h.waiting hcall
          rcases answers_cases hcall hresponse with
            ⟨hsession, hperm⟩ | ⟨statement', command, hstatement, hsession, hperm⟩
          · refine ⟨hsession ▸ h.discards, ?_, ?_⟩
            · intro waits hwaits
              exact h.waiting waits (hperm.mem_iff.mpr hwaits)
            · rw [hsession, ← hperm.mem_iff]
              exact h.shown
          · refine ⟨?_, ?_, ?_⟩
            · rw [hsession]
              exact (Session.finishRun_same _ _ _ _ _).1.trans h.discards
            · intro waits hwaits
              exact h.waiting waits (hperm.mem_iff.mpr (List.mem_cons_of_mem _ hwaits))
            · rw [hsession]
              rcases hlast with rfl | holder
              · obtain rfl := Option.some.inj hstatement
                refine Or.inl (Session.shows_finishRun ?_)
                rcases h.shown with ⟨happlied, -⟩ | ⟨happlied, -⟩
                · exact Nat.le_of_eq happlied
                · exact Nat.le_of_lt happlied
              · rcases h.shown with ⟨happlied, hshows⟩ | ⟨happlied, hwaits⟩
                · rw [Session.finishRun_of_lt h.discards (happlied ▸ holder)]
                  obtain ⟨hresult, hactive, hcolumns, hcursors⟩ := hshows
                  exact Or.inl ⟨happlied, hresult, hactive, hcolumns, hcursors⟩
                · refine Or.inr ⟨Session.applied_finishRun_lt happlied holder, ?_⟩
                  rcases List.mem_cons.mp (hperm.mem_iff.mp hwaits) with hsame | hrest
                  · rw [← Option.some.inj hsame] at holder
                    exact absurd holder (Nat.lt_irrefl _)
                  · exact hrest

end Scene

theorem Console.after_append_cons (c : Console) (before later : List ConsoleEvent)
    (event : ConsoleEvent) :
    c.after (before ++ event :: later) = ((c.after before).handle event).1.after later := by
  rw [after, List.foldl_append, List.foldl_cons]
  rfl

/-- When every answer to a row of overlapping runs has arrived, the display shows the result that
the last statement had when its run began. -/
theorem Console.shows_last_run {pageSize : Int} {backend : Backend}
    {before later : List ConsoleEvent} {statement : String}
    (hbefore : ∀ event ∈ before, event.Overlaps)
    (hblank : isBlankText statement = false) (hlater : ∀ event ∈ later, event.Resolves)
    (hheld : ((Console.fresh pageSize true backend).after
      (before ++ .act (.run statement) :: later)).held = []) :
    ((Console.fresh pageSize true backend).after
        (before ++ .act (.run statement) :: later)).session.Shows statement
      (Command.executeStatement statement none pageSize
        ((Console.fresh pageSize true backend).after before).backend).1 := by
  have hgated := Console.gated_fresh pageSize true backend
  have hstart : ((Console.fresh pageSize true backend).scene []).Overlapping pageSize :=
    ⟨rfl, rfl, Nat.zero_lt_one, fun waits hwaits => by cases hwaits⟩
  generalize Console.fresh pageSize true backend = c at hheld hgated hstart ⊢
  obtain ⟨hsteps, hgated⟩ := hgated.steps_after hbefore []
  have hoverlapping := hsteps.keeps (fun h hstep => h.step hstep) hstart
  rw [Console.after_append_cons] at hheld ⊢
  -- The last run begins, and from then on it is out or on display.
  obtain ⟨-, -, hlatest⟩ := hoverlapping.latest hblank (c.after before).actions
    ((c.after before).actions + 1)
  have hbegun := ((c.after before).steps_act (.run statement) ([] ++ c.log before)).mono
    (fun event hfalse => hfalse.elim) |>.keeps (fun h hstep => h.step hstep) hlatest
  have hresolved := ((hgated.handle _).steps_after hlater _).1.keeps
    (fun h hstep => Scene.Latest.step h hstep) hbegun
  rcases hresolved.shown with ⟨-, hshows⟩ | ⟨-, hwaits⟩
  · have hsize : (c.after before).session.pageSize = pageSize := hoverlapping.pageSize
    rw [← hsize]
    exact hshows
  · have hnone : ((((c.after before).handle (.act (.run statement))).1.after later).scene
        ([] ++ c.log before ++ (c.after before).eventLog (.act (.run statement)) ++
          ((c.after before).handle (.act (.run statement))).1.log later)).responses = [] := by
      rw [Scene.responses, Console.scene, hheld]
      rfl
    rw [hnone] at hwaits
    cases hwaits

end DocConsole
