import DocConsole.Proofs.Session.Stack

/-!
# Sessions that count from different numbers

Requests, generations and tickets are numbered only to be compared, and where the numbers of a
session begin is left over from its past.  The same is true of the latest applied response as long
as no older one can still arrive.  Main statement: two sessions that agree in everything else go
through the same events with the same reports, the same display and the same pages; whether they
drop stale responses matters only when answers are held back.
-/

set_option autoImplicit false

namespace DocConsole

/-! ## Numbers ahead of others -/

/-- How far the numbers of one session are ahead of those of another one. -/
structure Lead where
  /-- The lead in requests. -/
  requests : Nat
  /-- The lead in generations. -/
  generations : Nat
  /-- The lead in tickets. -/
  tickets : Nat
  /-- Whether every call is answered at once.  No response is stale then, and the sessions may
  disagree on whether stale ones are dropped. -/
  sequential : Bool

/-- A display with its ticket ahead. -/
def Display.ahead (lead : Lead) (shown : Display) : Display :=
  { shown with ticket := shown.ticket + lead.tickets }

/-- A job with its numbers ahead. -/
def Job.ahead (lead : Lead) : Job → Job
  | .run sequence statement command => .run (sequence + lead.requests) statement command
  | .settled sequence statement command r =>
      .settled (sequence + lead.requests) statement command r
  | .page sequence generation move command =>
      .page (sequence + lead.requests) (generation + lead.generations) move command
  | .edit statement => .edit statement
  | .insert ticket statement fields => .insert (ticket + lead.tickets) statement fields

/-- A reaction with the numbers of its job ahead. -/
def Reaction.ahead (lead : Lead) : Reaction → Reaction
  | .finished answer => .finished answer
  | .calling call job => .calling call (job.ahead lead)

/-- A held call with the numbers of its job ahead. -/
def HeldCall.ahead (lead : Lead) (call : HeldCall) : HeldCall :=
  { call with job := call.job.ahead lead }

namespace Session

/-- One session is ahead of another one in counting, and agrees with it in everything else. -/
structure Leads (lead : Lead) (s t : Session) : Prop where
  pageSize : s.pageSize = t.pageSize
  history : s.history = t.history
  cursors : s.cursors = t.cursors
  displayed : s.displayed = t.displayed.map (Display.ahead lead)
  activeStatement : s.activeStatement = t.activeStatement
  activeCommand : s.activeCommand = t.activeCommand
  columns : s.columns = t.columns
  issued : s.issued = t.issued + lead.requests
  generation : s.generation = t.generation + lead.generations
  nextTicket : s.nextTicket = t.nextTicket + lead.tickets
  /-- They agree on which requests are older than the latest applied response. -/
  applied : ∀ number, number + lead.requests < s.applied ↔ number < t.applied
  discards : lead.sequential = false → s.discardStale = t.discardStale
  applied_le : lead.sequential = true → t.applied ≤ t.issued

/-- Where every call is answered at once, a request that waits is the newest one. -/
def Awaits (lead : Lead) (t : Session) (number : Nat) : Prop :=
  lead.sequential = true → t.applied ≤ number ∧ number ≤ t.issued

/-- One turn ends ahead of another one. -/
structure EndsAhead (lead : Lead) (next next' : Session × Reaction) : Prop where
  session : next.1.Leads lead next'.1
  reaction : next.2 = next'.2.ahead lead
  awaits : ∀ call job number, next'.2 = .calling call job → job.number? = some number →
    next'.1.Awaits lead number

namespace Leads

variable {lead : Lead} {s t : Session} {number : Nat}

/-! ## Parts of a turn -/

theorem result (h : s.Leads lead t) : s.result = t.result := by
  rw [Session.result, h.displayed, Option.map_map]
  rfl

theorem page (h : s.Leads lead t) : s.page = t.page :=
  congrArg CursorStack.page h.cursors

theorem issue (h : s.Leads lead t) :
    Leads lead { s with issued := s.issued + 1 } { t with issued := t.issued + 1 } :=
  { h with
    issued := by rw [h.issued, Nat.add_right_comm]
    applied_le := fun hsequential => Nat.le_succ_of_le (h.applied_le hsequential) }

theorem record (h : s.Leads lead t) (statement : String) (succeeded : Bool) :
    (s.record statement succeeded).Leads lead (t.record statement succeeded) :=
  { h with history := congrArg (History.record · statement succeeded) h.history }

theorem display (h : s.Leads lead t) (r : QueryResult) : (s.display r).Leads lead (t.display r) :=
  { h with
    displayed := by
      show some (Display.mk s.nextTicket r) = some ⟨t.nextTicket + lead.tickets, r⟩
      rw [h.nextTicket]
    nextTicket := by
      show s.nextTicket + 1 = t.nextTicket + 1 + lead.tickets
      rw [h.nextTicket, Nat.add_right_comm] }

theorem accept (h : s.Leads lead t) (hnumber : t.Awaits lead number) :
    (s.accept (number + lead.requests)).Leads lead (t.accept number) :=
  { h with
    applied := fun other => by
      show other + lead.requests < max s.applied (number + lead.requests) ↔
        other < max t.applied number
      have happlied := h.applied other
      omega
    applied_le := fun hsequential =>
      Nat.max_le.mpr ⟨h.applied_le hsequential, (hnumber hsequential).2⟩ }

theorem isStale (h : s.Leads lead t) (hnumber : t.Awaits lead number) :
    s.isStale (number + lead.requests) = t.isStale number := by
  have happlied : decide (number + lead.requests < s.applied) = decide (number < t.applied) :=
    decide_eq_decide.mpr (h.applied number)
  rw [Session.isStale, Session.isStale, happlied]
  cases hsequential : lead.sequential with
  | false => rw [h.discards hsequential]
  | true =>
      rw [decide_eq_false (Nat.not_lt.mpr (hnumber hsequential).1), Bool.and_false,
        Bool.and_false]

theorem showRun (h : s.Leads lead t) (statement : String) (command : Option Command)
    (r : QueryResult) :
    (s.showRun statement command r).Leads lead (t.showRun statement command r) :=
  { h.display r with
    generation := by
      show s.generation + 1 = t.generation + 1 + lead.generations
      rw [h.generation, Nat.add_right_comm]
    activeStatement := rfl
    cursors := rfl
    columns := rfl
    activeCommand := rfl }

theorem reset (h : s.Leads lead t) : s.reset.Leads lead t.reset :=
  { h with
    generation := by
      show s.generation + 1 = t.generation + 1 + lead.generations
      rw [h.generation, Nat.add_right_comm]
    displayed := rfl
    activeStatement := rfl
    activeCommand := rfl
    columns := rfl
    cursors := rfl
    history := rfl }

/-- A turn that is over. -/
theorem finished (h : s.Leads lead t) (answer : Except Fault Answer) :
    EndsAhead lead (s, .finished answer) (t, .finished answer) := by
  refine ⟨h, rfl, ?_⟩
  rintro _ _ _ ⟨⟩

/-- A turn that makes a call. -/
theorem calling (h : s.Leads lead t) {call call' : StoreCall} (hcall : call = call') (job : Job)
    (hjob : ∀ number, job.number? = some number → t.Awaits lead number) :
    EndsAhead lead (s, .calling call (job.ahead lead)) (t, .calling call' job) := by
  refine ⟨h, congrArg (Reaction.calling · (job.ahead lead)) hcall, ?_⟩
  rintro _ _ number ⟨⟩ hnumber
  exact hjob number hnumber

theorem current (h : s.Leads lead t) : EndsAhead lead (s, s.current) (t, t.current) := by
  rw [Session.current, Session.current, h.result]
  exact h.finished _

/-! ## Turns -/

theorem finishRun (h : s.Leads lead t) (hnumber : t.Awaits lead number) (statement : String)
    (command : Option Command) (r : QueryResult) :
    EndsAhead lead (s.finishRun (number + lead.requests) statement command r)
      (t.finishRun number statement command r) := by
  have hrecord := h.record statement (!r.isError)
  unfold Session.finishRun
  simp only [hrecord.isStale hnumber]
  split
  · exact hrecord.finished _
  · exact ((hrecord.accept hnumber).showRun statement command r).finished _

/-- The request that is issued next is the newest one. -/
theorem awaits_issue (h : s.Leads lead t) :
    Awaits lead { t with issued := t.issued + 1 } (t.issued + 1) :=
  fun hsequential => ⟨Nat.le_succ_of_le (h.applied_le hsequential), Nat.le_refl _⟩

theorem startRun (h : s.Leads lead t) (connected : Bool) (statement : String) :
    EndsAhead lead (s.startRun connected statement) (t.startRun connected statement) := by
  have hsequence : s.issued + 1 = t.issued + 1 + lead.requests := h.issue.issued
  have hissue := h.issue
  rw [hsequence] at hissue
  unfold Session.startRun
  split
  · exact h.current
  · simp only [hsequence]
    cases Command.read statement with
    | error fault => exact hissue.finishRun h.awaits_issue _ _ _
    | ok command =>
        cases connected with
        | false => exact hissue.finishRun h.awaits_issue _ _ _
        | true =>
            refine hissue.calling (congrArg (command.firstCall none) h.pageSize)
              (.run (t.issued + 1) statement command) ?_
            rintro _ ⟨⟩
            exact h.awaits_issue

theorem resumeRun (h : s.Leads lead t) (hnumber : t.Awaits lead number) (statement : String)
    (command : Command) (outcome : Outcome) :
    EndsAhead lead (s.resumeRun (number + lead.requests) statement command outcome)
      (t.resumeRun number statement command outcome) := by
  unfold Session.resumeRun
  cases command.resume outcome with
  | finished r => exact h.finishRun hnumber _ _ _
  | confirming call r =>
      refine h.calling rfl (.settled number statement command r) ?_
      rintro _ ⟨⟩
      exact hnumber

theorem showPage (h : s.Leads lead t) (move : PageMove) (r : QueryResult) :
    EndsAhead lead (s.showPage move r) (t.showPage move r) := by
  unfold Session.showPage
  rw [h.cursors]
  split
  · cases t.cursors.commit move with
    | error fault => exact h.finished _
    | ok cursors =>
        have hmoved : Leads lead { s with cursors := cursors } { t with cursors := cursors } :=
          { h with cursors := rfl }
        have hcolumns : ({ r with columns := s.columns } : QueryResult) =
            { r with columns := t.columns } := by rw [h.columns]
        show EndsAhead lead
          (Session.display { s with cursors := cursors } { r with columns := s.columns },
            .finished (.ok (.result (some { r with columns := s.columns })))) _
        rw [hcolumns]
        exact (hmoved.display _).finished _
  · exact (h.display r).finished _

theorem finishPage (h : s.Leads lead t) (hnumber : t.Awaits lead number) (generation : Nat)
    (move : PageMove) (r : QueryResult) :
    EndsAhead lead
      (s.finishPage (number + lead.requests) (generation + lead.generations) move r)
      (t.finishPage number generation move r) := by
  have hlate : generation + lead.generations ≠ s.generation ↔ generation ≠ t.generation := by
    rw [h.generation, ne_eq, Nat.add_right_cancel_iff]
  unfold Session.finishPage
  simp only [h.isStale hnumber, hlate]
  split
  · exact h.finished _
  · exact (h.accept hnumber).showPage move r

theorem fetchPage (h : s.Leads lead t) (connected : Bool) (command : Command) (move : PageMove) :
    EndsAhead lead (s.fetchPage connected command move) (t.fetchPage connected command move) := by
  have hsequence : s.issued + 1 = t.issued + 1 + lead.requests := h.issue.issued
  have hissue := h.issue
  rw [hsequence] at hissue
  unfold Session.fetchPage
  simp only [hsequence]
  cases connected with
  | false =>
      have hfinish := hissue.finishPage h.awaits_issue t.generation move
        (errorResult Fault.notConnected.message)
      rw [← h.generation] at hfinish
      exact hfinish
  | true =>
      have hcalling := hissue.calling (congrArg (command.firstCall move.cursor) h.pageSize)
        (.page (t.issued + 1) t.generation move command)
        (by rintro _ ⟨⟩; exact h.awaits_issue)
      rw [Job.ahead, ← h.generation] at hcalling
      exact hcalling

theorem startNext (h : s.Leads lead t) (connected : Bool) :
    EndsAhead lead (s.startNext connected) (t.startNext connected) := by
  unfold Session.startNext
  rw [h.displayed, h.activeCommand, h.cursors]
  cases t.displayed with
  | none => exact h.current
  | some shown =>
      cases t.activeCommand with
      | none => exact h.current
      | some command =>
          simp only [Option.map_some, Display.ahead]
          cases t.cursors.planAdvance shown.result.pageCursor with
          | error fault => exact h.finished _
          | ok plan =>
              cases plan with
              | none => exact h.current
              | some move => exact h.fetchPage connected command move

theorem startPrevious (h : s.Leads lead t) (connected : Bool) :
    EndsAhead lead (s.startPrevious connected) (t.startPrevious connected) := by
  unfold Session.startPrevious
  rw [h.activeCommand, h.cursors]
  cases t.activeCommand with
  | none => exact h.current
  | some command =>
      cases t.cursors.planRetreat with
      | error fault => exact h.finished _
      | ok plan =>
          cases plan with
          | none => exact h.current
          | some move => exact h.fetchPage connected command move

theorem resumePage (h : s.Leads lead t) (hnumber : t.Awaits lead number) (generation : Nat)
    (move : PageMove) (command : Command) (outcome : Outcome) :
    EndsAhead lead
      (s.resumePage (number + lead.requests) (generation + lead.generations) move command outcome)
      (t.resumePage number generation move command outcome) := by
  unfold Session.resumePage
  cases command.resume outcome with
  | finished r => exact h.finishPage hnumber generation move r
  | confirming call r => exact h.finishPage hnumber generation move r

theorem finishEdit (h : s.Leads lead t) (statement : String) (outcome : Except Fault Unit) :
    EndsAhead lead (s.finishEdit statement outcome) (t.finishEdit statement outcome) := by
  cases outcome with
  | error fault => exact (h.record statement false).finished _
  | ok done => exact (h.record statement true).finished _

/-- A change of the results on display keeps their tickets. -/
theorem mapDisplayed (h : s.Leads lead t) {change change' : Display → Display}
    (hchange : ∀ shown, change (shown.ahead lead) = (change' shown).ahead lead) :
    Leads lead { s with displayed := s.displayed.map change }
      { t with displayed := t.displayed.map change' } :=
  { h with
    displayed := by
      rw [h.displayed, Option.map_map, Option.map_map]
      exact congrArg (t.displayed.map ·) (funext hchange) }

theorem startEdit (h : s.Leads lead t) (connected : Bool) (id field : String) (value : Value) :
    EndsAhead lead (s.startEdit connected id field value)
      (t.startEdit connected id field value) := by
  unfold Session.startEdit
  rw [h.result]
  cases editableCollection t.result with
  | error fault => exact h.finished _
  | ok collection =>
      by_cases hid : field = "id"
      · simp only [if_pos hid]
        exact h.finished _
      · simp only [if_neg hid]
        have hedited : Leads lead
            { s with displayed := s.displayed.map fun shown =>
              { shown with result := shown.result.edited id field value } }
            { t with displayed := t.displayed.map fun shown =>
              { shown with result := shown.result.edited id field value } } :=
          h.mapDisplayed fun shown => rfl
        cases connected with
        | false =>
            exact hedited.finishEdit (editStatement collection id field value)
              (.error .notConnected)
        | true =>
            exact hedited.calling rfl (.edit (editStatement collection id field value)) nofun

theorem finishInsert (h : s.Leads lead t) (ticket : Nat) (statement : String) (fields : Fields)
    (outcome : Except Fault String) :
    EndsAhead lead (s.finishInsert (ticket + lead.tickets) statement fields outcome)
      (t.finishInsert ticket statement fields outcome) := by
  cases outcome with
  | error fault => exact (h.record statement false).finished _
  | ok id =>
      have hshown : Leads lead (s.showNewRow (ticket + lead.tickets) (newRow fields id))
          (t.showNewRow ticket (newRow fields id)) := by
        refine h.mapDisplayed fun shown => ?_
        by_cases hticket : shown.ticket = ticket
        · simp only [Display.ahead, hticket, if_true]
        · simp only [Display.ahead, Nat.add_right_cancel_iff, hticket, if_false]
      exact (hshown.record statement true).finished _

theorem startInsert (h : s.Leads lead t) (connected : Bool) (fields : Fields) :
    EndsAhead lead (s.startInsert connected fields) (t.startInsert connected fields) := by
  unfold Session.startInsert
  rw [h.result, h.displayed]
  cases editableCollection t.result with
  | error fault => exact h.finished _
  | ok collection =>
      cases t.displayed with
      | none => exact h.finished _
      | some shown =>
          cases connected with
          | false =>
              exact h.finishInsert shown.ticket (insertStatement collection fields) fields
                (.error .notConnected)
          | true =>
              exact h.calling rfl
                (.insert shown.ticket (insertStatement collection fields) fields) nofun

/-- Every action starts ahead. -/
theorem start (h : s.Leads lead t) (connected : Bool) (action : Action) :
    EndsAhead lead (s.start connected action) (t.start connected action) := by
  cases action with
  | run statement => exact h.startRun connected statement
  | nextPage => exact h.startNext connected
  | previousPage => exact h.startPrevious connected
  | edit id field value => exact h.startEdit connected id field value
  | insert fields => exact h.startInsert connected fields
  | exportCsv =>
      simp only [Session.start, Session.exportText, h.result]
      exact h.finished _
  | reset => exact h.reset.finished _

/-- Every answer ends ahead. -/
theorem resume (h : s.Leads lead t) {job : Job}
    (hjob : ∀ number, job.number? = some number → t.Awaits lead number) (outcome : Outcome) :
    EndsAhead lead (s.resume outcome (job.ahead lead)) (t.resume outcome job) := by
  cases job with
  | run sequence statement command =>
      exact h.resumeRun (hjob sequence rfl) statement command outcome
  | settled sequence statement command r =>
      exact h.finishRun (hjob sequence rfl) statement (some command) r
  | page sequence generation move command =>
      exact h.resumePage (hjob sequence rfl) generation move command outcome
  | edit statement => exact h.finishEdit statement _
  | insert ticket statement fields => exact h.finishInsert ticket statement fields _

end Leads

/-- A reset session is ahead of one that was just opened with pages of the same size. -/
theorem leads_reset {s : Session} (happlied : s.applied ≤ s.issued) {sequential : Bool}
    {discardStale : Bool} (hdiscards : sequential = false → s.discardStale = discardStale) :
    s.reset.Leads ⟨s.issued, s.generation + 1, s.nextTicket, sequential⟩
      (.initial s.pageSize discardStale) where
  pageSize := rfl
  history := rfl
  cursors := rfl
  displayed := rfl
  activeStatement := rfl
  activeCommand := rfl
  columns := rfl
  issued := (Nat.zero_add _).symm
  generation := (Nat.zero_add _).symm
  nextTicket := (Nat.zero_add _).symm
  applied number := by
    show number + s.issued < s.applied ↔ number < 0
    omega
  discards := hdiscards
  applied_le _ := Nat.le_refl 0

end Session

/-! ## Whole runs -/

/-- What is to be seen of an event: its report, and the result and the page after it. -/
structure Observation where
  /-- The report. -/
  report : Report
  /-- The result on display. -/
  result : Option QueryResult
  /-- The number of the page. -/
  page : Int

/-- Every call is answered before the next event. -/
def ConsoleEvent.AnswersAtOnce (event : ConsoleEvent) : Prop :=
  event ≠ .setHolding true

namespace Console

/-- What is to be seen of some events, one after the other. -/
def transcript (c : Console) : List ConsoleEvent → List Observation
  | [] => []
  | event :: rest =>
      ⟨(c.handle event).2, (c.handle event).1.session.result, (c.handle event).1.session.page⟩ ::
        transcript (c.handle event).1 rest

/-- Where the same is to be seen of some events, the same result is on display behind them. -/
theorem result_of_transcript {c d : Console} {event : ConsoleEvent} {events : List ConsoleEvent}
    (h : c.transcript (event :: events) = d.transcript (event :: events)) :
    (c.after (event :: events)).session.result = (d.after (event :: events)).session.result := by
  induction events generalizing c d event with
  | nil => exact congrArg Observation.result (List.cons.inj h).1
  | cons next rest ih => exact ih (List.cons.inj h).2

/-- One console is ahead of another one in counting. -/
structure Leads (lead : Lead) (c d : Console) : Prop where
  session : c.session.Leads lead d.session
  backend : c.backend = d.backend
  holding : c.holding = d.holding
  held : c.held = d.held.map (HeldCall.ahead lead)
  gates : c.gates = d.gates
  actions : c.actions = d.actions
  answersAtOnce : lead.sequential = true → d.holding = false ∧ d.held = []

namespace Leads

variable {lead : Lead} {c d : Console}

theorem connected (h : c.Leads lead d) : c.backend.connected = d.backend.connected :=
  congrArg Backend.connected h.backend

theorem carryOn (h : c.Leads lead d) {reaction reaction' : Reaction}
    (hends : Session.EndsAhead lead (c.session, reaction) (d.session, reaction')) (action : Nat) :
    (c.carryOn action reaction).1.Leads lead (d.carryOn action reaction').1 ∧
      (c.carryOn action reaction).2 = (d.carryOn action reaction').2 := by
  fun_induction Console.carryOn d action reaction' generalizing c reaction with
  | case1 d answer =>
      obtain rfl : reaction = .finished answer := hends.reaction
      rw [carryOn_finished]
      exact ⟨h, rfl⟩
  | case2 d call job answered d' =>
      rename_i hholding
      obtain rfl : reaction = .calling call (job.ahead lead) := hends.reaction
      rw [Console.carryOn, if_pos (h.holding.trans hholding), h.backend]
      refine ⟨{ h with
        backend := rfl
        held := ?_
        gates := congrArg (· + 1) h.gates
        answersAtOnce := fun hsequential => ?_ }, rfl⟩
      · simp only [Console.hold, List.map_append, h.held, h.gates]
        rfl
      · rw [(h.answersAtOnce hsequential).1] at hholding
        cases hholding
  | case3 d call job answered d' hholding next =>
      rename_i rest ih
      obtain rfl : reaction = .calling call (job.ahead lead) := hends.reaction
      have hresume := h.session.resume
        (fun number hnumber => hends.awaits call job number rfl hnumber) answered.1
      rw [Console.carryOn, if_neg (h.holding ▸ hholding), h.backend]
      have hnext : Leads lead
          { c with
            backend := answered.2
            session := (c.session.resume answered.1 (job.ahead lead)).1 }
          { d' with session := next.1 } :=
        { h with session := hresume.session, backend := rfl }
      obtain ⟨hleads, hreport⟩ := ih hnext hresume
      exact ⟨hleads, congrArg (Report.afterCall call) hreport⟩

theorem act (h : c.Leads lead d) (action : Action) :
    (c.act action).1.Leads lead (d.act action).1 ∧ (c.act action).2 = (d.act action).2 := by
  have hstart := h.session.start d.backend.connected action
  have hnext : Leads lead
      { c with
        actions := d.actions + 1
        session := (c.session.start d.backend.connected action).1 }
      { d with
        actions := d.actions + 1
        session := (d.session.start d.backend.connected action).1 } :=
    { h with session := hstart.session, actions := rfl }
  simp only [Console.act, Console.countAction, h.connected, h.actions]
  exact hnext.carryOn hstart d.actions

theorem release (h : c.Leads lead d) (gate : Nat) :
    (c.release gate).1.Leads lead (d.release gate).1 ∧
      (c.release gate).2 = (d.release gate).2 := by
  have hfind : c.held.find? (fun call => call.gate == gate) =
      (d.held.find? (fun call => call.gate == gate)).map (HeldCall.ahead lead) := by
    rw [h.held, List.find?_map]
    rfl
  have hrest : c.held.filter (fun call => call.gate ≠ gate) =
      (d.held.filter (fun call => call.gate ≠ gate)).map (HeldCall.ahead lead) := by
    rw [h.held, List.filter_map]
    rfl
  unfold Console.release
  rw [hfind, hrest]
  cases hheld : d.held.find? (fun call => call.gate == gate) with
  | none => exact ⟨h, rfl⟩
  | some call =>
      -- Where every call is answered at once none is held.
      have hoverlaps : lead.sequential ≠ true := fun hsequential => by
        rw [(h.answersAtOnce hsequential).2] at hheld
        cases hheld
      have hresume : Session.EndsAhead lead (c.session.resume call.outcome (call.job.ahead lead))
          (d.session.resume call.outcome call.job) :=
        h.session.resume (fun number _ hsequential => absurd hsequential hoverlaps) call.outcome
      have hnext : Leads lead
          { c with
            session := (c.session.resume call.outcome (call.job.ahead lead)).1
            held := (d.held.filter (fun call => call.gate ≠ gate)).map (HeldCall.ahead lead) }
          { d with
            session := (d.session.resume call.outcome call.job).1
            held := d.held.filter (fun call => call.gate ≠ gate) } :=
        { h with
          session := hresume.session
          held := rfl
          answersAtOnce := fun hsequential => absurd hsequential hoverlaps }
      exact hnext.carryOn hresume call.action

/-- Every event is gone through ahead, and reported alike. -/
theorem handle (h : c.Leads lead d) {event : ConsoleEvent}
    (hevent : lead.sequential = true → event.AnswersAtOnce) :
    (c.handle event).1.Leads lead (d.handle event).1 ∧
      (c.handle event).2 = (d.handle event).2 := by
  cases event with
  | act action => exact h.act action
  | release gate => exact h.release gate
  | disconnect =>
      exact ⟨{ h with
        backend := congrArg (fun backend : Backend => { backend with store := none }) h.backend
        actions := congrArg (· + 1) h.actions },
        congrArg (Report.finishing · (.ok .nothing)) h.actions⟩
  | connect store failures =>
      exact ⟨{ h with
        backend := congrArg
          (fun backend : Backend => { backend with store := some store, failures := failures })
          h.backend
        actions := congrArg (· + 1) h.actions },
        congrArg (Report.finishing · (.ok .nothing)) h.actions⟩
  | setFailures failures =>
      exact ⟨{ h with
        backend := congrArg (fun backend : Backend => { backend with failures := failures })
          h.backend }, rfl⟩
  | setHolding on =>
      refine ⟨{ h with holding := rfl, answersAtOnce := fun hsequential => ?_ }, rfl⟩
      refine ⟨?_, (h.answersAtOnce hsequential).2⟩
      cases on with
      | false => rfl
      | true => exact absurd rfl (hevent hsequential)

/-- The console ahead shows the same along all events. -/
theorem transcript (h : c.Leads lead d) {events : List ConsoleEvent}
    (hevents : lead.sequential = true → ∀ event ∈ events, event.AnswersAtOnce) :
    c.transcript events = d.transcript events := by
  induction events generalizing c d with
  | nil => rfl
  | cons event rest ih =>
      obtain ⟨hleads, hreport⟩ := h.handle fun hsequential =>
        hevents hsequential event List.mem_cons_self
      have hrest := ih hleads fun hsequential later hlater =>
        hevents hsequential later (List.mem_cons_of_mem event hlater)
      rw [Console.transcript, Console.transcript, hreport, hleads.session.result,
        hleads.session.page, hrest]

end Leads

/-- A reset session goes on as one that was just opened with pages of the same size.  Whether it
drops stale responses matters only where answers are held back. -/
theorem transcript_reset {s : Session} (happlied : s.applied ≤ s.issued) (backend : Backend)
    {discardStale : Bool} {events : List ConsoleEvent}
    (hdiscards : s.discardStale = discardStale ∨ ∀ event ∈ events, event.AnswersAtOnce) :
    (Console.initial s.reset backend).transcript events =
      (Console.fresh s.pageSize discardStale backend).transcript events := by
  have hinitial {sequential : Bool} (hsame : sequential = false → s.discardStale = discardStale) :
      Leads ⟨s.issued, s.generation + 1, s.nextTicket, sequential⟩
        (.initial s.reset backend) (.fresh s.pageSize discardStale backend) :=
    ⟨Session.leads_reset happlied hsame, rfl, rfl, rfl, rfl, rfl, fun _ => ⟨rfl, rfl⟩⟩
  rcases hdiscards with hsame | honce
  · exact (hinitial (show false = false → _ from fun _ => hsame)).transcript nofun
  · exact (hinitial (show true = false → _ from nofun)).transcript fun _ => honce

/-- With every call answered at once, sessions that treat stale responses differently go on
alike. -/
theorem transcript_fresh (pageSize : Int) (discardStale drops : Bool) (backend : Backend)
    {events : List ConsoleEvent} (honce : ∀ event ∈ events, event.AnswersAtOnce) :
    (Console.fresh pageSize discardStale backend).transcript events =
      (Console.fresh pageSize drops backend).transcript events := by
  have happlied : (Session.initial pageSize discardStale).applied ≤
      (Session.initial pageSize discardStale).issued := Nat.le_refl 0
  exact (transcript_reset happlied backend (.inl rfl)).symm.trans
    (transcript_reset happlied backend (.inr honce))

end Console

end DocConsole
