import DocConsole.Proofs.Session.LastRun

/-!
# What a reset does not forget

A reset starts a new generation, so the pages asked for before it are dropped when they arrive; and
no display gets an earlier ticket again, so a row inserted before it goes nowhere.  But the answers
to changes still go to the history, and a run whose answer was out is still shown.  Main statement:
what the answer to a call that was made before a reset does afterwards.
-/

set_option autoImplicit false

namespace DocConsole

/-! ## Tickets -/

section

variable {s s' : Session} {entry : LogEntry} {reaction : Reaction}

/-- A display keeps its ticket, and a new one gets the next. -/
theorem Session.Took.tickets (h : s.Took entry s' reaction) : s.nextTicket ≤ s'.nextTicket ∧
    ∀ shown', s'.displayed = some shown' →
      (∃ shown, s.displayed = some shown ∧ shown'.ticket = shown.ticket) ∨
      (shown'.ticket = s.nextTicket ∧ s.nextTicket < s'.nextTicket) := by
  have hsame : ∀ shown', s.displayed = some shown' →
      ∃ shown, s.displayed = some shown ∧ shown'.ticket = shown.ticket :=
    fun shown' hshown' => ⟨shown', hshown', rfl⟩
  have hnew : ∀ {r : QueryResult} {shown' : Display},
      some (⟨s.nextTicket, r⟩ : Display) = some shown' → shown'.ticket = s.nextTicket := by
    rintro r shown' hshown'
    rw [← Option.some.inj hshown']
  cases h with
  | revises change =>
      refine ⟨Nat.le_refl _, fun shown' hshown' => Or.inl ?_⟩
      obtain ⟨shown, hshown, rfl⟩ := Option.map_eq_some_iff.mp hshown'
      exact ⟨shown, hshown, rfl⟩
  | runs => exact ⟨Nat.le_succ _, fun shown' h => Or.inr ⟨hnew h, Nat.lt_succ_self _⟩⟩
  | enters => exact ⟨Nat.le_succ _, fun shown' h => Or.inr ⟨hnew h, Nat.lt_succ_self _⟩⟩
  | fails => exact ⟨Nat.le_succ _, fun shown' h => Or.inr ⟨hnew h, Nat.lt_succ_self _⟩⟩
  | resets => exact ⟨Nat.le_refl _, fun shown' hshown' => by cases hshown'⟩
  | _ => exact ⟨Nat.le_refl _, fun shown' hshown' => Or.inl (hsame shown' hshown')⟩

/-- Generations follow each other. -/
theorem Session.Took.generation_le (h : s.Took entry s' reaction) :
    s.generation ≤ s'.generation := by
  cases h with
  | runs => exact Nat.le_succ _
  | resets => exact Nat.le_succ _
  | _ => exact Nat.le_refl _

end

/-! ## Jobs from before a reset -/

/-- A job from before a generation and a ticket: its page and its row come too late for them. -/
def Job.Outlived (generation ticket : Nat) : Job → Prop
  | .page _ generation' _ _ => generation' < generation
  | .insert ticket' _ _ => ticket' < ticket
  | _ => True

/-- A new job is one of the next generation and ticket at most. -/
theorem Session.Took.outlived {s s' : Session} {entry : LogEntry} {call : StoreCall} {job : Job}
    (h : s.Took entry s' (.calling call job))
    (htickets : ∀ shown, s.displayed = some shown → shown.ticket < s.nextTicket) :
    job.Outlived (s'.generation + 1) s'.nextTicket := by
  cases h with
  | asks hasks hnew =>
      cases hasks with
      | run hread => trivial
      | confirm hresult => trivial
      | page hactive hplans => exact Nat.lt_succ_self _
      | insert =>
          obtain ⟨-, shown, hshown, rfl⟩ := hnew
          exact htickets shown hshown
  | revises change hchanges hchange hreaction =>
      rcases hreaction with ⟨answer, hfinished, -⟩ | ⟨call', statement, hcalling⟩
      · cases hfinished
      · cases hcalling
        trivial

/-- A job that follows an answer is never too late. -/
theorem Session.Took.outlived_of_answered {s s' : Session} {job job' : Job} {outcome : Outcome}
    {call : StoreCall} (h : s.Took (.answered job outcome) s' (.calling call job'))
    (generation ticket : Nat) : job'.Outlived generation ticket := by
  cases h with
  | asks hasks hnew =>
      cases hasks with
      | confirm hresult => trivial
  | revises change hchanges hchange hreaction =>
      rcases hreaction with ⟨answer, hfinished, -⟩ | ⟨call', statement, hcalling⟩
      · cases hfinished
      · cases hcalling
        trivial

theorem Job.Outlived.mono {job : Job} {generation generation' ticket ticket' : Nat}
    (h : job.Outlived generation ticket) (hgeneration : generation ≤ generation')
    (hticket : ticket ≤ ticket') : job.Outlived generation' ticket' := by
  cases job with
  | page number own move command => exact Nat.lt_of_lt_of_le h hgeneration
  | insert own statement fields => exact Nat.lt_of_lt_of_le h hticket
  | _ => trivial

namespace Scene

/-- Tickets and generations are given out in order. -/
structure Ticketed (x : Scene) : Prop where
  displayed : ∀ shown, x.session.displayed = some shown → shown.ticket < x.session.nextTicket
  waiting : ∀ call ∈ x.waiting,
    call.job.Outlived (x.session.generation + 1) x.session.nextTicket

/-- What is known since a reset: of the actions before it, every page and every row comes too
late. -/
structure Forgets (actions generation ticket : Nat) (x : Scene) : Prop where
  actions_le : actions ≤ x.actions
  generation_le : generation ≤ x.session.generation
  ticket_le : ticket ≤ x.session.nextTicket
  displayed : ∀ shown, x.session.displayed = some shown → ticket ≤ shown.ticket
  waiting : ∀ call ∈ x.waiting, call.action < actions → call.job.Outlived generation ticket

variable {x y : Scene} {admitted : ConsoleEvent → Prop} {actions generation ticket : Nat}

theorem Ticketed.step (h : x.Ticketed) (hstep : Step admitted x y) : y.Ticketed := by
  cases hstep with
  | exchange => exact ⟨h.displayed, h.waiting⟩
  | @turn entry action rest count hopens =>
      have htook := x.session.took entry
      obtain ⟨hle, htickets⟩ := htook.tickets
      refine ⟨fun shown' hshown' => ?_, fun call hcall => ?_⟩
      · rcases htickets shown' hshown' with ⟨shown, hshown, hsame⟩ | ⟨hnext, hlt⟩
        · rw [hsame]
          exact Nat.lt_of_lt_of_le (h.displayed shown hshown) hle
        · rw [hnext]
          exact hlt
      · rcases hopens.mem_waiting_turn hcall with hold | ⟨-, storeCall, hreaction⟩
        · exact (h.waiting call hold).mono (Nat.succ_le_succ htook.generation_le) hle
        · rw [hreaction] at htook
          exact htook.outlived h.displayed

theorem Forgets.step (h : x.Forgets actions generation ticket) (hstep : Step admitted x y) :
    y.Forgets actions generation ticket := by
  cases hstep with
  | exchange _ hcount =>
      exact ⟨Nat.le_trans h.actions_le hcount, h.generation_le, h.ticket_le, h.displayed,
        h.waiting⟩
  | @turn entry action rest count hopens =>
      have htook := x.session.took entry
      obtain ⟨hle, htickets⟩ := htook.tickets
      refine ⟨?_, Nat.le_trans h.generation_le htook.generation_le,
        Nat.le_trans h.ticket_le hle, fun shown' hshown' => ?_, fun call hcall hbefore => ?_⟩
      · cases hopens with
        | begins => exact Nat.le_succ_of_le h.actions_le
        | answers => exact h.actions_le
      · rcases htickets shown' hshown' with ⟨shown, hshown, hsame⟩ | ⟨hnext, -⟩
        · rw [hsame]
          exact h.displayed shown hshown
        · rw [hnext]
          exact h.ticket_le
      · rcases hopens.mem_waiting_turn hcall with hold | ⟨haction, storeCall, hreaction⟩
        · exact h.waiting call hold hbefore
        · rw [hreaction] at htook
          -- An action that begins after the reset is none of those before it.
          cases hopens with
          | begins => exact absurd (haction ▸ hbefore) (Nat.not_lt.mpr h.actions_le)
          | answers => exact htook.outlived_of_answered generation ticket

end Scene

/-! ## Answers after a reset -/

/-- What the answer to a job from before a reset makes of a session. -/
inductive Session.Late (s : Session) (outcome : Outcome) : Job → Session → Prop
  /-- A page is dropped. -/
  | page {number generation : Nat} {move : PageMove} {command : Command} :
      Late s outcome (.page number generation move command) s
  /-- An edit goes to the history and nowhere else. -/
  | edit {statement : String} :
      Late s outcome (.edit statement) (s.record statement outcome.isOk)
  /-- So does an insertion: the result that its row was for is off display. -/
  | insert {ticket : Nat} {statement : String} {fields : Fields} :
      Late s outcome (.insert ticket statement fields) (s.record statement outcome.isOk)
  /-- A run that makes one more call waits for its answer. -/
  | waits {number : Nat} {statement : String} {command : Command} {call : StoreCall}
      {r : QueryResult} (hresult : command.resume outcome = .confirming call r) :
      Late s outcome (.run number statement command) s
  /-- A run that ends is shown, unless it is stale. -/
  | shows {job : Job} {response : QueryResponse} {statement : String} {command : Command}
      (hresponse : job.response? outcome = some response)
      (hstatement : response.statement = some statement)
      (hfresh : s.isStale response.number = false) :
      Late s outcome job
        (((s.record statement (!response.result.isError)).accept response.number).showRun
          statement (some command) response.result)
  /-- A stale run goes to the history alone. -/
  | drops {job : Job} {response : QueryResponse} {statement : String}
      (hresponse : job.response? outcome = some response)
      (hstatement : response.statement = some statement)
      (hstale : s.isStale response.number = true) :
      Late s outcome job (s.record statement (!response.result.isError))

namespace Session

variable {s : Session} {outcome : Outcome} {job : Job}

theorem late_finishRun {response : QueryResponse} {statement : String} {command : Command}
    (hresponse : job.response? outcome = some response)
    (hstatement : response.statement = some statement) :
    s.Late outcome job
      (s.finishRun response.number statement (some command) response.result).1 := by
  simp only [finishRun]
  split
  · rename_i hstale
    exact .drops hresponse hstatement hstale
  · rename_i hfresh
    exact .shows hresponse hstatement (Bool.not_eq_true _ ▸ hfresh)

/-- Only a run that is not stale changes what is shown. -/
theorem Late.sameView {s' : Session} (h : s.Late outcome job s')
    (hstale : ∀ response, job.response? outcome = some response →
      s.isStale response.number = true) : s.SameView s' := by
  cases h with
  | shows hresponse hstatement hfresh =>
      cases (hstale _ hresponse).symm.trans hfresh
  | _ => exact ⟨rfl, rfl, rfl, rfl⟩

theorem showNewRow_of_ticket_ne {ticket : Nat}
    (h : ∀ shown, s.displayed = some shown → shown.ticket ≠ ticket) (row : Fields) :
    s.showNewRow ticket row = s := by
  have hsame : s.displayed.map (fun shown => if shown.ticket = ticket then
      { shown with result := shown.result.withNewRow row } else shown) = s.displayed := by
    cases hdisplayed : s.displayed with
    | none => rfl
    | some shown => rw [Option.map_some, if_neg (h shown hdisplayed)]
  rw [showNewRow, hsame]

end Session

/-- The answer to a call whose page or row comes too late for the session. -/
theorem Console.Gated.late_release {c : Console} (h : c.Gated) {call : HeldCall} {ticket : Nat}
    (hcall : call ∈ c.held) (houtlived : call.job.Outlived c.session.generation ticket)
    (hticket : ∀ shown, c.session.displayed = some shown → ticket ≤ shown.ticket) :
    c.session.Late call.outcome call.job (c.handle (.release call.gate)).1.session := by
  obtain ⟨gate, action, job, outcome⟩ := call
  cases job with
  | page number generation move command =>
      rw [h.session_release hcall (Session.resume_of_older (Nat.ne_of_lt houtlived))]
      exact .page
  | edit statement =>
      cases outcome with
      | ok reply =>
          rw [h.session_release hcall rfl]
          exact .edit
      | error fault =>
          rw [h.session_release hcall rfl]
          exact .edit
  | insert own statement fields =>
      cases outcome with
      | ok reply =>
          rw [h.session_release hcall rfl, Session.showNewRow_of_ticket_ne]
          · exact .insert
          · intro shown hshown
            exact Nat.ne_of_gt (Nat.lt_of_lt_of_le houtlived (hticket shown hshown))
      | error fault =>
          rw [h.session_release hcall rfl]
          exact .insert
  | settled number statement command r =>
      have hresponse : Job.response? outcome (.settled number statement command r) =
          some ⟨number, some statement, r⟩ := rfl
      rw [h.session_release hcall (Session.finishRun_eq _ _ _ _ _)]
      exact Session.late_finishRun hresponse rfl
  | run number statement command =>
      cases hresult : command.resume outcome with
      | finished r =>
          have hresponse : Job.response? outcome (.run number statement command) =
              some ⟨number, some statement, r⟩ := by
            rw [Job.response?, hresult]
            rfl
          have hresume : c.session.resume outcome (.run number statement command) =
              c.session.finishRun number statement (some command) r := by
            rw [Session.resume, Session.resumeRun, hresult]
          rw [h.session_release hcall (hresume.trans (Session.finishRun_eq _ _ _ _ _))]
          exact Session.late_finishRun hresponse rfl
      | confirming storeCall r =>
          have hresponse : Job.response? outcome (.run number statement command) =
              some ⟨number, some statement, r⟩ := by
            rw [Job.response?, hresult]
            rfl
          have hresume : c.session.resume outcome (.run number statement command) =
              (c.session, .calling storeCall (.settled number statement command r)) := by
            rw [Session.resume, Session.resumeRun, hresult]
          simp only [Console.handle, Console.release, h.find?_eq_some hcall, hresume]
          -- The last call is made at once; without holding, its answer ends the run.
          rw [Console.carryOn]
          split
          · exact .waits hresult
          · change Session.Late _ _ _ (Console.carryOn _ _ (.finished _)).1.session
            rw [Console.carryOn_finished]
            exact Session.late_finishRun hresponse rfl

/-- A call that was made before a reset and is answered after it: the page of a move is dropped, an
edit or an insertion goes to the history alone, and so does a stale run; but any other run is shown
and made active. -/
theorem answer_after_reset (pageSize : Int) (discardStale : Bool) (backend : Backend)
    (events later : List ConsoleEvent) {call : HeldCall}
    (hcall : call ∈ ((((Console.fresh pageSize discardStale backend).after events).handle
      (.act .reset)).1.after later).held)
    (hbefore : call.action < ((Console.fresh pageSize discardStale backend).after events).actions) :
    let c := ((((Console.fresh pageSize discardStale backend).after events).handle
      (.act .reset)).1.after later)
    c.session.Late call.outcome call.job (c.handle (.release call.gate)).1.session ∧
      ((∀ response, call.job.response? call.outcome = some response →
          c.session.isStale response.number = true) →
        c.session.SameView (c.handle (.release call.gate)).1.session) := by
  have hgated := Console.gated_fresh pageSize discardStale backend
  have hstart : ((Console.fresh pageSize discardStale backend).scene []).Ticketed := by
    refine ⟨fun shown hshown => ?_, fun held hheld => ?_⟩
    · cases hshown
    · cases hheld
  obtain ⟨hsteps, hgated⟩ := hgated.steps_after (fun _ _ => trivial : ∀ event ∈ events, True) []
  have hticketed := hsteps.keeps Scene.Ticketed.step hstart
  generalize (Console.fresh pageSize discardStale backend).after events = x at *
  have hreset : (x.handle (.act .reset)).1 =
      { x with session := x.session.reset, actions := x.actions + 1 } := by
    change (Console.carryOn _ _ (.finished _)).1 = _
    rw [Console.carryOn_finished]
  have hforgets : ((x.handle (.act .reset)).1.scene []).Forgets x.actions
      (x.session.generation + 1) x.session.nextTicket := by
    rw [hreset]
    refine ⟨Nat.le_succ _, Nat.le_refl _, Nat.le_refl _, fun shown hshown => ?_,
      fun held hheld _ => hticketed.waiting held hheld⟩
    cases hshown
  obtain ⟨hsteps, hgated⟩ :=
    (hgated.handle (.act .reset)).steps_after (fun _ _ => trivial : ∀ event ∈ later, True) []
  have hlater := hsteps.keeps Scene.Forgets.step hforgets
  intro c
  have houtlived := hlater.waiting call.toWaiting (List.mem_map_of_mem hcall) hbefore
  have hlate := hgated.late_release hcall
    (houtlived.mono hlater.generation_le (Nat.le_refl _)) hlater.displayed
  exact ⟨hlate, hlate.sameView⟩

/-- Outcomes are compared by what they hold. -/
instance decidableEqOutcome : DecidableEq Outcome
  | .ok reply, .ok reply' => decidable_of_decidable_of_eq (Except.ok.injEq reply reply').symm
  | .error fault, .error fault' =>
      decidable_of_decidable_of_eq (Except.error.injEq fault fault').symm
  | .ok _, .error _ => isFalse nofun
  | .error _, .ok _ => isFalse nofun

deriving instance DecidableEq for HeldCall

/-- A listing whose answer is held back. -/
def heldListing : List ConsoleEvent :=
  [.setHolding true, .act (.run "SELECT * FROM items")]

/-- The call of that listing, of a collection with one document. -/
def heldListingCall : HeldCall :=
  ⟨0, 0, .run 1 "SELECT * FROM items" (.select "items" none),
    .ok (.page (.of [⟨"n1", [("n", .int 1)]⟩]))⟩

/-- A store with that document. -/
def oneItem : Backend :=
  ⟨some (.ofData [("items", [("n1", [("n", .int 1)])])]), [], .fresh⟩

theorem answer_after_reset_of_heldListing :
    let c := (((Console.fresh 50 true oneItem).after heldListing).handle (.act .reset)).1.after []
    heldListingCall ∈ c.held ∧
      heldListingCall.action < ((Console.fresh 50 true oneItem).after heldListing).actions ∧
      c.session.Late heldListingCall.outcome heldListingCall.job
        (c.handle (.release heldListingCall.gate)).1.session ∧
      ((∀ response, heldListingCall.job.response? heldListingCall.outcome = some response →
          c.session.isStale response.number = true) →
        c.session.SameView (c.handle (.release heldListingCall.gate)).1.session) :=
  have hcall : heldListingCall ∈ ((((Console.fresh 50 true oneItem).after heldListing).handle
      (.act .reset)).1.after []).held := by
    decide +kernel
  have hbefore : heldListingCall.action <
      ((Console.fresh 50 true oneItem).after heldListing).actions := by
    decide +kernel
  ⟨hcall, hbefore, answer_after_reset 50 true oneItem heldListing [] hcall hbefore⟩

/-- After the reset the session shows nothing, and the answer to the listing made before it, which
is not even stale, brings back a result, a statement and a history. -/
theorem listing_shown_after_reset :
    let c := (((Console.fresh 50 true oneItem).after heldListing).handle (.act .reset)).1
    let s := (c.handle (.release 0)).1.session
    (c.session.result = none ∧ c.session.activeStatement = none ∧ c.session.history = []) ∧
      heldListingCall ∈ c.held ∧
      s.result = some (Command.pageResult "items" (.of [⟨"n1", [("n", .int 1)]⟩])) ∧
      s.activeStatement = some "SELECT * FROM items" ∧
      s.history = History.record [] "SELECT * FROM items" true := by
  decide +kernel

end DocConsole
