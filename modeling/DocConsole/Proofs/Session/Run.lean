import DocConsole.Session.Console

/-!
# Runs of a console

A console under any row of events, and the log of what happens inside it: actions begin, calls are
made, answers arrive.  What is known of the session, and of every call whose answer is still out,
is carried along such a run.  Main statement: knowledge that each single turn keeps holds after
every run, whatever the order in which answers arrive.
-/

set_option autoImplicit false

namespace DocConsole

/-! ## The log of a run -/

/-- One thing that happens inside a console. -/
inductive LogEntry where
  /-- An action begins; the truth value tells whether an open store is connected. -/
  | began (connected : Bool) (action : Action)
  /-- A call is made for a job; the store does the work at once, and the answer goes out. -/
  | called (call : StoreCall) (job : Job) (outcome : Outcome)
  /-- The answer that a job waits for arrives. -/
  | answered (job : Job) (outcome : Outcome)

namespace Reaction

/-- What a reaction adds to the log at once. -/
def entries (backend : Backend) : Reaction → List LogEntry
  | .finished _ => []
  | .calling call job => [.called call job (backend.perform call).1]

/-- The backend after a reaction. -/
def backendAfter (backend : Backend) : Reaction → Backend
  | .finished _ => backend
  | .calling call _ => (backend.perform call).2

end Reaction

/-- What an event that exchanges the store or its failures leaves of the backend. -/
def ConsoleEvent.exchange (backend : Backend) : ConsoleEvent → Backend
  | .disconnect => { backend with store := none }
  | .connect store failures => { backend with store := some store, failures := failures }
  | .setFailures failures => { backend with failures := failures }
  | _ => backend

namespace Console

/-- The entries of a reaction that is carried on until its action finishes or waits. -/
def reactionLog (c : Console) (reaction : Reaction) : List LogEntry :=
  match reaction with
  | .finished _ => []
  | .calling call job =>
      let answered := c.backend.perform call
      if c.holding then [.called call job answered.1]
      else
        let next := c.session.resume answered.1 job
        .called call job answered.1 :: .answered job answered.1 ::
          reactionLog { c with backend := answered.2, session := next.1 } next.2
termination_by reaction.callsLeft
decreasing_by
  exact Nat.lt_succ_of_le (Session.callsLeft_resume_le _ _ _)

/-- The entries of one event. -/
def eventLog (c : Console) : ConsoleEvent → List LogEntry
  | .act action =>
      let started := c.session.start c.backend.connected action
      .began c.backend.connected action ::
        reactionLog { c.countAction.2 with session := started.1 } started.2
  | .release gate =>
      match c.held.find? (fun call => call.gate == gate) with
      | none => []
      | some call =>
          let next := c.session.resume call.outcome call.job
          .answered call.job call.outcome ::
            reactionLog { c with
              session := next.1, held := c.held.filter (fun h => h.gate ≠ gate) } next.2
  | _ => []

/-- The console after a row of events. -/
def after (c : Console) (events : List ConsoleEvent) : Console :=
  events.foldl (fun c event => (c.handle event).1) c

/-- The entries of a row of events. -/
def log (c : Console) : List ConsoleEvent → List LogEntry
  | [] => []
  | event :: rest => c.eventLog event ++ log (c.handle event).1 rest

end Console

/-! ## Knowledge along a run

What is known of a console has to speak of the answers that are still out, since each of them will
be handed to a session that has moved on in between.  It is kept when every single turn keeps it,
together with what it says of the jobs that wait. -/

/-- What is known after a log: of the session and the backend, of each job whose answer is still out
together with that answer, and of what finished actions gave back. -/
structure Knowledge where
  /-- What holds now. -/
  now : List LogEntry → Session → Backend → Prop
  /-- What holds of a job that waits, and of the answer that will arrive. -/
  waits : List LogEntry → Session → Backend → Job → Outcome → Prop
  /-- What holds of everything that is given back. -/
  gives : Except Fault Answer → Prop

namespace Knowledge

/-- One turn of a session keeps the knowledge: a turn is the start of an action or the answer to a
job, and its reaction either ends the action or makes a call. -/
structure Passes (K : Knowledge) (log : List LogEntry) (s : Session) (backend : Backend)
    (entry : LogEntry) (next : Session × Reaction) : Prop where
  /-- It holds of the session after the turn. -/
  now : K.now (log ++ entry :: next.2.entries backend) next.1 (next.2.backendAfter backend)
  /-- It holds on of the jobs that were waiting. -/
  waits : ∀ job outcome, K.waits log s backend job outcome →
    K.waits (log ++ entry :: next.2.entries backend) next.1 (next.2.backendAfter backend)
      job outcome
  /-- It holds of the job that waits now. -/
  issued : ∀ call job, next.2 = .calling call job →
    K.waits (log ++ entry :: next.2.entries backend) next.1 (next.2.backendAfter backend)
      job (backend.perform call).1
  /-- It holds of what the action gives back. -/
  gives : ∀ answer, next.2 = .finished answer → K.gives answer

/-- Every turn of a run with admitted events keeps the knowledge. -/
structure Kept (K : Knowledge) (admitted : ConsoleEvent → Prop) : Prop where
  /-- The start of an action keeps it. -/
  start : ∀ log s backend action, admitted (.act action) → K.now log s backend →
    K.Passes log s backend (.began backend.connected action) (s.start backend.connected action)
  /-- The answer to a waiting job keeps it. -/
  resume : ∀ log s backend job outcome, K.now log s backend →
    K.waits log s backend job outcome →
    K.Passes log s backend (.answered job outcome) (s.resume outcome job)
  /-- An exchange of the store or its failures keeps it. -/
  exchange : ∀ log s backend event, admitted event → K.now log s backend →
    K.now log s (event.exchange backend) ∧
      ∀ job outcome, K.waits log s backend job outcome →
        K.waits log s (event.exchange backend) job outcome

/-- The knowledge holds of a console after a log. -/
def Holds (K : Knowledge) (log : List LogEntry) (c : Console) : Prop :=
  K.now log c.session c.backend ∧
    ∀ call ∈ c.held, K.waits log c.session c.backend call.job call.outcome

variable {K : Knowledge} {admitted : ConsoleEvent → Prop}

/-- A turn whose reaction is carried on keeps the knowledge to its end. -/
theorem Kept.carryOn (h : K.Kept admitted) (c : Console) (action : Nat) (reaction : Reaction)
    (log : List LogEntry) (s : Session) (entry : LogEntry)
    (hpasses : K.Passes log s c.backend entry (c.session, reaction))
    (hheld : ∀ call ∈ c.held, K.waits log s c.backend call.job call.outcome) :
    K.Holds (log ++ entry :: c.reactionLog reaction) (c.carryOn action reaction).1 ∧
      ∀ finished ∈ (c.carryOn action reaction).2.finished, K.gives finished.2 := by
  -- The turn before the reaction changes with every call, and so do the session and the log.
  fun_induction Console.carryOn c action reaction generalizing log s entry with
  | case1 c answer =>
      rw [Console.reactionLog]
      refine ⟨⟨hpasses.now, fun call hcall => hpasses.waits _ _ (hheld call hcall)⟩, ?_⟩
      intro finished hfinished
      rw [List.mem_singleton.mp hfinished]
      exact hpasses.gives answer rfl
  | case2 c call job answered c' hholding =>
      rw [Console.reactionLog, if_pos hholding]
      refine ⟨⟨hpasses.now, ?_⟩, by simp⟩
      intro held hmem
      rcases List.mem_append.mp hmem with hold | hnew
      · exact hpasses.waits _ _ (hheld held hold)
      · rw [List.mem_singleton.mp hnew]
        exact hpasses.issued call job rfl
  | case3 c call job answered c' hholding next rest ih =>
      have hresumed := h.resume _ _ _ job answered.1 hpasses.now (hpasses.issued call job rfl)
      have hcarried := ih _ _ _ hresumed
        (fun held hmem => hpasses.waits _ _ (hheld held hmem))
      rw [List.append_assoc] at hcarried
      rw [Console.reactionLog, if_neg hholding]
      exact hcarried

/-- One admitted event keeps the knowledge. -/
theorem Kept.handle (h : K.Kept admitted) {c : Console} {log : List LogEntry}
    {event : ConsoleEvent} (hevent : admitted event) (hholds : K.Holds log c) :
    K.Holds (log ++ c.eventLog event) (c.handle event).1 ∧
      ∀ finished ∈ (c.handle event).2.finished,
        K.gives finished.2 ∨ finished.2 = .ok .nothing := by
  obtain ⟨hnow, hwaits⟩ := hholds
  have hexchanged : K.Holds log { c with backend := event.exchange c.backend } := by
    obtain ⟨hnow', hwaits'⟩ := h.exchange log c.session c.backend event hevent hnow
    exact ⟨hnow', fun call hcall => hwaits' _ _ (hwaits call hcall)⟩
  have hsame : c.eventLog event = [] → log ++ c.eventLog event = log := by
    intro hnil
    rw [hnil, List.append_nil]
  cases event with
  | act action =>
      have hstart := h.start log c.session c.backend action hevent hnow
      obtain ⟨hcarried, hgives⟩ := h.carryOn
        { c.countAction.2 with session := (c.session.start c.backend.connected action).1 }
        c.countAction.1 _ log c.session _ hstart hwaits
      exact ⟨hcarried, fun finished hfinished => Or.inl (hgives finished hfinished)⟩
  | release gate =>
      simp only [Console.handle, Console.release, Console.eventLog]
      cases hfound : c.held.find? (fun call => call.gate == gate) with
      | none => exact ⟨by simpa using ⟨hnow, hwaits⟩, by simp [Report.empty]⟩
      | some call =>
          have hcall := List.mem_of_find?_eq_some hfound
          have hresumed := h.resume log _ _ _ _ hnow (hwaits call hcall)
          obtain ⟨hcarried, hgives⟩ := h.carryOn
            { c with
              session := (c.session.resume call.outcome call.job).1
              held := c.held.filter (fun h => h.gate ≠ gate) }
            call.action _ log c.session _ hresumed
            (fun held hmem => hwaits held ((List.mem_filter.mp hmem).1))
          exact ⟨hcarried, fun finished hfinished => Or.inl (hgives finished hfinished)⟩
  | disconnect =>
      refine ⟨by rwa [hsame rfl], ?_⟩
      intro finished hfinished
      rw [List.mem_singleton.mp hfinished]
      exact Or.inr rfl
  | connect store failures =>
      refine ⟨by rwa [hsame rfl], ?_⟩
      intro finished hfinished
      rw [List.mem_singleton.mp hfinished]
      exact Or.inr rfl
  | setFailures failures => exact ⟨by rwa [hsame rfl], by simp [Console.handle, Report.empty]⟩
  | setHolding on => exact ⟨by rwa [hsame rfl], by simp [Console.handle, Report.empty]⟩

/-- What every turn keeps holds after every run. -/
theorem Kept.after (h : K.Kept admitted) {c : Console} {log : List LogEntry}
    (events : List ConsoleEvent) (hevents : ∀ event ∈ events, admitted event)
    (hholds : K.Holds log c) : K.Holds (log ++ c.log events) (c.after events) := by
  induction events generalizing c log with
  | nil =>
      rw [Console.log, List.append_nil]
      exact hholds
  | cons event rest ih =>
      have hfirst := (h.handle (hevents event List.mem_cons_self) hholds).1
      have hrest := ih (fun event' hevent' => hevents event' (List.mem_cons_of_mem _ hevent'))
        hfirst
      rw [List.append_assoc] at hrest
      exact hrest

end Knowledge

end DocConsole
