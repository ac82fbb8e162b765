import DocConsole.Session.Basic
import DocConsole.Store.Call

/-!
# The console

A session together with the store it works on.  The answers of store calls can be held back: a
call does its work when it is made, but the action that made it waits at a gate, numbered in the
order of the calls, until that gate is released.  Actions can so overlap and be answered in any
order.  Each event gives a report of the actions that finished and the calls that were made.
-/

set_option autoImplicit false

namespace DocConsole

/-- A call whose answer is held back. -/
structure HeldCall where
  /-- The number of its gate. -/
  gate : Nat
  /-- The number of the action that waits for it. -/
  action : Nat
  /-- How the action goes on. -/
  job : Job
  /-- The answer. -/
  outcome : Outcome

/-- A session, its store, and the calls whose answers are held back. -/
structure Console where
  /-- The session. -/
  session : Session
  /-- The store with its failures and ids. -/
  backend : Backend
  /-- Whether answers are held back from now on. -/
  holding : Bool
  /-- The answers held back, in the order of their calls. -/
  held : List HeldCall
  /-- How many gates were opened. -/
  gates : Nat
  /-- How many actions were started. -/
  actions : Nat

/-- What can happen to a console. -/
inductive ConsoleEvent where
  /-- An action is started. -/
  | act (action : Action)
  /-- The store is closed and taken out, as an action. -/
  | disconnect
  /-- Another store with its failing calls is put in the place of the current one, as an action. -/
  | connect (store : Store) (failures : List (String × String))
  /-- The failing calls are exchanged. -/
  | setFailures (failures : List (String × String))
  /-- Holding answers back is switched on or off. -/
  | setHolding (on : Bool)
  /-- The answer behind a gate is let through. -/
  | release (gate : Nat)

/-- What came of an event. -/
structure Report where
  /-- The numbers of the actions that finished, with what they gave back. -/
  finished : List (Nat × Except Fault Answer)
  /-- The store calls that were made. -/
  calls : List StoreCall

namespace Report

/-- Nothing came of it. -/
def empty : Report :=
  ⟨[], []⟩

/-- One action finished. -/
def finishing (action : Nat) (answer : Except Fault Answer) : Report :=
  ⟨[(action, answer)], []⟩

/-- A report with a call made before everything else. -/
def afterCall (call : StoreCall) (report : Report) : Report :=
  { report with calls := call :: report.calls }

end Report

namespace Console

/-- A console for a session and a store. -/
def initial (session : Session) (backend : Backend) : Console where
  session := session
  backend := backend
  holding := false
  held := []
  gates := 0
  actions := 0

/-- A call put behind the next gate. -/
def hold (c : Console) (action : Nat) (job : Job) (outcome : Outcome) : Console :=
  { c with held := c.held ++ [⟨c.gates, action, job, outcome⟩], gates := c.gates + 1 }

/-- A reaction carried on until its action finishes or waits at a gate. -/
def carryOn (c : Console) (action : Nat) (reaction : Reaction) : Console × Report :=
  match reaction with
  | .finished answer => (c, .finishing action answer)
  | .calling call job =>
      let answered := c.backend.perform call
      let c' := { c with backend := answered.2 }
      if c.holding then (c'.hold action job answered.1, ⟨[], [call]⟩)
      else
        let next := c.session.resume answered.1 job
        let rest := carryOn { c' with session := next.1 } action next.2
        (rest.1, rest.2.afterCall call)
termination_by reaction.callsLeft
decreasing_by
  exact Nat.lt_succ_of_le (Session.callsLeft_resume_le _ _ _)

/-- The number of a new action, and the console that has counted it. -/
def countAction (c : Console) : Nat × Console :=
  (c.actions, { c with actions := c.actions + 1 })

/-- An action started. -/
def act (c : Console) (action : Action) : Console × Report :=
  let (number, c) := c.countAction
  let (session, reaction) := c.session.start c.backend.connected action
  carryOn { c with session := session } number reaction

/-- An action of the connection alone, which finishes at once. -/
def reconnect (c : Console) (backend : Backend) : Console × Report :=
  let (number, c) := c.countAction
  ({ c with backend := backend }, .finishing number (.ok .nothing))

/-- The answer behind a gate let through; nothing happens at a gate where none is held. -/
def release (c : Console) (gate : Nat) : Console × Report :=
  match c.held.find? (fun call => call.gate == gate) with
  | none => (c, .empty)
  | some call =>
      let (session, reaction) := c.session.resume call.outcome call.job
      carryOn { c with session := session, held := c.held.filter (fun h => h.gate ≠ gate) }
        call.action reaction

/-- What an event does to the console. -/
def handle (c : Console) : ConsoleEvent → Console × Report
  | .act action => c.act action
  | .disconnect => c.reconnect { c.backend with store := none }
  | .connect store failures =>
      c.reconnect { c.backend with store := some store, failures := failures }
  | .setFailures failures =>
      ({ c with backend := { c.backend with failures := failures } }, .empty)
  | .setHolding on => ({ c with holding := on }, .empty)
  | .release gate => c.release gate

theorem carryOn_finished (c : Console) (action : Nat) (answer : Except Fault Answer) :
    c.carryOn action (.finished answer) = (c, .finishing action answer) := by
  rw [carryOn]

end Console

end DocConsole
