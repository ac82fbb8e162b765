import DocConsole.Proofs.Session.Run
import Mathlib.Logic.Relation

/-!
# A console step by step

A console seen as a transition system: besides the session and the backend its state holds every
call whose answer is still out, held back or on its way, together with the action that made it.
One step is one turn of the session, or an exchange of the store.  What is said about the waiting
calls all together, such as that their numbers differ, is kept along these steps.  Main statement:
every row of events comes down to such steps.
-/

set_option autoImplicit false

namespace DocConsole

/-! ## Scenes -/

/-- A call whose answer is still out. -/
structure Waiting where
  /-- The number of the action that made it. -/
  action : Nat
  /-- How the action goes on. -/
  job : Job
  /-- The answer. -/
  outcome : Outcome

/-- A held call without its gate. -/
def HeldCall.toWaiting (call : HeldCall) : Waiting :=
  ⟨call.action, call.job, call.outcome⟩

/-- A console as its steps see it. -/
structure Scene where
  /-- The session. -/
  session : Session
  /-- The backend. -/
  backend : Backend
  /-- The calls whose answers are still out. -/
  waiting : List Waiting
  /-- How many actions were started. -/
  actions : Nat
  /-- What happened so far. -/
  log : List LogEntry

/-- The turn that an entry opens. -/
def LogEntry.turn (s : Session) : LogEntry → Session × Reaction
  | .began connected action => s.start connected action
  | .answered job outcome => s.resume outcome job
  | .called _ _ _ => (s, .finished (.ok .nothing))

/-- The call that a reaction leaves waiting. -/
def Reaction.waiting (action : Nat) (backend : Backend) : Reaction → List Waiting
  | .finished _ => []
  | .calling call job => [⟨action, job, (backend.perform call).1⟩]

namespace Scene

/-- A reaction of an action carried out in a scene. -/
def react (x : Scene) (action : Nat) (reaction : Reaction) : Scene :=
  { x with
    backend := reaction.backendAfter x.backend
    waiting := x.waiting ++ reaction.waiting action x.backend
    log := x.log ++ reaction.entries x.backend }

/-- The scene after a turn, with the calls that go on waiting and the count of actions. -/
def turn (x : Scene) (entry : LogEntry) (action : Nat) (rest : List Waiting) (count : Nat) :
    Scene :=
  Scene.react ⟨(entry.turn x.session).1, x.backend, rest, count, x.log ++ [entry]⟩ action
    (entry.turn x.session).2

/-- An entry opens a turn for an action: an admitted action begins, or the answer to one of the
waiting calls arrives.  The other calls go on waiting. -/
inductive Opens (admitted : ConsoleEvent → Prop) (x : Scene) :
    LogEntry → Nat → List Waiting → Nat → Prop
  /-- An action begins. -/
  | begins {action : Action} (hadmitted : admitted (.act action)) :
      Opens admitted x (.began x.backend.connected action) x.actions x.waiting (x.actions + 1)
  /-- An answer arrives. -/
  | answers {front back : List Waiting} {call : Waiting}
      (hwaiting : x.waiting = front ++ call :: back) :
      Opens admitted x (.answered call.job call.outcome) call.action (front ++ back) x.actions

/-- One step. -/
inductive Step (admitted : ConsoleEvent → Prop) : Scene → Scene → Prop
  /-- A turn of the session. -/
  | turn {x : Scene} {entry : LogEntry} {action : Nat} {rest : List Waiting} {count : Nat}
      (hopens : x.Opens admitted entry action rest count) :
      Step admitted x (x.turn entry action rest count)
  /-- An exchange of the store or its failures. -/
  | exchange {x : Scene} {event : ConsoleEvent} {count : Nat} (hadmitted : admitted event)
      (hcount : x.actions ≤ count) :
      Step admitted x { x with backend := event.exchange x.backend, actions := count }

/-- Any number of steps. -/
abbrev Steps (admitted : ConsoleEvent → Prop) : Scene → Scene → Prop :=
  Relation.ReflTransGen (Step admitted)

variable {admitted admitted' : ConsoleEvent → Prop} {x y : Scene}

theorem Step.mono (hadmitted : ∀ event, admitted event → admitted' event)
    (h : Step admitted x y) : Step admitted' x y := by
  cases h with
  | turn hopens =>
      cases hopens with
      | begins hbegins => exact .turn (.begins (hadmitted _ hbegins))
      | answers hwaiting => exact .turn (.answers hwaiting)
  | exchange hexchange hcount => exact .exchange (hadmitted _ hexchange) hcount

theorem Steps.mono (hadmitted : ∀ event, admitted event → admitted' event)
    (h : Steps admitted x y) : Steps admitted' x y :=
  Relation.ReflTransGen.mono (fun _ _ => Step.mono hadmitted) _ _ h

/-- What every step keeps is kept by any number of steps. -/
theorem Steps.keeps {P : Scene → Prop} (hstep : ∀ {x y}, P x → Step admitted x y → P y)
    (hsteps : Steps admitted x y) (hx : P x) : P y := by
  induction hsteps with
  | refl => exact hx
  | tail _ hlast ih => exact hstep ih hlast

end Scene

/-! ## Consoles -/

namespace Console

/-- The scene of a console after a log. -/
def scene (c : Console) (log : List LogEntry) : Scene where
  session := c.session
  backend := c.backend
  waiting := c.held.map HeldCall.toWaiting
  actions := c.actions
  log := log

/-- Every call is held at a gate of its own, and new gates are behind all of them. -/
structure Gated (c : Console) : Prop where
  pairwise : c.held.Pairwise (fun call later => call.gate ≠ later.gate)
  lt_gates : ∀ call ∈ c.held, call.gate < c.gates

theorem Gated.carryOn {c : Console} (h : c.Gated) (action : Nat) (reaction : Reaction) :
    (c.carryOn action reaction).1.Gated := by
  fun_induction Console.carryOn c action reaction with
  | case1 c answer => exact h
  | case2 c call job answered c' hholding =>
      refine ⟨List.pairwise_append.mpr ⟨h.pairwise, List.pairwise_singleton _ _, ?_⟩, ?_⟩
      · intro held hheld new hnew
        rw [List.mem_singleton.mp hnew]
        exact Nat.ne_of_lt (h.lt_gates held hheld)
      · intro held hheld
        rcases List.mem_append.mp hheld with hold | hnew
        · exact Nat.lt_succ_of_lt (h.lt_gates held hold)
        · rw [List.mem_singleton.mp hnew]
          exact Nat.lt_succ_self _
  | case3 c call job answered c' hholding next rest ih => exact ih ⟨h.pairwise, h.lt_gates⟩

theorem Gated.handle {c : Console} (h : c.Gated) (event : ConsoleEvent) :
    (c.handle event).1.Gated := by
  cases event with
  | act action =>
      have hbegun : Gated { c.countAction.2 with
          session := (c.session.start c.backend.connected action).1 } :=
        ⟨h.pairwise, h.lt_gates⟩
      exact hbegun.carryOn _ _
  | release gate =>
      simp only [Console.handle, Console.release]
      split
      · exact h
      · apply Gated.carryOn
        refine ⟨h.pairwise.sublist List.filter_sublist, ?_⟩
        intro held hheld
        exact h.lt_gates held (List.mem_filter.mp hheld).1
  | disconnect => exact ⟨h.pairwise, h.lt_gates⟩
  | connect store failures => exact ⟨h.pairwise, h.lt_gates⟩
  | setFailures failures => exact ⟨h.pairwise, h.lt_gates⟩
  | setHolding on => exact ⟨h.pairwise, h.lt_gates⟩

/-- A gate finds the call that is held there. -/
theorem Gated.find?_eq_some {c : Console} (h : c.Gated) {call : HeldCall} (hcall : call ∈ c.held) :
    c.held.find? (fun held => held.gate == call.gate) = some call := by
  obtain ⟨front, back, hheld⟩ := List.append_of_mem hcall
  have hpairwise := h.pairwise
  rw [hheld, List.pairwise_append] at hpairwise
  obtain ⟨-, -, hfront⟩ := hpairwise
  refine List.find?_eq_some_iff_append.mpr ⟨beq_self_eq_true _, front, back, hheld, ?_⟩
  intro held hmem
  rw [beq_eq_false_iff_ne.mpr (hfront held hmem call List.mem_cons_self)]
  rfl

/-- An answer that ends its action leaves the session of its turn. -/
theorem Gated.session_release {c : Console} (h : c.Gated) {call : HeldCall} (hcall : call ∈ c.held)
    {s' : Session} {answer : Except Fault Answer}
    (hresume : c.session.resume call.outcome call.job = (s', .finished answer)) :
    (c.handle (.release call.gate)).1.session = s' := by
  simp only [Console.handle, Console.release, h.find?_eq_some hcall, hresume, carryOn_finished]

/-- Releasing a gate takes exactly the call held there out of the row. -/
theorem Gated.exists_split {c : Console} (h : c.Gated) {gate : Nat} {call : HeldCall}
    (hfound : c.held.find? (fun held => held.gate == gate) = some call) :
    ∃ front back, c.held = front ++ call :: back ∧
      c.held.filter (fun held => held.gate ≠ gate) = front ++ back := by
  obtain ⟨hgate, front, back, hheld, -⟩ := List.find?_eq_some_iff_append.mp hfound
  have hcall : call.gate = gate := eq_of_beq hgate
  refine ⟨front, back, hheld, ?_⟩
  have hpairwise := h.pairwise
  rw [hheld, List.pairwise_append, List.pairwise_cons] at hpairwise
  obtain ⟨-, ⟨hback, -⟩, hfront⟩ := hpairwise
  have hkeepFront : front.filter (fun held => held.gate ≠ gate) = front := by
    apply List.filter_eq_self.mpr
    intro held hmem
    have hne := hfront held hmem call List.mem_cons_self
    rw [hcall] at hne
    exact decide_eq_true hne
  have hkeepBack : back.filter (fun held => held.gate ≠ gate) = back := by
    apply List.filter_eq_self.mpr
    intro held hmem
    have hne := hback held hmem
    rw [hcall] at hne
    exact decide_eq_true hne.symm
  rw [hheld, List.filter_append, List.filter_cons_of_neg (by simpa using hcall), hkeepFront,
    hkeepBack]

/-- A reaction carried on is a row of answers, each given to the call made last. -/
theorem steps_carryOn (c : Console) (action : Nat) (reaction : Reaction) (log : List LogEntry) :
    Scene.Steps (fun _ => False) ((c.scene log).react action reaction)
      ((c.carryOn action reaction).1.scene (log ++ c.reactionLog reaction)) := by
  fun_induction Console.carryOn c action reaction generalizing log with
  | case1 c answer =>
      rw [Console.reactionLog]
      simp only [Scene.react, Reaction.waiting, Reaction.entries, List.append_nil]
      exact .refl
  | case2 c call job answered c' hholding =>
      rw [Console.reactionLog, if_pos hholding]
      have hheld : (c'.hold action job answered.1).scene (log ++ [.called call job answered.1]) =
          (c.scene log).react action (.calling call job) := by
        simp only [Console.scene, Console.hold, List.map_append]
        rfl
      rw [hheld]
  | case3 c call job answered c' hholding next rest ih =>
      rw [Console.reactionLog, if_neg hholding]
      have hanswers : ((c.scene log).react action (.calling call job)).Opens (fun _ => False)
          (.answered job answered.1) action ((c.scene log).waiting ++ []) c.actions :=
        @Scene.Opens.answers _ _ (c.scene log).waiting [] ⟨action, job, answered.1⟩ rfl
      rw [List.append_nil] at hanswers
      have hrest := ih (log ++ [.called call job answered.1, .answered job answered.1])
      refine .head (.turn hanswers) ?_
      simpa [Scene.turn, Scene.react, Console.scene, LogEntry.turn, Reaction.entries,
        Reaction.backendAfter] using hrest

/-- An action is its first turn, and then a row of answers to the calls it makes. -/
theorem steps_act (c : Console) (action : Action) (log : List LogEntry) :
    Scene.Steps (fun _ => False)
      ((c.scene log).turn (.began c.backend.connected action) c.actions (c.scene log).waiting
        (c.actions + 1))
      ((c.handle (.act action)).1.scene (log ++ c.eventLog (.act action))) := by
  have hrest := steps_carryOn
    { c.countAction.2 with session := (c.session.start c.backend.connected action).1 }
    c.actions (c.session.start c.backend.connected action).2
    (log ++ [.began c.backend.connected action])
  rw [List.append_assoc] at hrest
  exact hrest

variable {admitted : ConsoleEvent → Prop}

/-- An admitted event comes down to steps. -/
theorem Gated.steps_handle {c : Console} (h : c.Gated) {event : ConsoleEvent}
    (hadmitted : admitted event) (log : List LogEntry) :
    Scene.Steps admitted (c.scene log)
      ((c.handle event).1.scene (log ++ c.eventLog event)) := by
  have hanswers : ∀ event, False → admitted event := fun _ hfalse => hfalse.elim
  have hexchanged : ∀ count, c.actions ≤ count → Scene.Steps admitted (c.scene log)
      { c.scene log with backend := event.exchange c.backend, actions := count } :=
    fun count hcount => .single (.exchange hadmitted hcount)
  cases event with
  | act action =>
      exact .head (.turn (.begins hadmitted)) ((c.steps_act action log).mono hanswers)
  | release gate =>
      simp only [Console.handle, Console.release, Console.eventLog]
      cases hfound : c.held.find? (fun call => call.gate == gate) with
      | none =>
          simp only [List.append_nil]
          exact .refl
      | some call =>
          obtain ⟨front, back, hheld, hfilter⟩ := h.exists_split hfound
          have hrest := steps_carryOn
            { c with
              session := (c.session.resume call.outcome call.job).1
              held := c.held.filter (fun held => held.gate ≠ gate) }
            call.action (c.session.resume call.outcome call.job).2
            (log ++ [.answered call.job call.outcome])
          rw [List.append_assoc] at hrest
          have hwaiting : (c.scene log).waiting =
              front.map HeldCall.toWaiting ++ call.toWaiting :: back.map HeldCall.toWaiting := by
            simp only [Console.scene, hheld, List.map_append, List.map_cons]
          refine .head (.turn (.answers hwaiting)) ?_
          rw [← List.map_append, ← hfilter]
          exact hrest.mono hanswers
  | disconnect =>
      simp only [Console.eventLog, List.append_nil]
      exact hexchanged _ (Nat.le_succ _)
  | connect store failures =>
      simp only [Console.eventLog, List.append_nil]
      exact hexchanged _ (Nat.le_succ _)
  | setFailures failures =>
      simp only [Console.eventLog, List.append_nil]
      exact hexchanged _ (Nat.le_refl _)
  | setHolding on =>
      simp only [Console.eventLog, List.append_nil]
      exact .refl

/-- A row of admitted events comes down to steps. -/
theorem Gated.steps_after {c : Console} (h : c.Gated) {events : List ConsoleEvent}
    (hevents : ∀ event ∈ events, admitted event) (log : List LogEntry) :
    Scene.Steps admitted (c.scene log) ((c.after events).scene (log ++ c.log events)) ∧
      (c.after events).Gated := by
  induction events generalizing c log with
  | nil =>
      rw [Console.log, List.append_nil]
      exact ⟨.refl, h⟩
  | cons event rest ih =>
      have hfirst := h.steps_handle (hevents event List.mem_cons_self) log
      obtain ⟨hrest, hgated⟩ := ih (h.handle event)
        (fun event' hevent' => hevents event' (List.mem_cons_of_mem _ hevent'))
        (log ++ c.eventLog event)
      rw [List.append_assoc] at hrest
      exact ⟨hfirst.trans hrest, hgated⟩

end Console

end DocConsole
