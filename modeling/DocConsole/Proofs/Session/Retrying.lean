import DocConsole.Proofs.Edit.Changes
import DocConsole.Proofs.Session.Browsing
import DocConsole.Proofs.Session.Newest
import DocConsole.Proofs.Session.OneQuery

/-!
# A page asked for again

A page that cannot be fetched leaves the query and the cursor stack alone, but puts its failure on
display.  The way back is planned from the stack, so it can be taken again as if nothing had
happened.  The way on is planned from the display, and a failure reports no cursor: there is no way
on from it, although the page before it was not the last one.  Main statement: after any number of
failures the previous page is still the one that would have been shown at once, and the next page
only where there was none to fetch.
-/

set_option autoImplicit false

namespace DocConsole

/-! ## The ways through the pages -/

/-- The two ways through the pages. -/
inductive Direction where
  /-- To the page after the current one. -/
  | forth
  /-- To the page before the current one. -/
  | back
  deriving DecidableEq

/-- The action that goes in a direction. -/
def Direction.action : Direction → Action
  | .forth => .nextPage
  | .back => .previousPage

namespace Session

variable {s s' : Session} {direction : Direction} {move : PageMove} {r : QueryResult}

/-- The move that is planned in a direction: on from what the display reports, and back by the
stack alone. -/
def planned (s : Session) : Direction → Except Fault (Option PageMove)
  | .forth =>
      match s.displayed with
      | some shown => s.cursors.planAdvance shown.result.pageCursor
      | none => .ok none
  | .back => s.cursors.planRetreat

/-- A way through the active listing starts as it is planned. -/
theorem start_of_planned {command : Command} {plan : Option PageMove}
    (hactive : s.activeCommand = some command) (hplan : s.planned direction = .ok plan)
    (connected : Bool) :
    s.start connected direction.action =
      plan.elim (s, s.current) (s.fetchPage connected command) := by
  cases direction with
  | forth =>
      cases hshown : s.displayed with
      | none =>
          simp only [planned, hshown] at hplan
          obtain rfl := Except.ok.inj hplan
          simp only [Direction.action, start, startNext, hshown, Option.elim]
      | some shown =>
          simp only [planned, hshown] at hplan
          cases plan with
          | none =>
              simp only [Direction.action, start, startNext, hshown, hactive, hplan, Option.elim]
          | some move =>
              simp only [Direction.action, start, startNext, hshown, hactive, hplan, Option.elim]
  | back =>
      simp only [planned] at hplan
      cases plan with
      | none => simp only [Direction.action, start, startPrevious, hactive, hplan, Option.elim]
      | some move => simp only [Direction.action, start, startPrevious, hactive, hplan, Option.elim]

/-- The way on leads to the page behind the current one. -/
theorem page_of_planned_forth (hplan : s.planned .forth = .ok (some move)) :
    move.page = s.page + 1 := by
  simp only [planned] at hplan
  split at hplan
  · exact CursorStack.page_of_planAdvance hplan
  · cases hplan

/-- There is no way on just where the display reports no cursor. -/
theorem planned_forth_eq_none_iff (hresult : s.result = some r) :
    s.planned .forth = .ok none ↔ r.pageCursor = none := by
  obtain ⟨shown, hshown, rfl⟩ := Option.map_eq_some_iff.mp hresult
  simp only [planned, hshown]
  exact CursorStack.planAdvance_eq_none_iff

/-- A sound stack always has a plan, and admits it. -/
theorem exists_planned (hsound : s.cursors.Sound) (direction : Direction) :
    ∃ plan, s.planned direction = .ok plan ∧ ∀ move, plan = some move → s.cursors.Admits move := by
  cases direction with
  | forth =>
      simp only [planned]
      split
      · rename_i shown hshown
        obtain ⟨plan, hplan, -⟩ := hsound.planAdvance shown.result.pageCursor
        refine ⟨plan, hplan, fun move hmove => ?_⟩
        exact hsound.admits_planned (Or.inr ⟨_, hmove ▸ hplan⟩)
      · exact ⟨none, rfl, fun move hmove => by cases hmove⟩
  | back =>
      obtain ⟨plan, hplan, hrecords⟩ := hsound.planRetreat
      exact ⟨plan, hplan, fun move hmove => hsound.admits_of_records (hrecords move hmove)⟩

/-! ## A page that arrives at once -/

/-- A session after the answer to a move that was asked for last. -/
def arrived (s : Session) (move : PageMove) (r : QueryResult) : Session :=
  (({ s with issued := s.issued + 1 }.accept (s.issued + 1)).showPage move r).1

theorem exists_answer_showPage (s : Session) (move : PageMove) (r : QueryResult) :
    ∃ answer, s.showPage move r = ((s.showPage move r).1, .finished answer) := by
  unfold showPage
  split
  · split
    · exact ⟨_, rfl⟩
    · exact ⟨_, rfl⟩
  · exact ⟨_, rfl⟩

/-- The answer to the latest request is neither late nor stale. -/
theorem resume_of_latest (happlied : s.applied ≤ s.issued) (command : Command)
    (outcome : Outcome) :
    ∃ answer, Session.resume { s with issued := s.issued + 1 } outcome
        (.page (s.issued + 1) s.generation move command) =
      (s.arrived move (command.resume outcome).result, .finished answer) := by
  have hfresh : Session.isStale { s with issued := s.issued + 1 } (s.issued + 1) = false := by
    rw [isStale, Bool.and_eq_false_iff]
    exact Or.inr (decide_eq_false (Nat.not_lt.mpr (Nat.le_succ_of_le happlied)))
  have happlies : ¬ (decide (s.generation ≠ s.generation) ||
      Session.isStale { s with issued := s.issued + 1 } (s.issued + 1)) = true := by
    simp [hfresh]
  rw [resume, resumePage_eq, finishPage, if_neg happlies]
  exact exists_answer_showPage _ _ _

/-- Two sessions are at the same place of the same query; what they show may differ. -/
structure SamePlace (s s' : Session) : Prop where
  pageSize : s'.pageSize = s.pageSize
  cursors : s'.cursors = s.cursors
  activeCommand : s'.activeCommand = s.activeCommand
  columns : s'.columns = s.columns

theorem SamePlace.refl (s : Session) : s.SamePlace s :=
  ⟨rfl, rfl, rfl, rfl⟩

theorem SamePlace.trans {s'' : Session} (h : s.SamePlace s') (h' : s'.SamePlace s'') :
    s.SamePlace s'' :=
  ⟨h'.pageSize.trans h.pageSize, h'.cursors.trans h.cursors,
    h'.activeCommand.trans h.activeCommand, h'.columns.trans h.columns⟩

/-- Two sessions show the same result on the same page of the same stack. -/
structure SamePage (s s' : Session) : Prop where
  cursors : s'.cursors = s.cursors
  result : s'.result = s.result

/-- A page that arrives does not depend on what was shown before. -/
theorem SamePlace.arrived (h : s.SamePlace s') (move : PageMove) (r : QueryResult)
    (hresult : r.type = .read → ∃ cursors, s.cursors.commit move = .ok cursors) :
    (s.arrived move r).SamePage (s'.arrived move r) := by
  unfold Session.arrived Session.showPage
  by_cases hread : r.type = .read
  · obtain ⟨cursors, hcommit⟩ := hresult hread
    have hcommit' : s'.cursors.commit move = .ok cursors := h.cursors ▸ hcommit
    simp only [if_pos hread, accept, hcommit, hcommit', h.columns]
    exact ⟨rfl, rfl⟩
  · simp only [if_neg hread, accept]
    exact ⟨h.cursors, rfl⟩

/-- A failure is put on display, and nothing else changes. -/
theorem samePlace_arrived_errorResult (s : Session) (move : PageMove) (message : String) :
    s.SamePlace (s.arrived move (errorResult message)) ∧
      (s.arrived move (errorResult message)).result = some (errorResult message) :=
  ⟨⟨rfl, rfl, rfl, rfl⟩, rfl⟩

theorem page_arrived {cursors : CursorStack} (hread : r.type = .read)
    (hcommit : s.cursors.commit move = .ok cursors) :
    (s.arrived move r).cursors.page = move.page := by
  simp only [Session.arrived, showPage, accept, if_pos hread, hcommit]
  exact CursorStack.commit_page hcommit

theorem applied_arrived_le (happlied : s.applied ≤ s.issued) :
    (s.arrived move r).applied ≤ (s.arrived move r).issued := by
  have hle : max s.applied (s.issued + 1) ≤ s.issued + 1 :=
    Nat.max_le.mpr ⟨Nat.le_succ_of_le happlied, Nat.le_refl _⟩
  unfold Session.arrived showPage
  split
  · split
    · exact hle
    · exact hle
  · exact hle

end Session

/-! ## One way taken -/

namespace Console

/-- A console that pages through a listing: answers come at once, a store is connected, and the
stack is sound. -/
structure Pages (c : Console) (collection : String) (filter : Option Filter) : Prop where
  open_ : c.holding = false
  connected : c.backend.connected = true
  active : c.session.activeCommand = some (.select collection filter)
  sound : c.session.cursors.Sound
  applied_le : c.session.applied ≤ c.session.issued

/-- The result that a move brings. -/
def brought (c : Console) (collection : String) (filter : Option Filter) (move : PageMove) :
    QueryResult :=
  ((Command.select collection filter).resume
    (c.backend.perform (.list collection filter move.cursor c.session.pageSize)).1).result

namespace Pages

variable {c c' : Console} {collection : String} {filter : Option Filter} {direction : Direction}
  {move : PageMove} {message : String}

theorem act_of_planned (h : c.Pages collection filter)
    (hplan : c.session.planned direction = .ok (some move)) :
    (c.act direction.action).1 =
      { c with
        session := c.session.arrived move (c.brought collection filter move)
        actions := c.actions + 1 } := by
  have hstart : c.session.start true direction.action =
      c.session.fetchPage true (.select collection filter) move :=
    Session.start_of_planned h.active hplan true
  obtain ⟨answer, hresume⟩ := Session.resume_of_latest h.applied_le (.select collection filter)
    (c.backend.perform (.list collection filter move.cursor c.session.pageSize)).1
  have hbackend : (c.backend.perform
      (.list collection filter move.cursor c.session.pageSize)).2 = c.backend :=
    c.backend.perform_list collection filter move.cursor c.session.pageSize
  rw [act_of_answered h.open_ h.connected hstart hresume]
  exact congrArg (fun backend => Console.mk _ backend _ _ _ _) hbackend

/-- Where no move is planned, nothing happens. -/
theorem act_of_unplanned (h : c.Pages collection filter)
    (hplan : c.session.planned direction = .ok none) :
    (c.act direction.action).1 = { c with actions := c.actions + 1 } := by
  have hstart : c.session.start true direction.action = (c.session, c.session.current) :=
    Session.start_of_planned h.active hplan true
  rw [act_of_finished h.connected hstart]
  rfl

/-- At the same place with the same store, the same move brings the same page. -/
theorem samePage (h : c.Pages collection filter) (h' : c'.Pages collection filter)
    (hplace : c.session.SamePlace c'.session) (hbackend : c'.backend = c.backend)
    (hplan : c.session.planned direction = .ok (some move))
    (hplan' : c'.session.planned direction = .ok (some move)) :
    (c.act direction.action).1.session.SamePage (c'.act direction.action).1.session := by
  obtain ⟨plan, hplanned, hadmits⟩ := Session.exists_planned h.sound direction
  obtain rfl : plan = some move := Except.ok.inj (hplanned.symm.trans hplan)
  obtain ⟨cursors, hcommit, -⟩ := h.sound.commit (hadmits move rfl)
  have hsame : c'.brought collection filter move = c.brought collection filter move := by
    rw [brought, brought, hbackend, hplace.pageSize]
  rw [h.act_of_planned hplan, h'.act_of_planned hplan', hsame]
  exact hplace.arrived move _ fun _ => ⟨cursors, hcommit⟩

/-- A console goes on paging from the same place. -/
theorem moved (h : c.Pages collection filter) {s : Session} (hplace : c.session.SamePlace s)
    (happlied : s.applied ≤ s.issued) (actions : Nat) :
    { c with session := s, actions := actions }.Pages collection filter :=
  ⟨h.open_, h.connected, hplace.activeCommand.trans h.active, hplace.cursors ▸ h.sound, happlied⟩

theorem exchanged (h : c.Pages collection filter) (failures : List (String × String)) :
    { c with backend := { c.backend with failures := failures } }.Pages collection filter :=
  ⟨h.open_, h.connected, h.active, h.sound, h.applied_le⟩

/-! ## Failures -/

/-- A failure that a move brings is put on display at the same place. -/
theorem act_of_failure (h : c.Pages collection filter)
    (hfailure : c.backend.failures.lookup "list" = some message)
    (hplan : c.session.planned direction = .ok (some move)) :
    (c.act direction.action).1 =
      { c with
        session := c.session.arrived move (errorResult message)
        actions := c.actions + 1 } := by
  have hcall : c.backend.perform (.list collection filter move.cursor c.session.pageSize) =
      (.error (.storeFailure message), c.backend) := Backend.perform_of_failure hfailure
  have hbrought : c.brought collection filter move = errorResult message := by
    rw [brought, hcall]
    rfl
  rw [h.act_of_planned hplan, hbrought]

/-- One attempt that fails leaves everything at its place, and everything as it is where there was
nothing to attempt. -/
theorem attempt (h : c.Pages collection filter)
    (hfailure : c.backend.failures.lookup "list" = some message) (direction : Direction) :
    (c.act direction.action).1.Pages collection filter ∧
      c.session.SamePlace (c.act direction.action).1.session ∧
      (c.act direction.action).1.backend = c.backend ∧
      (c.session.planned direction = .ok none →
        (c.act direction.action).1.session = c.session) := by
  obtain ⟨plan, hplan, -⟩ := Session.exists_planned h.sound direction
  cases plan with
  | none =>
      rw [h.act_of_unplanned hplan]
      exact ⟨h.moved (.refl _) h.applied_le _, .refl _, rfl, fun _ => rfl⟩
  | some move =>
      have hplace := (c.session.samePlace_arrived_errorResult move message).1
      rw [h.act_of_failure hfailure hplan]
      refine ⟨h.moved hplace (Session.applied_arrived_le h.applied_le) _, hplace, rfl,
        fun hnone => ?_⟩
      cases hplan.symm.trans hnone

end Pages

end Console

/-- Attempts to go in a direction, each with the calls that are made to fail then. -/
def Direction.attempts (direction : Direction) (outages : List (List (String × String))) :
    List ConsoleEvent :=
  outages.flatMap fun failures => [.setFailures failures, .act direction.action]

/-- In each of some outages the listing of documents fails. -/
def ListingFails (outages : List (List (String × String))) : Prop :=
  ∀ failures ∈ outages, ∃ message, failures.lookup "list" = some message

namespace Console

variable {c : Console} {collection : String} {filter : Option Filter} {direction : Direction}
  {message : String} {outages : List (List (String × String))}

/-- Any number of attempts that fail leaves everything at its place, and everything as it is where
there was nothing to attempt. -/
theorem Pages.attempts (h : c.Pages collection filter) (houtages : ListingFails outages)
    (direction : Direction) :
    (c.after (direction.attempts outages)).Pages collection filter ∧
      c.session.SamePlace (c.after (direction.attempts outages)).session ∧
      (∃ failures, (c.after (direction.attempts outages)).backend =
        { c.backend with failures := failures }) ∧
      (c.session.planned direction = .ok none →
        (c.after (direction.attempts outages)).session = c.session) := by
  induction outages generalizing c with
  | nil => exact ⟨h, .refl _, ⟨_, rfl⟩, fun _ => rfl⟩
  | cons failures rest ih =>
      obtain ⟨⟨message, hfailure⟩, hrest⟩ := List.forall_mem_cons.mp houtages
      obtain ⟨hpages, hplace, hbackend, hidle⟩ :=
        (h.exchanged failures).attempt hfailure direction
      obtain ⟨hpages', hplace', ⟨failures', hbackend'⟩, hidle'⟩ := ih hpages hrest
      rw [hbackend] at hbackend'
      refine ⟨hpages', hplace.trans hplace', ⟨failures', hbackend'⟩, fun hnone => ?_⟩
      have hsame := hidle hnone
      exact (hidle' (by rw [hsame]; exact hnone)).trans hsame

/-- A direction taken again after outages, with the store as it was before them. -/
def retrying (c : Console) (direction : Direction)
    (outages : List (List (String × String))) : Console :=
  c.after (direction.attempts outages ++
    [.setFailures c.backend.failures, .act direction.action])

/-- The last attempt is made with the store as it was. -/
theorem Pages.exists_restored (h : c.Pages collection filter) (houtages : ListingFails outages)
    (direction : Direction) :
    ∃ c' : Console, c'.Pages collection filter ∧ c.session.SamePlace c'.session ∧
      c'.backend = c.backend ∧ c'.session = (c.after (direction.attempts outages)).session ∧
      c.retrying direction outages = (c'.act direction.action).1 := by
  obtain ⟨hpages, hplace, ⟨failures, hbackend⟩, -⟩ := h.attempts houtages direction
  refine ⟨_, hpages.exchanged c.backend.failures, hplace, ?_, rfl, ?_⟩
  · simp only [hbackend]
  · rw [retrying, after, List.foldl_append]
    rfl

/-- Where there was nothing to attempt, nothing happens in the end. -/
theorem Pages.retrying_of_unplanned (h : c.Pages collection filter)
    (houtages : ListingFails outages) (hplan : c.session.planned direction = .ok none) :
    (c.retrying direction outages).session = c.session := by
  obtain ⟨-, -, -, hidle⟩ := h.attempts houtages direction
  obtain ⟨c', hpages, -, -, hsession, hlast⟩ := h.exists_restored houtages direction
  have hsame : c'.session = c.session := hsession.trans (hidle hplan)
  rw [hlast, hpages.act_of_unplanned (hsame ▸ hplan)]
  exact hsame

/-- What is planned anew after the outages is reached as if there had been none. -/
theorem Pages.samePage_retrying (h : c.Pages collection filter) (direction : Direction)
    (houtages : ListingFails outages)
    (hplan : (c.after (direction.attempts outages)).session.planned direction =
      c.session.planned direction) :
    (c.after [.act direction.action]).session.SamePage (c.retrying direction outages).session := by
  obtain ⟨plan, hplanned, -⟩ := Session.exists_planned h.sound direction
  cases plan with
  | none =>
      have hdirect : (c.act direction.action).1.session = c.session := by
        rw [h.act_of_unplanned hplanned]
      rw [h.retrying_of_unplanned houtages hplanned]
      exact ⟨congrArg Session.cursors hdirect.symm, congrArg Session.result hdirect.symm⟩
  | some move =>
      obtain ⟨c', hpages, hplace, hbackend, hsession, hlast⟩ :=
        h.exists_restored houtages direction
      rw [hlast]
      refine h.samePage hpages hplace hbackend hplanned ?_
      rw [hsession, hplan, hplanned]

/-- After an outage there is no way on: the failure stays on display. -/
theorem Pages.retrying_forth (h : c.Pages collection filter)
    {failures : List (String × String)} {rest : List (List (String × String))}
    (hfailure : failures.lookup "list" = some message) (hrest : ListingFails rest)
    {move : PageMove} (hplan : c.session.planned .forth = .ok (some move)) :
    (c.retrying .forth (failures :: rest)).session =
      c.session.arrived move (errorResult message) := by
  have houtages : ListingFails (failures :: rest) :=
    List.forall_mem_cons.mpr ⟨⟨message, hfailure⟩, hrest⟩
  let shown := (act { c with backend := { c.backend with failures := failures } }
    Direction.forth.action).1
  have hshown : shown.session = c.session.arrived move (errorResult message) :=
    congrArg Console.session ((h.exchanged failures).act_of_failure hfailure hplan)
  have hnone : shown.session.planned .forth = .ok none := by
    rw [hshown]
    rfl
  have hpages : shown.Pages collection filter :=
    ((h.exchanged failures).attempt hfailure .forth).1
  have hafter : (c.after (Direction.forth.attempts (failures :: rest))).session = shown.session :=
    (hpages.attempts hrest .forth).2.2.2 hnone
  obtain ⟨c', hpages', -, -, hsession, hlast⟩ := h.exists_restored houtages .forth
  have hsame : c'.session = shown.session := hsession.trans hafter
  rw [hlast, hpages'.act_of_unplanned (hsame ▸ hnone)]
  exact hsame.trans hshown

/-- With the listing working the way on leads to the next page. -/
theorem Pages.page_forth (h : c.Pages collection filter)
    (hlisting : c.backend.failures.lookup "list" = none) {move : PageMove}
    (hplan : c.session.planned .forth = .ok (some move)) :
    (c.after [.act .nextPage]).session.page = c.session.page + 1 := by
  obtain ⟨plan, hplanned, hadmits⟩ := Session.exists_planned h.sound .forth
  obtain rfl : plan = some move := Except.ok.inj (hplanned.symm.trans hplan)
  obtain ⟨cursors, hcommit, -⟩ := h.sound.commit (hadmits move rfl)
  obtain ⟨page, hpage⟩ := Backend.exists_page_of_connected h.connected hlisting collection filter
    move.cursor c.session.pageSize
  have hread : (c.brought collection filter move).type = .read := by
    rw [brought, hpage]
    rfl
  have hact : (c.after [.act .nextPage]).session =
      c.session.arrived move (c.brought collection filter move) :=
    congrArg Console.session (h.act_of_planned hplan)
  rw [Session.page, hact, Session.page_arrived hread hcommit]
  exact Session.page_of_planned_forth hplan

end Console

/-! ## In every state -/

/-- The latest applied response was asked for before. -/
theorem Account.Follows.applied_le_issued {a a' : Account} {entry : LogEntry}
    (h : a.Follows entry a')
    (hentry : ∀ job outcome, entry = .answered job outcome → job.Accounted a)
    (happlied : a.session.applied ≤ a.session.issued) :
    a'.session.applied ≤ a'.session.issued := by
  have hshown {issued : Nat} {response : QueryResponse}
      (hends : entry.EndsRequest a.session response.number issued) :
      max a.session.applied response.number ≤ issued :=
    Nat.max_le.mpr ⟨Nat.le_trans happlied hends.issued_le, number_le_issued hentry hends⟩
  cases h with
  | rests hissued => exact Nat.le_trans happlied hissued
  | revises => exact happlied
  | drops response hends => exact Nat.le_trans happlied hends.issued_le
  | runs response hends => exact hshown hends
  | enters response hends => exact hshown hends
  | fails response hends => exact hshown hends
  | resets => exact happlied

/-- What is known of a scene: it belongs to one query, and what was applied was asked for before. -/
structure Scene.Orderly (x : Scene) (a : Account) : Prop extends x.OneQuery a where
  applied_le : a.session.applied ≤ a.session.issued

theorem Scene.orderly_keeps : Account.Keeps (fun _ => True) Scene.Orderly := by
  refine ⟨fun haccounted horderly hopens => ?_, fun horderly hadmitted hcount => ?_⟩
  · exact ⟨oneQuery_keeps.turn haccounted horderly.toOneQuery hopens,
      (haccounted.follows hopens).applied_le_issued (haccounted.answered hopens)
        horderly.applied_le⟩
  · exact ⟨oneQuery_keeps.exchange horderly.toOneQuery hadmitted hcount, horderly.applied_le⟩

section Reached

variable {pageSize : Int} {discardStale : Bool} {backend : Backend} {events : List ConsoleEvent}
  {c : Console} {command : Command} {r : QueryResult}
  {outages : List (List (String × String))}

/-- In every state that any events lead to, the session has an orderly account. -/
theorem Console.exists_orderly
    (hc : c = (Console.fresh pageSize discardStale backend).after events) :
    ∃ log a, (c.scene log).Accounted a ∧ (c.scene log).Orderly a := by
  have hstart : ((Console.fresh pageSize discardStale backend).scene []).Orderly
      (.initial (.initial pageSize discardStale)) := by
    refine ⟨⟨⟨fun command hsome => ?_, fun _ => ⟨rfl, fun shown hshown => ?_⟩⟩,
      fun call hcall => ?_⟩, Nat.le_refl _⟩
    · cases hsome
    · cases hshown
    · cases hcall
  obtain ⟨haccounted, horderly⟩ :=
    Scene.orderly_keeps.fresh (fun event (_ : event ∈ events) => trivial) hstart
  rw [hc]
  exact ⟨_, _, haccounted, horderly⟩

/-- In every state that any events lead to, the latest applied response was asked for before. -/
theorem Console.applied_le_issued
    (hc : c = (Console.fresh pageSize discardStale backend).after events) :
    c.session.applied ≤ c.session.issued := by
  obtain ⟨log, a, haccounted, horderly⟩ := Console.exists_orderly hc
  have hsession : a.session = c.session := haccounted.session
  exact hsession ▸ horderly.applied_le

/-- In every state that any events lead to, an active command can be paged. -/
theorem Console.exists_pages (hc : c = (Console.fresh pageSize discardStale backend).after events)
    (hopen : c.holding = false) (hconnected : c.backend.connected = true)
    (hactive : c.session.activeCommand = some command) :
    ∃ collection filter, c.Pages collection filter := by
  obtain ⟨log, a, haccounted, horderly⟩ := Console.exists_orderly hc
  have hsession : a.session = c.session := haccounted.session
  have hsound := haccounted.sound
  have hquery := horderly.account.active command
  rw [hsession] at hsound hquery
  obtain ⟨-, collection, filter, -, -, -, rfl, -⟩ := hquery hactive
  exact ⟨collection, filter, hopen, hconnected, hactive, hsound, Console.applied_le_issued hc⟩

/-- A page that could not be fetched, for whatever reasons the store gave, is asked for again with
the store working as before.  The previous page is shown as if it had been fetched at once.  The
next page is so just if there is none to fetch: otherwise the failure stays on display, on the page
that was current. -/
theorem retried_page_agrees (hc : c = (Console.fresh pageSize discardStale backend).after events)
    (hopen : c.holding = false) (hconnected : c.backend.connected = true)
    (hlisting : c.backend.failures.lookup "list" = none)
    (hactive : c.session.activeCommand = some command) (hresult : c.session.result = some r)
    (houtages : ListingFails outages) :
    (c.after [.act .previousPage]).session.SamePage (c.retrying .back outages).session ∧
      ((c.after [.act .nextPage]).session.SamePage (c.retrying .forth outages).session ↔
        outages = [] ∨ r.pageCursor = none) ∧
      ∀ failures message rest, outages = failures :: rest →
        failures.lookup "list" = some message → r.pageCursor ≠ none →
          (c.after [.act .nextPage]).session.page = c.session.page + 1 ∧
            (c.retrying .forth outages).session.cursors = c.session.cursors ∧
            (c.retrying .forth outages).session.result = some (errorResult message) := by
  obtain ⟨collection, filter, hpages⟩ := Console.exists_pages hc hopen hconnected hactive
  have hforth := Session.planned_forth_eq_none_iff hresult
  have hfailed : ∀ failures message rest, outages = failures :: rest →
      failures.lookup "list" = some message → r.pageCursor ≠ none →
        (c.after [.act .nextPage]).session.page = c.session.page + 1 ∧
          (c.retrying .forth outages).session.cursors = c.session.cursors ∧
          (c.retrying .forth outages).session.result = some (errorResult message) := by
    rintro failures message rest rfl hfailure hcursor
    obtain ⟨plan, hplan, -⟩ := Session.exists_planned hpages.sound .forth
    obtain ⟨move, rfl⟩ : ∃ move, plan = some move := by
      rw [← Option.ne_none_iff_exists']
      rintro rfl
      exact hcursor (hforth.mp hplan)
    obtain ⟨hplace, hshown⟩ := c.session.samePlace_arrived_errorResult move message
    rw [hpages.retrying_forth hfailure (List.forall_mem_cons.mp houtages).2 hplan]
    exact ⟨hpages.page_forth hlisting hplan, hplace.cursors, hshown⟩
  refine ⟨?_, ⟨fun hsame => ?_, ?_⟩, hfailed⟩
  · have hplace := (hpages.attempts houtages .back).2.1
    exact hpages.samePage_retrying .back houtages
      (congrArg CursorStack.planRetreat hplace.cursors)
  · cases outages with
    | nil => exact Or.inl rfl
    | cons failures rest =>
        refine Or.inr ?_
        by_contra hcursor
        obtain ⟨message, hfailure⟩ := houtages failures List.mem_cons_self
        obtain ⟨hpage, hcursors, -⟩ := hfailed failures message rest rfl hfailure hcursor
        have hpages : c.session.page = c.session.page + 1 := by
          rw [← hpage, Session.page, Session.page, ← hsame.cursors, hcursors]
        exact absurd hpages (by omega)
  · rintro (rfl | hnone)
    · exact hpages.samePage_retrying .forth houtages rfl
    · have hplan := hforth.mpr hnone
      refine hpages.samePage_retrying .forth houtages ?_
      rw [(hpages.attempts houtages .forth).2.2.2 hplan]

/-- The second page of three items. -/
def secondPage : Console :=
  (Console.fresh 2 false ⟨some threeItems, [], .fresh⟩).after
    [.act (.run "SELECT * FROM items"), .act .nextPage]

/-- Two outages, for different reasons. -/
def twoOutages : List (List (String × String)) :=
  [[("list", "connection lost")], [("get", "no access"), ("list", "timeout")]]

/-- From the second page the first one is reached after two failures as if there had been none. -/
theorem first_page_comes_back :
    secondPage.session.page = 2 ∧ ListingFails twoOutages ∧
      (secondPage.after [.act .previousPage]).session.SamePage
        (secondPage.retrying .back twoOutages).session ∧
      ¬ (secondPage.after [.act .nextPage]).session.SamePage
        (secondPage.retrying .forth twoOutages).session := by
  have hactive : secondPage.session.activeCommand = some (.select "items" none) := by
    decide +kernel
  have hresult : secondPage.session.result =
      some (Command.pageResult "items" (.of [⟨"c", []⟩])) := by
    decide +kernel
  have houtages : ListingFails twoOutages :=
    List.forall_mem_cons.mpr ⟨⟨_, rfl⟩, List.forall_mem_singleton.mpr ⟨_, rfl⟩⟩
  have hopen : secondPage.holding = false ∧ secondPage.backend.connected = true ∧
      secondPage.backend.failures.lookup "list" = none := by
    decide +kernel
  obtain ⟨hback, hforth, -⟩ :=
    retried_page_agrees rfl hopen.1 hopen.2.1 hopen.2.2 hactive hresult houtages
  refine ⟨by decide +kernel, houtages, hback, fun hsame => ?_⟩
  rcases hforth.mp hsame with hnil | hcursor
  · cases hnil
  · cases hcursor

/-- The first page of three items. -/
def firstPage : Console :=
  (Console.fresh 2 false ⟨some threeItems, [], .fresh⟩).after [.act (.run "SELECT * FROM items")]

/-- The second page is not reached by asking again once it could not be fetched. -/
theorem second_page_stays_away :
    firstPage.holding = false ∧ firstPage.held.length = 0 ∧
      firstPage.backend.connected = true ∧ firstPage.backend.failures.lookup "list" = none ∧
      firstPage.session.activeCommand = some (.select "items" none) ∧
      firstPage.session.result =
        some (Command.pageResult "items" (.of [⟨"a", []⟩, ⟨"b", []⟩])) ∧
      (firstPage.after [.act .nextPage]).session.page = 2 ∧
      (firstPage.retrying .forth [[("list", "connection lost")]]).session.page = 1 ∧
      (firstPage.retrying .forth [[("list", "connection lost")]]).session.result =
        some (errorResult "connection lost") := by
  decide +kernel

end Reached

end DocConsole
