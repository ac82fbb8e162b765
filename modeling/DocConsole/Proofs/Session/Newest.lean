import DocConsole.Proofs.Session.LastRun
import Mathlib.Data.List.Nodup

/-!
# The newest request wins

With discarding switched on, a response is applied only if no newer one was.  The number of the
latest applied response never falls, so an older response changes nothing any more; and since
requests have different numbers, what is on display is the newest of the responses that count.
Main statement: whatever the order in which answers arrive, the newest request wins.
-/

set_option autoImplicit false

namespace DocConsole

open Text

/-! ## Older responses -/

namespace Session

variable {s : Session} {entry : LogEntry} {response : QueryResponse}

/-- The response of an entry that ends a request is the one with its number. -/
theorem number_of_response {number issued : Nat} {s' : Session} {r : QueryResult}
    (hturn : entry.turn s = (s', .finished (.ok (.result (some r)))))
    (hends : entry.EndsRequest s number issued) (hissued : s'.issued = issued)
    (hresponse : entry.response? s = some response) : response.number = number := by
  have hsame := response?_of_endsRequest hends
    ((congrArg (fun next => next.1.issued) hturn).trans hissued)
    (congrArg (fun next => next.2.given?) hturn)
  rw [Option.some.inj (hresponse.symm.trans hsame)]

/-- A stale response changes nothing that is shown. -/
theorem sameView_of_isStale (hresponse : entry.response? s = some response)
    (hstale : s.isStale response.number = true) : s.SameView (entry.turn s).1 := by
  have htook := s.took entry
  generalize hturn : entry.turn s = next at htook
  obtain ⟨s', reaction⟩ := next
  have hfresh : ∀ {number}, response.number = number → s.isStale number ≠ false := by
    rintro number rfl
    rw [hstale]
    exact Bool.noConfusion
  simp only at htook
  cases htook with
  | idles => exact ⟨rfl, rfl, rfl, rfl⟩
  | strays => exact ⟨rfl, rfl, rfl, rfl⟩
  | asks => exact ⟨rfl, rfl, rfl, rfl⟩
  | revises change hentry =>
      have hnone := number?_eq_none (s := s) hentry.number?_eq_none
        (congrArg (fun next => next.1.issued) hturn)
      rw [response?_of_number_none hnone] at hresponse
      cases hresponse
  | drops => exact ⟨rfl, rfl, rfl, rfl⟩
  | runs hends happlied =>
      exact absurd happlied (hfresh (number_of_response hturn hends rfl hresponse))
  | enters hends happlied =>
      exact absurd happlied (hfresh (number_of_response hturn hends rfl hresponse))
  | fails hends happlied =>
      exact absurd happlied (hfresh (number_of_response hturn hends rfl hresponse))
  | resets =>
      rw [response?_of_given_none (congrArg (fun next => next.2.given?) hturn)] at hresponse
      cases hresponse

/-- The number of the latest applied response never falls. -/
theorem Took.applied_le {s' : Session} {reaction : Reaction} (h : s.Took entry s' reaction) :
    s.applied ≤ s'.applied ∧ s'.discardStale = s.discardStale := by
  cases h with
  | strays _ happlied => exact ⟨happlied, rfl⟩
  | runs => exact ⟨Nat.le_max_left _ _, rfl⟩
  | enters => exact ⟨Nat.le_max_left _ _, rfl⟩
  | fails => exact ⟨Nat.le_max_left _ _, rfl⟩
  | _ => exact ⟨Nat.le_refl _, rfl⟩

/-- A response put on display is applied. -/
theorem number_le_applied (hresponse : entry.response? s = some response)
    (hdisplays : entry.displays s = true) : response.number ≤ (entry.turn s).1.applied := by
  have htook := s.took entry
  have hticket : (entry.turn s).1.nextTicket ≠ s.nextTicket := of_decide_eq_true hdisplays
  generalize hturn : entry.turn s = next at htook hticket
  obtain ⟨s', reaction⟩ := next
  simp only at htook hticket
  cases htook with
  | runs hends =>
      rw [number_of_response hturn hends rfl hresponse]
      exact Nat.le_max_right _ _
  | enters hends =>
      rw [number_of_response hturn hends rfl hresponse]
      exact Nat.le_max_right _ _
  | fails hends =>
      rw [number_of_response hturn hends rfl hresponse]
      exact Nat.le_max_right _ _
  | _ => exact absurd rfl hticket

end Session

namespace Account

theorem applied_le_foldl (a : Account) (log : List LogEntry) :
    a.session.applied ≤ (log.foldl follow a).session.applied ∧
      (log.foldl follow a).session.discardStale = a.session.discardStale := by
  induction log generalizing a with
  | nil => exact ⟨Nat.le_refl _, rfl⟩
  | cons entry rest ih =>
      obtain ⟨hle, hsame⟩ := (a.session.took entry).applied_le
      rw [← follow_session] at hle hsame
      obtain ⟨hrest, hsame'⟩ := ih (a.follow entry)
      exact ⟨Nat.le_trans hle hrest, hsame'.trans hsame⟩

/-- Once a response is on display, no older one changes what is shown. -/
theorem sameView_of_older {a : Account} {entry stale : LogEntry} {middle : List LogEntry}
    {response old : QueryResponse} (hdiscards : a.session.discardStale = true)
    (hresponse : entry.response? a.session = some response)
    (hdisplays : entry.displays a.session = true)
    (hold : stale.response? ((entry :: middle).foldl follow a).session = some old)
    (holder : old.number < response.number) :
    ((entry :: middle).foldl follow a).session.SameView
      (stale.turn ((entry :: middle).foldl follow a).session).1 := by
  have hshown : response.number ≤ (a.follow entry).session.applied := by
    rw [follow_session]
    exact Session.number_le_applied hresponse hdisplays
  obtain ⟨hle, -⟩ := (a.follow entry).applied_le_foldl middle
  obtain ⟨-, hsame⟩ := a.applied_le_foldl (entry :: middle)
  have happlied : old.number < ((entry :: middle).foldl follow a).session.applied :=
    Nat.lt_of_lt_of_le holder (Nat.le_trans hshown hle)
  apply Session.sameView_of_isStale hold
  rw [Session.isStale, hsame, hdiscards, decide_eq_true happlied]
  rfl

end Account

/-! ## Numbers -/

/-- The numbers of the requests whose answers are still out. -/
def Waiting.numbers (calls : List Waiting) : List Nat :=
  calls.filterMap (fun call => call.job.number?)

/-- The number of the request that an entry answers. -/
def LogEntry.answers? : LogEntry → Option Nat
  | .answered job _ => job.number?
  | _ => none

namespace Scene

variable {admitted : ConsoleEvent → Prop} {x : Scene} {entry : LogEntry} {action count : Nat}
  {rest : List Waiting}

/-- An answer takes the number of its request out of those that are still out. -/
theorem Opens.numbers_perm (h : x.Opens admitted entry action rest count) :
    (Waiting.numbers x.waiting).Perm (entry.answers?.toList ++ Waiting.numbers rest) := by
  cases h with
  | begins => exact List.Perm.refl _
  | @answers front back call hwaiting =>
      rw [hwaiting]
      simp only [Waiting.numbers, List.filterMap_append, List.filterMap_cons, LogEntry.answers?]
      cases call.job.number? with
      | none => exact List.Perm.refl _
      | some number => exact List.perm_middle

end Scene

section

variable {s s' : Session} {entry : LogEntry} {number issued : Nat}

/-- A request that ends has a number of its own. -/
theorem LogEntry.EndsRequest.notMem {others : List Nat} (h : entry.EndsRequest s number issued)
    (hnodup : (entry.answers?.toList ++ others).Nodup) (hle : ∀ other ∈ others, other ≤ s.issued) :
    number ∉ others := by
  cases h with
  | began =>
      intro hmem
      exact absurd (hle _ hmem) (Nat.not_succ_le_self _)
  | answered hnumber =>
      simp only [LogEntry.answers?, hnumber, Option.toList_some, List.singleton_append] at hnodup
      exact (List.nodup_cons.mp hnodup).1

/-- A job that is left waiting belongs to the request that the entry belongs to. -/
theorem Session.Took.endsRequest {call : StoreCall} {job : Job}
    (h : s.Took entry s' (.calling call job)) (hnumber : job.number? = some number) :
    ∃ issued, entry.EndsRequest s number issued := by
  cases h with
  | asks hasks hnew =>
      cases hasks with
      | run hread =>
          obtain rfl := Option.some.inj hnumber
          rw [hnew.1]
          exact ⟨_, .began⟩
      | confirm hresult => exact ⟨_, .answered hnumber⟩
      | page hactive hplans =>
          obtain rfl := Option.some.inj hnumber
          rw [hnew.1]
          exact ⟨_, .began⟩
      | insert => cases hnumber
  | revises change hentry hchange hreaction =>
      rcases hreaction with ⟨answer, hfinished, -⟩ | ⟨call', statement, hcalling⟩
      · cases hfinished
      · cases hcalling
        cases hnumber

end

namespace Account

variable {a a' : Account} {entry : LogEntry} {response : QueryResponse}

theorem count_cases (a : Account) (response : QueryResponse) :
    a.count response = a.counted ∨ a.count response = response :: a.counted := by
  unfold count
  split
  · exact Or.inr rfl
  · exact Or.inl rfl

/-- Only a request that ends brings a response that counts. -/
theorem Follows.counted_cases (h : a.Follows entry a') : a'.counted = a.counted ∨
    ∃ response issued, entry.EndsRequest a.session response.number issued ∧
      a'.counted = a.count response := by
  cases h with
  | rests => exact Or.inl rfl
  | revises => exact Or.inl rfl
  | drops response hends => exact Or.inr ⟨response, _, hends, rfl⟩
  | runs response hends => exact Or.inr ⟨response, _, hends, rfl⟩
  | enters response hends => exact Or.inr ⟨response, _, hends, rfl⟩
  | fails response hends => exact Or.inr ⟨response, _, hends, rfl⟩
  | resets => exact Or.inl rfl

end Account

/-- The numbers of the requests that are still out and of the responses that count. -/
def Scene.numbers (x : Scene) (a : Account) : List Nat :=
  Waiting.numbers x.waiting ++ a.counted.map (·.number)

/-- Every request has a number of its own. -/
theorem Scene.Accounted.nodup_numbers {admitted : ConsoleEvent → Prop} {x : Scene} {a : Account}
    {entry : LogEntry} {action count : Nat} {rest : List Waiting} (h : x.Accounted a)
    (hopens : x.Opens admitted entry action rest count) (hnodup : (x.numbers a).Nodup)
    (hcounted : ∀ response ∈ a.counted, response.number ≤ a.session.issued) :
    ((x.turn entry action rest count).numbers (a.follow entry)).Nodup := by
  let others := Waiting.numbers rest ++ a.counted.map (·.number)
  have hall : (entry.answers?.toList ++ others).Nodup := by
    rw [← List.append_assoc]
    exact (List.Perm.append_right _ hopens.numbers_perm).nodup_iff.mp hnodup
  have hothers : others.Nodup := (List.nodup_append.mp hall).2.1
  have hle : ∀ other ∈ others, other ≤ a.session.issued := by
    intro other hother
    rcases List.mem_append.mp hother with hrest | hcount
    · obtain ⟨call, hcall, hnumber⟩ := List.mem_filterMap.mp hrest
      exact (h.jobs call (hopens.mem_waiting hcall)).number_le other hnumber
    · obtain ⟨response, hresponse, rfl⟩ := List.mem_map.mp hcount
      exact hcounted response hresponse
  have hwaiting : Waiting.numbers (x.turn entry action rest count).waiting =
      Waiting.numbers rest ++
        Waiting.numbers ((entry.turn x.session).2.waiting action x.backend) :=
    List.filterMap_append
  rw [numbers, hwaiting, ← h.session]
  cases hreaction : (entry.turn a.session).2 with
  | finished answer =>
      have hnone : Waiting.numbers (Reaction.waiting action x.backend (.finished answer)) = [] :=
        rfl
      rw [hnone, List.append_nil]
      rcases (h.follows hopens).counted_cases with hsame | ⟨response, issued, hends, hnew⟩
      · rw [hsame]
        exact hothers
      · rcases a.count_cases response with hsame | hcons
        · rw [hnew, hsame]
          exact hothers
        · rw [hnew, hcons, List.map_cons]
          exact List.nodup_middle.mpr (List.nodup_cons.mpr ⟨hends.notMem hall hle, hothers⟩)
  | calling call job =>
      rw [Account.follow_of_calling hreaction]
      have htook := a.session.took entry
      rw [hreaction] at htook
      cases hnumber : job.number? with
      | none =>
          simp only [Reaction.waiting, Waiting.numbers, List.filterMap_cons, hnumber,
            List.filterMap_nil, List.append_nil]
          exact hothers
      | some number =>
          obtain ⟨issued, hends⟩ := htook.endsRequest hnumber
          simp only [Reaction.waiting, Waiting.numbers, List.filterMap_cons, hnumber,
            List.filterMap_nil, List.append_assoc, List.singleton_append]
          exact List.nodup_middle.mpr (List.nodup_cons.mpr ⟨hends.notMem hall hle, hothers⟩)

/-! ## The newest response on display -/

theorem Session.le_of_isStale_false {s : Session} {number : Nat} (hdiscards : s.discardStale = true)
    (hfresh : s.isStale number = false) : s.applied ≤ number := by
  rw [isStale, hdiscards, Bool.true_and] at hfresh
  exact Nat.le_of_not_lt (of_decide_eq_false hfresh)

theorem Session.lt_of_isStale {s : Session} {number : Nat} (hstale : s.isStale number = true) :
    number < s.applied :=
  of_decide_eq_true ((Bool.and_eq_true _ _).mp hstale).2

namespace Account

/-- The newest of the responses that count is on display, unless nothing is. -/
structure Newest (a : Account) : Prop where
  discards : a.session.discardStale = true
  applied_le : a.session.applied ≤ a.session.issued
  counted_le : ∀ response ∈ a.counted, response.number ≤ a.session.applied
  displayed : a.session.displayed = none ∨ ∃ response ∈ a.counted,
    response.number = a.session.applied ∧ a.session.result = some response.result

variable {a a' : Account} {entry : LogEntry} {response : QueryResponse} {issued : Nat}

theorem number_le_issued
    (hentry : ∀ job outcome, entry = .answered job outcome → job.Accounted a)
    (hends : entry.EndsRequest a.session response.number issued) : response.number ≤ issued := by
  generalize hnumber : response.number = number at hends
  cases hends with
  | began => exact Nat.le_refl _
  | answered hjob => exact (hentry _ _ rfl).number_le number hjob

/-- The page of an older generation does not count. -/
theorem count_of_late (hentry : ∀ job outcome, entry = .answered job outcome → job.Accounted a)
    (hends : entry.EndsRequest a.session response.number issued)
    (hstatement : response.statement = entry.statement?) (hlate : entry.IsLate a.session) :
    a.count response = a.counted := by
  generalize hnumber : response.number = number at hends
  cases hends with
  | began => exact absurd hlate id
  | @answered job outcome _ hjob =>
      cases job with
      | page sequence generation move command =>
          obtain rfl := Option.some.inj hjob
          have hbefore : ¬ a.restart < sequence :=
            mt ((hentry _ _ rfl).generation_iff _ _ _ _ rfl).mpr hlate
          rw [count, hstatement, hnumber, decide_eq_false hbefore]
          rfl
      | _ => exact absurd hlate id

/-- The page of the current generation counts. -/
theorem count_of_endsMove {move : PageMove} {r : QueryResult}
    (hentry : ∀ job outcome, entry = .answered job outcome → job.Accounted a)
    (hrestart : a.restart ≤ a.session.issued)
    (hends : entry.EndsRequest a.session response.number issued)
    (hmove : entry.EndsMove a.session.generation move r) :
    a.count response = response :: a.counted := by
  have hafter : a.restart < response.number := by
    generalize hnumber : response.number = number at hends
    cases hends with
    | began => exact Nat.lt_succ_of_le hrestart
    | answered hjob =>
        cases hmove with
        | answered =>
            obtain rfl := Option.some.inj hjob
            exact ((hentry _ _ rfl).generation_iff _ _ _ _ rfl).mp rfl
  rw [count, decide_eq_true hafter, Bool.or_true, if_pos rfl]

/-- A response that counts and is put on display is the newest one. -/
theorem Newest.shows (h : a.Newest) (hfresh : a.session.isStale response.number = false)
    (hdiscards : a'.session.discardStale = a.session.discardStale)
    (happlied : a'.session.applied = max a.session.applied response.number)
    (hissued : response.number ≤ a'.session.issued)
    (hcounted : a'.counted = response :: a.counted)
    (hresult : a'.session.result = some response.result) : a'.Newest := by
  have hle := Session.le_of_isStale_false h.discards hfresh
  have hnumber : a'.session.applied = response.number := happlied.trans (Nat.max_eq_right hle)
  refine ⟨hdiscards.trans h.discards, hnumber.symm ▸ hissued, ?_, Or.inr ⟨response, ?_, ?_, ?_⟩⟩
  · intro other hother
    rw [hnumber]
    rw [hcounted] at hother
    rcases List.mem_cons.mp hother with rfl | hold
    · exact Nat.le_refl _
    · exact Nat.le_trans (h.counted_le other hold) hle
  · rw [hcounted]
    exact List.mem_cons_self
  · exact hnumber.symm
  · exact hresult

/-- Whatever ends, the newest response stays on display, as long as no rows are changed. -/
theorem Newest.follows (h : a.Newest) (hfollows : a.Follows entry a')
    (hentry : ∀ job outcome, entry = .answered job outcome → job.Accounted a)
    (hrestart : a.restart ≤ a.session.issued) (hkeeps : ¬ entry.ChangesRows) : a'.Newest := by
  cases hfollows with
  | rests hissued =>
      exact ⟨h.discards, Nat.le_trans h.applied_le hissued, h.counted_le, h.displayed⟩
  | revises change hchanges => exact absurd hchanges hkeeps
  | drops response hends hstatement hdropped =>
      have hcounted : ∀ other ∈ a.count response, other ∈ a.counted ∨
          other.number ≤ a.session.applied := by
        intro other hother
        rcases hdropped with hstale | hlate
        · rcases mem_counted_of_mem_count hother with rfl | hold
          · exact Or.inr (Nat.le_of_lt (Session.lt_of_isStale hstale))
          · exact Or.inl hold
        · rw [count_of_late hentry hends hstatement hlate] at hother
          exact Or.inl hother
      refine ⟨h.discards, Nat.le_trans h.applied_le hends.issued_le, ?_, ?_⟩
      · intro other hother
        exact (hcounted other hother).elim (h.counted_le other) id
      · rcases h.displayed with hnone | ⟨newest, hnewest, hnumber, hresult⟩
        · exact Or.inl hnone
        · refine Or.inr ⟨newest, ?_, hnumber, hresult⟩
          rcases a.count_cases response with hsame | hcons
          · exact hsame ▸ hnewest
          · exact hcons ▸ List.mem_cons_of_mem _ hnewest
  | @runs _ issued history statement command response hends hstatement _ hfresh hrun =>
      have hcount : a.count response = response :: a.counted := by
        rw [count, hstatement]
        rfl
      exact h.shows hfresh rfl rfl (number_le_issued hentry hends) hcount rfl
  | enters response hends _ hfresh hmove =>
      exact h.shows hfresh rfl rfl (number_le_issued hentry hends)
        (count_of_endsMove hentry hrestart hends hmove) rfl
  | fails response hends _ hfresh hmove =>
      exact h.shows hfresh rfl rfl (number_le_issued hentry hends)
        (count_of_endsMove hentry hrestart hends hmove) rfl
  | resets => exact ⟨h.discards, h.applied_le, h.counted_le, Or.inl rfl⟩

end Account

/-! ## Requests alone -/

/-- Everything may happen but edits and insertions. -/
def ConsoleEvent.Requests : ConsoleEvent → Prop
  | .act (.edit _ _ _) => False
  | .act (.insert _) => False
  | _ => True

/-- An action that is no edit and no insertion begins, or a request is answered. -/
def LogEntry.Requests : LogEntry → Prop
  | .began _ action => (ConsoleEvent.act action).Requests
  | .answered job _ => ∃ number, job.number? = some number
  | .called _ _ _ => True

theorem LogEntry.Requests.not_changesRows {entry : LogEntry} (h : entry.Requests) :
    ¬ entry.ChangesRows := by
  intro hchanges
  cases entry with
  | began connected action =>
      cases action with
      | edit id field value => exact h
      | _ => exact hchanges
  | answered job outcome =>
      obtain ⟨number, hnumber⟩ := h
      rw [hchanges.number?_eq_none job outcome rfl] at hnumber
      cases hnumber
  | called call job outcome => exact hchanges

/-- A request asks for nothing but what belongs to it. -/
theorem Session.Took.exists_number {s s' : Session} {entry : LogEntry} {call : StoreCall}
    {job : Job} (h : s.Took entry s' (.calling call job)) (hentry : entry.Requests) :
    ∃ number, job.number? = some number := by
  cases h with
  | asks hasks hnew =>
      cases hasks with
      | run hread => exact ⟨_, rfl⟩
      | confirm hresult => exact ⟨_, rfl⟩
      | page hactive hplans => exact ⟨_, rfl⟩
      | insert => exact absurd hentry id
  | revises change hchanges => exact absurd hchanges hentry.not_changesRows

/-- What is known while requests overlap. -/
structure Scene.Newest (x : Scene) (a : Account) : Prop where
  account : a.Newest
  requests : ∀ call ∈ x.waiting, ∃ number, call.job.number? = some number
  nodup : (x.numbers a).Nodup

theorem Scene.newest_keeps : Account.Keeps ConsoleEvent.Requests Scene.Newest := by
  refine ⟨?_, fun hnewest _ _ => ⟨hnewest.account, hnewest.requests, hnewest.nodup⟩⟩
  intro x a entry action count rest haccounted hnewest hopens
  obtain ⟨haccount, hrequests, hnodup⟩ := hnewest
  have hentry : entry.Requests := by
    cases hopens with
    | begins hadmitted => exact hadmitted
    | answers hwaiting =>
        apply hrequests
        rw [hwaiting]
        exact List.mem_append_right _ List.mem_cons_self
  refine ⟨?_, fun call hcall => ?_, ?_⟩
  · exact haccount.follows (haccounted.follows hopens) (haccounted.answered hopens)
      haccounted.restart_le hentry.not_changesRows
  · rcases hopens.mem_waiting_turn hcall with hold | ⟨-, storeCall, hreaction⟩
    · exact hrequests call hold
    · have htook := x.session.took entry
      rw [hreaction] at htook
      exact htook.exists_number hentry
  · exact haccounted.nodup_numbers hopens hnodup fun response hresponse =>
      Nat.le_trans (haccount.counted_le response hresponse) haccount.applied_le

/-! ## The newest request -/

section

variable (pageSize : Int) (backend : Backend) (events : List ConsoleEvent)

/-- What discarding old responses comes to in a row of events that starts afresh. -/
structure NewestWins : Prop where
  /-- The account of the log is that of the session. -/
  session :
    (Account.after (.initial pageSize true)
        ((Console.fresh pageSize true backend).log events)).session =
      ((Console.fresh pageSize true backend).after events).session
  /-- Once a response is on display, no older one changes what is shown. -/
  older : ∀ before entry middle stale later response old,
    (Console.fresh pageSize true backend).log events =
      before ++ entry :: (middle ++ stale :: later) →
    let shown := (Account.after (.initial pageSize true) before).session
    let s := (Account.after (.initial pageSize true) (before ++ entry :: middle)).session
    entry.response? shown = some response → entry.displays shown = true →
      stale.response? s = some old → old.number < response.number →
        s.SameView (stale.turn s).1
  /-- The newest of the responses that count is on display, unless nothing is. -/
  newest :
    let c := (Console.fresh pageSize true backend).after events
    let counted := (Account.after (.initial pageSize true)
      ((Console.fresh pageSize true backend).log events)).counted
    c.session.displayed = none ∨ ∃ response ∈ counted,
      c.session.result = some response.result ∧
        ∀ other ∈ counted, other = response ∨ other.number < response.number
  /-- When every answer to a row of overlapping runs has arrived, the last one is on display. -/
  lastRun : ∀ before statement later,
    events = before ++ .act (.run statement) :: later →
    (∀ event ∈ before, event.Overlaps) → isBlankText statement = false →
    (∀ event ∈ later, event.Resolves) →
    ((Console.fresh pageSize true backend).after events).held = [] →
      ((Console.fresh pageSize true backend).after events).session.Shows statement
        (Command.executeStatement statement none pageSize
          ((Console.fresh pageSize true backend).after before).backend).1

/-- With discarding switched on, whatever requests are made and in whatever order their answers
arrive, the newest request wins. -/
theorem newest_request_wins (hrequests : ∀ event ∈ events, event.Requests) :
    NewestWins pageSize backend events := by
  have hfresh : ((Console.fresh pageSize true backend).scene []).Newest
      (.initial (.initial pageSize true)) := by
    refine ⟨⟨rfl, Nat.le_refl _, ?_, Or.inl rfl⟩, ?_, List.nodup_nil⟩
    · intro response hresponse
      cases hresponse
    · intro call hcall
      cases hcall
  obtain ⟨haccounted, hnewest⟩ := Scene.newest_keeps.fresh hrequests hfresh
  refine ⟨haccounted.session, ?_, ?_, ?_⟩
  · intro before entry middle stale later response old hlog shown s hresponse hdisplays hold holder
    have hafter : Account.after (.initial pageSize true) (before ++ entry :: middle) =
        (entry :: middle).foldl Account.follow (Account.after (.initial pageSize true) before) :=
      List.foldl_append
    have hdiscards : shown.discardStale = true :=
      ((Account.initial (.initial pageSize true)).applied_le_foldl before).2
    simp only [s, hafter] at hold ⊢
    exact Account.sameView_of_older hdiscards hresponse hdisplays hold holder
  · intro c counted
    have hsession : (Account.after (.initial pageSize true)
        ((Console.fresh pageSize true backend).log events)).session = c.session :=
      haccounted.session
    rcases hnewest.account.displayed with hnone | ⟨response, hresponse, hnumber, hresult⟩
    · exact Or.inl (hsession ▸ hnone)
    · refine Or.inr ⟨response, hresponse, hsession ▸ hresult, fun other hother => ?_⟩
      have hnodup := (List.nodup_append.mp hnewest.nodup).2.1
      rcases Nat.lt_or_eq_of_le (hnewest.account.counted_le other hother) with hlt | hsame
      · exact Or.inr (hnumber ▸ hlt)
      · exact Or.inl (List.inj_on_of_nodup_map hnodup hother hresponse (hsame.trans hnumber.symm))
  · rintro before statement later rfl hbefore hblank hlater hheld
    exact Console.shows_last_run hbefore hblank hlater hheld

end

/-- Two runs overlap, and their answers arrive in reverse. -/
def crossingRuns : List ConsoleEvent :=
  [.setHolding true, .act (.run "DELETE FROM items WHERE id = a"),
    .act (.run "SELECT * FROM items"), .release 1, .release 0]

theorem newest_request_wins_of_crossingRuns :
    (∀ event ∈ crossingRuns, event.Requests) ∧
      NewestWins 1 ⟨some (.ofData [("items", [("a", []), ("b", [])])]), [], .fresh⟩
        crossingRuns := by
  have hrequests : ∀ event ∈ crossingRuns, event.Requests := by
    intro event hevent
    simp only [crossingRuns, List.mem_cons, List.not_mem_nil, or_false] at hevent
    rcases hevent with rfl | rfl | rfl | rfl | rfl
    all_goals trivial
  exact ⟨hrequests, newest_request_wins _ _ _ hrequests⟩

end DocConsole
