import DocConsole.Proofs.Session.Stack

/-!
# Responses

The response of a request is what its action gives back when it is over.  An account of the
responses is followed along the log of a run: which run made the query active, which response is on
display, and which responses count.  A response counts if it is that of a run, or that of a page
asked for since the last run was applied or the last reset was made; requests are numbered as they
are issued, so one number marks that point.  Main statement: a waiting page belongs to the current
generation exactly when it was asked for after that point.
-/

set_option autoImplicit false

namespace DocConsole

/-! ## The response of an entry -/

/-- The response of a request. -/
structure QueryResponse where
  /-- The number of the request. -/
  number : Nat
  /-- The statement of a run; a page has none. -/
  statement : Option String
  /-- What the request gives back. -/
  result : QueryResult

/-- The result that a reaction gives back. -/
def Reaction.given? : Reaction → Option QueryResult
  | .finished (.ok (.result r)) => r
  | _ => none

/-- The number of the request that an entry belongs to: an action is a request when it is
counted as one. -/
def LogEntry.number? (s : Session) : LogEntry → Option Nat
  | .began connected action =>
      let issued := (s.start connected action).1.issued
      if issued = s.issued then none else some issued
  | .answered job _ => job.number?
  | .called _ _ _ => none

/-- The response that an entry brings. -/
def LogEntry.response? (s : Session) (entry : LogEntry) : Option QueryResponse :=
  match entry.number? s, (entry.turn s).2.given? with
  | some number, some r => some ⟨number, entry.statement?, r⟩
  | _, _ => none

/-- Whether an entry puts a result on display. -/
def LogEntry.displays (s : Session) (entry : LogEntry) : Bool :=
  decide ((entry.turn s).1.nextTicket ≠ s.nextTicket)

/-- Whether an entry is a reset. -/
def LogEntry.isReset : LogEntry → Bool
  | .began _ .reset => true
  | _ => false

/-- Two sessions show the same. -/
structure Session.SameView (s s' : Session) : Prop where
  displayed : s'.displayed = s.displayed
  activeStatement : s'.activeStatement = s.activeStatement
  columns : s'.columns = s.columns
  cursors : s'.cursors = s.cursors

section

variable {s : Session} {entry : LogEntry}

theorem response?_of_given_none (h : (entry.turn s).2.given? = none) :
    entry.response? s = none := by
  rw [LogEntry.response?, h]
  split
  · rename_i hnone
    cases hnone
  · rfl

theorem response?_of_number_none (h : entry.number? s = none) : entry.response? s = none := by
  rw [LogEntry.response?, h]

/-- An entry belongs to no request when it counts none and answers none. -/
theorem number?_eq_none (hentry : ∀ job outcome, entry = .answered job outcome → job.number? = none)
    (hissued : (entry.turn s).1.issued = s.issued) : entry.number? s = none := by
  cases entry with
  | began connected action => exact if_pos hissued
  | answered job outcome => exact hentry job outcome rfl
  | called call job outcome => rfl

theorem LogEntry.ChangesRows.number?_eq_none (h : entry.ChangesRows) :
    ∀ job outcome, entry = .answered job outcome → job.number? = none := by
  rintro job outcome rfl
  cases job with
  | insert ticket statement fields => rfl
  | _ => exact absurd h id

/-- The end of a request brings the response with its number. -/
theorem response?_of_endsRequest {number issued : Nat} {r : QueryResult}
    (hends : entry.EndsRequest s number issued) (hissued : (entry.turn s).1.issued = issued)
    (hgiven : (entry.turn s).2.given? = some r) :
    entry.response? s = some ⟨number, entry.statement?, r⟩ := by
  have hnumber : entry.number? s = some number := by
    cases hends with
    | began =>
        rw [LogEntry.turn] at hissued
        rw [LogEntry.number?, hissued, if_neg (Nat.succ_ne_self _)]
    | answered hnumber => exact hnumber
  rw [LogEntry.response?, hnumber, hgiven]

end

/-! ## Accounts -/

/-- What has come of the requests so far. -/
structure Account where
  /-- The session. -/
  session : Session
  /-- The latest request when a run was last applied or a reset last made. -/
  restart : Nat
  /-- The run that was applied last, if no reset followed. -/
  active : Option QueryResponse
  /-- The response that was put on display last, if no reset followed. -/
  shown : Option QueryResponse
  /-- The responses that count, latest first. -/
  counted : List QueryResponse

namespace Account

/-- An account before any request. -/
def initial (s : Session) : Account :=
  ⟨s, s.issued, none, none, []⟩

/-- The responses that count, with a new one if it does. -/
def count (a : Account) (response : QueryResponse) : List QueryResponse :=
  if response.statement.isSome || decide (a.restart < response.number) then
    response :: a.counted
  else a.counted

/-- An account followed through an entry. -/
def follow (a : Account) (entry : LogEntry) : Account :=
  let s := (entry.turn a.session).1
  match entry.response? a.session with
  | none =>
      if entry.isReset then ⟨s, s.issued, none, none, a.counted⟩ else { a with session := s }
  | some response =>
      if entry.displays a.session then
        if response.statement.isSome then
          ⟨s, s.issued, some response, some response, a.count response⟩
        else { a with session := s, shown := some response, counted := a.count response }
      else { a with session := s, counted := a.count response }

/-- The account of a log. -/
def after (s : Session) (log : List LogEntry) : Account :=
  log.foldl follow (initial s)

theorem follow_called (a : Account) (call : StoreCall) (job : Job) (outcome : Outcome) :
    a.follow (.called call job outcome) = a := rfl

/-- Calls change nothing in an account. -/
theorem after_append_turn (s : Session) (log : List LogEntry) (entry : LogEntry)
    (reaction : Reaction) (backend : Backend) :
    after s (log ++ entry :: reaction.entries backend) = (after s log).follow entry := by
  rw [after, List.foldl_append, List.foldl_cons]
  cases reaction with
  | finished answer => rfl
  | calling call job => exact follow_called _ _ _ _

theorem mem_counted_of_mem_count {a : Account} {response other : QueryResponse}
    (h : other ∈ a.count response) : other = response ∨ other ∈ a.counted := by
  unfold count at h
  split at h
  · exact List.mem_cons.mp h
  · exact Or.inr h

/-! ## What an entry does to an account -/

/-- What an entry makes of an account, as long as the cursor stack gives no fault. -/
inductive Follows (a : Account) : LogEntry → Account → Prop
  /-- No request ends, and nothing changes but the history and the count of requests. -/
  | rests {entry : LogEntry} {issued : Nat} {history : History}
      (hissued : a.session.issued ≤ issued) :
      Follows a entry
        { a with session := { a.session with issued := issued, history := history } }
  /-- Rows on display are changed. -/
  | revises {entry : LogEntry} {history : History} (change : Display → QueryResult)
      (hentry : entry.ChangesRows)
      (hchange : ∀ shown : Display, shown.result.Revised (change shown)) :
      Follows a entry
        { a with session := { a.session with
            history := history
            displayed := a.session.displayed.map (fun shown => ⟨shown.ticket, change shown⟩) } }
  /-- A response is dropped. -/
  | drops {entry : LogEntry} {issued : Nat} {history : History} (response : QueryResponse)
      (hends : entry.EndsRequest a.session response.number issued)
      (hstatement : response.statement = entry.statement?)
      (hdropped : a.session.isStale response.number = true ∨ entry.IsLate a.session) :
      Follows a entry
        { a with
          session := { a.session with issued := issued, history := history }
          counted := a.count response }
  /-- A run is applied. -/
  | runs {entry : LogEntry} {issued : Nat} {history : History} {statement : String}
      {command : Option Command} (response : QueryResponse)
      (hends : entry.EndsRequest a.session response.number issued)
      (hstatement : response.statement = some statement)
      (hentry : entry.statement? = some statement)
      (happlied : a.session.isStale response.number = false)
      (hrun : entry.EndsRun command response.result) :
      Follows a entry
        ⟨({ a.session with issued := issued, history := history }.accept
            response.number).showRun statement command response.result,
          issued, some response, some response, a.count response⟩
  /-- A page is entered. -/
  | enters {entry : LogEntry} {issued : Nat} {move : PageMove} {r : QueryResult}
      {cursors : CursorStack} (response : QueryResponse)
      (hends : entry.EndsRequest a.session response.number issued)
      (hstatement : response.statement = none)
      (happlied : a.session.isStale response.number = false)
      (hmove : entry.EndsMove a.session.generation move r) (hread : r.type = .read)
      (hcommit : a.session.cursors.commit move = .ok cursors)
      (hresult : response.result = { r with columns := a.session.columns }) :
      Follows a entry
        { a with
          session := { { a.session with issued := issued }.accept response.number with
            cursors := cursors }.display response.result
          shown := some response
          counted := a.count response }
  /-- The failure of a move is shown. -/
  | fails {entry : LogEntry} {issued : Nat} {move : PageMove} (response : QueryResponse)
      (hends : entry.EndsRequest a.session response.number issued)
      (hstatement : response.statement = none)
      (happlied : a.session.isStale response.number = false)
      (hmove : entry.EndsMove a.session.generation move response.result)
      (hread : response.result.type ≠ .read) :
      Follows a entry
        { a with
          session := ({ a.session with issued := issued }.accept response.number).display
            response.result
          shown := some response
          counted := a.count response }
  /-- The session is reset. -/
  | resets {connected : Bool} :
      Follows a (.began connected .reset)
        ⟨a.session.reset, a.session.issued, none, none, a.counted⟩

/-! ## Every entry does one of these -/

section

variable {a : Account} {entry : LogEntry} {s' : Session} {reaction : Reaction}

/-- Only a reset starts a generation without a response. -/
theorem follow_of_none (hnone : entry.response? a.session = none)
    (hturn : entry.turn a.session = (s', reaction))
    (hgeneration : s'.generation = a.session.generation) :
    a.follow entry = { a with session := s' } := by
  have hreset : entry.isReset = false := by
    cases entry with
    | began connected action =>
        cases action with
        | reset =>
            have hs' : a.session.reset = s' := congrArg Prod.fst hturn
            rw [← hs'] at hgeneration
            exact absurd hgeneration (Nat.succ_ne_self _)
        | _ => rfl
    | _ => rfl
  simp only [follow, hnone, hreset, hturn, Bool.false_eq_true, if_false]

variable {response : QueryResponse}

theorem follow_of_dropped (hresponse : entry.response? a.session = some response)
    (hturn : entry.turn a.session = (s', reaction))
    (hticket : s'.nextTicket = a.session.nextTicket) :
    a.follow entry = { a with session := s', counted := a.count response } := by
  have hdisplays : entry.displays a.session = false := by
    rw [LogEntry.displays, hturn]
    exact decide_eq_false (fun hother => hother hticket)
  simp only [follow, hresponse, hdisplays, hturn, Bool.false_eq_true, if_false]

theorem follow_of_run (hresponse : entry.response? a.session = some response)
    (hturn : entry.turn a.session = (s', reaction))
    (hticket : s'.nextTicket = a.session.nextTicket + 1)
    (hstatement : response.statement.isSome = true) :
    a.follow entry = ⟨s', s'.issued, some response, some response, a.count response⟩ := by
  have hdisplays : entry.displays a.session = true := by
    rw [LogEntry.displays, hturn]
    exact decide_eq_true (hticket ▸ Nat.succ_ne_self _)
  simp only [follow, hresponse, hdisplays, hturn, hstatement, if_true]

theorem follow_of_page (hresponse : entry.response? a.session = some response)
    (hturn : entry.turn a.session = (s', reaction))
    (hticket : s'.nextTicket = a.session.nextTicket + 1) (hstatement : response.statement = none) :
    a.follow entry =
      { a with session := s', shown := some response, counted := a.count response } := by
  have hdisplays : entry.displays a.session = true := by
    rw [LogEntry.displays, hturn]
    exact decide_eq_true (hticket ▸ Nat.succ_ne_self _)
  simp only [follow, hresponse, hdisplays, hturn, hstatement, if_true, Option.isSome_none,
    Bool.false_eq_true, if_false]

end

/-- What an entry makes of an account is one of the listed cases. -/
theorem follows (a : Account) (entry : LogEntry)
    (hsafe : ∀ fault, ¬ a.session.Strays entry fault) : a.Follows entry (a.follow entry) := by
  have htook := a.session.took entry
  generalize hturn : entry.turn a.session = next at htook
  obtain ⟨s', reaction⟩ := next
  have hgiven : ∀ r, reaction.given? = r → (entry.turn a.session).2.given? = r := by
    intro r hr
    rw [hturn]
    exact hr
  have hissued : ∀ issued, s'.issued = issued → (entry.turn a.session).1.issued = issued := by
    intro issued hs'
    rw [hturn]
    exact hs'
  simp only at htook
  cases htook with
  | idles hentry hanswer =>
      have hnumber := number?_eq_none hentry (hissued a.session.issued rfl)
      rw [follow_of_none (response?_of_number_none hnumber) hturn rfl]
      exact .rests (Nat.le_refl _)
  | strays hissued happlied hstrays => exact absurd hstrays (hsafe _)
  | asks hasks hnew =>
      rw [follow_of_none (response?_of_given_none (hgiven none rfl)) hturn rfl]
      exact .rests hnew.issued_le
  | revises change hentry hchange hreaction =>
      have hnumber := number?_eq_none hentry.number?_eq_none (hissued a.session.issued rfl)
      rw [follow_of_none (response?_of_number_none hnumber) hturn rfl]
      exact .revises change hentry hchange
  | @drops _ number issued history r hends hdropped =>
      have hresponse := response?_of_endsRequest hends (hissued issued rfl) (hgiven (some r) rfl)
      rw [follow_of_dropped hresponse hturn rfl]
      exact .drops ⟨number, entry.statement?, r⟩ hends rfl hdropped
  | @runs _ number issued history statement command r hends happlied hstatement hrun =>
      have hresponse := response?_of_endsRequest hends (hissued issued rfl) (hgiven (some r) rfl)
      rw [follow_of_run hresponse hturn rfl (by rw [hstatement]; rfl)]
      exact .runs ⟨number, entry.statement?, r⟩ hends hstatement hstatement happlied hrun
  | @enters _ number issued move r cursors hends happlied hstatement hmove hread hcommit =>
      have hresponse := response?_of_endsRequest hends (hissued issued rfl)
        (hgiven (some { r with columns := a.session.columns }) rfl)
      rw [follow_of_page hresponse hturn rfl hstatement]
      exact .enters ⟨number, entry.statement?, _⟩ hends hstatement happlied hmove hread hcommit rfl
  | @fails _ number issued move r hends happlied hstatement hmove hread =>
      have hresponse := response?_of_endsRequest hends (hissued issued rfl) (hgiven (some r) rfl)
      rw [follow_of_page hresponse hturn rfl hstatement]
      exact .fails ⟨number, entry.statement?, r⟩ hends hstatement happlied hmove hread
  | @resets connected =>
      have hnone : LogEntry.response? a.session (.began connected .reset) = none :=
        response?_of_given_none (hgiven none rfl)
      have hfollow : a.follow (.began connected .reset) =
          ⟨a.session.reset, a.session.issued, none, none, a.counted⟩ := by
        simp only [follow, hnone, LogEntry.isReset, hturn, if_true]
        rfl
      rw [hfollow]
      exact .resets

theorem follow_session (a : Account) (entry : LogEntry) :
    (a.follow entry).session = (entry.turn a.session).1 := by
  simp only [follow]
  split
  · split <;> rfl
  · split
    · split <;> rfl
    · rfl

/-- An entry that makes a call brings no response. -/
theorem follow_of_calling {a : Account} {entry : LogEntry} {call : StoreCall} {job : Job}
    (h : (entry.turn a.session).2 = .calling call job) :
    a.follow entry = { a with session := (entry.turn a.session).1 } := by
  have htook := a.session.took entry
  have hnone : entry.response? a.session = none := by
    apply response?_of_given_none
    rw [h]
    rfl
  generalize hturn : entry.turn a.session = next at htook h
  obtain ⟨s', reaction⟩ := next
  obtain rfl : reaction = .calling call job := h
  have hgeneration : s'.generation = a.session.generation := by
    cases htook with
    | asks => rfl
    | revises => rfl
  exact follow_of_none hnone hturn hgeneration

end Account

/-! ## Accounts along the steps of a console -/

/-- A waiting job as an account knows it. -/
structure Job.Accounted (a : Account) (job : Job) : Prop where
  /-- Its move is admitted. -/
  admitted : job.AdmittedBy a.session
  /-- Its request was issued. -/
  number_le : ∀ number, job.number? = some number → number ≤ a.session.issued
  /-- A page belongs to the current generation when it was asked for after the restart. -/
  generation_iff : ∀ number generation move command,
    job = .page number generation move command →
      (generation = a.session.generation ↔ a.restart < number)

/-- An account is that of a scene. -/
structure Scene.Accounted (x : Scene) (a : Account) : Prop where
  session : a.session = x.session
  sound : a.session.cursors.Sound
  restart_le : a.restart ≤ a.session.issued
  jobs : ∀ call ∈ x.waiting, call.job.Accounted a

/-- A page of an older generation was asked for before the restart. -/
theorem Job.Accounted.restarts {a a' : Account} {job : Job} (h : job.Accounted a)
    (hgrows : a.session.Grows a'.session)
    (hgeneration : a'.session.generation = a.session.generation + 1)
    (hissued : a.session.issued ≤ a'.session.issued) (hrestart : a.session.issued ≤ a'.restart) :
    job.Accounted a' := by
  refine ⟨h.admitted.grows hgrows, fun number hnumber => ?_, ?_⟩
  · exact Nat.le_trans (h.number_le number hnumber) hissued
  · rintro number generation move command rfl
    have hle : generation ≤ a.session.generation := h.admitted.1
    have hnumber : number ≤ a.session.issued := h.number_le number rfl
    constructor
    · intro hsame
      omega
    · intro hafter
      omega

/-- A waiting job goes on being accounted for. -/
theorem Account.Follows.accounted {a a' : Account} {entry : LogEntry} {job : Job}
    (h : a.Follows entry a') (hgrows : a.session.Grows a'.session) (hjob : job.Accounted a) :
    job.Accounted a' := by
  have hkept : a.session.issued ≤ a'.session.issued → a'.restart = a.restart →
      a'.session.generation = a.session.generation → job.Accounted a' := by
    intro hissued hrestart hgeneration
    refine ⟨hjob.admitted.grows hgrows, fun number hnumber => ?_, ?_⟩
    · exact Nat.le_trans (hjob.number_le number hnumber) hissued
    · rw [hrestart, hgeneration]
      exact hjob.generation_iff
  cases h with
  | rests hissued => exact hkept hissued rfl rfl
  | revises => exact hkept (Nat.le_refl _) rfl rfl
  | drops _ hends => exact hkept hends.issued_le rfl rfl
  | runs _ hends => exact hjob.restarts hgrows rfl hends.issued_le hends.issued_le
  | enters _ hends => exact hkept hends.issued_le rfl rfl
  | fails _ hends => exact hkept hends.issued_le rfl rfl
  | resets => exact hjob.restarts hgrows rfl (Nat.le_refl _) (Nat.le_refl _)

theorem Account.Follows.restart_le {a a' : Account} {entry : LogEntry} (h : a.Follows entry a')
    (hrestart : a.restart ≤ a.session.issued) : a'.restart ≤ a'.session.issued := by
  cases h with
  | rests hissued => exact Nat.le_trans hrestart hissued
  | revises => exact hrestart
  | drops _ hends => exact Nat.le_trans hrestart hends.issued_le
  | runs => exact Nat.le_refl _
  | enters _ hends => exact Nat.le_trans hrestart hends.issued_le
  | fails _ hends => exact Nat.le_trans hrestart hends.issued_le
  | resets => exact Nat.le_refl _

/-- A job that a turn leaves waiting is accounted for. -/
theorem Session.Took.accounted {a a' : Account} {entry : LogEntry} {call : StoreCall} {job : Job}
    (h : a.session.Took entry a'.session (.calling call job))
    (hrestart : a'.restart ≤ a.session.issued) (hsound : a.session.cursors.Sound)
    (hentry : ∀ job outcome, entry = .answered job outcome → job.Accounted a) :
    job.Accounted a' := by
  have hadmitted := h.turned.admittedBy hsound
  generalize hs' : a'.session = s' at h
  cases h with
  | @asks _ issued call job hasks hnew =>
      refine ⟨hadmitted, fun number hnumber => ?_, ?_⟩
      · rw [hs']
        cases hasks with
        | run hread =>
            obtain ⟨rfl, rfl⟩ := hnew
            exact Nat.le_of_eq (Option.some.inj hnumber).symm
        | confirm hresult =>
            obtain rfl := hnew
            exact (hentry _ _ rfl).number_le number hnumber
        | page hactive hplans =>
            obtain ⟨rfl, rfl⟩ := hnew
            exact Nat.le_of_eq (Option.some.inj hnumber).symm
        | insert => cases hnumber
      · rintro number generation move command rfl
        obtain ⟨rfl, rfl⟩ := hnew
        cases hasks with
        | page hactive hplans =>
            rw [hs']
            exact iff_of_true rfl (Nat.lt_succ_of_le hrestart)
  | revises change hentry hchange hreaction =>
      rcases hreaction with ⟨answer, hfinished, -⟩ | ⟨call', statement, hcalling⟩
      · cases hfinished
      · cases hcalling
        refine ⟨trivial, fun number hnumber => ?_, ?_⟩
        · cases hnumber
        · rintro number generation move command hpage
          cases hpage

namespace Scene

variable {x : Scene} {a : Account} {admitted : ConsoleEvent → Prop} {entry : LogEntry}
  {action count : Nat} {rest : List Waiting}

theorem Opens.mem_waiting (h : x.Opens admitted entry action rest count) {call : Waiting}
    (hcall : call ∈ rest) : call ∈ x.waiting := by
  cases h with
  | begins => exact hcall
  | answers hwaiting =>
      rw [hwaiting]
      rcases List.mem_append.mp hcall with hfront | hback
      · exact List.mem_append_left _ hfront
      · exact List.mem_append_right _ (List.mem_cons_of_mem _ hback)

/-- A call that waits after a turn was waiting before it, or is made in it. -/
theorem Opens.mem_waiting_turn (h : x.Opens admitted entry action rest count) {call : Waiting}
    (hcall : call ∈ (x.turn entry action rest count).waiting) :
    call ∈ x.waiting ∨ call.action = action ∧ ∃ storeCall,
      (entry.turn x.session).2 = .calling storeCall call.job := by
  rcases List.mem_append.mp hcall with hold | hnew
  · exact Or.inl (h.mem_waiting hold)
  · cases hreaction : (entry.turn x.session).2 with
    | finished answer =>
        rw [hreaction] at hnew
        cases hnew
    | calling storeCall job =>
        rw [hreaction] at hnew
        obtain rfl := List.mem_singleton.mp hnew
        exact Or.inr ⟨rfl, storeCall, rfl⟩

/-- An answer that opens a turn is that of a waiting call. -/
theorem Opens.exists_waiting (h : x.Opens admitted entry action rest count) {job : Job}
    {outcome : Outcome} (hentry : entry = .answered job outcome) :
    ⟨action, job, outcome⟩ ∈ x.waiting := by
  cases h with
  | begins => cases hentry
  | answers hwaiting =>
      cases hentry
      rw [hwaiting]
      exact List.mem_append_right _ List.mem_cons_self

theorem Accounted.answered (h : x.Accounted a) (hopens : x.Opens admitted entry action rest count) :
    ∀ job outcome, entry = .answered job outcome → job.Accounted a :=
  fun _ _ hentry => h.jobs _ (hopens.exists_waiting hentry)

/-- An account is followed through a turn that an entry opens. -/
theorem Accounted.follows (h : x.Accounted a)
    (hopens : x.Opens admitted entry action rest count) : a.Follows entry (a.follow entry) := by
  refine a.follows entry (fun fault => Session.not_strays h.sound ?_)
  intro job outcome hentry
  exact (h.answered hopens job outcome hentry).admitted

/-- The account of a scene is followed through a turn. -/
theorem Accounted.turn (h : x.Accounted a) (hopens : x.Opens admitted entry action rest count) :
    (x.turn entry action rest count).Accounted (a.follow entry) := by
  have hentry := h.answered hopens
  have hfollows := h.follows hopens
  have hsession : (a.follow entry).session = (entry.turn a.session).1 := a.follow_session entry
  have htook := a.session.took entry
  obtain ⟨hsound, hgrows⟩ := htook.turned.sound_grows h.sound
    (fun job outcome heq => (hentry job outcome heq).admitted)
  rw [← hsession] at htook hsound hgrows
  refine ⟨?_, hsound, hfollows.restart_le h.restart_le, fun call hcall => ?_⟩
  · rw [hsession, h.session]
    rfl
  · rcases hopens.mem_waiting_turn hcall with hold | ⟨-, storeCall, hreaction⟩
    · exact hfollows.accounted hgrows (h.jobs call hold)
    · rw [← h.session] at hreaction
      rw [hreaction] at htook
      refine htook.accounted ?_ h.sound hentry
      rw [Account.follow_of_calling hreaction]
      exact h.restart_le

end Scene

/-! ## Along runs -/

/-- Every admitted turn and every admitted exchange keeps what is known of a scene and its
account. -/
structure Account.Keeps (admitted : ConsoleEvent → Prop) (P : Scene → Account → Prop) : Prop where
  turn : ∀ {x : Scene} {a : Account} {entry : LogEntry} {action count : Nat} {rest : List Waiting},
    x.Accounted a → P x a → x.Opens admitted entry action rest count →
      P (x.turn entry action rest count) (a.follow entry)
  exchange : ∀ {x : Scene} {a : Account} {event : ConsoleEvent} {count : Nat},
    P x a → admitted event → x.actions ≤ count →
      P { x with backend := event.exchange x.backend, actions := count } a

theorem Console.gated_fresh (pageSize : Int) (discardStale : Bool) (backend : Backend) :
    (Console.fresh pageSize discardStale backend).Gated :=
  ⟨List.Pairwise.nil, fun call hcall => by cases hcall⟩

theorem Console.gated_after_fresh (pageSize : Int) (discardStale : Bool) (backend : Backend)
    (events : List ConsoleEvent) :
    ((Console.fresh pageSize discardStale backend).after events).Gated :=
  ((Console.gated_fresh pageSize discardStale backend).steps_after
    (fun _ _ => trivial : ∀ event ∈ events, True) []).2

namespace Account.Keeps

variable {admitted : ConsoleEvent → Prop} {P : Scene → Account → Prop}

/-- What every step keeps is kept along steps, and so is the account. -/
theorem steps (h : Keeps admitted P) {x y : Scene} {start : Session}
    (hsteps : Scene.Steps admitted x y) (haccounted : x.Accounted (after start x.log))
    (hx : P x (after start x.log)) :
    y.Accounted (after start y.log) ∧ P y (after start y.log) := by
  refine hsteps.keeps (P := fun z => z.Accounted (after start z.log) ∧ P z (after start z.log))
    ?_ ⟨haccounted, hx⟩
  rintro x y ⟨haccounted, hx⟩ hstep
  cases hstep with
  | @turn entry action rest count hopens =>
      have hlog : after start (x.turn entry action rest count).log =
          (after start x.log).follow entry := by
        rw [← after_append_turn _ _ _ (entry.turn x.session).2 x.backend]
        simp only [Scene.turn, Scene.react, List.append_assoc, List.singleton_append]
      rw [hlog]
      exact ⟨haccounted.turn hopens, h.turn haccounted hx hopens⟩
  | exchange hadmitted hcount =>
      obtain ⟨hsession, hsound, hrestart, hjobs⟩ := haccounted
      exact ⟨⟨hsession, hsound, hrestart, hjobs⟩, h.exchange hx hadmitted hcount⟩

/-- What every step keeps and what holds at the start holds after every row of events. -/
theorem fresh (h : Keeps admitted P) {pageSize : Int} {discardStale : Bool} {backend : Backend}
    {events : List ConsoleEvent} (hevents : ∀ event ∈ events, admitted event)
    (hfresh : P ((Console.fresh pageSize discardStale backend).scene [])
      (initial (.initial pageSize discardStale))) :
    let c := Console.fresh pageSize discardStale backend
    ((c.after events).scene (c.log events)).Accounted
        (after (.initial pageSize discardStale) (c.log events)) ∧
      P ((c.after events).scene (c.log events))
        (after (.initial pageSize discardStale) (c.log events)) := by
  intro c
  have hgated : c.Gated := Console.gated_fresh pageSize discardStale backend
  have haccounted : (c.scene []).Accounted (initial (.initial pageSize discardStale)) :=
    ⟨rfl, CursorStack.sound_initial, Nat.le_refl _, fun call hcall => by cases hcall⟩
  exact h.steps (hgated.steps_after hevents []).1 haccounted hfresh

end Account.Keeps

end DocConsole
