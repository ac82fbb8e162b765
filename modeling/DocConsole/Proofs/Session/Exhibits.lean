import DocConsole.Proofs.Edit.Changes
import DocConsole.Proofs.Session.OneQuery

/-!
# Results on display and afterwards

A result goes on being changed after another one has replaced it: the answer to an insertion puts
its row into the result that was on display when the insertion was asked for.  Every result that was
ever on display is kept here at the place of its ticket.  Main statement: after any events the
display is one of them, and every row of a listing among them has the id of a document that was
listed from its collection or created in it.
-/

set_option autoImplicit false

namespace DocConsole

/-! ## Exhibits -/

/-- The results that an entry puts on display: those that get a ticket. -/
def LogEntry.unveils (s : Session) (entry : LogEntry) : List QueryResult :=
  if (entry.leads s).nextTicket = s.nextTicket then [] else (entry.leads s).result.toList

/-- The results that were ever on display, after an entry.  An edit is made in the one on display,
the row of a new document is put into the one that the insertion was made on, and new results are
added at the end. -/
def LogEntry.exhibits (s : Session) (exhibits : List QueryResult) : LogEntry → List QueryResult
  | .began _ (.edit id field value) =>
      match editableCollection s.result, s.displayed with
      | .ok _, some shown =>
          if field = "id" then exhibits
          else exhibits.modify shown.ticket (·.edited id field value)
      | _, _ => exhibits
  | .answered (.insert ticket _ fields) (.ok reply) =>
      exhibits.modify ticket (·.withNewRow (newRow fields reply.toId))
  | entry => exhibits ++ entry.unveils s

/-- A session and the exhibits followed through an entry. -/
def Exhibits.follow (place : Session × List QueryResult) (entry : LogEntry) :
    Session × List QueryResult :=
  (entry.leads place.1, entry.exhibits place.1 place.2)

/-- A session and the exhibits after a log. -/
def exhibited (s : Session) (log : List LogEntry) : Session × List QueryResult :=
  log.foldl Exhibits.follow (s, [])

/-- The exhibits of a console after a row of events. -/
def Console.exhibits (c : Console) (events : List ConsoleEvent) : List QueryResult :=
  (exhibited c.session (c.log events)).2

/-! ## Where ids come from -/

/-- A document of the id was listed from the collection or created in it. -/
inductive Provided (log : List LogEntry) (collection id : String) : Prop
  | listed {filter : Option Filter} {cursor : Option Value} {limit : Int} {job : Job} {page : Page}
      {document : Document}
      (hcalled : .called (.list collection filter cursor limit) job (.ok (.page page)) ∈ log)
      (hdocument : document ∈ page.documents) (hid : document.id = id)
  | created {fields : Fields} {job : Job}
      (hcalled : .called (.create collection fields) job (.ok (.created id)) ∈ log)

/-- The rows carry ids from the collection of the result. -/
def QueryResult.Owned (log : List LogEntry) (r : QueryResult) : Prop :=
  ∃ collection, r.collection = some collection ∧
    ∀ row ∈ r.rows, ∃ id, Fields.get? row "id" = some (.str id) ∧ Provided log collection id

section

variable {log log' : List LogEntry} {collection id : String} {r : QueryResult}

theorem Provided.mono (h : Provided log collection id) (hlog : ∀ entry ∈ log, entry ∈ log') :
    Provided log' collection id := by
  cases h with
  | listed hcalled hdocument hid => exact .listed (hlog _ hcalled) hdocument hid
  | created hcalled => exact .created (hlog _ hcalled)

theorem QueryResult.Owned.mono (h : r.Owned log) (hlog : ∀ entry ∈ log, entry ∈ log') :
    r.Owned log' := by
  obtain ⟨collection, hcollection, hrows⟩ := h
  refine ⟨collection, hcollection, fun row hrow => ?_⟩
  obtain ⟨id, hid, hprovided⟩ := hrows row hrow
  exact ⟨id, hid, hprovided.mono hlog⟩

/-- An edit of another field leaves the ids in their places. -/
theorem QueryResult.Owned.edited (h : r.Owned log) (id : String) {field : String}
    (hfield : field ≠ "id") (value : Value) : (r.edited id field value).Owned log := by
  obtain ⟨collection, hcollection, hrows⟩ := h
  refine ⟨collection, hcollection, fun row' hrow' => ?_⟩
  obtain ⟨row, hrow, rfl⟩ := List.mem_map.mp hrow'
  obtain ⟨own, hown, hprovided⟩ := hrows row hrow
  refine ⟨own, ?_, hprovided⟩
  unfold editRow
  split
  · rw [Fields.get?_set, if_neg hfield.symm]
    exact hown
  · exact hown

/-- A new row carries the id of its document. -/
theorem QueryResult.Owned.withNewRow (h : r.Owned log)
    (hcollection : r.collection = some collection) (hprovided : Provided log collection id)
    (fields : Fields) :
    (r.withNewRow (newRow fields id)).Owned log := by
  obtain ⟨collection', hcollection', hrows⟩ := h
  obtain rfl := Option.some.inj (hcollection.symm.trans hcollection')
  refine ⟨collection, hcollection, fun row hrow => ?_⟩
  rcases List.mem_cons.mp hrow with rfl | hold
  · refine ⟨id, ?_, hprovided⟩
    rw [newRow, Fields.get?_set, if_pos rfl]
  · exact hrows row hold

end

/-- The answer to a command is what the log says: a listing gives documents of its collection. -/
def Command.IsLogged (log : List LogEntry) (command : Command) (outcome : Outcome) : Prop :=
  ∀ collection filter reply, command = .select collection filter → outcome = .ok reply →
    ∃ page, reply = .page page ∧ ∀ d ∈ page.documents, Provided log collection d.id

section

variable {log log' : List LogEntry} {command : Command} {outcome : Outcome}

theorem Command.IsLogged.mono (h : command.IsLogged log outcome)
    (hlog : ∀ entry ∈ log, entry ∈ log') : command.IsLogged log' outcome := by
  intro collection filter reply hcommand houtcome
  obtain ⟨page, hpage, hprovided⟩ := h collection filter reply hcommand houtcome
  exact ⟨page, hpage, fun d hd => (hprovided d hd).mono hlog⟩

/-- A call that was just made is in the log. -/
theorem Command.isLogged_firstCall {backend : Backend} {cursor : Option Value} {size : Int}
    {job : Job} (hcalled : .called (command.firstCall cursor size) job
      (backend.perform (command.firstCall cursor size)).1 ∈ log) :
    command.IsLogged log (backend.perform (command.firstCall cursor size)).1 := by
  rintro collection filter reply rfl houtcome
  obtain ⟨page, rfl⟩ := Backend.exists_page_of_perform_list houtcome
  rw [houtcome] at hcalled
  exact ⟨page, rfl, fun d hd => .listed hcalled hd rfl⟩

/-- A listing that comes from the log shows rows of its collection. -/
theorem Command.IsLogged.owned (h : command.IsLogged log outcome)
    (hread : (command.resume outcome).result.type = .read) :
    (command.resume outcome).result.Owned log := by
  rcases command.resume_cases outcome with herror | ⟨collection, filter, rfl, -, -⟩ | ⟨-, hwrite⟩
  · rw [herror] at hread
    cases hread
  · cases outcome with
    | error fault => cases hread
    | ok reply =>
        obtain ⟨page, rfl, hprovided⟩ := h collection filter reply rfl rfl
        refine ⟨collection, rfl, fun row hrow => ?_⟩
        obtain ⟨d, hd, rfl⟩ := List.mem_map.mp hrow
        exact ⟨d.id, get?_row d, hprovided d hd⟩
  · rw [hwrite] at hread
    cases hread

end

/-! ## Growing exhibits -/

/-- Exhibits stay in their places, and only their rows are changed. -/
def Keeps (exhibits exhibits' : List QueryResult) : Prop :=
  ∀ (ticket : Nat) (r : QueryResult), exhibits[ticket]? = some r →
    ∃ r', exhibits'[ticket]? = some r' ∧ r.Revised r'

theorem keeps_refl (exhibits : List QueryResult) : Keeps exhibits exhibits :=
  fun _ r hr => ⟨r, hr, .refl⟩

theorem keeps_append (exhibits more : List QueryResult) : Keeps exhibits (exhibits ++ more) := by
  intro ticket r hr
  rw [List.getElem?_append_left (List.getElem?_eq_some_iff.mp hr).1]
  exact ⟨r, hr, .refl⟩

theorem keeps_modify {change : QueryResult → QueryResult} (ticket : Nat)
    (exhibits : List QueryResult) (hchange : ∀ r : QueryResult, r.Revised (change r)) :
    Keeps exhibits (exhibits.modify ticket change) := by
  intro other r hr
  by_cases hother : ticket = other
  · subst hother
    exact ⟨change r, by rw [List.getElem?_modify_eq, hr]; rfl, hchange r⟩
  · exact ⟨r, (List.getElem?_modify_ne change exhibits hother).trans hr, .refl⟩

/-- A result is as it was, or it is the one that was changed. -/
theorem mem_or_of_mem_modify {change : QueryResult → QueryResult} {ticket : Nat}
    {exhibits : List QueryResult} {r' : QueryResult} (h : r' ∈ exhibits.modify ticket change) :
    r' ∈ exhibits ∨ ∃ r, exhibits[ticket]? = some r ∧ change r = r' := by
  obtain ⟨other, hother⟩ := List.mem_iff_getElem?.mp h
  by_cases hticket : ticket = other
  · subst hticket
    rw [List.getElem?_modify_eq] at hother
    exact .inr (Option.map_eq_some_iff.mp hother)
  · rw [List.getElem?_modify_ne change exhibits hticket] at hother
    exact .inl (List.mem_iff_getElem?.mpr ⟨other, hother⟩)

/-! ## One turn -/

/-- What is known of a waiting job: a listing is answered from the log, a settled result is none of
a listing, and an insertion adds to the collection of the result that it was made on. -/
def Job.Fits (log : List LogEntry) (exhibits : List QueryResult) : Job → Outcome → Prop
  | .run _ _ command, outcome => command.IsLogged log outcome
  | .settled _ _ _ r, _ => r.type ≠ .read
  | .page _ _ _ command, outcome => command.IsLogged log outcome
  | .edit _, _ => True
  | .insert ticket _ _, outcome => ∃ r collection, exhibits[ticket]? = some r ∧
      r.type = .read ∧ r.collection = some collection ∧
      ∀ reply, outcome = .ok reply → Provided log collection reply.toId

/-- What is known of the entry that opens a turn: an answer fits its job. -/
def LogEntry.Fits (log : List LogEntry) (exhibits : List QueryResult) : LogEntry → Prop
  | .answered job outcome => job.Fits log exhibits outcome
  | _ => True

/-- The display is one of the exhibits, and the listings among them have rows of their own
collections. -/
structure Session.Exhibits (s : Session) (log : List LogEntry) (exhibits : List QueryResult) :
    Prop where
  tickets : exhibits.length = s.nextTicket
  displayed : ∀ shown, s.displayed = some shown → exhibits[shown.ticket]? = some shown.result
  owned : ∀ r ∈ exhibits, r.type = .read → r.Owned log

section

variable {s s' : Session} {log log' : List LogEntry} {exhibits exhibits' : List QueryResult}
  {entry : LogEntry} {reaction : Reaction} {outcome : Outcome}

theorem Job.Fits.mono {job : Job} (h : job.Fits log exhibits outcome)
    (hlog : ∀ entry ∈ log, entry ∈ log') (hkeeps : Keeps exhibits exhibits') :
    job.Fits log' exhibits' outcome := by
  cases job with
  | run number statement command => exact Command.IsLogged.mono h hlog
  | settled number statement command r => exact h
  | page number generation move command => exact Command.IsLogged.mono h hlog
  | edit statement => exact h
  | insert ticket statement fields =>
      obtain ⟨r, collection, hr, htype, hcollection, hprovided⟩ := h
      obtain ⟨r', hr', hrevised⟩ := hkeeps ticket r hr
      obtain ⟨rows, rfl⟩ := hrevised.exists_rows
      exact ⟨_, collection, hr', htype, hcollection,
        fun reply hreply => (hprovided reply hreply).mono hlog⟩

/-- What a turn does to the display that makes no change of rows: it keeps it, clears it, or shows
something new. -/
inductive Session.Unveils (s : Session) (log : List LogEntry) (s' : Session) : Prop
  | keeps (htickets : s'.nextTicket = s.nextTicket)
      (hdisplayed : ∀ shown, s'.displayed = some shown → s.displayed = some shown)
  | shows {r : QueryResult} (htickets : s'.nextTicket = s.nextTicket + 1)
      (hdisplayed : s'.displayed = some ⟨s.nextTicket, r⟩) (howned : r.type = .read → r.Owned log)

/-- The result that ends a run shows rows of its collection. -/
theorem LogEntry.EndsRun.owned {command : Option Command} {r : QueryResult}
    (h : entry.EndsRun command r) (hfits : entry.Fits log exhibits) (hread : r.type = .read) :
    r.Owned log := by
  cases h with
  | unread => cases hread
  | unconnected => cases hread
  | @answered _ _ command outcome _ hresult =>
      have hr : (command.resume outcome).result = r := congrArg Progress.result hresult
      rw [← hr] at hread ⊢
      exact Command.IsLogged.owned hfits hread
  | settled => exact absurd hread hfits

/-- So does the page that ends a move. -/
theorem LogEntry.EndsMove.owned {generation : Nat} {move : PageMove} {r : QueryResult}
    (h : entry.EndsMove generation move r) (hfits : entry.Fits log exhibits)
    (hread : r.type = .read) : r.Owned log := by
  cases h with
  | unconnected => cases hread
  | answered => exact Command.IsLogged.owned hfits hread

theorem Session.Took.unveils (h : s.Took entry s' reaction) (hrows : ¬ entry.ChangesRows)
    (hfits : entry.Fits log exhibits) : s.Unveils log s' := by
  cases h with
  | revises _ hentry => exact absurd hentry hrows
  | runs _ _ _ hrun => exact .shows rfl rfl (hrun.owned hfits)
  | enters _ _ _ hmove => exact .shows rfl rfl (hmove.owned hfits)
  | fails _ _ _ hmove hread => exact .shows rfl rfl (fun h => absurd h hread)
  | resets => exact .keeps rfl (fun shown hshown => by cases hshown)
  | _ => exact .keeps rfl (fun shown hshown => hshown)

theorem LogEntry.unveils_of_keeps (hleads : entry.leads s = s')
    (h : s'.nextTicket = s.nextTicket) : entry.unveils s = [] := by
  rw [unveils, hleads, if_pos h]

/-- A turn without changes of rows adds what it shows to the exhibits. -/
theorem Session.Exhibits.unveils (h : s.Exhibits log exhibits) (hleads : entry.leads s = s')
    (hunveils : s.Unveils log' s') (hlog : ∀ entry ∈ log, entry ∈ log') :
    s'.Exhibits log' (exhibits ++ entry.unveils s) := by
  have howned : ∀ r ∈ exhibits, r.type = .read → r.Owned log' :=
    fun r hr hread => (h.owned r hr hread).mono hlog
  cases hunveils with
  | keeps htickets hdisplayed =>
      rw [LogEntry.unveils_of_keeps hleads htickets, List.append_nil]
      exact ⟨h.tickets.trans htickets.symm,
        fun shown hshown => h.displayed shown (hdisplayed shown hshown), howned⟩
  | @shows r htickets hdisplayed hnew =>
      have hunveiled : entry.unveils s = [r] := by
        rw [LogEntry.unveils, hleads, htickets, if_neg (Nat.succ_ne_self _), Session.result,
          hdisplayed]
        rfl
      rw [hunveiled]
      refine ⟨?_, fun shown hshown => ?_, fun r' hr' hread => ?_⟩
      · rw [List.length_append, h.tickets, htickets, List.length_singleton]
      · rw [hdisplayed] at hshown
        obtain rfl := Option.some.inj hshown
        rw [← h.tickets, List.getElem?_concat_length]
      · rcases List.mem_append.mp hr' with hold | hlast
        · exact howned r' hold hread
        · obtain rfl := List.mem_singleton.mp hlast
          exact hnew hread

/-- A change of the rows of one result is made in the exhibit and, while it is there, on
display. -/
theorem Session.Exhibits.modify (h : s.Exhibits log exhibits) {ticket : Nat}
    {change : QueryResult → QueryResult} (hchange : ∀ r : QueryResult, r.Revised (change r))
    (htickets : s'.nextTicket = s.nextTicket)
    (hdisplayed : s'.displayed = s.displayed.map (fun shown =>
      if shown.ticket = ticket then { shown with result := change shown.result } else shown))
    (howned : ∀ r, exhibits[ticket]? = some r → r.Owned log → (change r).Owned log')
    (hlog : ∀ entry ∈ log, entry ∈ log') :
    s'.Exhibits log' (exhibits.modify ticket change) := by
  refine ⟨?_, fun shown' hshown' => ?_, fun r' hr' hread => ?_⟩
  · rw [List.length_modify, h.tickets, htickets]
  · rw [hdisplayed] at hshown'
    obtain ⟨shown, hshown, rfl⟩ := Option.map_eq_some_iff.mp hshown'
    by_cases hticket : shown.ticket = ticket
    · rw [if_pos hticket, hticket, List.getElem?_modify_eq, ← hticket, h.displayed shown hshown]
      rfl
    · rw [if_neg hticket, List.getElem?_modify_ne _ _ (Ne.symm hticket)]
      exact h.displayed shown hshown
  · rcases mem_or_of_mem_modify hr' with hold | ⟨r, hr, rfl⟩
    · exact (h.owned r' hold hread).mono hlog
    · have hread' : r.type = .read := (hchange r).type.symm.trans hread
      exact howned r hr (h.owned r (List.mem_of_getElem? hr) hread')

/-- A turn in which nothing happens to the display. -/
theorem Session.Exhibits.rests (h : s.Exhibits log exhibits)
    (htickets : s'.nextTicket = s.nextTicket) (hdisplayed : s'.displayed = s.displayed)
    (hlog : ∀ entry ∈ log, entry ∈ log') : s'.Exhibits log' exhibits :=
  ⟨h.tickets.trans htickets.symm, fun shown hshown => h.displayed shown (hdisplayed ▸ hshown),
    fun r hr hread => (h.owned r hr hread).mono hlog⟩

/-- A change that is turned down changes no rows. -/
theorem Session.Rejects.exhibits_eq {action : Action} {kind : Change} {fault : Fault}
    (h : s.Rejects (.ok action) fault)
    (hkind : action.change? = some kind) (connected : Bool) (exhibits : List QueryResult) :
    (LogEntry.began connected action).exhibits s exhibits = exhibits := by
  have hstart := h.start_eq hkind connected
  cases action with
  | edit id field value =>
      cases h with
      | notEditable hnone =>
          rcases s.editableCollection_cases with ⟨hrefused, -⟩ | ⟨shown, collection, hshown⟩
          · simp only [LogEntry.exhibits, hrefused]
          · exact absurd hshown (hnone shown collection)
      | idColumn hshown =>
          simp only [LogEntry.exhibits, hshown.editableCollection_eq, hshown.displayed, if_true]
  | insert fields =>
      have hleads : (LogEntry.began connected (.insert fields)).leads s = s :=
        congrArg Prod.fst hstart
      show exhibits ++ _ = exhibits
      rw [LogEntry.unveils_of_keeps hleads rfl, List.append_nil]
  | _ => cases hkind

/-- An edit is made in the result on display, or nowhere. -/
theorem Session.Exhibits.edit (h : s.Exhibits log exhibits) (connected : Bool)
    (id field : String) (value : Value) (hlog : ∀ entry ∈ log, entry ∈ log') :
    let entry := LogEntry.began connected (.edit id field value)
    (entry.leads s).Exhibits log' (entry.exhibits s exhibits) ∧
      Keeps exhibits (entry.exhibits s exhibits) := by
  intro entry
  have hkind : (Action.edit id field value).change? = some .edit := rfl
  rcases s.takesChange_or_rejects hkind with
    ⟨shown, collection, hshown, hfield⟩ | ⟨fault, hrejects⟩
  · have hchange : ∀ r : QueryResult, r.Revised (r.edited id field value) :=
      fun r => .edited .refl id field value
    have hleads : (entry.leads s).displayed =
        some { shown with result := shown.result.edited id field value } ∧
        (entry.leads s).nextTicket = s.nextTicket := by
      cases connected with
      | true =>
          rw [LogEntry.leads, hshown.start_edit id hfield value]
          exact ⟨rfl, rfl⟩
      | false =>
          rw [LogEntry.leads, hshown.start_edit_unconnected id hfield value,
            hshown.displayed_changed]
          exact ⟨rfl, rfl⟩
    simp only [entry, LogEntry.exhibits, hshown.editableCollection_eq, hshown.displayed,
      if_neg hfield]
    refine ⟨h.modify hchange hleads.2 ?_ ?_ hlog, keeps_modify _ _ hchange⟩
    · rw [hleads.1, hshown.displayed, Option.map_some, if_pos rfl]
    · exact fun r _ howned => (howned.mono hlog).edited id hfield value
  · have hleads : entry.leads s = s := congrArg Prod.fst (hrejects.start_eq hkind connected)
    rw [hleads, hrejects.exhibits_eq hkind connected]
    exact ⟨h.rests rfl rfl hlog, keeps_refl exhibits⟩

/-- The row of a new document goes to the result of the ticket, whether that is on display or
not. -/
theorem Session.Exhibits.insert (h : s.Exhibits log exhibits) {ticket : Nat} {statement : String}
    {fields : Fields} {reply : Reply}
    (hfits : Job.Fits log exhibits (.insert ticket statement fields) (.ok reply))
    (hlog : ∀ entry ∈ log, entry ∈ log') :
    let entry := LogEntry.answered (.insert ticket statement fields) (.ok reply)
    (entry.leads s).Exhibits log' (entry.exhibits s exhibits) ∧
      Keeps exhibits (entry.exhibits s exhibits) := by
  obtain ⟨r, collection, hr, -, hcollection, hprovided⟩ := hfits
  have hchange : ∀ r : QueryResult, r.Revised (r.withNewRow (newRow fields reply.toId)) :=
    fun r => .withNewRow .refl _
  refine ⟨h.modify hchange rfl rfl (fun r' hr' howned => ?_) hlog, keeps_modify _ _ hchange⟩
  obtain rfl := Option.some.inj (hr.symm.trans hr')
  exact (howned.mono hlog).withNewRow hcollection ((hprovided reply rfl).mono hlog) fields

/-- The display is one of the exhibits after every turn. -/
theorem Session.Exhibits.turn (h : s.Exhibits log exhibits) (hfits : entry.Fits log exhibits)
    (hlog : ∀ entry ∈ log, entry ∈ log') :
    (entry.leads s).Exhibits log' (entry.exhibits s exhibits) ∧
      Keeps exhibits (entry.exhibits s exhibits) := by
  have hshows : ¬ entry.ChangesRows → s.Unveils log' (entry.turn s).1 := by
    intro hrows
    have hunveils := (s.took entry).unveils hrows hfits
    cases hunveils with
    | keeps htickets hdisplayed => exact .keeps htickets hdisplayed
    | shows htickets hdisplayed howned =>
        exact .shows htickets hdisplayed fun hread => (howned hread).mono hlog
  cases entry with
  | began connected action =>
      cases action with
      | edit id field value => exact h.edit connected id field value hlog
      | _ => exact ⟨h.unveils rfl (hshows id) hlog, keeps_append _ _⟩
  | answered job outcome =>
      cases job with
      | insert ticket statement fields =>
          cases outcome with
          | ok reply => exact h.insert hfits hlog
          | error fault =>
              refine ⟨h.unveils rfl (.keeps rfl fun shown hshown => hshown) hlog,
                keeps_append _ _⟩
      | _ => exact ⟨h.unveils rfl (hshows id) hlog, keeps_append _ _⟩
  | called call job outcome => exact ⟨h.unveils rfl (hshows id) hlog, keeps_append _ _⟩

end

/-! ## Runs -/

/-- A call is no turn: the exhibits stay as they are. -/
theorem Exhibits.follow_called (place : Session × List QueryResult) (call : StoreCall) (job : Job)
    (outcome : Outcome) : follow place (.called call job outcome) = place := by
  have hnothing : LogEntry.unveils place.1 (.called call job outcome) = [] :=
    LogEntry.unveils_of_keeps rfl rfl
  show (place.1, place.2 ++ _) = place
  rw [hnothing, List.append_nil]

theorem exhibited_append (s : Session) (log more : List LogEntry) :
    exhibited s (log ++ more) = more.foldl Exhibits.follow (exhibited s log) :=
  List.foldl_append

theorem exhibited_append_turn (s : Session) (log : List LogEntry) (entry : LogEntry)
    (reaction : Reaction) (backend : Backend) :
    exhibited s (log ++ entry :: reaction.entries backend) =
      Exhibits.follow (exhibited s log) entry := by
  rw [exhibited_append, List.foldl_cons]
  cases reaction with
  | finished answer => rfl
  | calling call job => exact Exhibits.follow_called _ _ _ _

/-- A new document that was created has an id. -/
theorem Backend.exists_created_of_perform_create {backend : Backend} {collection : String}
    {fields : Fields} {reply : Reply}
    (h : (backend.perform (.create collection fields)).1 = .ok reply) :
    ∃ id, reply = .created id := by
  cases hstore : backend.store with
  | none =>
      simp only [perform, hstore] at h
      split at h <;> cases h
  | some store => exact ⟨_, (perform_create_of_ok hstore h).1⟩

/-- What is known of the exhibits along a run. -/
def Knowledge.exhibits (base : Session) : Knowledge where
  now log s _ := ∃ exhibits, exhibited base log = (s, exhibits) ∧ s.Exhibits log exhibits
  waits log _ _ job outcome := job.Fits log (exhibited base log).2 outcome
  gives _ := True

/-- A new job fits what its call came to. -/
theorem Session.Exhibits.fits {s s' : Session} {log log' : List LogEntry}
    {exhibits : List QueryResult} {entry : LogEntry} {backend : Backend} {call : StoreCall}
    {job : Job} (h : s.Exhibits log exhibits) (hturn : entry.turn s = (s', .calling call job))
    (hcalled : .called call job (backend.perform call).1 ∈ log') :
    job.Fits log' exhibits (backend.perform call).1 := by
  have htook := s.took entry
  rw [hturn] at htook
  cases htook with
  | revises _ _ _ hreaction =>
      rcases hreaction with ⟨answer, hfinished, -⟩ | ⟨call', statement, hcalling⟩
      · cases hfinished
      · cases hcalling
        trivial
  | asks hasks hnew =>
      cases hasks with
      | run hread => exact Command.isLogged_firstCall hcalled
      | confirm hresult =>
          obtain ⟨-, hwrite⟩ := Command.type_of_confirming hresult
          exact fun hread => by rw [hwrite] at hread; cases hread
      | page hactive hplans => exact Command.isLogged_firstCall hcalled
      | @insert ticket collection statement fields =>
          rcases s.editableCollection_cases with ⟨hrefused, -⟩ | ⟨shown, own, hshown⟩
          · simp only [LogEntry.turn, Session.start, Session.startInsert, hrefused] at hturn
            cases congrArg Prod.snd hturn
          · rw [LogEntry.turn, hshown.start_insert] at hturn
            cases congrArg Prod.snd hturn
            refine ⟨shown.result, collection, h.displayed shown hshown.displayed, hshown.reads,
              hshown.about, fun reply hreply => ?_⟩
            rw [hreply] at hcalled
            obtain ⟨id, rfl⟩ := Backend.exists_created_of_perform_create hreply
            exact .created hcalled

/-- A turn keeps what is known of the exhibits. -/
theorem Knowledge.exhibits_passes {base s : Session} {log : List LogEntry} {backend : Backend}
    {entry : LogEntry} (hnow : (exhibits base).now log s backend)
    (hfits : entry.Fits log (exhibited base log).2)
    (hleads : entry.leads s = (entry.turn s).1) :
    (exhibits base).Passes log s backend entry (entry.turn s) := by
  obtain ⟨x, hplace, hexhibits⟩ := hnow
  have hafter := exhibited_append_turn base log entry (entry.turn s).2 backend
  rw [hplace, Exhibits.follow] at hafter
  rw [hplace] at hfits
  have hlog : ∀ old ∈ log, old ∈ log ++ entry :: (entry.turn s).2.entries backend :=
    fun old hold => List.mem_append_left _ hold
  obtain ⟨hnext, hkeeps⟩ := hexhibits.turn hfits hlog
  have hwaits : ∀ job outcome, job.Fits log x outcome → (exhibits base).waits
      (log ++ entry :: (entry.turn s).2.entries backend) (entry.turn s).1
      ((entry.turn s).2.backendAfter backend) job outcome := by
    intro job outcome hjob
    show job.Fits _ (exhibited base _).2 outcome
    rw [hafter]
    exact hjob.mono hlog hkeeps
  refine ⟨⟨_, hleads ▸ hafter, hleads ▸ hnext⟩, fun job outcome hjob => ?_, ?_,
    fun _ _ => trivial⟩
  · have hjob' : job.Fits log (exhibited base log).2 outcome := hjob
    rw [hplace] at hjob'
    exact hwaits job outcome hjob'
  · intro call job hcalling
    have hturn : entry.turn s = ((entry.turn s).1, .calling call job) := by
      rw [← hcalling]
    have hcalled : .called call job (backend.perform call).1 ∈
        log ++ entry :: (entry.turn s).2.entries backend := by
      rw [hcalling]
      exact List.mem_append_right _ (List.mem_cons_of_mem _ (List.mem_singleton.mpr rfl))
    have hjob := hexhibits.fits hturn hcalled
    show job.Fits _ (exhibited base _).2 _
    rw [hafter]
    exact hjob.mono (fun _ hmem => hmem) hkeeps

theorem Knowledge.exhibits_kept (base : Session) : (exhibits base).Kept (fun _ => True) where
  start _ _ _ _ _ hnow := exhibits_passes hnow trivial rfl
  resume _ _ _ _ _ hnow hwaits := exhibits_passes hnow hwaits rfl
  exchange _ _ _ _ _ hnow := ⟨hnow, fun _ _ hwaits => hwaits⟩

/-- The display of a console is one of its exhibits after any events. -/
theorem Console.exhibits_after (pageSize : Int) (discardStale : Bool) (backend : Backend)
    (events : List ConsoleEvent) :
    let c := Console.fresh pageSize discardStale backend
    (exhibited c.session (c.log events)).1 = (c.after events).session ∧
      (c.after events).session.Exhibits (c.log events) (c.exhibits events) := by
  have hfresh : (Knowledge.exhibits (.initial pageSize discardStale)).Holds []
      (Console.fresh pageSize discardStale backend) := by
    refine ⟨⟨[], rfl, rfl, fun shown hshown => ?_, fun r hr => ?_⟩, fun call hcall => ?_⟩
    · cases hshown
    · cases hr
    · cases hcall
  obtain ⟨⟨x, hplace, hexhibits⟩, -⟩ :=
    (Knowledge.exhibits_kept _).after events (fun _ _ => trivial) hfresh
  rw [List.nil_append] at hplace hexhibits
  have hx : (Console.fresh pageSize discardStale backend).exhibits events = x :=
    congrArg Prod.snd hplace
  exact ⟨congrArg Prod.fst hplace, hx ▸ hexhibits⟩

end DocConsole
