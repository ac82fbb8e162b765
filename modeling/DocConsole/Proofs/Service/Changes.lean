import DocConsole.Proofs.Edit.Changes
import DocConsole.Proofs.Statement.Failures
import DocConsole.Service.Basic

/-!
# Changes through the service

A request for a change brings its values as texts.  What cannot be read is a fault of the edit and
of nothing else, so that it is denied in the same way as a change that the display does not allow.
Main statement: a change, made directly or by a request, ends in exactly one of three ways, and the
status of the response tells which.
-/

set_option autoImplicit false

namespace DocConsole

/-! ## What cannot be read -/

/-- A text that is not read as its type is a bad edit of that type. -/
theorem readEdited_eq_error {text : String} {type : EditType} {fault : Fault}
    (h : readEdited text type = .error fault) : ∃ problem, fault = .badEdit type problem := by
  cases type with
  | string => cases h
  | boolean => cases h
  | null => cases h
  | json =>
      simp only [readEdited] at h
      split at h
      · cases h
      · exact ⟨_, (Except.error.inj h).symm⟩
  | number =>
      simp only [readEdited, readEditedNumber] at h
      split at h
      · cases h
      · split at h
        · cases h
        · exact ⟨_, (Except.error.inj h).symm⟩
        · exact ⟨_, (Except.error.inj h).symm⟩
        · rename_i hother hread
          obtain ⟨count, rfl, -⟩ := readNumber_eq_error_iff.mp hread
          exact absurd rfl (hother count)

/-- A form that is not read names the field that is to blame. -/
theorem InsertField.payload_eq_error {form : List InsertField} {fault : Fault}
    (h : payload form = .error fault) :
    ∃ field ∈ form, fault = .badField (Text.trimmed field.key) field.type := by
  unfold payload at h
  -- The fields read so far change with every field of the form.
  generalize ([] : Fields) = done at h
  induction form generalizing done with
  | nil => cases h
  | cons field rest ih =>
      have hrest : ∀ done, payload.go rest done = .error fault →
          ∃ field' ∈ field :: rest, fault = .badField (Text.trimmed field'.key) field'.type := by
        intro done h
        obtain ⟨field', hmem, hfault⟩ := ih done h
        exact ⟨field', List.mem_cons_of_mem field hmem, hfault⟩
      simp only [payload.go] at h
      split at h
      · exact hrest _ h
      · split at h
        · exact hrest _ h
        · rename_i hread
          unfold read at hread
          split at hread
          · cases hread
          · refine ⟨field, List.mem_cons_self, ?_⟩
            rw [← Except.error.inj h, ← Except.error.inj hread]

/-! ## Requests for changes -/

/-- The action that a request for a change asks for, unless what it brings is not read; no other
request asks for a change. -/
def Request.change? : Request → Option (Except Fault Action)
  | .editCell document field text type =>
      some ((readEdited text type).map (fun value => .edit document field value))
  | .insertRow form => some ((InsertField.payload form).map .insert)
  | _ => none

/-- The status of a response. -/
def Response.status : Response → Nat
  | .denied denial => denial.status
  | _ => 200

/-- The status that tells how a change ended. -/
def ChangeEnd.status : ChangeEnd → Nat
  | .rejected => 400
  | .failed => 502
  | .done => 200

theorem ChangeEnd.status_injective {ending ending' : ChangeEnd}
    (h : ending.status = ending'.status) : ending = ending' := by
  cases ending <;> cases ending' <;> first | rfl | cases h

namespace Request

variable {request : Request} {requested : Except Fault Action}

/-- What is read is the action of a change, and what is not read is denied as a bad edit. -/
theorem change?_cases (h : request.change? = some requested) :
    (∃ fault, requested = .error fault ∧
        Service.denyChange fault = .ok (.denied (.badEdit fault))) ∨
      ∃ action kind, requested = .ok action ∧ action.change? = some kind := by
  cases request with
  | editCell document field text type =>
      obtain rfl := Option.some.inj h
      cases hread : readEdited text type with
      | error fault =>
          obtain ⟨problem, rfl⟩ := readEdited_eq_error hread
          exact .inl ⟨_, rfl, rfl⟩
      | ok value => exact .inr ⟨_, .edit, rfl, rfl⟩
  | insertRow form =>
      obtain rfl := Option.some.inj h
      cases hread : InsertField.payload form with
      | error fault =>
          obtain ⟨field, -, rfl⟩ := InsertField.payload_eq_error hread
          exact .inl ⟨_, rfl, rfl⟩
      | ok fields => exact .inr ⟨_, .insert, rfl, rfl⟩
  | _ => cases h

theorem handle_of_change (h : request.change? = some requested) (s : Service) (today : Day)
    (offer : StoreOffer) :
    s.handle today offer request = s.withSession (fun session s => s.change session requested) := by
  cases request with
  | editCell document field text type =>
      obtain rfl := Option.some.inj h
      rfl
  | insertRow form =>
      obtain rfl := Option.some.inj h
      rfl
  | _ => cases h

end Request

/-! ## Changes carried through by the service -/

namespace Service

variable {s s' : Service} {session : Session}

theorem session_of_ensure (h : s.ensure = .ok (session, s')) : s'.session = some session := by
  unfold ensure at h
  split at h
  · rename_i hsession
    cases h
    exact hsession
  · split at h
    · cases h
    · cases h
      rfl

/-- The calls that a change makes; what is not read makes none. -/
def changeCalls (s : Service) (session : Session) : Except Fault Action → List StoreCall
  | .error _ => []
  | .ok action => ((Console.initial session s.backend).act action).2.calls

/-- A change carried through by the service ends as it does on a console. -/
theorem exists_changeEnds (hsession : s.session = some session)
    (hreachable : s.backend.Reachable) {request : Request}
    {requested : Except Fault Action} (hrequest : request.change? = some requested) :
    ∃ ending effect, ChangeEnds session s.backend requested ending effect ∧
      s.changeCalls session requested = effect.calls ∧
      (s.change session requested).2 =
        { s with session := some effect.session, backend := effect.backend } ∧
      ∃ response, (s.change session requested).1 = .ok response ∧
        response.status = ending.status := by
  rcases Request.change?_cases hrequest with ⟨fault, rfl, hdenied⟩ | ⟨action, kind, rfl, hkind⟩
  · refine ⟨_, _, .rejected .unread, rfl, ?_, _, hdenied, rfl⟩
    rw [← hsession]
    rfl
  · obtain ⟨ending, effect, hends, hact⟩ :=
      Console.exists_changeEnds (c := .initial session s.backend) rfl hreachable hkind
    have hcalls : s.changeCalls session (.ok action) = effect.calls := by
      rw [changeCalls, hact]
      rfl
    have hcarried : s.act session action = (effect.answer, effect.session,
        { s with session := some effect.session, backend := effect.backend }) := by
      simp only [Service.act, hact]
      rfl
    refine ⟨ending, effect, hends, hcalls, ?_⟩
    simp only [Service.change, hcarried]
    cases hends with
    | rejected hrejects => cases hrejects <;> exact ⟨rfl, _, rfl, rfl⟩
    | editFailed => exact ⟨rfl, _, rfl, rfl⟩
    | insertFailed => exact ⟨rfl, _, rfl, rfl⟩
    | editDone => exact ⟨rfl, _, rfl, rfl⟩
    | insertDone => exact ⟨rfl, _, rfl, rfl⟩

end Service

/-! ## The ways a change ends -/

/-- A change ends in exactly one of three ways.  Whatever is on display, whatever calls fail, and
whether there is an open store or none: made directly, or asked for by a request with any text and
type, it is turned down, the store does not take it, or it is done, and everything that it leaves
behind is as that end says; the status of a response tells the end. -/
theorem change_ends_in_one_way {session : Session} {backend : Backend}
    (hreachable : backend.Reachable) :
    (∀ (c : Console) (action : Action), c.session = session → c.backend = backend →
      c.holding = false → action.change?.isSome = true →
      ∃! ending, ∃ effect, ChangeEnds session backend (.ok action) ending effect ∧
        c.act action = c.leaves effect) ∧
    (∀ (s s' : Service) (today : Day) (offer : StoreOffer) (request : Request)
      (requested : Except Fault Action), s.ensure = .ok (session, s') → s'.backend = backend →
      request.change? = some requested →
      ∃! ending, ∃ effect, ChangeEnds session backend requested ending effect ∧
        s'.changeCalls session requested = effect.calls ∧
        (s.handle today offer request).2 =
          { s' with session := some effect.session, backend := effect.backend } ∧
        ∃ response, (s.handle today offer request).1 = .ok response ∧
          response.status = ending.status) := by
  constructor
  · intro c action hsession hbackend hopen hchange
    subst hsession hbackend
    obtain ⟨kind, hkind⟩ := Option.isSome_iff_exists.mp hchange
    obtain ⟨ending, effect, hends, hact⟩ := Console.exists_changeEnds hopen hreachable hkind
    refine ⟨ending, ⟨effect, hends, hact⟩, ?_⟩
    rintro ending' ⟨effect', hends', hact'⟩
    exact hends.unique hends' (Console.answer_of_leaves (hact'.symm.trans hact))
  · intro s s' today offer request requested hensure hbackend hrequest
    subst hbackend
    have hhandle : s.handle today offer request = s'.change session requested := by
      rw [Request.handle_of_change hrequest, Service.withSession, hensure]
    rw [hhandle]
    obtain ⟨ending, effect, hends, hcalls, hafter, response, hresponse, hstatus⟩ :=
      Service.exists_changeEnds (Service.session_of_ensure hensure) hreachable hrequest
    refine ⟨ending, ⟨effect, hends, hcalls, hafter, response, hresponse, hstatus⟩, ?_⟩
    rintro ending' ⟨-, -, -, -, response', hresponse', hstatus'⟩
    obtain rfl : response' = response := Except.ok.inj (hresponse'.symm.trans hresponse)
    exact ChangeEnd.status_injective (hstatus'.symm.trans hstatus)

/-- A session that shows the one item of a store. -/
def shownItem : Session :=
  (Session.initial 50 true).display (readResult "items" [⟨"a", [("n", .int 1)]⟩] none)

/-- A store with that item, the updates of which are made to fail. -/
def withoutUpdates : Backend :=
  ⟨some (.ofData [("items", [("a", [("n", .int 1)])])]), [("update", "disk full")], .fresh⟩

/-- The store does not take an edit, and the edited row is shown all the same. -/
theorem unsaved_edit_ends_in_one_way :
    (∃! ending, ∃ effect,
      ChangeEnds shownItem withoutUpdates (.ok (.edit "a" "n" (.int 2))) ending effect ∧
        (Console.initial shownItem withoutUpdates).act (.edit "a" "n" (.int 2)) =
          (Console.initial shownItem withoutUpdates).leaves effect) ∧
    (∃! ending, ∃ effect,
      ChangeEnds shownItem withoutUpdates (.ok (.edit "a" "n" (.int 2))) ending effect ∧
        (Service.started shownItem withoutUpdates).changeCalls shownItem
          (.ok (.edit "a" "n" (.int 2))) = effect.calls ∧
        ((Service.started shownItem withoutUpdates).handle ⟨2024, 5, 1⟩ ⟨.empty, []⟩
          (.editCell "a" "n" " 2" .number)).2 =
          { Service.started shownItem withoutUpdates with
            session := some effect.session, backend := effect.backend } ∧
        ∃ response, ((Service.started shownItem withoutUpdates).handle ⟨2024, 5, 1⟩ ⟨.empty, []⟩
          (.editCell "a" "n" " 2" .number)).1 = .ok response ∧
          response.status = ending.status) ∧
    ((Console.initial shownItem withoutUpdates).act (.edit "a" "n" (.int 2))).1.session.result.map
        (·.rows) = some [[("n", .int 2), ("id", .str "a")]] ∧
    ((Service.started shownItem withoutUpdates).handle ⟨2024, 5, 1⟩ ⟨.empty, []⟩
      (.editCell "a" "n" " 2" .number)).1.toOption.map (·.status) = some 502 := by
  have hreachable : withoutUpdates.Reachable := by
    intro store hstore
    obtain rfl := Option.some.inj hstore
    exact .seeded _
  refine ⟨(change_ends_in_one_way hreachable).1 _ _ rfl rfl rfl rfl,
    (change_ends_in_one_way hreachable).2 _ _ _ _ _ _ rfl rfl ?_, ?_, ?_⟩
  · rfl
  · decide +kernel
  · decide +kernel

end DocConsole
