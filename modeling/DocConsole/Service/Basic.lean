import DocConsole.Service.Request
import DocConsole.Session.Console
import DocConsole.Settings.Basic

/-!
# The service

One session that is shared by all requests.  It is started by the first request that needs it,
with the settings of the environment.  Requests are answered one after the other.  Connecting
exchanges the store only after the new one has given a sign of life; every store that goes out of
use is closed.  Main statement: settings that are refused change nothing.
-/

set_option autoImplicit false

namespace DocConsole

/-! ## Responses -/

/-- Why a request is turned down. -/
inductive Denial where
  /-- The edit cannot be made. -/
  | badEdit (fault : Fault)
  /-- The store did not take the change. -/
  | writeFailed (fault : Fault)
  /-- The settings cannot be used. -/
  | badSettings (fault : Fault)
  /-- The store of the settings does not answer. -/
  | unreachable (reason : String)
  /-- There is nothing to export. -/
  | noRows
  deriving DecidableEq

namespace Denial

/-- The status of a denial. -/
def status : Denial → Nat
  | .badEdit _ => 400
  | .writeFailed _ => 502
  | .badSettings _ => 422
  | .unreachable _ => 502
  | .noRows => 404

/-- The wording of a denial. -/
def detail : Denial → String
  | .badEdit fault => fault.message
  | .writeFailed fault => fault.message
  | .badSettings fault => fault.message
  | .unreachable reason => "Could not connect to database: " ++ reason
  | .noRows => "No rows to export"

end Denial

/-- What the service answers. -/
inductive Response where
  /-- The display and the current page. -/
  | display (result : Option QueryResult) (page : Int)
  /-- The executed statements, latest first. -/
  | history (entries : List HistoryEntry)
  /-- A file of comma-separated text. -/
  | file (name content : String)
  /-- The request is turned down. -/
  | denied (denial : Denial)
  deriving DecidableEq

/-- The type of an exported file. -/
def exportType : String := "text/csv; charset=utf-8"

/-- What is to be done with an exported file. -/
def exportDisposition (name : String) : String :=
  "attachment; filename=\"" ++ name ++ "\""

/-! ## The service -/

/-- The shared session and its store. -/
structure Service where
  /-- The variables of the environment. -/
  environment : List (String × String)
  /-- The session, once it is started. -/
  session : Option Session
  /-- The store with its failures and ids. -/
  backend : Backend
  /-- The stores that went out of use. -/
  retired : List Store

/-- A store that can be connected, with its failing calls. -/
structure StoreOffer where
  /-- The store. -/
  store : Store
  /-- Its failing calls with their messages. -/
  failures : List (String × String)

namespace Service

/-- A service that has a session on a store from the start. -/
def started (session : Session) (backend : Backend) : Service :=
  ⟨[], some session, backend, []⟩

/-- A service that has no session yet. -/
def waiting (environment : List (String × String)) (ids : IdSupply) : Service :=
  ⟨environment, none, ⟨none, [], ids⟩, []⟩

/-- Whether there is an open store; nothing can be said before there is a session. -/
def connected (s : Service) : Option Bool :=
  s.session.map (fun _ => s.backend.connected)

/-- The failing calls of the store exchanged. -/
def withFailures (s : Service) (failures : List (String × String)) : Service :=
  { s with backend := { s.backend with failures := failures } }

/-- The result on display. -/
def result (s : Service) : Option QueryResult :=
  s.session.bind Session.result

/-- The session with the service that has it; it is started on an empty store if need be. -/
def ensure (s : Service) : Except Fault (Session × Service) :=
  match s.session with
  | some session => .ok (session, s)
  | none =>
      match Settings.ofEnvironment s.environment with
      | .error fault => .error fault
      | .ok settings =>
          let session := Session.initial settings.pageSize settings.discardStale
          .ok (session, { s with
            session := some session
            backend := { s.backend with store := some .empty } })

/-! ## Actions -/

/-- An action of the session carried through to its end. -/
def act (s : Service) (session : Session) (action : Action) :
    Except Fault Answer × Session × Service :=
  let (console, report) := (Console.initial session s.backend).act action
  let answer := match report.finished with
    | (_, answer) :: _ => answer
    | [] => .ok .nothing
  (answer, console.session,
    { s with session := some console.session, backend := console.backend })

/-- The display of a session. -/
def shown (session : Session) : Response :=
  .display session.result session.page

/-- An action, after which the display is answered. -/
def display (s : Service) (session : Session) (action : Action) :
    Except Fault Response × Service :=
  match s.act session action with
  | (.ok _, session, s) => (.ok (shown session), s)
  | (.error fault, _, s) => (.error fault, s)

/-- The answer to a change that did not succeed. -/
def denyChange (fault : Fault) : Except Fault Response :=
  match fault with
  | .changeFailed _ _ => .ok (.denied (.writeFailed fault))
  | .notEditable => .ok (.denied (.badEdit fault))
  | .idNotEditable => .ok (.denied (.badEdit fault))
  | .badEdit _ _ => .ok (.denied (.badEdit fault))
  | .badField _ _ => .ok (.denied (.badEdit fault))
  | fault => .error fault

/-- A change of the display; `action` tells the action, unless what is written cannot be read. -/
def change (s : Service) (session : Session) (action : Except Fault Action) :
    Except Fault Response × Service :=
  match action with
  | .error fault => (denyChange fault, s)
  | .ok action =>
      match s.act session action with
      | (.ok _, session, s) => (.ok (shown session), s)
      | (.error fault, _, s) => (denyChange fault, s)

/-- The display as a file of the given day. -/
def exportFile (session : Session) (today : Day) : Response :=
  let content := session.exportText
  if content = "" then .denied .noRows else .file (Csv.fileName today) content

/-! ## Connecting -/

/-- A store taken into use in the place of the current one, which is closed; the session starts
over. -/
def adopt (s : Service) (session : Session) (offer : StoreOffer) : Response × Service :=
  let session := session.reset
  (shown session, { s with
    session := some session
    backend := { s.backend with store := some offer.store, failures := offer.failures }
    retired := s.retired ++ (s.backend.store.map Store.close).toList })

/-- A store that gives no sign of life, closed. -/
def turnAway (s : Service) (offer : StoreOffer) : Service :=
  { s with retired := s.retired ++ [offer.store.close] }

/-- The store of the given settings taken into use, if they can be used and it answers. -/
def connect (s : Service) (settings : String) (offer : StoreOffer) :
    Except Fault Response × Service :=
  match Settings.ofJson settings with
  | .error fault => (.ok (.denied (.badSettings fault)), s)
  | .ok _ =>
      let probe : Backend := ⟨some offer.store, offer.failures, s.backend.ids⟩
      match (probe.perform .ping).1 with
      | .error fault => (.ok (.denied (.unreachable fault.message)), s.turnAway offer)
      | .ok _ =>
          match s.ensure with
          | .error fault => (.error fault, s)
          | .ok (session, s) =>
              let (response, s) := s.adopt session offer
              (.ok response, s)

/-! ## Requests -/

/-- What is done with the session, which is started if need be. -/
def withSession (s : Service) (use : Session → Service → Except Fault Response × Service) :
    Except Fault Response × Service :=
  match s.ensure with
  | .error fault => (.error fault, s)
  | .ok (session, s) => use session s

/-- A request; `offer` is the store that settings would give access to. -/
def handle (s : Service) (today : Day) (offer : StoreOffer) :
    Request → Except Fault Response × Service
  | .query statement => s.withSession (fun session s => s.display session (.run statement))
  | .next => s.withSession (fun session s => s.display session .nextPage)
  | .previous => s.withSession (fun session s => s.display session .previousPage)
  | .editCell document field text type => s.withSession (fun session s =>
      s.change session ((readEdited text type).map (fun value => .edit document field value)))
  | .insertRow form => s.withSession (fun session s =>
      s.change session ((InsertField.payload form).map .insert))
  | .history => s.withSession (fun session s => (.ok (.history session.history.newestFirst), s))
  | .exportFile => s.withSession (fun session s => (.ok (exportFile session today), s))
  | .logout => s.withSession (fun session s => s.display session .reset)
  | .connect settings => s.connect settings offer

/-- Settings that are refused change nothing. -/
theorem connect_of_bad_settings {s : Service} {settings : String} {offer : StoreOffer}
    {fault : Fault} (h : Settings.ofJson settings = .error fault) :
    s.connect settings offer = (.ok (.denied (.badSettings fault)), s) := by
  simp [connect, h]

end Service

end DocConsole
