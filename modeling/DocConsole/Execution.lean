import DocConsole.Result.Basic
import DocConsole.Statement.Reader
import DocConsole.Store.Call

/-!
# Executing commands

A command is executed by calls to the store.  Each command starts with one call; only an update
makes a second one, which reads the document back and whose answer does not matter.  Every failure
becomes an error result.
-/

set_option autoImplicit false

namespace DocConsole

/-- What follows the answer to the first call of a command. -/
inductive Progress where
  /-- The result. -/
  | finished (result : QueryResult)
  /-- One more call, after which the result stands whatever the call gives. -/
  | confirming (call : StoreCall) (result : QueryResult)
  deriving DecidableEq

namespace Reply

/-- The page of a listing; an empty one for any other reply. -/
def toPage : Reply → Page
  | .page p => p
  | _ => ⟨[], none⟩

/-- The id of a new document; empty for any other reply. -/
def toId : Reply → String
  | .created id => id
  | _ => ""

end Reply

namespace Command

/-- The call that a command starts with. -/
def firstCall (command : Command) (cursor : Option Value) (pageSize : Int) : StoreCall :=
  match command with
  | .select collection filter => .list collection filter cursor pageSize
  | .insert collection payload => .create collection payload
  | .update collection target payload => .update collection target payload
  | .delete collection target => .delete collection target

/-- The result of a page of documents. -/
def pageResult (collection : String) (page : Page) : QueryResult :=
  readResult collection page.documents (page.next.map Value.str)

/-- The result of a document created. -/
def createdResult (collection id : String) : QueryResult :=
  writeResult collection (some id) "Created"
    ("Document created in '" ++ collection ++ "' with ID: " ++ id)

/-- The result of an update carried out. -/
def updatedResult (collection : String) (target : Option String) : QueryResult :=
  writeResult collection target "Updated"
    ("Document '" ++ shownId target ++ "' updated in '" ++ collection ++ "'")

/-- The result of a deletion carried out. -/
def deletedResult (collection : String) (target : Option String) : QueryResult :=
  writeResult collection target "Deleted"
    ("Document '" ++ shownId target ++ "' deleted from '" ++ collection ++ "'")

/-- What follows a reply to the first call of a command. -/
def afterReply (command : Command) (reply : Reply) : Progress :=
  match command with
  | .select collection _ => .finished (pageResult collection reply.toPage)
  | .insert collection _ => .finished (createdResult collection reply.toId)
  | .update collection target _ =>
      .confirming (.get collection target) (updatedResult collection target)
  | .delete collection target => .finished (deletedResult collection target)

/-- What follows the outcome of the first call of a command. -/
def resume (command : Command) (outcome : Outcome) : Progress :=
  match outcome with
  | .error fault => .finished (errorResult fault.message)
  | .ok reply => command.afterReply reply

/-- The result of a command that makes its calls one after the other, with the calls it made and
the backend after them. -/
def execute (command : Command) (cursor : Option Value) (pageSize : Int) (backend : Backend) :
    QueryResult × List StoreCall × Backend :=
  if backend.connected then
    let call := command.firstCall cursor pageSize
    let (outcome, backend') := backend.perform call
    match command.resume outcome with
    | .finished result => (result, [call], backend')
    | .confirming second result => (result, [call, second], (backend'.perform second).2)
  else (errorResult Fault.notConnected.message, [], backend)

/-- The result of a statement: one that cannot be read is an error result without any call. -/
def executeStatement (statement : String) (cursor : Option Value) (pageSize : Int)
    (backend : Backend) : QueryResult × List StoreCall × Backend :=
  match Command.read statement with
  | .error fault => (errorResult fault.message, [], backend)
  | .ok command => command.execute cursor pageSize backend

end Command

end DocConsole
