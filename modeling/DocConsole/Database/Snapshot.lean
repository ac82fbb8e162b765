import DocConsole.Database.Bson
import DocConsole.Database.Query
import DocConsole.Store.Call

/-!
# A database as a store

The calls of a store turned into calls of a database, and the answers of the database turned into
replies.  The database is a snapshot: its documents never change, it gives them out in order
whatever a query asks for, and it looks up only ids.  Every call to it is told, and a closed store
makes none.
-/

set_option autoImplicit false

namespace DocConsole

/-! ## Calls of a database -/

/-- A call to a database. -/
inductive DatabaseCall where
  /-- A database or collection opened by its name. -/
  | openNamed (name : String)
  /-- A command. -/
  | command (name : String)
  /-- The documents of a filter document. -/
  | find (query : Fields)
  /-- Documents ordered by a field, ascending. -/
  | sort (field : String)
  /-- At most so many documents. -/
  | limit (count : Int)
  /-- So many documents taken. -/
  | take (count : Int)
  /-- One document of a filter document, with only the fields of a projection if there is one. -/
  | findOne (query : Fields) (projection : Option Fields)
  /-- A document inserted. -/
  | insertOne (document : Fields)
  /-- A document updated. -/
  | updateOne (query update : Fields)
  /-- A document removed. -/
  | deleteOne (query : Fields)
  /-- The connection closed. -/
  | close
  deriving DecidableEq

/-- A document as a database keeps it: names with their values, in order. -/
abbrev StoredDocument := List (String × Bson)

namespace StoredDocument

/-- The id under which the database keeps a document. -/
def id? (d : StoredDocument) : Option Bson :=
  d.lookup storedIdField

/-- A document of the database as a document of a store. -/
def toDocument (d : StoredDocument) : Except Fault Document :=
  match id? d with
  | none => .error .noStoredId
  | some id =>
      let fields := d.filter (fun field => field.1 ≠ storedIdField)
      if Bson.fieldsHavePlain fields then .ok ⟨id.display, Bson.toPlainFields fields⟩
      else .error .dateOutOfRange

/-- All documents, unless one has no id. -/
def toDocuments : List StoredDocument → Except Fault (List Document)
  | [] => .ok []
  | d :: ds =>
      match toDocument d, toDocuments ds with
      | .error fault, _ => .error fault
      | .ok _, .error fault => .error fault
      | .ok document, .ok documents => .ok (document :: documents)

/-- Whether a document is kept under an id.  Only texts and object ids are looked up. -/
def hasId (id : Value) (d : StoredDocument) : Bool :=
  match id, id? d with
  | .str wanted, some (.str found) => wanted == found
  | .objectId wanted, some (.objectId found) => wanted == found
  | _, _ => false

end StoredDocument

/-! ## The snapshot -/

/-- A database that is used as a store. -/
structure Snapshot where
  /-- What its library takes for an object id. -/
  reading : ObjectId.Reading
  /-- Its documents in order. -/
  documents : List StoredDocument
  /-- How many documents were inserted. -/
  inserted : Nat
  /-- Whether calls are still answered. -/
  isOpen : Bool

/-- What a call comes to: the outcome, the calls made to the database, and the database. -/
structure DatabaseAnswer where
  /-- The outcome. -/
  outcome : Outcome
  /-- The calls made. -/
  calls : List DatabaseCall
  /-- The database after them. -/
  snapshot : Snapshot

namespace Snapshot

/-- A database just opened. -/
def ofDocuments (reading : ObjectId.Reading) (documents : List StoredDocument) : Snapshot :=
  ⟨reading, documents, 0, true⟩

/-- The first documents, as many as the limit says; a limit below zero leaves out as many at the
end. -/
def firstDocuments (s : Snapshot) (limit : Int) : List StoredDocument :=
  if limit < 0 then s.documents.take (s.documents.length - limit.natAbs)
  else s.documents.take limit.toNat

/-- The document kept under an id. -/
def find? (s : Snapshot) (id : String) : Option StoredDocument :=
  s.documents.find? (StoredDocument.hasId ((Value.str id).asStoredId s.reading))

/-- The id of an inserted document: its own, or the object id of its number. -/
def insertedId (number : Nat) (fields : Fields) : String :=
  match Fields.get? fields storedIdField with
  | some id => id.display
  | none => ObjectId.numbered number

/-- A page of a listing. -/
def list (s : Snapshot) (collection : String) (filter : Option Filter) (cursor : Option Value)
    (limit : Int) : DatabaseAnswer where
  outcome := (StoredDocument.toDocuments (s.firstDocuments limit)).map (fun ds => .page (.of ds))
  calls := [.openNamed collection, .find (listingQuery s.reading filter cursor),
    .sort storedIdField, .limit limit, .take limit]
  snapshot := s

/-- The outcome of a change of a document that must be there. -/
def changed (s : Snapshot) (collection id : String) : Outcome :=
  if (s.find? id).isSome then .ok .done else .error (.noDocument collection (some id))

/-- Fields of a document set; without fields the document is only looked up. -/
def update (s : Snapshot) (collection id : String) (fields : Fields) : DatabaseAnswer where
  outcome := s.changed collection id
  calls := [.openNamed collection,
    if fields.isEmpty then .findOne (idQuery s.reading id) (some [(storedIdField, .int 1)])
    else .updateOne (idQuery s.reading id) [("$set", .obj fields)]]
  snapshot := s

/-- A document read. -/
def get (s : Snapshot) (collection id : String) : DatabaseAnswer where
  outcome := match s.find? id with
    | none => .ok (.found none)
    | some d => (StoredDocument.toDocument d).map (fun document => .found (some document))
  calls := [.openNamed collection, .findOne (idQuery s.reading id) none]
  snapshot := s

/-- What a call of an open store comes to. -/
def answer (s : Snapshot) : StoreCall → DatabaseAnswer
  | .list collection filter cursor limit => s.list collection filter cursor limit
  | .create collection fields =>
      ⟨.ok (.created (insertedId (s.inserted + 1) fields)),
        [.openNamed collection, .insertOne fields], { s with inserted := s.inserted + 1 }⟩
  | .update collection id fields => s.update collection (shownId id) fields
  | .delete collection id =>
      ⟨.ok .done, [.openNamed collection, .deleteOne (idQuery s.reading (shownId id))], s⟩
  | .get collection id => s.get collection (shownId id)
  | .ping => ⟨.ok .done, [.command "ping"], s⟩

/-- What a call of a store comes to; a closed one is not connected. -/
def perform (s : Snapshot) (call : StoreCall) : DatabaseAnswer :=
  if s.isOpen then s.answer call else ⟨.error .notConnected, [], s⟩

/-- The store closed, with the calls that takes: none when it already is. -/
def close (s : Snapshot) : List DatabaseCall × Snapshot :=
  if s.isOpen then ([.close], { s with isOpen := false }) else ([], s)

end Snapshot

end DocConsole
