import DocConsole.Store.Basic
import DocConsole.Text.Pattern

/-!
# Results

The table that a statement leaves behind: its columns and rows, a message, and for a listing the
cursor after its last row.  The columns follow the first document alone.  Main statement: a row
shows the document id whatever the fields say.
-/

set_option autoImplicit false

namespace DocConsole

open Text

/-- What a result is about. -/
inductive ResultType where
  /-- A listing of documents. -/
  | read
  /-- A change of one document. -/
  | write
  /-- A failure. -/
  | error
  deriving DecidableEq, Repr

namespace ResultType

/-- The name of a type. -/
def name : ResultType → String
  | .read => "read"
  | .write => "write"
  | .error => "error"

/-- The type of a name. -/
def ofName? (s : String) : Option ResultType :=
  [read, write, error].find? (fun type => type.name == s)

end ResultType

/-- The table that a statement leaves behind. -/
structure QueryResult where
  /-- What it is about. -/
  type : ResultType
  /-- The names of the columns. -/
  columns : List String
  /-- The rows; one may hold fields that have no column. -/
  rows : List Fields
  /-- What happened, in words. -/
  message : String
  /-- The collection that the rows come from. -/
  collection : Option String
  /-- The cursor after the last row of a listing. -/
  pageCursor : Option Value
  /-- Whether it failed for lack of permission. -/
  permissionDenied : Bool
  deriving DecidableEq

/-- Whether a result is a failure. -/
def QueryResult.isError (result : QueryResult) : Bool :=
  result.type == .error

/-! ## Permission failures -/

/-- The phrases that mark a failure for lack of permission. -/
def permissionPhrases : List (List Char) :=
  ["permission-denied".toList, "permission denied".toList,
   "missing or insufficient permissions".toList, "not authorized".toList]

/-- Whether a message tells of a lack of permission, in any letter case. -/
def isPermissionMessage (message : String) : Bool :=
  let cs := lowered message.toList
  permissionPhrases.any (fun phrase => occursIn phrase cs)

/-! ## Making results -/

/-- The columns of a listing: the id and then the fields of the first document. -/
def columnsOf : List Document → List String
  | [] => ["id"]
  | first :: _ => "id" :: (Fields.names first.fields).filter (· ≠ "id")

/-- The result of a listing. -/
def readResult (collection : String) (documents : List Document) (cursor : Option Value) :
    QueryResult where
  type := .read
  columns := columnsOf documents
  rows := documents.map Document.row
  message := "Fetched " ++ decimalOfNat documents.length ++ " documents from '" ++ collection ++ "'"
  collection := some collection
  pageCursor := if documents.isEmpty then none else cursor
  permissionDenied := false

/-- An id as a value; a missing one is null. -/
def idValue : Option String → Value
  | some id => .str id
  | none => .null

/-- The result of a change of one document. -/
def writeResult (collection : String) (id : Option String) (status message : String) :
    QueryResult where
  type := .write
  columns := ["id", "status"]
  rows := [[("id", idValue id), ("status", .str status)]]
  message := message
  collection := some collection
  pageCursor := none
  permissionDenied := false

/-- The result of a failure with the given message. -/
def errorResult (message : String) : QueryResult :=
  let shown := if message.isEmpty then "Unknown error occurred" else message
  { type := .error, columns := [], rows := [], message := shown, collection := none,
    pageCursor := none, permissionDenied := isPermissionMessage shown }

/-- A row shows the id of its document. -/
theorem get?_row (d : Document) : Fields.get? d.row "id" = some (.str d.id) := by
  simp [Document.row, Fields.get?_set]

end DocConsole
