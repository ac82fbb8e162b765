import DocConsole.Edit.Value
import DocConsole.Result.Basic

/-!
# Optimistic changes

Changes made from the table of a listing.  An edit shows in the rows before the store has
answered; a new row is put in front once it has an id.  Only a read result with a known collection
can be changed, and never its id column.  Each change has a statement that the history shows for
it.  Main statement: an edit leaves every row of another id as it was.
-/

set_option autoImplicit false

namespace DocConsole

/-! ## What can be changed -/

/-- The collection of a result that can be changed. -/
def editableCollection (result : Option QueryResult) : Except Fault String :=
  match result with
  | none => .error .notEditable
  | some r =>
      match r.type, r.collection with
      | .read, some collection =>
          if collection = "" then .error .notEditable else .ok collection
      | _, _ => .error .notEditable

/-! ## Changes of the rows -/

/-- Whether a row carries an id. -/
def rowHasId (row : Fields) (id : String) : Bool :=
  Fields.get? row "id" == some (.str id)

/-- A row with a field set, if it carries the id. -/
def editRow (id field : String) (value : Value) (row : Fields) : Fields :=
  if rowHasId row id then Fields.set row field value else row

/-- A result with a field set in every row of the id. -/
def QueryResult.edited (result : QueryResult) (id field : String) (value : Value) : QueryResult :=
  { result with rows := result.rows.map (editRow id field value) }

/-- The row of a new document. -/
def newRow (fields : Fields) (id : String) : Fields :=
  Fields.set fields "id" (.str id)

/-- A result with a row in front of all others. -/
def QueryResult.withNewRow (result : QueryResult) (row : Fields) : QueryResult :=
  { result with rows := row :: result.rows }

/-! ## Statements for the history -/

/-- A value in the statement of an edit; a list or record is only hinted at.  In this statement and
in that of a new row no limit is put on the digits of a whole number (see `maxIntegerDigits`). -/
def shownValue : Value → String
  | .arr _ => "JSON \x7b...\x7d"
  | .obj _ => "JSON \x7b...\x7d"
  | .bool b => if b then "true" else "false"
  | .null => "null"
  | value => value.display

/-- The statement that the history shows for an edit. -/
def editStatement (collection id field : String) (value : Value) : String :=
  "UPDATE " ++ collection ++ " SET " ++ field ++ " = " ++ shownValue value ++ " WHERE id = '" ++
    id ++ "' (Inline Edit)"

/-- The statement that the history shows for a new row. -/
def insertStatement (collection : String) (fields : Fields) : String :=
  "INSERT INTO " ++ collection ++ " JSON " ++ Json.write .spaced (.obj fields) ++
    " (Inline Insert)"

theorem editRow_of_other {id field : String} {value : Value} {row : Fields}
    (h : rowHasId row id = false) : editRow id field value row = row := by
  simp [editRow, h]

end DocConsole
