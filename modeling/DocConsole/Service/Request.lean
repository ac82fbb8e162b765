import DocConsole.Edit.Row
import DocConsole.Intake

/-!
# Requests

What the service can be asked, and how the body of a request is read.  Every entry of a body is
checked, and all that is wrong with it is told at once.
-/

set_option autoImplicit false

namespace DocConsole

/-- A request to the service. -/
inductive Request where
  /-- Execute a statement. -/
  | query (statement : String)
  /-- Show the page after the current one. -/
  | next
  /-- Show the page before the current one. -/
  | previous
  /-- Set a field of a document to the value of a text. -/
  | editCell (document field text : String) (type : EditType)
  /-- Create a document from the fields of a form. -/
  | insertRow (form : List InsertField)
  /-- The executed statements. -/
  | history
  /-- The display as a file. -/
  | exportFile
  /-- Forget the display, the query and the history. -/
  | logout
  /-- Work on the store of the given settings. -/
  | connect (settings : String)
  deriving DecidableEq

/-- The places where the service takes requests. -/
inductive Endpoint where
  /-- Statements. -/
  | query
  /-- The page after the current one. -/
  | next
  /-- The page before the current one. -/
  | previous
  /-- Cells of the display. -/
  | cells
  /-- Rows of the display. -/
  | rows
  /-- The history. -/
  | history
  /-- The display as a file. -/
  | exportFile
  /-- The session. -/
  | logout
  /-- The connection. -/
  | connect
  deriving DecidableEq, Repr

namespace Endpoint

/-- A text that a body must hold. -/
def requiredText (body : Fields) (name : String) : Intake String :=
  Intake.required body name Intake.text

/-- The edit of a cell that a body describes; without text and type it is the empty text. -/
def readCell (body : Fields) : Intake Request :=
  let text := Intake.optional body "value" "" Intake.text
  let type := Intake.optional body "type" .string (Intake.oneOf EditType.ofName?)
  (Intake.both (requiredText body "document_id")
    (Intake.both (requiredText body "field") (Intake.both text type))).map
    (fun (document, field, text, type) => .editCell document field text type)

/-- The new row that a body describes. -/
def readRow (body : Fields) : Intake Request :=
  (Intake.required body "fields" (Intake.list InsertField.ofValue)).map .insertRow

/-- The request that a body makes at an endpoint. -/
def read (endpoint : Endpoint) (body : Fields) : Intake Request :=
  match endpoint with
  | .query => (requiredText body "statement").map .query
  | .next => .ok .next
  | .previous => .ok .previous
  | .cells => readCell body
  | .rows => readRow body
  | .history => .ok .history
  | .exportFile => .ok .exportFile
  | .logout => .ok .logout
  | .connect => (requiredText body "config").map .connect

end Endpoint

end DocConsole
