import DocConsole.Json.Writer
import DocConsole.Result.Basic

/-!
# Results as comma-separated text

A result as a header line of column names and a line for each row.  Names stand as they are.  A
cell is put in quotes, with its own quotes doubled, when it holds a quote, a comma or a line feed;
a list or record always is.  A result without rows has no text at all.
-/

set_option autoImplicit false

namespace DocConsole.Csv

open Text

/-- The characters of a cell with every quote written twice. -/
def doubleQuotes : List Char → List Char
  | [] => []
  | c :: cs => if c = '"' then '"' :: '"' :: doubleQuotes cs else c :: doubleQuotes cs

/-- A character that makes a cell stand in quotes. -/
def needsQuotes (c : Char) : Bool :=
  c == '"' || c == ',' || c == '\n'

/-- A cell within quotes. -/
def quotedCell (cs : List Char) : List Char :=
  '"' :: doubleQuotes cs ++ ['"']

/-- A cell, within quotes if need be. -/
def cellOf (cs : List Char) : List Char :=
  if cs.any needsQuotes then quotedCell cs else cs

/-- The text of a value in a cell, before any quoting. -/
def cellText : Value → String
  | .null => ""
  | .bool b => if b then "true" else "false"
  | .arr items => Json.write .compact (.arr items)
  | .obj fields => Json.write .compact (.obj fields)
  | value => value.display

/-- A value as a cell. -/
def cell (value : Value) : List Char :=
  match value with
  | .arr _ => quotedCell (cellText value).toList
  | .obj _ => quotedCell (cellText value).toList
  | _ => cellOf (cellText value).toList

/-- The cells of a row, one for each column; a missing field has an empty cell. -/
def rowLine (columns : List String) (row : Fields) : String :=
  joined "," (columns.map (fun column =>
    String.ofList (cell ((Fields.get? row column).getD .null))))

/-- A result as comma-separated text; without rows the empty text. -/
def ofResult (result : QueryResult) : String :=
  if result.rows.isEmpty then ""
  else joined "\n" (joined "," result.columns :: result.rows.map (rowLine result.columns))

/-- The name of the file of an export made on a day. -/
def fileName (day : Day) : String :=
  "query_results_" ++ day.text ++ ".csv"

end DocConsole.Csv
