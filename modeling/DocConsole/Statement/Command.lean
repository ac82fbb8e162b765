import DocConsole.Text.Letter
import DocConsole.Value.Basic

/-!
# Commands

What a statement asks for: listing the documents of a collection, optionally with one condition,
or inserting, updating or deleting a document.  Collections and fields have names of a fixed
alphabet.
-/

set_option autoImplicit false

namespace DocConsole

open Text

/-! ## Names -/

/-- A character of a collection name. -/
def isCollectionChar (c : Char) : Bool :=
  isWordAscii c || c == '/' || c == '-'

/-- A character of a field path. -/
def isFieldChar (c : Char) : Bool :=
  isWordAscii c || c == '.'

/-- A collection name: one or more ASCII letters, digits, underscores, slashes and hyphens. -/
def isCollectionName (s : String) : Bool :=
  !s.toList.isEmpty && s.toList.all isCollectionChar

/-- A field path: one or more ASCII letters, digits, underscores and points. -/
def isFieldPath (s : String) : Bool :=
  !s.toList.isEmpty && s.toList.all isFieldChar

/-! ## Conditions -/

/-- How a condition compares a field with its value. -/
inductive Operator where
  /-- The field equals the value. -/
  | equal
  /-- The field is there and differs from the value. -/
  | notEqual
  /-- The field is greater than the value. -/
  | greater
  /-- The field is less than the value. -/
  | less
  /-- The field is greater than or equal to the value. -/
  | greaterOrEqual
  /-- The field is less than or equal to the value. -/
  | lessOrEqual
  /-- The field is a list with an item equal to the value. -/
  | contains
  deriving DecidableEq, Repr

namespace Operator

/-- The symbol of an operator. -/
def symbol : Operator → String
  | .equal => "=="
  | .notEqual => "!="
  | .greater => ">"
  | .less => "<"
  | .greaterOrEqual => ">="
  | .lessOrEqual => "<="
  | .contains => "array-contains"

/-- All operators. -/
def all : List Operator :=
  [.equal, .notEqual, .greater, .less, .greaterOrEqual, .lessOrEqual, .contains]

/-- The operator of a symbol. -/
def ofSymbol? (s : String) : Option Operator :=
  all.find? (fun operator => operator.symbol == s)

/-- The operator of a spelling in a statement: a single equals sign stands for equality too. -/
def ofSpelling? (s : String) : Option Operator :=
  if s = "=" then some .equal else ofSymbol? s

end Operator

/-- A condition on one field of a document. -/
structure Filter where
  /-- The path of the field. -/
  field : String
  /-- How it is compared. -/
  operator : Operator
  /-- What it is compared with. -/
  value : Value
  deriving DecidableEq

/-! ## Commands -/

/-- The kinds of statements. -/
inductive CommandKind where
  /-- List documents. -/
  | select
  /-- Create a document. -/
  | insert
  /-- Change fields of a document. -/
  | update
  /-- Remove a document. -/
  | delete
  deriving DecidableEq, Repr

/-- The keyword of a kind. -/
def CommandKind.keyword : CommandKind → String
  | .select => "SELECT"
  | .insert => "INSERT"
  | .update => "UPDATE"
  | .delete => "DELETE"

/-- What a statement asks for.  The target of a change is missing only in a command that was not
read from a statement.  The names and texts in fields are of whole characters: halves of characters
that a body escapes are replaced when it is read (`Json.joinUnits`). -/
inductive Command where
  /-- List the documents of a collection, those that meet the condition when there is one. -/
  | select (collection : String) (filter : Option Filter)
  /-- Create a document with the given fields. -/
  | insert (collection : String) (payload : Fields)
  /-- Set the given fields of a document. -/
  | update (collection : String) (target : Option String) (payload : Fields)
  /-- Remove a document. -/
  | delete (collection : String) (target : Option String)
  deriving DecidableEq

namespace Command

/-- The kind of a command. -/
def kind : Command → CommandKind
  | .select _ _ => .select
  | .insert _ _ => .insert
  | .update _ _ _ => .update
  | .delete _ _ => .delete

/-- The collection a command is about. -/
def collection : Command → String
  | .select collection _ => collection
  | .insert collection _ => collection
  | .update collection _ _ => collection
  | .delete collection _ => collection

/-- The condition of a listing. -/
def filter? : Command → Option Filter
  | .select _ filter => filter
  | _ => none

/-- The fields that a command writes. -/
def payload? : Command → Option Fields
  | .insert _ payload => some payload
  | .update _ _ payload => some payload
  | _ => none

/-- The id of the document that a command changes. -/
def target? : Command → Option String
  | .update _ target _ => target
  | .delete _ target => target
  | _ => none

end Command

end DocConsole
