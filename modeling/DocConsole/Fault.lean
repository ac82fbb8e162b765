import DocConsole.Json.Reader
import DocConsole.Statement.Command
import DocConsole.Text.Joined
import DocConsole.Text.Quoted

/-!
# Faults

Everything that can go wrong, by cause, with the wording that a user sees.
-/

set_option autoImplicit false

namespace DocConsole

open Text

/-! ## Data of the wrong form -/

/-- A rule that data from outside can break. -/
inductive Rule where
  /-- A required entry is there. -/
  | required
  /-- The entry is a text. -/
  | isText
  /-- The text has the form of a name. -/
  | isName
  /-- The text is one of a fixed set. -/
  | isOneOf
  /-- The entry is a list. -/
  | isList
  /-- The entry is a record. -/
  | isRecord
  /-- The number is greater than its bound. -/
  | isGreater
  /-- A number without a fractional part. -/
  | isWhole
  /-- The text writes a whole number. -/
  | writesInteger
  /-- The text writes a whole number that is not too long. -/
  | writesShortInteger
  /-- The entry is a number. -/
  | isInteger
  /-- The number is finite. -/
  | isFinite
  /-- The entry can be read as a truth value. -/
  | writesBool
  /-- The entry is a truth value. -/
  | isBool
  /-- The entry is never changed. -/
  | isFixed
  deriving DecidableEq, Repr

/-- A step on the way to an entry. -/
inductive PathStep where
  /-- The entry of a name. -/
  | name (s : String)
  /-- The entry at an index. -/
  | index (n : Nat)
  deriving DecidableEq, Repr

/-- A rule that is broken, with the way to the entry that breaks it. -/
structure Violation where
  /-- The way to the entry. -/
  path : List PathStep
  /-- The rule. -/
  rule : Rule
  deriving DecidableEq, Repr

/-- A rule broken by the entry of the given name. -/
def Violation.at (name : String) (rule : Rule) : Violation :=
  ⟨[.name name], rule⟩

/-! ## Edit types -/

/-- The types that an edited value can be given. -/
inductive EditType where
  /-- The text as it is. -/
  | string
  /-- A decimal number. -/
  | number
  /-- A truth value. -/
  | boolean
  /-- A JSON text. -/
  | json
  /-- The empty value. -/
  | null
  deriving DecidableEq, Repr

namespace EditType

/-- The name of a type. -/
def name : EditType → String
  | .string => "string"
  | .number => "number"
  | .boolean => "boolean"
  | .json => "json"
  | .null => "null"

/-- All types. -/
def all : List EditType :=
  [.string, .number, .boolean, .json, .null]

/-- The type of a name. -/
def ofName? (s : String) : Option EditType :=
  all.find? (fun type => type.name == s)

end EditType

/-- Why a text is no value of its edit type. -/
inductive EditProblem where
  /-- It is no finite decimal number. -/
  | notDecimal (text : String)
  /-- It is a whole number with more digits than are allowed. -/
  | tooManyDigits (count : Nat)
  /-- It is not read as JSON. -/
  | notJson (refusal : Json.Refusal)
  deriving DecidableEq, Repr

/-- The wording of an edit problem. -/
def EditProblem.message : EditProblem → String
  | .notDecimal text => "not a finite decimal number: " ++ quoted text
  | .tooManyDigits count => Json.tooManyDigitsMessage count
  | .notJson refusal => refusal.message

/-! ## Faults -/

/-- What an optimistic change tried to do. -/
inductive Change where
  /-- Set a field of a document. -/
  | edit
  /-- Create a document. -/
  | insert
  deriving DecidableEq, Repr

/-- Everything that can go wrong. -/
inductive Fault where
  /-- The statement has none of the known shapes. -/
  | unrecognized
  /-- The body of a statement is no strict JSON text. -/
  | bodyNotJson (kind : CommandKind)
  /-- The body of a statement is no record. -/
  | bodyNotRecord (kind : CommandKind)
  /-- A condition uses an operator that does not exist. -/
  | unknownOperator (spelling : String)
  /-- A whole number has more digits than are allowed. -/
  | tooManyDigits (count : Nat)
  /-- Data does not have the form it should have. -/
  | invalid (violations : List Violation)
  /-- There is no open store. -/
  | notConnected
  /-- The document to update does not exist. -/
  | noDocument (collection : String) (id : Option String)
  /-- The store reports a failure. -/
  | storeFailure (message : String)
  /-- A page beyond the known ones was entered. -/
  | pageGap (page : Int) (known : Nat)
  /-- There is no read result to change. -/
  | notEditable
  /-- The id of a document cannot be edited. -/
  | idNotEditable
  /-- No cell is open in the editor. -/
  | noOpenCell
  /-- There is no edit type of that name. -/
  | unknownEditType (name : String)
  /-- A text is no value of its edit type. -/
  | badEdit (type : EditType) (problem : EditProblem)
  /-- The text of a field of a new row is no value of its edit type. -/
  | badField (key : String) (type : EditType)
  /-- A value cannot be written as JSON. -/
  | notWritable (typeName : String)
  /-- The store refused an optimistic change, for the reason given. -/
  | changeFailed (change : Change) (reason : String)
  /-- The settings are no JSON text. -/
  | settingsNotJson
  /-- The settings are no record. -/
  | settingsNotRecord
  /-- The settings lack one of the entries that must be there. -/
  | settingsIncomplete
  /-- The settings have entries of the wrong form. -/
  | settingsInvalid (violations : List Violation)
  /-- A text does not write a whole number. -/
  | badInteger (text : String)
  /-- A stored document has no id. -/
  | noStoredId
  /-- The universal time of a moment lies before the calendar. -/
  | dateOutOfRange
  /-- Nothing is recorded at a place that was asked for. -/
  | indexOutOfRange
  deriving DecidableEq, Repr

/-- An id as messages show it: a missing one is `None`. -/
def shownId : Option String → String
  | none => "None"
  | some id => id

namespace Fault

/-- How many characters of a text that writes no whole number are shown. -/
def shownLength : Nat := 200

/-- A list of broken rules in words.  The words that a checking library finds for a broken rule are
not part of this library: the ways to the entries stand in their place, in the order of the list. -/
def describe (violations : List Violation) : String :=
  joined "; " (violations.map (fun v => joined "." (v.path.map (fun
    | .name s => s
    | .index n => decimalOfNat n)) ++ ": not valid"))

/-- The wording of a fault. -/
def message : Fault → String
  | .unrecognized =>
      "Syntax error: Query not recognized. " ++
        "Use SELECT, INSERT, UPDATE, or DELETE with supported syntax."
  | .bodyNotJson kind => "Invalid JSON in " ++ kind.keyword ++ " statement."
  | .bodyNotRecord kind =>
      "Invalid JSON in " ++ kind.keyword ++ " statement: expected an object."
  | .unknownOperator spelling => quoted spelling
  | .tooManyDigits count => Json.tooManyDigitsMessage count
  | .invalid violations => describe violations
  | .notConnected => "Database not connected"
  | .noDocument collection id => "No document to update: " ++ collection ++ "/" ++ shownId id
  | .storeFailure text => text
  | .pageGap page known =>
      "cannot enter page " ++ decimalOfInt page ++ " from " ++ decimalOfNat known ++
        " known pages"
  | .notEditable => "Editing requires a read result with a known collection"
  | .idNotEditable => "The id column cannot be edited"
  | .noOpenCell => "No cell is being edited"
  | .unknownEditType name => quoted name ++ " is not a valid EditType"
  | .badEdit type problem => "Invalid " ++ type.name ++ " format: " ++ problem.message
  | .badField key type =>
      "Error parsing field '" ++ key ++ "': Invalid " ++ type.name ++ " format."
  | .notWritable typeName => "Object of type " ++ typeName ++ " is not JSON serializable"
  | .changeFailed .edit reason => "Failed to save changes: " ++ reason
  | .changeFailed .insert reason => "Failed to insert document: " ++ reason
  | .settingsNotJson => "Invalid JSON"
  | .settingsNotRecord => "Config must be a JSON object"
  | .settingsIncomplete => "Config must contain at least 'mongo_uri' and 'database_name'"
  | .settingsInvalid violations => describe violations
  | .badInteger text =>
      "invalid literal for int() with base 10: " ++
        String.ofList ((quoted text).toList.take shownLength)
  | .noStoredId => quoted "_id"
  | .dateOutOfRange => "date value out of range"
  | .indexOutOfRange => "list index out of range"

end Fault

end DocConsole
