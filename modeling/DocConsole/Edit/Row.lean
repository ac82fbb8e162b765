import DocConsole.Edit.Value
import DocConsole.Intake

/-!
# The form for a new row

A new row is filled in field by field: a name, a text and a type for each.  The form starts with
the columns of the result, the id left out, and always has at least one field.  Fields with a
blank name are passed over.
-/

set_option autoImplicit false

namespace DocConsole

open Text

/-- One field of the form. -/
structure InsertField where
  /-- The name. -/
  key : String
  /-- The text of the value. -/
  value : String
  /-- The type of the value. -/
  type : EditType
  deriving DecidableEq, Repr

namespace InsertField

/-- A field of the given name with nothing filled in. -/
def blank (key : String) : InsertField :=
  ⟨key, "", .string⟩

/-- The form for a result with the given columns. -/
def forColumns (columns : List String) : List InsertField :=
  match (columns.filter (· ≠ "id")).map blank with
  | [] => [blank ""]
  | fields => fields

/-- The field that a record describes; what is not told is left blank. -/
def ofFields (fields : Fields) : Intake InsertField :=
  let key := Intake.optional fields "key" "" Intake.text
  let value := Intake.optional fields "value" "" Intake.text
  let type := Intake.optional fields "type" .string (Intake.oneOf EditType.ofName?)
  (Intake.both key (Intake.both value type)).map (fun (key, value, type) => ⟨key, value, type⟩)

/-- The field that a value describes. -/
def ofValue : Value → Intake InsertField :=
  Intake.record ofFields

/-- The form that a list of values describes: the first value that is no field is a fault. -/
def formOf : List Value → Except Fault (List InsertField)
  | [] => .ok []
  | value :: values =>
      match (ofValue value).orFault, formOf values with
      | .error fault, _ => .error fault
      | .ok _, .error fault => .error fault
      | .ok field, .ok fields => .ok (field :: fields)

/-- The value that a field writes. -/
def read (field : InsertField) : Except Fault Value :=
  match readEdited field.value field.type with
  | .ok value => .ok value
  | .error _ => .error (.badField (trimmed field.key) field.type)

/-- The fields of the new document: the first field that cannot be read is a fault. -/
def payload (fields : List InsertField) : Except Fault Fields :=
  go fields []
where
  /-- The fields added to what was read so far. -/
  go : List InsertField → Fields → Except Fault Fields
    | [], done => .ok done
    | field :: rest, done =>
        if trimmed field.key = "" then go rest done
        else
          match read field with
          | .ok value => go rest (Fields.set done (trimmed field.key) value)
          | .error fault => .error fault

end InsertField

end DocConsole
