import DocConsole.Literal

/-!
# Edited values

A value is edited as text together with a type.  The type and the first text come from the value
that is there; the text is read back by the rules of the type.  An empty number is zero, and a
truth value is true only for the word true, in any letter case.  A null value is edited as nothing
and read back as null whatever the text.
-/

set_option autoImplicit false

namespace DocConsole

open Text

/-- The type and the text with which a value is first shown to be edited.  A whole number is shown
whatever its length, and beyond `maxIntegerDigits` digits it is not read back. -/
def editTextOf : Value → Except Fault (EditType × String)
  | .null => .ok (.null, "")
  | .bool b => .ok (.boolean, if b then "true" else "false")
  | .int n => .ok (.number, (Value.int n).display)
  | .float x => .ok (.number, (Value.float x).display)
  | .arr items => nested (.arr items)
  | .obj fields => nested (.obj fields)
  | value => .ok (.string, value.display)
where
  /-- A list or record as indented JSON. -/
  nested (value : Value) : Except Fault (EditType × String) :=
    match Json.foreign? value with
    | some typeName => .error (.notWritable typeName)
    | none => .ok (.json, Json.write .indented value)

/-- The number that a text without blanks around it writes. -/
def readEditedNumber (text : String) : Except Fault Value :=
  if text = "" then .ok (.int 0)
  else
    match readNumber text with
    | .ok (some number) => .ok number
    | .ok none => .error (.badEdit .number (.notDecimal text))
    | .error (.tooManyDigits count) => .error (.badEdit .number (.tooManyDigits count))
    | .error fault => .error fault

/-- The value that an edited text stands for. -/
def readEdited (text : String) : EditType → Except Fault Value
  | .string => .ok (.str text)
  | .number => readEditedNumber (trimmed text)
  | .boolean => .ok (.bool (lowered text.toList == "true".toList))
  | .json =>
      match Json.read true text with
      | .ok value => .ok value
      | .error refusal => .error (.badEdit .json (.notJson refusal))
  | .null => .ok .null

/-- The edit type of a name. -/
def EditType.named (name : String) : Except Fault EditType :=
  match EditType.ofName? name with
  | some type => .ok type
  | none => .error (.unknownEditType name)

end DocConsole
