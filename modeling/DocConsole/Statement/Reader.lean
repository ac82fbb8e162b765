import DocConsole.Literal
import DocConsole.Statement.Shape

/-!
# Reading statements

From the text of a statement to its command: the shape gives the parts, the body of an insertion
or update is read as strict JSON, the value of a condition as a literal, and names are checked
last.  Main statement: a command that was read is about a collection with a proper name.
-/

set_option autoImplicit false

namespace DocConsole

open Text

/-! ## Checked parts -/

/-- A filter whose field has the form of a path. -/
def Filter.checked (field : String) (operator : Operator) (value : Value) :
    Except Fault Filter :=
  if isFieldPath field then .ok ⟨field, operator, value⟩
  else .error (.invalid [.at "field" .isName])

/-- A command whose collection has a proper name. -/
def Command.checked (command : Command) : Except Fault Command :=
  if isCollectionName command.collection then .ok command
  else .error (.invalid [.at "collection" .isName])

/-! ## From a shape to a command -/

/-- The record that the body of a statement writes. -/
def readBody (kind : CommandKind) (body : List Char) : Except Fault Fields :=
  match Json.read true (String.ofList body) with
  | .error _ => .error (.bodyNotJson kind)
  | .ok (.obj fields) => .ok fields
  | .ok _ => .error (.bodyNotRecord kind)

/-- The filter of a condition. -/
def ConditionText.filter (condition : ConditionText) : Except Fault Filter :=
  let spelling := String.ofList (lowered condition.operator)
  match Operator.ofSpelling? spelling with
  | none => .error (.unknownOperator spelling)
  | some operator =>
      match readLiteral (String.ofList (trim condition.value)) with
      | .error fault => .error fault
      | .ok value => Filter.checked (String.ofList condition.field) operator value

/-- The command of a shape. -/
def Shape.command : Shape → Except Fault Command
  | .select collection none => Command.checked (.select (String.ofList collection) none)
  | .select collection (some condition) =>
      match condition.filter with
      | .error fault => .error fault
      | .ok filter => Command.checked (.select (String.ofList collection) (some filter))
  | .insert collection body =>
      match readBody .insert body with
      | .error fault => .error fault
      | .ok payload => Command.checked (.insert (String.ofList collection) payload)
  | .update collection body target =>
      match readBody .update body with
      | .error fault => .error fault
      | .ok payload =>
          Command.checked (.update (String.ofList collection)
            (some (stripQuotes (String.ofList target))) payload)
  | .delete collection target =>
      Command.checked (.delete (String.ofList collection)
        (some (stripQuotes (String.ofList target))))

/-- The command of a statement; blanks around it do not matter. -/
def Command.read (statement : String) : Except Fault Command :=
  match Shape.ofChars? (trim statement.toList) with
  | none => .error .unrecognized
  | some shape => shape.command

/-! ## Names of what was read -/

theorem Command.checked_eq_ok {command command' : Command}
    (h : Command.checked command = .ok command') :
    command' = command ∧ isCollectionName command.collection = true := by
  unfold Command.checked at h
  split at h
  · rename_i hproper
    simp only [Except.ok.injEq] at h
    exact ⟨h.symm, hproper⟩
  · simp at h

theorem Shape.isCollectionName_of_command {shape : Shape} {command : Command}
    (h : shape.command = .ok command) : isCollectionName command.collection = true := by
  have hproper {c : Command} (h : Command.checked c = .ok command) :
      isCollectionName command.collection = true := by
    obtain ⟨rfl, hnamed⟩ := Command.checked_eq_ok h
    exact hnamed
  unfold Shape.command at h
  split at h
  · exact hproper h
  · split at h
    · simp at h
    · exact hproper h
  · split at h
    · simp at h
    · exact hproper h
  · split at h
    · simp at h
    · exact hproper h
  · exact hproper h

theorem Command.isCollectionName_of_read {statement : String} {command : Command}
    (h : Command.read statement = .ok command) : isCollectionName command.collection = true := by
  unfold Command.read at h
  split at h
  · simp at h
  · exact Shape.isCollectionName_of_command h

end DocConsole
