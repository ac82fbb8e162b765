import DocConsole.Intake
import DocConsole.Statement.Command

/-!
# Commands from their parts

A command made from separate parts in place of the text of a statement.  The condition is checked
before the command that it belongs to.
-/

set_option autoImplicit false

namespace DocConsole

namespace CommandKind

/-- The name of a kind. -/
def name : CommandKind → String
  | .select => "select"
  | .insert => "insert"
  | .update => "update"
  | .delete => "delete"

/-- The kind of a name. -/
def ofName? (s : String) : Option CommandKind :=
  [select, insert, update, delete].find? (fun kind => kind.name == s)

end CommandKind

/-- A text in the form of a name. -/
def namedBy (proper : String → Bool) (s : String) : Intake String :=
  if proper s then .ok s else Intake.refuse .isName

/-- The filter of a field path, an operator symbol and a value. -/
def Filter.ofParts (field symbol : String) (value : Value) : Except Fault Filter :=
  let parts := Intake.both (Intake.within (.name "field") (namedBy isFieldPath field))
    (Intake.within (.name "operator") (Intake.oneOf Operator.ofSymbol? (.str symbol)))
  Intake.orFault (parts.map (fun (field, operator) => ⟨field, operator, value⟩))

/-- The command of a kind name, a collection and the parts that the kind makes use of; a payload
that is missing is empty. -/
def Command.ofParts (kind collection : String) (filter : Option Filter) (payload : Option Fields)
    (target : Option String) : Except Fault Command :=
  let parts := Intake.both
    (Intake.within (.name "kind") (Intake.oneOf CommandKind.ofName? (.str kind)))
    (Intake.within (.name "collection") (namedBy isCollectionName collection))
  Intake.orFault (parts.map (fun (kind, collection) =>
    match kind with
    | .select => .select collection filter
    | .insert => .insert collection (payload.getD [])
    | .update => .update collection target (payload.getD [])
    | .delete => .delete collection target))

end DocConsole
