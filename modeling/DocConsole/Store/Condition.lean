import DocConsole.Statement.Command
import DocConsole.Value.Comparison

/-!
# Which documents meet a condition

A condition looks up one field, through nested records along the points of its path, and compares
it.  The path `id` stands for the id of the document itself.  A field that is not there meets no
condition.  Main statement: without the field no operator matches.
-/

set_option autoImplicit false

namespace DocConsole

/-! ## Paths -/

/-- The pieces of a text between the separators; there is always at least one. -/
def splitChars (separator : Char) : List Char → List (List Char)
  | [] => [[]]
  | c :: cs =>
      if c = separator then [] :: splitChars separator cs
      else
        match splitChars separator cs with
        | [] => [[c]]
        | piece :: pieces => (c :: piece) :: pieces

/-- The names along a field path. -/
def pathSegments (path : String) : List String :=
  (splitChars '.' path.toList).map String.ofList

/-- The value at the end of a way through nested records. -/
def Value.along? : Value → List String → Option Value
  | value, [] => some value
  | .obj fields, name :: names =>
      match Fields.get? fields name with
      | some value => value.along? names
      | none => none
  | _, _ :: _ => none

/-- A stored document: its id and its fields. -/
structure Document where
  /-- The id, unique in its collection. -/
  id : String
  /-- The fields in order. -/
  fields : Fields
  deriving DecidableEq

namespace Document

/-- The fields with the id of the document among them: in the place of a field of that name, at
the end otherwise. -/
def row (d : Document) : Fields :=
  Fields.set d.fields "id" (.str d.id)

/-- The value at a path; the path `id` is the id of the document. -/
def valueAt? (d : Document) (path : String) : Option Value :=
  if path = "id" then some (.str d.id) else (Value.obj d.fields).along? (pathSegments path)

end Document

/-! ## Conditions -/

/-- Whether an item of a list equals a value. -/
def Value.containsItem : Value → Value → Bool
  | .arr items, value => items.any (fun item => item.equal value)
  | _, _ => false

/-- Whether two values stand in the relation of an operator. -/
def Operator.holds : Operator → (actual expected : Value) → Bool
  | .equal, actual, expected => actual.equal expected
  | .notEqual, actual, expected => !actual.equal expected
  | .greater, actual, expected => expected.less actual
  | .less, actual, expected => actual.less expected
  | .greaterOrEqual, actual, expected => expected.lessOrEqual actual
  | .lessOrEqual, actual, expected => actual.lessOrEqual expected
  | .contains, actual, expected => actual.containsItem expected

/-- Whether a document meets the condition of a filter. -/
def Filter.accepts (f : Filter) (d : Document) : Bool :=
  match d.valueAt? f.field with
  | some actual => f.operator.holds actual f.value
  | none => false

/-- Whether a document meets the condition, when there is one. -/
def meets (filter : Option Filter) (d : Document) : Bool :=
  match filter with
  | some f => f.accepts d
  | none => true

theorem Filter.accepts_of_missing {f : Filter} {d : Document} (h : d.valueAt? f.field = none) :
    f.accepts d = false := by
  simp [Filter.accepts, h]

end DocConsole
