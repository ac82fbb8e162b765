import DocConsole.Database.ObjectId
import DocConsole.Statement.Command

/-!
# Queries to a database

The condition and the cursor of a listing as the filter document that a database understands.  The
name `id` stands for the id under which the database keeps a document, and texts compared with it
are taken as object ids where the library of the database reads one.  Main statement: the filter
document of a condition alone is its clause.
-/

set_option autoImplicit false

namespace DocConsole

/-- The field under which a database keeps the id of a document. -/
def storedIdField : String := "_id"

/-- The test of an operator against a value; a field that is not there differs from nothing. -/
def Operator.test (operator : Operator) (value : Value) : Fields :=
  match operator with
  | .equal => [("$eq", value)]
  | .notEqual => [("$exists", .bool true), ("$ne", value)]
  | .greater => [("$gt", value)]
  | .less => [("$lt", value)]
  | .greaterOrEqual => [("$gte", value)]
  | .lessOrEqual => [("$lte", value)]
  | .contains => [("$elemMatch", .obj [("$eq", value)])]

/-- The field of a condition in a database. -/
def Filter.storedField (f : Filter) : String :=
  if f.field = "id" then storedIdField else f.field

/-- The value of a condition in a database. -/
def Filter.storedValue (reading : ObjectId.Reading) (f : Filter) : Value :=
  if f.storedField = storedIdField then f.value.asStoredId reading else f.value

/-- The clause of a condition. -/
def Filter.clause (reading : ObjectId.Reading) (f : Filter) : Fields :=
  [(f.storedField, .obj (f.operator.test (f.storedValue reading)))]

/-- The clause for the documents after a cursor. -/
def cursorClause (reading : ObjectId.Reading) (cursor : Value) : Fields :=
  [(storedIdField, .obj (Operator.greater.test (cursor.asStoredId reading)))]

/-- Clauses as one filter document. -/
def conjunction : List Fields → Fields
  | [] => []
  | [clause] => clause
  | clauses => [("$and", .arr (clauses.map Value.obj))]

/-- The filter document of a listing. -/
def listingQuery (reading : ObjectId.Reading) (filter : Option Filter) (cursor : Option Value) :
    Fields :=
  conjunction ((filter.map (Filter.clause reading)).toList ++
    (cursor.map (cursorClause reading)).toList)

/-- The filter document for the document of an id. -/
def idQuery (reading : ObjectId.Reading) (id : String) : Fields :=
  [(storedIdField, (Value.str id).asStoredId reading)]

theorem listingQuery_filter (reading : ObjectId.Reading) (f : Filter) :
    listingQuery reading (some f) none = f.clause reading := rfl

end DocConsole
