import DocConsole.Text.Pattern

/-!
# The shapes of statements

The four shapes of a statement, recognised on its characters:

    SELECT * FROM collection [WHERE field operator value]
    INSERT INTO collection JSON body
    UPDATE collection SET JSON body WHERE id = value
    DELETE FROM collection WHERE id = value

Keywords are read without regard to case and names by the same folding, so that a name may hold
letters that the alphabet of names refuses later.  A value or body runs to the end of the text and
holds no line feed.  Shapes are tried in the order above.
-/

set_option autoImplicit false

namespace DocConsole

open Text

/-- A condition as it stands in a statement. -/
structure ConditionText where
  /-- The field path. -/
  field : List Char
  /-- The operator as it is spelled. -/
  operator : List Char
  /-- The value up to the end of the statement. -/
  value : List Char
  deriving DecidableEq, Repr

/-- A statement cut into its parts. -/
inductive Shape where
  /-- A listing, with its condition when it has one. -/
  | select (collection : List Char) (condition : Option ConditionText)
  /-- An insertion. -/
  | insert (collection body : List Char)
  /-- An update. -/
  | update (collection body target : List Char)
  /-- A deletion. -/
  | delete (collection target : List Char)
  deriving DecidableEq, Repr

namespace Shape

/-! ## Names and operators -/

/-- A character that is read as part of a collection name. -/
def isCollectionLetter (c : Char) : Bool :=
  isWord c || c == '/' || c == '-'

/-- A character that is read as part of a field path. -/
def isFieldLetter (c : Char) : Bool :=
  isWord c || c == '.'

/-- The spellings of operators, longer ones before those that they start with. -/
def operatorSpellings : List (List Char) :=
  ["array-contains".toList, "==".toList, "!=".toList, ">=".toList, "<=".toList, "=".toList,
   ">".toList, "<".toList]

/-- The first spelling at the front after which `next` accepts the rest. -/
def spelledOperator {β : Type} (next : List Char → Option β) :
    List (List Char) → List Char → Option (List Char × β)
  | [], _ => none
  | word :: others, cs =>
      match keyword word next cs with
      | some b => some (cs.take word.length, b)
      | none => spelledOperator next others cs

/-! ## Clauses -/

/-- The condition of a listing: WHERE, a field, an operator and a value. -/
def condition? (cs : List Char) : Option ConditionText :=
  let value := anyBlanks restOfLine
  let comparison := anyBlanks (spelledOperator value operatorSpellings)
  let clause := someBlanks (keyword "where".toList
    (someBlanks (longestRun isFieldLetter comparison)))
  (clause cs).map (fun (field, operator, value) => ⟨field, operator, value⟩)

/-- What may follow the collection of a listing: a condition, or nothing. -/
def selectTail? (cs : List Char) : Option (Option ConditionText) :=
  match condition? cs with
  | some condition => some (some condition)
  | none => if cs.isEmpty then some none else none

/-- The clause that names a document by its id; gives the text of the id. -/
def idClause? : List Char → Option (List Char) :=
  someBlanks (keyword "where".toList (someBlanks (keyword "id".toList
    (anyBlanks (keyword "=".toList (anyBlanks restOfLine))))))

/-! ## Statements -/

/-- A listing. -/
def select? (cs : List Char) : Option Shape :=
  let statement := keyword "select".toList (someBlanks (keyword "*".toList (someBlanks
    (keyword "from".toList (someBlanks (longestRun isCollectionLetter selectTail?))))))
  (statement cs).map (fun (collection, condition) => .select collection condition)

/-- An insertion. -/
def insert? (cs : List Char) : Option Shape :=
  let statement := keyword "insert".toList (someBlanks (keyword "into".toList (someBlanks
    (longestRun isCollectionLetter (someBlanks (keyword "json".toList
      (someBlanks restOfLine)))))))
  (statement cs).map (fun (collection, body) => .insert collection body)

/-- An update: the body is as long as possible before a clause that names a document. -/
def update? (cs : List Char) : Option Shape :=
  let statement := keyword "update".toList (someBlanks (longestRun isCollectionLetter
    (someBlanks (keyword "set".toList (someBlanks (keyword "json".toList (someBlanks
      (longestRun (fun c => c ≠ '\n') idClause?))))))))
  (statement cs).map (fun (collection, body, target) => .update collection body target)

/-- A deletion. -/
def delete? (cs : List Char) : Option Shape :=
  let statement := keyword "delete".toList (someBlanks (keyword "from".toList (someBlanks
    (longestRun isCollectionLetter idClause?))))
  (statement cs).map (fun (collection, target) => .delete collection target)

/-- The shape of a statement that has no blanks around it. -/
def ofChars? (cs : List Char) : Option Shape :=
  match select? cs with
  | some shape => some shape
  | none =>
      match insert? cs with
      | some shape => some shape
      | none =>
          match update? cs with
          | some shape => some shape
          | none => delete? cs

/-- The collection of a statement. -/
def collection : Shape → List Char
  | .select collection _ => collection
  | .insert collection _ => collection
  | .update collection _ _ => collection
  | .delete collection _ => collection

end Shape

end DocConsole
