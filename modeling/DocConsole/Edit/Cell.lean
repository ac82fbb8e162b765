import DocConsole.Edit.Value

/-!
# The cell editor

The state of editing one cell: which document and field, and the pending text with its type.
Saving reads the pending text and closes the editor; when the text is no value of its type the
editor stays as it is.  Main statement: a save that fails changes nothing.
-/

set_option autoImplicit false

namespace DocConsole

/-- The state of editing one cell; the editor is open while it names a document. -/
structure CellEditor where
  /-- The id of the document. -/
  document : Option String
  /-- The field. -/
  field : Option String
  /-- The pending type. -/
  type : EditType
  /-- The pending text. -/
  text : String
  deriving DecidableEq, Repr

/-- An edit that is ready to be applied. -/
structure CellEdit where
  /-- The id of the document. -/
  document : String
  /-- The field. -/
  field : Option String
  /-- The new value. -/
  value : Value
  deriving DecidableEq

namespace CellEditor

/-- No cell is open. -/
def closed : CellEditor :=
  ⟨none, none, .string, ""⟩

/-- Whether a cell is open. -/
def isOpen (editor : CellEditor) : Bool :=
  editor.document.isSome

/-- The editor opened on a cell with its current value.  The id cannot be edited.  The cell is
taken before its text is made, also when there is no such text. -/
def start (editor : CellEditor) (document : Option String) (field : String) (current : Value) :
    Except Fault Unit × CellEditor :=
  if field = "id" then (.error .idNotEditable, editor)
  else
    match editTextOf current with
    | .ok (type, text) => (.ok (), ⟨document, some field, type, text⟩)
    | .error fault => (.error fault, { editor with document := document, field := some field })

/-- The pending text exchanged. -/
def withText (editor : CellEditor) (text : String) : CellEditor :=
  { editor with text := text }

/-- The pending type exchanged. -/
def withType (editor : CellEditor) (type : EditType) : CellEditor :=
  { editor with type := type }

/-- The pending edit, after which the editor is closed. -/
def save (editor : CellEditor) : Except Fault CellEdit × CellEditor :=
  match editor.document with
  | none => (.error .noOpenCell, editor)
  | some document =>
      match readEdited editor.text editor.type with
      | .ok value => (.ok ⟨document, editor.field, value⟩, closed)
      | .error fault => (.error fault, editor)

theorem save_of_error {editor : CellEditor} {fault : Fault} (h : editor.save.1 = .error fault) :
    editor.save.2 = editor := by
  unfold save at h ⊢
  split
  · rfl
  · rename_i hopen
    simp only [hopen] at h
    split
    · rename_i hread
      simp [hread] at h
    · rfl

end CellEditor

end DocConsole
