import DocConsole.Edit.Cell
import DocConsole.Proofs.Json.RoundTrip

/-!
# Cells saved unchanged

A value is shown for editing as a text with a type, and saving reads the text by the rules of that
type.  Numbers go through the literals of statements, lists and records through JSON on lines of
their own.  Main statement: a cell that is opened and saved as it is gives back exactly the value
that it held, and leaves the editor closed.
-/

set_option autoImplicit false

namespace DocConsole

open Text

/-! ## Values that can be written -/

namespace Json

mutual

/-- A value that JSON has holds nothing that cannot be written. -/
theorem foreign?_of_isJson : ∀ value : Value, value.isJson = true → foreign? value = none
  | .arr items, hvalue => foreignItems?_of_areJson items hvalue
  | .obj fields, hvalue => foreignFields?_of_fieldsAreJson fields (Bool.and_eq_true_iff.mp hvalue).2
  | .null, _ => rfl
  | .str _, _ => rfl
  | .bool _, _ => rfl
  | .int _, _ => rfl
  | .float _, _ => rfl

theorem foreignItems?_of_areJson : ∀ items : List Value, Value.areJson items = true →
    foreignItems? items = none
  | [], _ => rfl
  | item :: items, hitems => by
      obtain ⟨hitem, hmore⟩ := Bool.and_eq_true_iff.mp hitems
      rw [foreignItems?, foreign?_of_isJson item hitem, foreignItems?_of_areJson items hmore]

theorem foreignFields?_of_fieldsAreJson : ∀ fields : List (String × Value),
    Value.fieldsAreJson fields = true → foreignFields? fields = none
  | [], _ => rfl
  | (_, value) :: fields, hfields => by
      obtain ⟨hvalue, hmore⟩ := Bool.and_eq_true_iff.mp hfields
      rw [foreignFields?, foreign?_of_isJson value hvalue,
        foreignFields?_of_fieldsAreJson fields hmore]

end

end Json

/-! ## Edit texts read back -/

variable {value : Value}

/-- A word that writes a number is edited as that number: there is nothing to trim. -/
theorem readEdited_number {word : String} (hword : Word value word)
    (hnumber : readNumber word = .ok (some value)) : readEdited word .number = .ok value := by
  have htrimmed : trimmed word = word := by
    rw [trimmed, hword.isTrimmed.1.trim_eq, String.ofList_toList]
  have hne : word ≠ "" := by
    rintro rfl
    cases hnumber
  rw [readEdited, htrimmed, readEditedNumber, if_neg hne, hnumber]

/-- A list or a record that JSON has is read back from its lines. -/
theorem readEdited_nested (hvalue : value.isJson = true) :
    editTextOf.nested value = .ok (.json, Json.write .indented value) ∧
      readEdited (Json.write .indented value) .json = .ok value := by
  have hread : Json.read true (Json.write .indented value) = .ok value :=
    Json.read_write Json.isNeutral_indented hvalue
  refine ⟨?_, ?_⟩
  · rw [editTextOf.nested, Json.foreign?_of_isJson value hvalue]
  · rw [readEdited, hread]

/-- Every value that JSON has is shown as a text that is read back as this value. -/
theorem exists_editText (hvalue : value.isJson = true) :
    ∃ type text, editTextOf value = .ok (type, text) ∧ readEdited text type = .ok value := by
  cases value with
  | null => exact ⟨.null, "", rfl, rfl⟩
  | bool b =>
      refine ⟨.boolean, _, rfl, ?_⟩
      cases b <;> rfl
  | int n =>
      have hword : Word (.int n) (Value.int n).display := .bare hvalue rfl
      exact ⟨.number, _, rfl,
        readEdited_number hword (readNumber_decimalOfInt (of_decide_eq_true hvalue))⟩
  | float x =>
      have hword : Word (.float x) (Value.float x).display := .bare hvalue rfl
      cases x with
      | finite negative size =>
          exact ⟨.number, _, rfl, readEdited_number hword readNumber_floatText⟩
      | nan => cases hvalue
      | infinity negative => cases hvalue
  | str s => exact ⟨.string, s, rfl, rfl⟩
  | arr items => exact ⟨.json, _, readEdited_nested hvalue⟩
  | obj fields => exact ⟨.json, _, readEdited_nested hvalue⟩
  | _ => cases hvalue

/-! ## The editor -/

/-- Opening a cell and saving it as it is changes nothing.  Whatever the editor held before, it
opens on every field but the id, and the save gives back the document, the field and exactly the
value, for the text of a value is read back as that value; then the editor is closed. -/
theorem unchanged_cell_saves (editor : CellEditor) (document : String) {field : String}
    (hfield : field ≠ "id") (hvalue : value.isJson = true) :
    (editor.start (some document) field value).1 = .ok () ∧
      (editor.start (some document) field value).2.save =
        (.ok ⟨document, some field, value⟩, .closed) ∧
      ∃ type text, editTextOf value = .ok (type, text) ∧ readEdited text type = .ok value := by
  obtain ⟨type, text, hshown, hread⟩ := exists_editText hvalue
  have hstart : editor.start (some document) field value =
      (.ok (), ⟨some document, some field, type, text⟩) := by
    rw [CellEditor.start, if_neg hfield, hshown]
  rw [hstart]
  refine ⟨rfl, ?_, type, text, hshown, hread⟩
  simp only [CellEditor.save, hread]

/-- An editor that is open on another cell, with a text that cannot be saved. -/
def strandedEditor : CellEditor :=
  ⟨some "b", some "n", .number, "twelve"⟩

/-- A list of numbers that differ in type or sign alone, with an empty record in it. -/
def nearNumbers : Value :=
  .arr [.int 0, .float (.finite true .zero), .obj [], .obj [("", .str "[\n0]")]]

/-- The list is opened on several lines, and saved with every number as it was. -/
theorem unchanged_list_saves :
    editTextOf nearNumbers =
        .ok (.json, "[\n  0,\n  -0.0,\n  \x7b\x7d,\n  \x7b\n    \"\": \"[\\n0]\"\n  \x7d\n]") ∧
      (strandedEditor.start (some "a") "ns" nearNumbers).1 = .ok () ∧
      (strandedEditor.start (some "a") "ns" nearNumbers).2.save =
        (.ok ⟨"a", some "ns", nearNumbers⟩, .closed) ∧
      ∃ type text, editTextOf nearNumbers = .ok (type, text) ∧
        readEdited text type = .ok nearNumbers :=
  ⟨by decide +kernel,
    unchanged_cell_saves strandedEditor "a" (by decide) (by decide +kernel)⟩

end DocConsole
