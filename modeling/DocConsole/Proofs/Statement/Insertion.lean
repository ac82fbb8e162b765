import DocConsole.Edit.Optimistic
import DocConsole.Proofs.Statement.Change

/-!
# Reading an insertion back

An insertion writes a record as JSON behind its collection, up to the end of the statement.  The
history shows such a statement for every new row, with a note behind it.  Main statement: without
that note the statement is an insertion that is read as exactly the row's collection and fields.
The names and texts of a row are of whole characters; a half of one stands in no row
(`Json.joinUnits`).
-/

set_option autoImplicit false

namespace DocConsole

open Text

/-! ## Layouts -/

/-- The layout of an insertion up to its body. -/
structure InsertionLayout where
  insert : Cased "insert"
  afterInsert : Gap isBlank
  into : Cased "into"
  afterInto : Gap isBlank
  beforeJson : Gap isBlank
  json : Cased "json"
  afterJson : Gap isBlank

/-- An insertion on one line with its words in capitals. -/
def InsertionLayout.usual : InsertionLayout where
  insert := ⟨"INSERT".toList, by decide⟩
  afterInsert := .space
  into := ⟨"INTO".toList, by decide⟩
  afterInto := .space
  beforeJson := .space
  json := UpdateLayout.usual.json
  afterJson := .space

/-- The text of an insertion. -/
def InsertionLayout.body (layout : InsertionLayout) (collection payload : List Char) : List Char :=
  layout.insert.chars ++ (layout.afterInsert.chars ++ (layout.into.chars ++
    (layout.afterInto.chars ++ (collection ++ (layout.beforeJson.chars ++ (layout.json.chars ++
      (layout.afterJson.chars ++ payload)))))))

variable {collection payload : List Char}

/-- The shape of an insertion in any layout: its body is all that follows on the line. -/
theorem InsertionLayout.ofChars?_body (layout : InsertionLayout)
    (hcollection : Shape.IsCollection collection) (hpayload : LeadsOutside isBlank payload)
    (hfree : '\n' ∉ payload) :
    Shape.ofChars? (layout.body collection payload) = some (.insert collection payload) := by
  have hne : payload ≠ [] := by
    rintro rfl
    cases hpayload
  have hline := layout.afterJson.someBlanks_append (fun _ h => h) hpayload.startsOutside
    (restOfLine_eq_some_iff.mpr ⟨rfl, hne, hfree⟩)
  have hjson := layout.json.someBlanks_append layout.beforeJson (by decide) hline
  have hname := hcollection.someBlanks_append layout.afterInto layout.beforeJson hjson
  have hinto := layout.into.someBlanks_append layout.afterInsert (by decide) hname
  have hinsert : Shape.insert? (layout.body collection payload) =
      some (.insert collection payload) :=
    congrArg (Option.map _) ((keyword_append layout.insert.folds _).trans hinto)
  exact (Shape.ofChars?_eq_insert? layout.insert _).trans hinsert

/-! ## Reading an insertion -/

/-- The text of a record stands between its brackets. -/
theorem Json.isTrimmed_writeAt_obj (layout : Json.Layout) (depth : Nat) (fields : Fields) :
    IsTrimmed (Json.writeAt layout depth (.obj fields)) := by
  cases fields with
  | nil => exact ⟨rfl, rfl⟩
  | cons field fields =>
      obtain ⟨name, value⟩ := field
      refine ⟨rfl, ?_⟩
      have hlast : LeadsOutside isBlank ['\x7d'].reverse := rfl
      rw [Json.writeAt]
      exact hlast.reverse_append _

/-- A body without blanks around it makes an insertion trimmed. -/
theorem InsertionLayout.isTrimmed_body (layout : InsertionLayout) (collection : List Char)
    (hpayload : IsTrimmed payload) : IsTrimmed (layout.body collection payload) := by
  refine ⟨(layout.insert.leadsOutside (by decide)).append_right _, ?_⟩
  have happend := hpayload.last.reverse_append (layout.insert.chars ++
    (layout.afterInsert.chars ++ (layout.into.chars ++ (layout.afterInto.chars ++ (collection ++
      (layout.beforeJson.chars ++ (layout.json.chars ++ layout.afterJson.chars)))))))
  simpa only [InsertionLayout.body, List.append_assoc] using happend

/-- An insertion is read as what it was written for. -/
theorem Command.read_insertion (layout : InsertionLayout) {c : String} {fields : Fields}
    (hcollection : isCollectionName c = true) (hfields : (Value.obj fields).isJson = true) :
    Command.read (String.ofList (layout.body c.toList
      (Json.write .spaced (.obj fields)).toList)) = .ok (.insert c fields) := by
  rw [Json.write, String.toList_ofList]
  have hbody := Json.isTrimmed_writeAt_obj .spaced 0 fields
  have htrimmed := layout.isTrimmed_body c.toList hbody
  have hfree := Json.newline_not_mem_writeAt Json.isOneLine_spaced (.obj fields) 0 hfields
  have hshape := layout.ofChars?_body (isCollection_of_isCollectionName hcollection)
    hbody.first hfree
  have hread : readBody .insert (Json.writeAt .spaced 0 (.obj fields) ++ []) = .ok fields :=
    readBody_writeAt .insert hfields rfl
  rw [List.append_nil] at hread
  have hchecked : Command.checked (.insert c fields) = .ok (.insert c fields) := if_pos hcollection
  rw [Command.read, String.toList_ofList, htrimmed.trim_eq, hshape]
  simp only [Shape.command, hread, String.ofList_toList, hchecked]

/-! ## The statement of a new row -/

/-- Without the note behind it, the statement that the history shows for a new row is an insertion
of the row's fields, in their order and with their types, into its collection. -/
theorem new_row_reads_back {c : String} {fields : Fields}
    (hcollection : isCollectionName c = true) (hfields : (Value.obj fields).isJson = true) :
    ∃ statement, insertStatement c fields = statement ++ " (Inline Insert)" ∧
      Command.read statement = .ok (.insert c fields) := by
  refine ⟨_, ?_, Command.read_insertion .usual hcollection hfields⟩
  rw [← String.toList_inj, insertStatement]
  simp only [String.toList_append, String.toList_ofList, InsertionLayout.body, List.append_assoc]
  rfl

/-- Fields whose texts hold quotes, a line feed and a character beyond the first plane, and whose
numbers are whole, negative zero, and large enough for an exponent. -/
def awkwardFields : Fields :=
  [("say \"hi\"\n", .str "😀\\"),
    ("ns", .arr [.int 10000000000000000, .float (.finite true .zero),
      .float (DecimalLiteral.toBinary64 ⟨false, "1".toList, none, some (false, "16".toList)⟩)]),
    ("b", .obj [("null", .null), ("", .bool false)])]

/-- The fields come back although they are written with escapes and exponents. -/
theorem awkward_row_reads_back :
    insertStatement "a/b-1" awkwardFields =
        "INSERT INTO a/b-1 JSON \x7b\"say \\\"hi\\\"\\n\": \"\\ud83d\\ude00\\\\\", " ++
          "\"ns\": [10000000000000000, -0.0, 1e+16], " ++
            "\"b\": \x7b\"null\": null, \"\": false\x7d\x7d (Inline Insert)" ∧
      ∃ statement, insertStatement "a/b-1" awkwardFields = statement ++ " (Inline Insert)" ∧
        Command.read statement = .ok (.insert "a/b-1" awkwardFields) :=
  ⟨by decide +kernel, new_row_reads_back (by decide) (by decide +kernel)⟩

end DocConsole
