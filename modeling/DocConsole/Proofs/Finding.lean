import DocConsole.Proofs.Execution
import DocConsole.Proofs.Statement.Change
import DocConsole.Proofs.Statement.Condition

/-!
# Finding what was written

A listing is followed to its end by running its statement again with each cursor that it reports.
Its pages together are the documents that match, each of them once.  A value that an update sets is
read by the JSON reader, and the value of a condition by another one; both read the value that was
written, with its type, so that the condition is met.  Main statement: a document is found by the
field that was last set in it, and found once.
-/

set_option autoImplicit false

namespace DocConsole

open Text

/-! ## Following the cursors -/

/-- The results of a statement run again and again from a cursor on, each time with the cursor that
the run before reported, until a run reports none. -/
inductive Follows (statement : String) (pageSize : Int) :
    Backend → Option Value → List QueryResult → Prop where
  | last {backend : Backend} {cursor : Option Value}
      (hend : (Command.executeStatement statement cursor pageSize backend).1.pageCursor = none) :
      Follows statement pageSize backend cursor
        [(Command.executeStatement statement cursor pageSize backend).1]
  | more {backend : Backend} {cursor : Option Value} {next : Value} {results : List QueryResult}
      (hnext : (Command.executeStatement statement cursor pageSize backend).1.pageCursor =
        some next)
      (hrest : Follows statement pageSize
        (Command.executeStatement statement cursor pageSize backend).2.2 (some next) results) :
      Follows statement pageSize backend cursor
        ((Command.executeStatement statement cursor pageSize backend).1 :: results)

section Following

variable {statement : String} {pageSize : Int} {backend : Backend} {store : Store}
  {collection : String} {filter : Option Filter}

/-- One run of a listing from the end of the first `n` documents that match gives a page of those
from `n` on and reports its end. -/
theorem executeStatement_endCursor (hserves : backend.Serves store)
    (hread : Command.read statement = .ok (.select collection filter)) (pageSize : Int) (n : Nat)
    {page : List Document}
    (hpage : ((store.matching collection filter).drop n).take (max 1 pageSize.toNat) = page)
    {made : QueryResult × List StoreCall × Backend}
    (hmade : Command.executeStatement statement
      (endCursor ((store.matching collection filter).take n)) pageSize backend = made) :
    made.1.type = .read ∧ made.1.rows = page.map Document.row ∧
      made.1.pageCursor = endCursor page ∧ made.2.2 = backend := by
  obtain ⟨hresult, hbackend⟩ := executeStatement_listing hserves hread
    (endCursor ((store.matching collection filter).take n)) pageSize
  rw [hserves.ordered.list_endCursor, hpage, hmade] at hresult
  rw [hmade] at hbackend
  rw [hresult, Command.rows_pageResult, Command.pageCursor_pageResult]
  exact ⟨rfl, rfl, rfl, hbackend⟩

/-- A listing is followed to its end from anywhere, and gives all documents that match from there
on, in their order. -/
theorem exists_follows (hserves : backend.Serves store)
    (hread : Command.read statement = .ok (.select collection filter)) (pageSize : Int) (n : Nat) :
    ∃ results,
      Follows statement pageSize backend
        (endCursor ((store.matching collection filter).take n)) results ∧
      (∀ result ∈ results, result.type = .read) ∧
      results.flatMap (·.rows) =
        ((store.matching collection filter).drop n).map Document.row := by
  -- by the number of documents that are left, of which each page takes at least one
  induction hleft : ((store.matching collection filter).drop n).length
    using Nat.strong_induction_on generalizing n with
  | _ left ih =>
      obtain ⟨htype, hrows, hreported, hbackend⟩ :=
        executeStatement_endCursor hserves hread pageSize n rfl rfl
      cases hcursor : endCursor
          (((store.matching collection filter).drop n).take (max 1 pageSize.toNat)) with
      | none =>
          have hnone := List.getLast?_eq_none_iff.mp (Option.map_eq_none_iff.mp hcursor)
          have hdone : (store.matching collection filter).drop n = [] := by
            rcases List.take_eq_nil_iff.mp hnone with hzero | hdone
            · omega
            · exact hdone
          refine ⟨_, .last (hreported.trans hcursor), ?_, ?_⟩
          · rw [List.forall_mem_singleton]
            exact htype
          · rw [List.flatMap_singleton, hrows, hnone, hdone]
      | some next =>
          have hmore : (store.matching collection filter).drop n ≠ [] := by
            intro hdone
            rw [hdone, List.take_nil] at hcursor
            cases hcursor
          have hlength := List.length_pos_iff.mpr hmore
          have hless : ((store.matching collection filter).drop
              (n + max 1 pageSize.toNat)).length < left := by
            rw [← hleft, ← List.drop_drop, List.length_drop]
            omega
          obtain ⟨results, hfollows, hreads, hothers⟩ := ih _ hless _ rfl
          rw [endCursor_take_add hcursor, ← hbackend] at hfollows
          refine ⟨_, .more (hreported.trans hcursor) hfollows, ?_, ?_⟩
          · rw [List.forall_mem_cons]
            exact ⟨htype, hreads⟩
          · rw [List.flatMap_cons, hothers, hrows, ← List.drop_drop, ← List.map_append,
              List.take_append_drop]

end Following

/-! ## Fields that are set -/

/-- The name of a field that is no path: ASCII letters, digits and underscores. -/
def isFieldName (s : String) : Bool :=
  !s.toList.isEmpty && s.toList.all isWordAscii

theorem splitChars_of_not_mem {separator : Char} {cs : List Char} (h : separator ∉ cs) :
    splitChars separator cs = [cs] := by
  induction cs with
  | nil => rfl
  | cons c cs ih =>
      rw [List.mem_cons, not_or] at h
      rw [splitChars, if_neg (Ne.symm h.1), ih h.2]

/-- A name is a path of one step. -/
theorem isFieldPath_of_isFieldName {name : String} (h : isFieldName name = true) :
    isFieldPath name = true ∧ pathSegments name = [name] := by
  simp only [isFieldName, Bool.and_eq_true] at h
  obtain ⟨hne, hletters⟩ := h
  have hpoint : '.' ∉ name.toList := by
    intro hmem
    cases List.all_eq_true.mp hletters _ hmem
  refine ⟨?_, ?_⟩
  · rw [isFieldPath, hne, Bool.true_and]
    exact List.all_eq_true.mpr fun c hc => by
      rw [isFieldChar, List.all_eq_true.mp hletters c hc, Bool.true_or]
  · rw [pathSegments, splitChars_of_not_mem hpoint, List.map_singleton, String.ofList_toList]

/-- A value that is written on one line equals itself. -/
theorem Value.equal_self {value : Value} (h : value.isOneLine = true) :
    value.equal value = true := by
  cases value with
  | float x => cases x with
    | nan => cases h
    | _ => simp [equal, alike, sameExtent, extent?, Binary64.extent?]
  | bool b => simp [equal, alike, sameExtent, extent?]
  | int n => simp [equal, alike, sameExtent, extent?]
  | str s => simp [equal, alike]
  | _ => cases h

/-- JSON has a record of one value that is written on one line. -/
theorem Value.isJson_record {value : Value} (h : value.isOneLine = true) (name : String) :
    (Value.obj [(name, value)]).isJson = true := by
  have hvalue : value.isJson = true := by
    cases value with
    | str s => rfl
    | bool b => exact h
    | int n => exact h
    | float x => exact h
    | _ => cases h
  simp [isJson, fieldsAreJson, hvalue, Fields.names]

section Setting

variable {name : String} {value : Value}

/-- A document meets the condition on the value that one of its fields was set to. -/
theorem Document.meets_set (hname : isFieldName name = true) (hid : name ≠ "id")
    (hvalue : value.isOneLine = true) (fields : Fields) (id : String) :
    meets (some ⟨name, .equal, value⟩) ⟨id, Fields.set fields name value⟩ = true := by
  have hfound : valueAt? ⟨id, Fields.set fields name value⟩ name = some value := by
    rw [valueAt?, if_neg hid, (isFieldPath_of_isFieldName hname).2]
    simp [Value.along?, Fields.get?_set]
  simp only [meets, Filter.accepts, hfound]
  exact Value.equal_self hvalue

/-- The id of a document does not hide its other fields. -/
theorem Document.get?_row_of_ne (document : Document) (hid : name ≠ "id") :
    Fields.get? document.row name = Fields.get? document.fields name := by
  rw [row, Fields.get?_set, if_neg hid]

end Setting

/-! ## Statements -/

/-- The text of an update that sets one field of a document. -/
def setField (collection name : String) (value : Value) (id : String) : String :=
  "UPDATE " ++ collection ++ " SET JSON " ++ Json.write .spaced (.obj [(name, value)]) ++
    " WHERE id = '" ++ id ++ "'"

/-- The text of a listing of the documents with a value in a field. -/
def selectByField (collection name word : String) : String :=
  "SELECT * FROM " ++ collection ++ " WHERE " ++ name ++ " = " ++ word

theorem setField_eq (c f : String) (v : Value) (d : String) :
    setField c f v d = String.ofList (UpdateLayout.usual.body .usual c.toList
      (Json.write .spaced (.obj [(f, v)])).toList d.toList) := by
  rw [← String.toList_inj, String.toList_ofList, setField]
  simp only [String.toList_append, List.append_assoc]
  rfl

theorem selectByField_eq (c f word : String) :
    selectByField c f word = ListingLayout.usual.statement c f ['='] word := by
  rw [← String.toList_inj, ListingLayout.statement, String.toList_ofList]
  have htrailing : ListingLayout.usual.trailing.chars = [] := rfl
  change ("SELECT * FROM " ++ c ++ " WHERE " ++ f ++ " = " ++ word).toList = _
  simp only [String.toList_append, List.append_assoc, htrailing, List.append_nil]
  rfl

/-! ## What is written is found -/

/-- Among the rows of a listing, those of one id are the rows of the documents of that id. -/
theorem filter_rows (documents : List Document) (id : String) :
    (documents.map Document.row).filter (fun row => Fields.get? row "id" = some (.str id)) =
      (documents.filter (fun d => d.id = id)).map Document.row := by
  rw [List.filter_map]
  congr 1
  refine List.filter_congr fun d _ => ?_
  simp [get?_row]

/-- What an update writes, a listing finds.  In a document that is there, in a collection with a
name for statements and under an id that an update can name, an update sets a field to a truth
value, a number or a text on one line.  Then a listing with the condition on that field and a word
for that value, followed to its end, gives the document in exactly one row, which holds the value
with its type. -/
theorem written_value_is_found {backend : Backend} {store : Store}
    (hstore : backend.store = some store) (hreachable : store.Reachable)
    (hopen : store.isOpen = true) (hupdating : backend.failures.lookup "update" = none)
    (hlisting : backend.failures.lookup "list" = none) {c d f : String} {v : Value}
    {document : Document} (hcollection : isCollectionName c = true)
    (hthere : store.get? c d = some document) (hline : '\n' ∉ d.toList)
    (hmark : ¬ HoldsIdMark d.toList) (hname : isFieldName f = true) (hid : f ≠ "id")
    (hvalue : v.isOneLine = true) (pageSize : Int) :
    (Command.executeStatement (setField c f v d) none pageSize backend).1 =
        Command.updatedResult c (some d) ∧
      (∃ word, Word v word) ∧ ∀ word, Word v word →
        ∃ results,
          Follows (selectByField c f word) pageSize
            (Command.executeStatement (setField c f v d) none pageSize backend).2.2 none results ∧
          (∀ result ∈ results, result.type = .read) ∧
          ∃ row, (results.flatMap (·.rows)).filter
              (fun row => Fields.get? row "id" = some (.str d)) = [row] ∧
            Fields.get? row f = some v := by
  have hserves : backend.Serves store := ⟨hstore, hopen, hlisting, hreachable.ordered⟩
  have hwrite : Command.read (setField c f v d) = .ok (.update c (some d) [(f, v)]) := by
    rw [setField_eq]
    exact Command.read_update .usual hcollection hline .usual hmark (Value.isJson_record hvalue f)
  obtain ⟨store', hupdate, hmem⟩ := hreachable.ordered.exists_update hthere [(f, v)]
  obtain ⟨backend', hcall, hserves'⟩ := hserves.perform_update hupdating hupdate
  obtain ⟨hresult, hbackend⟩ : _ ∧
      (Command.executeStatement (setField c f v d) none pageSize backend).2.2 = backend' :=
    executeStatement_of_reply hwrite hserves.connected hcall hserves'.held
  refine ⟨hresult, Word.exists_of_isOneLine hvalue, fun word hword => ?_⟩
  have hread : Command.read (selectByField c f word) = .ok (.select c (some ⟨f, .equal, v⟩)) := by
    rw [selectByField_eq]
    exact Command.read_listing .usual hcollection (isFieldPath_of_isFieldName hname).1 .equals hword
  obtain ⟨results, hfollows, hreads, hrows⟩ := exists_follows hserves' hread pageSize 0
  have hmatching : ⟨d, Fields.set document.fields f v⟩ ∈
      store'.matching c (some ⟨f, .equal, v⟩) :=
    List.mem_filter.mpr ⟨hmem, Document.meets_set hname hid hvalue document.fields d⟩
  have hnodup : ((store'.matching c (some ⟨f, .equal, v⟩)).map (·.id)).Nodup :=
    (hserves'.ordered.nodup_documents c).sublist (List.filter_sublist.map _)
  rw [hbackend]
  refine ⟨results, hfollows, hreads, Document.row ⟨d, Fields.set document.fields f v⟩, ?_, ?_⟩
  · rw [hrows, List.drop_zero, filter_rows, Store.filter_id_eq_singleton hnodup hmatching]
    rfl
  · rw [Document.get?_row_of_ne _ hid, Fields.get?_set, if_pos rfl]

/-- Two items, one flagged by a truth value and one by a text. -/
def flaggedItems : List (String × List (String × Fields)) :=
  [("items", [("a", [("flag", .bool true)]), ("b", [("flag", .str "true")])])]

/-- A text that looks like a truth value is set and found as a text, page after page. -/
theorem written_text_is_found :
    setField "items" "flag" (.str "true") "a" =
        "UPDATE items SET JSON \x7b\"flag\": \"true\"\x7d WHERE id = 'a'" ∧
      selectByField "items" "flag" "'true'" = "SELECT * FROM items WHERE flag = 'true'" ∧
      ∃ results,
        Follows (selectByField "items" "flag" "'true'") 1
          (Command.executeStatement (setField "items" "flag" (.str "true") "a") none 1
            ⟨some (.ofData flaggedItems), [], .fresh⟩).2.2 none results ∧
        (∀ result ∈ results, result.type = .read) ∧
        ∃ row, (results.flatMap (·.rows)).filter
            (fun row => Fields.get? row "id" = some (.str "a")) = [row] ∧
          Fields.get? row "flag" = some (.str "true") := by
  have hstore : (⟨some (.ofData flaggedItems), [], .fresh⟩ : Backend).store =
      some (.ofData flaggedItems) := rfl
  have hthere : (Store.ofData flaggedItems).get? "items" "a" =
      some ⟨"a", [("flag", .bool true)]⟩ := rfl
  have hmark : ¬ HoldsIdMark "a".toList := fun h => absurd h.equals_mem (by decide)
  have hfound := written_value_is_found (v := .str "true") hstore (.seeded flaggedItems) rfl rfl rfl
    (by decide) hthere (by decide) hmark (show isFieldName "flag" = true by decide) (by decide)
    (by decide) 1
  exact ⟨by decide +kernel, by decide +kernel,
    hfound.2.2 "'true'" (.quoted '\'' rfl "true" (by decide))⟩

end DocConsole
