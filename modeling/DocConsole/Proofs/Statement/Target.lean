import DocConsole.Execution
import DocConsole.Proofs.Json.Texts
import DocConsole.Proofs.Statement.Recognition
import DocConsole.Proofs.Store.Listing

/-!
# The document that an id names

Three statements name a document by its id.  A deletion and an update take the value in their text,
without blanks and one pair of quotes, for the id.  A listing reads the same text as a literal and
compares it within its kind, and ids are texts: a bare `5` or `true` is the id of no document.
Main statements: all three read the same id, a listing by it gives exactly the document under that
id, and the bare words for numbers and truth values are the only ones that part the listing from
the other two.
-/

set_option autoImplicit false

namespace DocConsole

open Text

/-! ## Words for ids -/

/-- Whether a word stands for a truth value or a number, and so for no text. -/
def isTypedWord (word : String) : Bool :=
  word == "true" || word == "false" ||
    match readNumber word with
    | .ok (some _) => true
    | _ => false

theorem kind_of_readNumber {word : String} {value : Value}
    (h : readNumber word = .ok (some value)) : value.kind = .number := by
  unfold readNumber at h
  split at h
  · simp at h
  · split at h
    · split at h
      · simp at h
      · obtain rfl := Option.some.inj (Except.ok.inj h)
        rfl
    · simp only [Except.ok.injEq] at h
      split at h
      · obtain rfl := Option.some.inj h
        rfl
      · simp at h

/-- A word without blanks around it is read as a truth value or a number, or else as the text that
is left of it without quotes. -/
theorem readLiteral_cases {word : String} {value : Value} (htrim : trim word.toList = word.toList)
    (h : readLiteral word = .ok value) :
    if isTypedWord word then value.kind ≠ .text else value = .str (stripQuotes word) := by
  unfold readLiteral at h
  split at h
  · rename_i hword
    obtain rfl := Except.ok.inj h
    simp [isTypedWord, hword, Value.kind]
  · rename_i hnotTrue
    split at h
    · rename_i hword
      obtain rfl := Except.ok.inj h
      simp [isTypedWord, hword, Value.kind]
    · rename_i hnotFalse
      split at h
      · cases h
      · rename_i number hnumber
        obtain rfl := Except.ok.inj h
        simp [isTypedWord, hnumber, kind_of_readNumber hnumber]
      · rename_i hnumber
        have htyped : isTypedWord word = false := by
          simp [isTypedWord, hnotTrue, hnotFalse, hnumber]
        rw [htyped, stripQuotes, htrim]
        split at h
        · rename_i inner hquotes
          obtain rfl := Except.ok.inj h
          simp [hquotes]
        · rename_i hquotes
          obtain rfl := Except.ok.inj h
          simp [hquotes, String.ofList_toList]

theorem stripQuotes_trim (v : String) :
    stripQuotes (String.ofList (trim v.toList)) = stripQuotes v := by
  simp only [stripQuotes, String.toList_ofList, trim_trim]

/-! ## The document of an id -/

/-- The document that a text names by its id. -/
theorem Store.matching_id_str (store : Store) (collection target : String) :
    store.matching collection (some ⟨"id", .equal, .str target⟩) =
      (store.documents collection).filter (fun d => d.id = target) := by
  have hmeets : ∀ d : Document,
      meets (some ⟨"id", .equal, .str target⟩) d = decide (d.id = target) := by
    intro d
    show (Value.str d.id).equal (.str target) = _
    simp only [Value.equal, Value.kind, Value.alike, beq_self_eq_true, Bool.true_and]
    rfl
  exact List.filter_congr fun d _ => hmeets d

/-- A value that is no text names no document. -/
theorem Store.matching_id_of_kind_ne (store : Store) (collection : String) {value : Value}
    (hkind : value.kind ≠ .text) :
    store.matching collection (some ⟨"id", .equal, value⟩) = [] := by
  refine List.filter_eq_nil_iff.mpr fun d _ => ?_
  show ¬ (Value.str d.id).equal value = true
  rw [Value.equal_of_kind_ne (Ne.symm hkind)]
  exact Bool.false_ne_true

/-- The documents that a condition on the id finds by the literal of a value. -/
theorem Store.Ordered.list_literal {store : Store} (h : store.Ordered) (collection : String)
    {v : String} {value : Value} (hvalue : readLiteral (trimmed v) = .ok value) (limit : Int) :
    store.list collection (some ⟨"id", .equal, value⟩) none limit =
      .of (if isTypedWord (trimmed v) then []
        else (store.documents collection).filter (fun d => d.id = stripQuotes v)) := by
  have hword : trim (trimmed v).toList = (trimmed v).toList := by
    simp only [trimmed, String.toList_ofList, trim_trim]
  have hcases := readLiteral_cases hword hvalue
  split
  · rename_i htyped
    rw [if_pos htyped] at hcases
    have hnone := store.matching_id_of_kind_ne collection hcases
    have hpinned : ∀ d ∈ store.matching collection (some ⟨"id", .equal, value⟩), d.id = "" := by
      simp [hnone]
    rw [h.list_of_pinned hpinned, hnone]
  · rename_i htyped
    rw [if_neg htyped] at hcases
    obtain rfl : value = .str (stripQuotes v) :=
      hcases.trans (congrArg Value.str (stripQuotes_trim v))
    have hmatching := store.matching_id_str collection (stripQuotes v)
    have hpinned : ∀ d ∈ store.matching collection (some ⟨"id", .equal, .str (stripQuotes v)⟩),
        d.id = stripQuotes v := by
      simp [hmatching]
    rw [h.list_of_pinned hpinned, hmatching]

/-! ## The body of an update -/

/-- What follows an empty record must be blank. -/
theorem Json.readChars_record (rest : List Char) :
    Json.readChars true ("\x7b\x7d".toList ++ rest) =
      Json.run true (.finished (.obj [])) (Json.tokens rest) := by
  show Json.run true (.value []) (Json.tokens ('\x7b' :: '\x7d' :: rest)) = _
  rw [Json.tokens_cons (by decide)]
  show Json.run true (.fieldName true [] []) (Json.tokens ('\x7d' :: rest)) = _
  rw [Json.tokens_cons (by decide)]
  rfl

theorem readBody_record : readBody .update "\x7b\x7d".toList = .ok [] := by
  have hread : Json.read true "\x7b\x7d" = .ok (.obj []) := by
    rw [Json.read_eq_ok_iff]
    have hchars := Json.readChars_record []
    rw [List.append_nil, Json.tokens] at hchars
    exact hchars
  rw [readBody, String.ofList_toList, hread]

/-- A body that reaches into the clause behind an empty record is no record. -/
theorem readBody_ne_ok (rest : List Char) (payload : Fields) :
    readBody .update ("\x7b\x7d".toList ++ ' ' :: 'W' :: rest) ≠ .ok payload := by
  have hrun : Json.readChars true ("\x7b\x7d".toList ++ ' ' :: 'W' :: rest) =
      .error (.malformed .extraData ('W' :: rest)) := by
    rw [Json.readChars_record, Json.tokens, if_pos (by decide), Json.tokens_cons (by decide)]
    rfl
  intro h
  rw [readBody] at h
  split at h
  · cases h
  · rename_i fields hread
    rw [Json.read_eq_ok_iff, String.toList_ofList, hrun] at hread
    cases hread
  · cases h

/-- The body of an update that is read is the empty record alone. -/
theorem body_of_update {line body target : List Char} {payload : Fields}
    (hfound : longestRun (fun c => c ≠ '\n') Shape.idClause?
      ("\x7b\x7d WHERE id =".toList ++ line) = some (body, target))
    (hbody : readBody .update body = .ok payload) :
    body = "\x7b\x7d".toList ∧ anyBlanks restOfLine line = some target := by
  obtain ⟨rest, hsplit, hne, -, hclause⟩ := longestRun_some hfound
  have hchars : '\x7b' :: '\x7d' :: ' ' :: 'W' :: ("HERE id =".toList ++ line) = body ++ rest :=
    hsplit
  have hnone : ∀ c cs, isBlank c = false → Shape.idClause? (c :: cs) = none := by
    intro c cs hc
    exact someBlanks_of_startsOutside (startsOutside_cons hc)
  match body with
  | [] => exact absurd rfl hne
  | [_] =>
      simp only [List.cons_append, List.nil_append, List.cons.injEq] at hchars
      obtain ⟨-, rfl⟩ := hchars
      rw [hnone _ _ (by decide)] at hclause
      cases hclause
  | [_, _] =>
      simp only [List.cons_append, List.nil_append, List.cons.injEq] at hchars
      obtain ⟨rfl, rfl, rfl⟩ := hchars
      exact ⟨rfl, (Shape.idClause?_append line).symm.trans hclause⟩
  | [_, _, _] =>
      simp only [List.cons_append, List.nil_append, List.cons.injEq] at hchars
      obtain ⟨-, -, -, rfl⟩ := hchars
      rw [hnone _ _ (by decide)] at hclause
      cases hclause
  | _ :: _ :: _ :: _ :: more =>
      simp only [List.cons_append, List.cons.injEq] at hchars
      obtain ⟨rfl, rfl, rfl, rfl, -⟩ := hchars
      exact absurd hbody (readBody_ne_ok more payload)

/-! ## The three statements -/

/-- The text of a listing with a condition on the id. -/
def selectById (collection value : String) : String :=
  "SELECT * FROM " ++ collection ++ " WHERE id = " ++ value

/-- The text of a deletion. -/
def deleteById (collection value : String) : String :=
  "DELETE FROM " ++ collection ++ " WHERE id = " ++ value

/-- The text of an update that sets no field. -/
def updateById (collection value : String) : String :=
  "UPDATE " ++ collection ++ " SET JSON \x7b\x7d WHERE id = " ++ value

section Reading

variable {c v : String}

/-- The blanks at the end of a statement go; those before the value stay. -/
theorem trim_statement {word clause closing : List Char}
    (hword : LeadsOutside isBlank word)
    (hclosing : closing = clause ++ [' '] ∧ clause.getLast? = some '=') (name value : List Char) :
    trim (word ++ (name ++ (closing ++ value))) =
      word ++ (name ++ (clause ++ trimEnd (' ' :: value))) := by
  obtain ⟨rfl, hclause⟩ := hclosing
  obtain ⟨front, rfl⟩ := List.getLast?_eq_some_iff.mp hclause
  have hstart : ∀ cs, trim (word ++ cs) = trimEnd (word ++ cs) := by
    intro cs
    cases word with
    | nil => cases hword
    | cons c word =>
        have hc : isBlank c = false := hword.append [] c rfl
        rw [trim, List.cons_append, trimStart_cons_of_not_blank hc]
  have hassoc : ∀ rest : List Char, word ++ (name ++ (front ++ ['='] ++ rest)) =
      (word ++ name ++ front) ++ '=' :: rest := by
    intro rest
    simp only [List.append_assoc, List.singleton_append]
  rw [hstart, List.append_assoc (front ++ ['=']), List.singleton_append, hassoc, hassoc,
    trimEnd_append_cons (by decide)]

theorem trim_selectById (c v : String) : trim (selectById c v).toList =
    "SELECT * FROM ".toList ++
      (c.toList ++ (" WHERE id =".toList ++ trimEnd (' ' :: v.toList))) := by
  change trim ("SELECT * FROM " ++ c ++ " WHERE id = " ++ v).toList = _
  simp only [String.toList_append, List.append_assoc]
  exact trim_statement (by decide) (by decide) c.toList v.toList

theorem trim_deleteById (c v : String) : trim (deleteById c v).toList =
    "DELETE FROM ".toList ++
      (c.toList ++ (" WHERE id =".toList ++ trimEnd (' ' :: v.toList))) := by
  change trim ("DELETE FROM " ++ c ++ " WHERE id = " ++ v).toList = _
  simp only [String.toList_append, List.append_assoc]
  exact trim_statement (by decide) (by decide) c.toList v.toList

theorem trim_updateById (c v : String) : trim (updateById c v).toList =
    "UPDATE ".toList ++
      (c.toList ++ (" SET JSON \x7b\x7d WHERE id =".toList ++ trimEnd (' ' :: v.toList))) := by
  change trim ("UPDATE " ++ c ++ " SET JSON \x7b\x7d WHERE id = " ++ v).toList = _
  simp only [String.toList_append, List.append_assoc]
  exact trim_statement (by decide) (by decide) c.toList v.toList

/-- A condition on the id compares it with the literal that its value stands for. -/
theorem command_select {value : List Char} {command : Command} (htrim : trim value = value)
    (h : (Shape.select c.toList (some ⟨"id".toList, "=".toList, value⟩)).command = .ok command) :
    ∃ literal, readLiteral (String.ofList value) = .ok literal ∧
      command = .select c (some ⟨"id", .equal, literal⟩) := by
  have hspelling : Operator.ofSpelling? (String.ofList (lowered "=".toList)) = some .equal := by
    decide
  simp only [Shape.command, ConditionText.filter, hspelling, htrim, String.ofList_toList] at h
  cases hliteral : readLiteral (String.ofList value) with
  | error fault => rw [hliteral] at h; cases h
  | ok literal =>
      have hfield : Filter.checked "id" .equal literal = .ok ⟨"id", .equal, literal⟩ := by
        rw [Filter.checked, if_pos (by decide)]
      rw [hliteral] at h
      simp only [hfield] at h
      exact ⟨literal, rfl, (Command.checked_eq_ok h).1⟩

theorem command_delete (hc : isCollectionName c = true) (value : List Char) :
    (Shape.delete c.toList value).command =
      .ok (.delete c (some (stripQuotes (String.ofList value)))) := by
  simp only [Shape.command, String.ofList_toList]
  exact if_pos hc

/-- The value at the end of a statement, read without the blanks around it. -/
theorem anyBlanks_restOfLine_value (hv : '\n' ∉ v.toList) (hne : trim v.toList ≠ []) :
    anyBlanks restOfLine (trimEnd (' ' :: v.toList)) = some (trim v.toList) := by
  have htrim : trim (' ' :: v.toList) = trim v.toList := rfl
  rw [anyBlanks_restOfLine_trimEnd (by simpa using hv), htrim, if_neg hne]

variable {command : Command} (hc : isCollectionName c = true) (hv : '\n' ∉ v.toList)

include hc hv

/-- A listing that is read compares the id with the literal that the value stands for. -/
theorem read_selectById (h : Command.read (selectById c v) = .ok command) :
    trim v.toList ≠ [] ∧ ∃ literal, readLiteral (trimmed v) = .ok literal ∧
      command = .select c (some ⟨"id", .equal, literal⟩) := by
  have hcollection := isCollection_of_isCollectionName hc
  rw [Command.read, trim_selectById] at h
  rcases trim_cases (' ' :: v.toList) with ⟨-, hend⟩ | ⟨x, w, hx, hend, hvalue⟩
  · rw [hend, List.append_nil, Shape.ofChars?_select_nil hcollection] at h
    cases h
  · have hne : trim v.toList ≠ [] := by
      intro hnil
      cases hvalue.symm.trans hnil
    have hfound := anyBlanks_restOfLine_value hv hne
    have hline : trimEnd (' ' :: v.toList) = ' ' :: (v.toList.takeWhile isBlank ++ x :: w) := hend
    rw [hline] at h hfound
    rw [Shape.ofChars?_select hcollection hfound] at h
    exact ⟨hne, command_select (trim_trim v.toList) h⟩

/-- A deletion takes the value without blanks and quotes for the id. -/
theorem read_deleteById (hne : trim v.toList ≠ []) :
    Command.read (deleteById c v) = .ok (.delete c (some (stripQuotes v))) := by
  rw [Command.read, trim_deleteById,
    Shape.ofChars?_delete (isCollection_of_isCollectionName hc),
    anyBlanks_restOfLine_value hv hne, Option.map_some]
  simp only [command_delete hc, stripQuotes_trim]

/-- An update that is read takes the value without blanks and quotes for the id. -/
theorem read_updateById (hne : trim v.toList ≠ [])
    (h : Command.read (updateById c v) = .ok command) :
    command = .update c (some (stripQuotes v)) [] := by
  rw [Command.read, trim_updateById,
    Shape.ofChars?_update (isCollection_of_isCollectionName hc)] at h
  cases hfound : longestRun (fun c => c ≠ '\n') Shape.idClause?
      ("\x7b\x7d WHERE id =".toList ++ trimEnd (' ' :: v.toList)) with
  | none => rw [hfound] at h; cases h
  | some found =>
      obtain ⟨body, target⟩ := found
      simp only [hfound, Option.map_some, Shape.command] at h
      cases hbody : readBody .update body with
      | error fault => rw [hbody] at h; cases h
      | ok payload =>
          obtain ⟨rfl, hline⟩ := body_of_update hfound hbody
          rw [anyBlanks_restOfLine_value hv hne] at hline
          obtain rfl := Option.some.inj hline
          obtain rfl := Except.ok.inj (hbody.symm.trans readBody_record)
          simp only [readBody_record, stripQuotes_trim, String.ofList_toList] at h
          exact (Command.checked_eq_ok h).1

end Reading

/-! ## One id in every statement -/

/-- A listing by id finds the document that a deletion or an update of that id is about, unless the
bare value stands for a truth value or a number: then it finds none. -/
theorem id_names_one_document {backend : Backend} {store : Store}
    (hstore : backend.store = some store) (hreachable : store.Reachable)
    (hopen : store.isOpen = true) (hlisting : backend.failures.lookup "list" = none)
    {c v : String} (hc : isCollectionName c = true) (hv : '\n' ∉ v.toList) {listing : Command}
    (h : Command.read (selectById c v) = .ok listing) (pageSize : Int) :
    Command.read (deleteById c v) = .ok (.delete c (some (stripQuotes v))) ∧
      (∀ command, Command.read (updateById c v) = .ok command →
        command = .update c (some (stripQuotes v)) []) ∧
      (Command.executeStatement (selectById c v) none pageSize backend).1 =
        Command.pageResult c (.of (if isTypedWord (trimmed v) then []
          else (store.documents c).filter (fun d => d.id = stripQuotes v))) := by
  obtain ⟨hne, value, hvalue, rfl⟩ := read_selectById hc hv h
  have hdelete := read_deleteById hc hv hne
  have hupdate : ∀ command, Command.read (updateById c v) = .ok command →
      command = .update c (some (stripQuotes v)) [] :=
    fun command hcommand => read_updateById hc hv hne hcommand
  have hserves : backend.Serves store := ⟨hstore, hopen, hlisting, hreachable.ordered⟩
  have hresult : (Command.executeStatement (selectById c v) none pageSize backend).1 =
      Command.pageResult c (store.list c (some ⟨"id", .equal, value⟩) none pageSize) := by
    rw [Command.executeStatement, h]
    simp only [Command.execute, hserves.connected, if_true, Command.firstCall,
      hserves.perform_list]
    rfl
  refine ⟨hdelete, hupdate, ?_⟩
  rw [hresult]
  exact congrArg (Command.pageResult c) (hreachable.ordered.list_literal c hvalue pageSize)

/-- A store with two items, one of whose ids reads like a number. -/
def itemsWithNumberId : Backend :=
  ⟨some (.ofData [("items", [("5", []), ("a", [])])]), [], .fresh⟩

/-- In quotes the number is an id for all three statements. -/
theorem id_names_one_document_of_quoted :
    Command.read (deleteById "items" " '5' ") = .ok (.delete "items" (some "5")) ∧
      (∀ command, Command.read (updateById "items" " '5' ") = .ok command →
        command = .update "items" (some "5") []) ∧
      (Command.executeStatement (selectById "items" " '5' ") none 50 itemsWithNumberId).1 =
        Command.pageResult "items" (.of [⟨"5", []⟩]) :=
  have h : Command.read (selectById "items" " '5' ") =
      .ok (.select "items" (some ⟨"id", .equal, .str "5"⟩)) := rfl
  id_names_one_document rfl (.seeded [("items", [("5", []), ("a", [])])]) rfl rfl (by decide)
    (by decide) h 50

/-- Without quotes a listing compares the id with a number and finds nothing, while a deletion
takes the same text for the id of a document that is there. -/
theorem bare_number_names_no_document :
    Command.read (selectById "items" "5") =
        .ok (.select "items" (some ⟨"id", .equal, .int 5⟩)) ∧
      Command.read (deleteById "items" "5") = .ok (.delete "items" (some "5")) ∧
      Command.read (updateById "items" "5") = .ok (.update "items" (some "5") []) ∧
      itemsWithNumberId.store.map (fun store =>
        (store.documents "items").filter (fun d => d.id = "5")) = some [⟨"5", []⟩] ∧
      (Command.executeStatement (selectById "items" "5") none 50 itemsWithNumberId).1 =
        Command.pageResult "items" (.of []) ∧
      Command.pageResult "items" (.of []) ≠ Command.pageResult "items" (.of [⟨"5", []⟩]) := by
  refine ⟨rfl, rfl, ?_, by decide +kernel, by decide +kernel, by decide +kernel⟩
  with_unfolding_all rfl

end DocConsole
