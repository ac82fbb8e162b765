import DocConsole.Proofs.Text.Recognition
import DocConsole.Execution
import DocConsole.Result.Csv
import Mathlib.Data.List.Induction

/-!
# Comma-separated text read back

A reader of comma-separated text.  Outside quotes a comma ends a field and a line feed a record; a
quote opens quotes, and within them every character stands for itself, but for a quote, which
closes them unless it is doubled.  Cells are written for such a reader.  The names of columns are
not: they stand in the header as they are.  Main statements: every row is read back as the texts of
its cells, whatever they hold, and the header is read back as the names of the columns just if no
name holds a comma, a quote or a line feed.
-/

set_option autoImplicit false

namespace DocConsole.Csv

open Text

/-! ## Reading -/

/-- Where a reader stands. -/
inductive Place where
  /-- Outside quotes. -/
  | plain
  /-- Within quotes. -/
  | quoted
  /-- Behind a quote within quotes: it closed them, unless another quote follows. -/
  | closing
  deriving DecidableEq, Repr

/-- What is read from somewhere on: the rest of the field, the fields behind it in its record, and
the records behind that one. -/
structure Remainder where
  /-- The rest of the field. -/
  field : List Char
  /-- The other fields of the record. -/
  fields : List (List Char)
  /-- The other records. -/
  records : List (List (List Char))
  deriving DecidableEq

namespace Remainder

/-- Nothing is left. -/
def nothing : Remainder := ⟨[], [], []⟩

/-- The field goes on with some characters. -/
def withChars (cs : List Char) (rest : Remainder) : Remainder :=
  { rest with field := cs ++ rest.field }

/-- A field ends here. -/
def nextField (rest : Remainder) : Remainder :=
  ⟨[], rest.field :: rest.fields, rest.records⟩

/-- All that is left, as records. -/
def all (rest : Remainder) : List (List (List Char)) :=
  (rest.field :: rest.fields) :: rest.records

/-- A record ends here. -/
def nextRecord (rest : Remainder) : Remainder :=
  ⟨[], [], rest.all⟩

@[simp] theorem withChars_withChars (front cs : List Char) (rest : Remainder) :
    withChars front (withChars cs rest) = withChars (front ++ cs) rest := by
  simp [withChars]

end Remainder

/-- What a character outside quotes does that is no quote. -/
def readOutside (c : Char) (rest : Remainder) : Remainder :=
  if c = ',' then rest.nextField
  else if c = '\n' then rest.nextRecord
  else rest.withChars [c]

namespace Place

/-- The place behind a character. -/
def after (place : Place) (c : Char) : Place :=
  match place with
  | .plain => if c = '"' then .quoted else .plain
  | .quoted => if c = '"' then .closing else .quoted
  | .closing => if c = '"' then .quoted else .plain

/-- What is read with a character in front. -/
def reads (place : Place) (c : Char) (rest : Remainder) : Remainder :=
  match place with
  | .plain => if c = '"' then rest else readOutside c rest
  | .quoted => if c = '"' then rest else rest.withChars [c]
  | .closing => if c = '"' then rest.withChars [c] else readOutside c rest

end Place

/-- What is read of a text from a place on. -/
def readFrom (place : Place) : List Char → Remainder
  | [] => .nothing
  | c :: cs => place.reads c (readFrom (place.after c) cs)

/-- The records of a text, each with its fields. -/
def read (text : String) : List (List String) :=
  (readFrom .plain text.toList).all.map (fun fields => fields.map String.ofList)

/-- The records of a text are those that are read from its start on. -/
theorem read_eq {text : String} {records : List (List String)}
    (h : (readFrom .plain text.toList).all = records.map (·.map String.toList)) :
    read text = records := by
  simp [read, h, Function.comp_def, String.ofList_toList]

variable {cs text rest : List Char} {c : Char}

theorem needsQuotes_eq_false_iff : needsQuotes c = false ↔ c ≠ '"' ∧ c ≠ ',' ∧ c ≠ '\n' := by
  simp [needsQuotes, and_assoc]

/-- A character that needs no quotes stands for itself. -/
theorem readFrom_plain_cons (h : needsQuotes c = false) (cs : List Char) :
    readFrom .plain (c :: cs) = (readFrom .plain cs).withChars [c] := by
  obtain ⟨hquote, hcomma, hline⟩ := needsQuotes_eq_false_iff.mp h
  simp only [readFrom, Place.reads, Place.after, readOutside, if_neg hquote, if_neg hcomma,
    if_neg hline]

theorem readFrom_plain_append (h : ∀ c ∈ cs, needsQuotes c = false) (rest : List Char) :
    readFrom .plain (cs ++ rest) = (readFrom .plain rest).withChars cs := by
  induction cs with
  | nil => rfl
  | cons c cs ih =>
      rw [List.cons_append, readFrom_plain_cons (h c List.mem_cons_self),
        ih fun d hd => h d (List.mem_cons_of_mem _ hd), Remainder.withChars_withChars,
        List.singleton_append]

/-- Within quotes a text with its quotes doubled stands for the text. -/
theorem readFrom_doubleQuotes (cs rest : List Char) :
    readFrom .quoted (doubleQuotes cs ++ rest) = (readFrom .quoted rest).withChars cs := by
  induction cs with
  | nil => rfl
  | cons c cs ih =>
      have hchars : (readFrom .quoted (doubleQuotes cs ++ rest)).withChars [c] =
          (readFrom .quoted rest).withChars (c :: cs) := by
        rw [ih, Remainder.withChars_withChars, List.singleton_append]
      by_cases hc : c = '"'
      · subst hc
        exact hchars
      · rw [doubleQuotes, if_neg hc, List.cons_append, ← hchars]
        simp only [readFrom, Place.reads, Place.after, if_neg hc]

/-- A quote within quotes that no other one follows has closed them. -/
theorem readFrom_closing (h : StartsOutside (· == '"') rest) :
    readFrom .closing rest = readFrom .plain rest := by
  cases rest with
  | nil => rfl
  | cons c rest =>
      have hc : c ≠ '"' := by simpa using h c rfl
      simp only [readFrom, Place.reads, Place.after, if_neg hc]

/-! ## Fields -/

/-- Some characters are read as a field of a text, wherever no quote follows. -/
def ReadsField (cs text : List Char) : Prop :=
  ∀ rest, StartsOutside (· == '"') rest →
    readFrom .plain (cs ++ rest) = (readFrom .plain rest).withChars text

theorem readsField_plain (h : ∀ c ∈ cs, needsQuotes c = false) : ReadsField cs cs :=
  fun rest _ => readFrom_plain_append h rest

theorem readsField_quotedCell (cs : List Char) : ReadsField (quotedCell cs) cs := by
  intro rest hrest
  have hopened : readFrom .plain (quotedCell cs ++ rest) =
      readFrom .quoted (doubleQuotes cs ++ '"' :: rest) := by
    rw [quotedCell, List.append_assoc]
    rfl
  have hclosed : readFrom .quoted ('"' :: rest) = readFrom .closing rest := rfl
  rw [hopened, readFrom_doubleQuotes, hclosed, readFrom_closing hrest]

theorem readsField_cellOf (cs : List Char) : ReadsField (cellOf cs) cs := by
  unfold cellOf
  split
  · exact readsField_quotedCell cs
  · rename_i hnone
    refine readsField_plain fun c hc => ?_
    rw [Bool.not_eq_true, List.any_eq_false] at hnone
    exact Bool.not_eq_true _ ▸ hnone c hc

/-- A cell is read as the text of its value. -/
theorem readsField_cell (value : Value) : ReadsField (cell value) (cellText value).toList := by
  unfold cell
  split
  · exact readsField_quotedCell _
  · exact readsField_quotedCell _
  · exact readsField_cellOf _

/-! ## Records -/

/-- A text goes on with a new record, or is at its end. -/
def EndsRecord (rest : List Char) : Prop :=
  rest = [] ∨ ∃ more, rest = '\n' :: more

/-- Some characters are read as a record of fields, wherever the record ends behind them. -/
def ReadsRecord (cs : List Char) (fields : List (List Char)) : Prop :=
  ∀ rest, EndsRecord rest → (readFrom .plain (cs ++ rest)).all =
    fields :: (readFrom .plain rest).records

theorem EndsRecord.startsOutside (h : EndsRecord rest) : StartsOutside (· == '"') rest := by
  rcases h with rfl | ⟨more, rfl⟩
  · exact startsOutside_nil _
  · exact startsOutside_cons (by decide)

theorem EndsRecord.readFrom_eq (h : EndsRecord rest) :
    readFrom .plain rest = ⟨[], [], (readFrom .plain rest).records⟩ := by
  rcases h with rfl | ⟨more, rfl⟩
  · rfl
  · rfl

/-- The characters of two or more texts in a row. -/
theorem toList_joined_cons (separator piece next : String) (pieces : List String) :
    (joined separator (piece :: next :: pieces)).toList =
      piece.toList ++ (separator.toList ++ (joined separator (next :: pieces)).toList) := by
  have hjoined : joined separator (piece :: next :: pieces) =
      piece ++ separator ++ joined separator (next :: pieces) := rfl
  rw [hjoined, String.toList_append, String.toList_append, List.append_assoc]

section Joined

variable {α : Type} {write : α → String}

/-- Fields with commas between them are read as a record. -/
theorem readsRecord_joined {text : α → List Char} {items : List α} (hne : items ≠ [])
    (h : ∀ item ∈ items, ReadsField (write item).toList (text item)) :
    ReadsRecord (joined "," (items.map write)).toList (items.map text) := by
  intro rest hrest
  induction items with
  | nil => exact absurd rfl hne
  | cons item items ih =>
      have hfirst := h item List.mem_cons_self
      cases items with
      | nil =>
          rw [List.map_singleton, joined_singleton, hfirst rest hrest.startsOutside,
            hrest.readFrom_eq]
          simp [Remainder.withChars, Remainder.all]
      | cons next items =>
          have hothers := ih (List.cons_ne_nil _ _) fun x hx => h x (List.mem_cons_of_mem _ hx)
          have hjoined : (joined "," ((item :: next :: items).map write)).toList ++ rest =
              (write item).toList ++
                (',' :: ((joined "," ((next :: items).map write)).toList ++ rest)) := by
            rw [List.map_cons, List.map_cons, toList_joined_cons, List.append_assoc]
            rfl
          have hcomma (cs : List Char) :
              readFrom .plain (',' :: cs) = (readFrom .plain cs).nextField := rfl
          simp only [Remainder.all, List.map_cons, List.cons.injEq] at hothers
          obtain ⟨⟨hfield, hfields⟩, hrecords⟩ := hothers
          rw [hjoined, hfirst _ (startsOutside_cons (by decide)), hcomma]
          simp [Remainder.withChars, Remainder.nextField, Remainder.all, hfield, hfields, hrecords]

/-- Records with line feeds between them are read as these records. -/
theorem readFrom_joined {fields : α → List (List Char)} {items : List α} (hne : items ≠ [])
    (h : ∀ item ∈ items, ReadsRecord (write item).toList (fields item)) :
    (readFrom .plain (joined "\n" (items.map write)).toList).all = items.map fields := by
  induction items with
  | nil => exact absurd rfl hne
  | cons item items ih =>
      have hfirst := h item List.mem_cons_self
      cases items with
      | nil =>
          have hlast := hfirst [] (Or.inl rfl)
          rwa [List.append_nil] at hlast
      | cons next items =>
          have hothers := ih (List.cons_ne_nil _ _) fun x hx => h x (List.mem_cons_of_mem _ hx)
          have hjoined : (joined "\n" ((item :: next :: items).map write)).toList =
              (write item).toList ++ ('\n' :: (joined "\n" ((next :: items).map write)).toList) :=
            toList_joined_cons _ _ _ _
          rw [hjoined, hfirst _ (Or.inr ⟨_, rfl⟩)]
          exact congrArg (fields item :: ·) hothers

end Joined

/-! ## Rows -/

/-- The texts of the cells of a row. -/
def rowTexts (columns : List String) (row : Fields) : List String :=
  columns.map fun column => cellText ((Fields.get? row column).getD .null)

/-- The line of a row is read as the texts of its cells. -/
theorem readsRecord_rowLine {columns : List String} (hne : columns ≠ []) (row : Fields) :
    ReadsRecord (rowLine columns row).toList ((rowTexts columns row).map String.toList) := by
  rw [rowTexts, List.map_map]
  refine readsRecord_joined hne fun column _ => ?_
  rw [String.toList_ofList]
  exact readsField_cell _

/-- A result with rows is its header line, and behind it the lines of its rows. -/
theorem ofResult_of_rows {result : QueryResult} (hrows : result.rows ≠ []) :
    ofResult result = joined "," result.columns ++ "\n" ++
      joined "\n" (result.rows.map (rowLine result.columns)) := by
  obtain ⟨row, rows, hcons⟩ := List.exists_cons_of_ne_nil hrows
  rw [ofResult, hcons]
  rfl

/-- The lines of the rows are read as the texts of their cells. -/
theorem readFrom_rowLines {columns : List String} {rows : List Fields} (hcolumns : columns ≠ [])
    (hrows : rows ≠ []) :
    (readFrom .plain (joined "\n" (rows.map (rowLine columns))).toList).all =
      (rows.map (rowTexts columns)).map (·.map String.toList) := by
  rw [List.map_map]
  exact readFrom_joined hrows fun row _ => readsRecord_rowLine hcolumns row

/-- Behind the header line every row is read back, in order, as the texts of its cells: one field
for each column, with the text that the value in this column stands for, whatever it holds. -/
theorem rows_read_back {result : QueryResult} (hcolumns : result.columns ≠ [])
    (hrows : result.rows ≠ []) :
    ∃ body, ofResult result = joined "," result.columns ++ "\n" ++ body ∧
      read body = result.rows.map (rowTexts result.columns) := by
  refine ⟨_, ofResult_of_rows hrows, ?_⟩
  exact read_eq (readFrom_rowLines hcolumns hrows)

/-- A listing with texts, lists and gaps that are awkward in a line of commas. -/
def awkwardItems : QueryResult :=
  { Command.pageResult "items" (.of [
      ⟨"n1", [("note", .str "\"a\",\nb\""), ("tags", .arr [.str "x,y", .null])]⟩,
      ⟨"n2", [("tags", .bool true)]⟩]) with columns := ["id", "note", "tags"] }

/-- Quotes, commas and line feeds come back, and a field that is missing comes back empty. -/
theorem awkward_rows_read_back :
    awkwardItems.columns ≠ [] ∧ awkwardItems.rows ≠ [] ∧
      ∃ body, ofResult awkwardItems = "id,note,tags" ++ "\n" ++ body ∧
        read body = [["n1", "\"a\",\nb\"", "[\"x,y\",null]"], ["n2", "", "true"]] := by
  have hcolumns : awkwardItems.columns ≠ [] := by decide
  have hrows : awkwardItems.rows ≠ [] := by decide
  have htexts : awkwardItems.rows.map (rowTexts awkwardItems.columns) =
      [["n1", "\"a\",\nb\"", "[\"x,y\",null]"], ["n2", "", "true"]] := by
    decide +kernel
  rw [← htexts]
  exact ⟨hcolumns, hrows, rows_read_back hcolumns hrows⟩

/-! ## The header -/

/-- The name of a column that stands for itself in a line: it holds no comma, no quote and no line
feed. -/
def IsPlainName (name : String) : Prop :=
  ∀ c ∈ name.toList, needsQuotes c = false

theorem all_iff_isPlainName {name : String} :
    (name.toList.all fun c => !needsQuotes c) = true ↔ IsPlainName name := by
  simp [IsPlainName]

instance (name : String) : Decidable (IsPlainName name) :=
  decidable_of_iff _ all_iff_isPlainName

/-- A character that ends a field. -/
def EndsField (c : Char) : Prop :=
  c = ',' ∨ c = '\n'

theorem EndsField.ne_quote (h : EndsField c) : c ≠ '"' := by
  rcases h with rfl | rfl <;> decide

/-- Only two quotes in a row stand for a quote within quotes. -/
theorem field_quoted_ne (hc : c ≠ '"') (rest cs : List Char) :
    (readFrom .quoted (c :: rest)).field ≠ '"' :: cs := by
  simp only [readFrom, Place.reads, Place.after, if_neg hc, Remainder.withChars,
    List.singleton_append]
  exact fun h => hc (List.cons.inj h).1

theorem field_closing_ne (hc : c ≠ '"') (rest cs : List Char) :
    (readFrom .closing (c :: rest)).field ≠ '"' :: cs := by
  simp only [readFrom, Place.reads, Place.after, if_neg hc, readOutside]
  split
  · exact fun h => List.cons_ne_nil _ _ h.symm
  · split
    · exact fun h => List.cons_ne_nil _ _ h.symm
    · exact fun h => hc (List.cons.inj h).1

/-- Quotes opened in a name shorten it: each pair of quotes behind the first one stands for one, so
that the field falls ever further behind. -/
theorem field_quoted_ne_quotes (hc : EndsField c) (rest name : List Char) (count : Nat) :
    (readFrom .quoted (name ++ c :: rest)).field ≠ List.replicate (count + 1) '"' ++ name := by
  induction name using List.twoStepInduction generalizing count with
  | nil => exact field_quoted_ne hc.ne_quote rest _
  | singleton x =>
      by_cases hx : x = '"'
      · subst hx
        exact field_closing_ne hc.ne_quote rest _
      · exact field_quoted_ne hx _ _
  | cons_cons x y name ih _ =>
      by_cases hx : x = '"'
      · subst hx
        by_cases hy : y = '"'
        · subst hy
          intro h
          have hquote : (readFrom .quoted ('"' :: '"' :: (name ++ c :: rest))).field =
              '"' :: (readFrom .quoted (name ++ c :: rest)).field := rfl
          have hcount : List.replicate (count + 1) '"' ++ '"' :: '"' :: name =
              '"' :: (List.replicate (count + 2) '"' ++ name) :=
            calc
              _ = List.replicate (count + 1) '"' ++ List.replicate 2 '"' ++ name := by
                rw [List.append_assoc]
                rfl
              _ = List.replicate (count + 1 + 2) '"' ++ name := by
                rw [List.replicate_append_replicate]
          rw [List.cons_append, List.cons_append, hquote, hcount] at h
          exact ih (count + 1) (List.cons.inj h).2
        · exact field_closing_ne hy _ _
      · exact field_quoted_ne hx _ _

/-- A name that is read back as a field is plain. -/
theorem needsQuotes_eq_false_of_field (hc : EndsField c) {rest name : List Char}
    (h : (readFrom .plain (name ++ c :: rest)).field = name) :
    ∀ d ∈ name, needsQuotes d = false := by
  induction name with
  | nil => exact fun d hd => absurd hd List.not_mem_nil
  | cons d name ih =>
      have hplain : needsQuotes d = false := by
        rw [needsQuotes_eq_false_iff]
        refine ⟨?_, ?_, ?_⟩
        · rintro rfl
          exact field_quoted_ne_quotes hc rest name 0 h
        · rintro rfl
          cases h
        · rintro rfl
          cases h
      rw [List.cons_append, readFrom_plain_cons hplain] at h
      exact List.forall_mem_cons.mpr ⟨hplain, ih (List.cons.inj h).2⟩

/-- Names that are read back as the fields of the first record are plain. -/
theorem isPlainName_of_readFrom {names : List String} {rest : List Char}
    (h : (readFrom .plain ((joined "," names).toList ++ '\n' :: rest)).all.head? =
      some (names.map String.toList)) : ∀ name ∈ names, IsPlainName name := by
  induction names with
  | nil => exact fun name hname => absurd hname List.not_mem_nil
  | cons name names ih =>
      cases names with
      | nil =>
          have hfield := (List.cons.inj (Option.some.inj h)).1
          exact List.forall_mem_singleton.mpr
            (needsQuotes_eq_false_of_field (Or.inr rfl) hfield)
      | cons next names =>
          have hjoined : (joined "," (name :: next :: names)).toList ++ '\n' :: rest =
              name.toList ++ (',' :: ((joined "," (next :: names)).toList ++ '\n' :: rest)) := by
            rw [toList_joined_cons, List.append_assoc]
            rfl
          rw [hjoined] at h
          have hplain := needsQuotes_eq_false_of_field (Or.inl rfl)
            (List.cons.inj (Option.some.inj h)).1
          rw [readFrom_plain_append hplain] at h
          refine List.forall_mem_cons.mpr ⟨hplain, ih ?_⟩
          exact congrArg some (List.cons.inj (Option.some.inj h)).2

/-- An export with plain names is read back as the names and the texts of the cells. -/
theorem read_ofResult {result : QueryResult} (hcolumns : result.columns ≠ [])
    (hrows : result.rows ≠ []) (hplain : ∀ name ∈ result.columns, IsPlainName name) :
    read (ofResult result) = result.columns :: result.rows.map (rowTexts result.columns) := by
  have hheader : ReadsRecord (joined "," (result.columns.map id)).toList
      (result.columns.map String.toList) :=
    readsRecord_joined hcolumns fun name hname => readsField_plain (hplain name hname)
  rw [List.map_id] at hheader
  refine read_eq ?_
  rw [ofResult_of_rows hrows, String.toList_append, String.toList_append, List.append_assoc]
  exact (hheader _ (Or.inr ⟨_, rfl⟩)).trans
    (congrArg (_ :: ·) (readFrom_rowLines hcolumns hrows))

/-- The header is read back as the names of the columns, with as many fields as every row, just if
every name is plain: the names are not put in quotes as cells are. -/
theorem header_reads_back_iff {result : QueryResult} (hcolumns : result.columns ≠ [])
    (hrows : result.rows ≠ []) :
    ((read (ofResult result)).head? = some result.columns ∧
        ∀ record ∈ read (ofResult result), record.length = result.columns.length) ↔
      ∀ name ∈ result.columns, IsPlainName name := by
  constructor
  · rintro ⟨hheader, -⟩
    have hchars := congrArg (Option.map (List.map String.toList)) hheader
    rw [read, ofResult_of_rows hrows, String.toList_append, String.toList_append,
      List.append_assoc, ← List.head?_map, List.map_map] at hchars
    have hfirst : (readFrom .plain ((joined "," result.columns).toList ++ '\n' ::
        (joined "\n" (result.rows.map (rowLine result.columns))).toList)).all.head? =
        some (result.columns.map String.toList) := by
      simpa [Function.comp_def] using hchars
    exact isPlainName_of_readFrom hfirst
  · intro hplain
    rw [read_ofResult hcolumns hrows hplain]
    refine ⟨rfl, List.forall_mem_cons.mpr ⟨rfl, ?_⟩⟩
    intro record hrecord
    obtain ⟨row, -, rfl⟩ := List.mem_map.mp hrecord
    exact List.length_map _

/-- The names of an ordinary listing come back. -/
theorem awkward_header_reads_back :
    awkwardItems.columns ≠ [] ∧ awkwardItems.rows ≠ [] ∧
      (read (ofResult awkwardItems)).head? = some ["id", "note", "tags"] ∧
        ∀ record ∈ read (ofResult awkwardItems), record.length = 3 := by
  have hcolumns : awkwardItems.columns ≠ [] := by decide
  have hrows : awkwardItems.rows ≠ [] := by decide
  have hplain : ∀ name ∈ awkwardItems.columns, IsPlainName name := by
    decide +kernel
  exact ⟨hcolumns, hrows, (header_reads_back_iff hcolumns hrows).mpr hplain⟩

/-- A listing of a document with a comma in the name of a field. -/
def commaNamedItems : QueryResult :=
  Command.pageResult "items" (.of [⟨"n1", [("a,b", .int 1)]⟩])

/-- A comma in a name parts the header, and no row has as many fields. -/
theorem comma_in_name_parts_header :
    commaNamedItems.columns = ["id", "a,b"] ∧ ofResult commaNamedItems = "id,a,b\nn1,1" ∧
      read (ofResult commaNamedItems) = [["id", "a", "b"], ["n1", "1"]] := by
  decide +kernel

end DocConsole.Csv
