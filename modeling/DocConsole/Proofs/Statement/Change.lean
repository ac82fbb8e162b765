import DocConsole.Proofs.Json.RoundTrip
import DocConsole.Proofs.Statement.Recognition
import DocConsole.Statement.Reader

/-!
# Reading a change back

An update writes a record as JSON and names its document in a clause behind it, as a deletion does.
The body of an update is as long as possible before such a clause, so it must not end early in a
text of the record that looks like one, nor late in the id.  It never ends early, and it ends late
only in an id that holds the start of a clause itself.  Main statement: a deletion and an update are
read as the collection, the id and the record that they were written for, in any layout.  The names
and texts of a record are of whole characters; a half of one stands in no record (`Json.joinUnits`).
-/

set_option autoImplicit false

namespace DocConsole

open Text

/-! ## The clause -/

/-- The start of the clause that names a document, from its first word to the equals sign. -/
structure IdMark where
  condition : Cased "where"
  afterWhere : Gap isBlank
  id : Cased "id"
  beforeEquals : Blanks

/-- The text of the start of a clause. -/
def IdMark.chars (mark : IdMark) : List Char :=
  mark.condition.chars ++ (mark.afterWhere.chars ++ (mark.id.chars ++
    (mark.beforeEquals.chars ++ ['='])))

/-- The clause that names a document by its id in quotes. -/
structure IdClause extends IdMark where
  afterEquals : Blanks
  quote : Char
  isQuote : isQuote quote = true

/-- The text of a clause. -/
def IdClause.text (clause : IdClause) (target : List Char) : List Char :=
  clause.chars ++ (clause.afterEquals.chars ++ clause.quote :: (target ++ [clause.quote]))

/-- The clause with its words as they are usually written, and single quotes. -/
def IdClause.usual : IdClause where
  condition := whereInCapitals
  afterWhere := .space
  id := ⟨"id".toList, by decide⟩
  beforeEquals := .space
  afterEquals := .space
  quote := '\''
  isQuote := rfl

/-- Whether the start of a clause stands somewhere in a text, with white space in front. -/
def HoldsIdMark (cs : List Char) : Prop :=
  ∃ (gap : Gap isBlank) (mark : IdMark), gap.chars ++ mark.chars <:+: cs

/-- A text without an equals sign holds no clause. -/
theorem HoldsIdMark.equals_mem {cs : List Char} (h : HoldsIdMark cs) : '=' ∈ cs := by
  obtain ⟨gap, mark, hinfix⟩ := h
  exact hinfix.subset (by simp [IdMark.chars])

variable {cs target line : List Char}

/-- The start of a clause behind white space is read, with what is read behind it. -/
theorem idClause?_mark {rest : List Char} (gap : Gap isBlank) (mark : IdMark)
    (h : anyBlanks restOfLine rest = some line) :
    Shape.idClause? (gap.chars ++ (mark.chars ++ rest)) = some line := by
  have hsign : keyword "=".toList (anyBlanks restOfLine) ('=' :: rest) = some line := h
  have hequals := mark.beforeEquals.anyBlanks_append (startsOutside_cons (by decide)) hsign
  have hid := mark.id.someBlanks_append mark.afterWhere (by decide) hequals
  have hclause := mark.condition.someBlanks_append gap (by decide) hid
  simp only [IdMark.chars, List.append_assoc]
  exact hclause

/-- A clause behind white space is read, and gives the id with its quotes. -/
theorem idClause?_text (gap : Gap isBlank) (clause : IdClause) (hline : '\n' ∉ target) :
    Shape.idClause? (gap.chars ++ clause.text target) =
      some (clause.quote :: (target ++ [clause.quote])) := by
  have hquote := isBlank_eq_false_of_isQuote clause.isQuote
  have hfree : '\n' ∉ clause.quote :: (target ++ [clause.quote]) := by
    have hfeed : '\n' ≠ clause.quote := by
      rintro hfeed
      rw [← hfeed] at hquote
      cases hquote
    simp [hline, hfeed]
  exact idClause?_mark gap clause.toIdMark (clause.afterEquals.anyBlanks_append
    (startsOutside_cons hquote) (restOfLine_eq_some_iff.mpr ⟨rfl, List.cons_ne_nil _ _, hfree⟩))

/-- What was read as a clause is white space, the start of a clause and the text of an id. -/
theorem exists_of_idClause? (h : Shape.idClause? cs = some line) :
    ∃ (gap : Gap isBlank) (mark : IdMark) (rest : List Char),
      cs = gap.chars ++ (mark.chars ++ rest) ∧ anyBlanks restOfLine rest = some line := by
  obtain ⟨gap, _, rfl, hcondition⟩ := exists_of_someBlanks h
  obtain ⟨condition, _, rfl, hafter⟩ := exists_of_keyword hcondition
  obtain ⟨afterWhere, _, rfl, hid⟩ := exists_of_someBlanks hafter
  obtain ⟨id, _, rfl, hbefore⟩ := exists_of_keyword hid
  obtain ⟨beforeEquals, _, rfl, hequals⟩ := exists_of_anyBlanks hbefore
  obtain ⟨front, rest, rfl, hfront, hvalue⟩ := keyword_some hequals
  obtain rfl : front = ['='] := eq_singleton_of_map_foldLetter hfront rfl
  refine ⟨gap, ⟨condition, afterWhere, id, beforeEquals⟩, rest, ?_, hvalue⟩
  simp only [IdMark.chars, List.append_assoc]

/-- Only the start of a clause is read as one. -/
theorem prefix_of_idClause? (h : Shape.idClause? cs = some line) :
    ∃ (gap : Gap isBlank) (mark : IdMark), gap.chars ++ mark.chars <+: cs := by
  obtain ⟨gap, mark, rest, rfl, -⟩ := exists_of_idClause? h
  exact ⟨gap, mark, rest, List.append_assoc _ _ _⟩

/-! ## Where the body of an update ends -/

/-- No clause starts anywhere in the text. -/
def IsClauseless (cs : List Char) : Prop :=
  ∀ back, back <:+ cs → Shape.idClause? back = none

/-- A character in front that is no blank starts no clause. -/
theorem IsClauseless.cons {c : Char} (h : IsClauseless cs) (hc : isBlank c = false) :
    IsClauseless (c :: cs) := by
  intro back hback
  rcases List.suffix_cons_iff.mp hback with rfl | hback
  · exact someBlanks_of_startsOutside (startsOutside_cons hc)
  · exact h back hback

theorem IsClauseless.append {run : List Char} (h : IsClauseless cs)
    (hrun : ∀ c ∈ run, isBlank c = false) : IsClauseless (run ++ cs) := by
  induction run with
  | nil => exact h
  | cons c run ih =>
      exact (ih fun d hd => hrun d (List.mem_cons_of_mem _ hd)).cons (hrun c List.mem_cons_self)

/-- Blanks in front of what does not start like the clause's first word start no clause. -/
theorem IsClauseless.blanks_append {run : List Char} (h : IsClauseless cs)
    (hrun : run.all isBlank = true) (hcs : StartsOutside (fun c => foldLetter c == 'w') cs) :
    IsClauseless (run ++ cs) ∧ StartsOutside (fun c => foldLetter c == 'w') (run ++ cs) := by
  induction run with
  | nil => exact ⟨h, hcs⟩
  | cons c run ih =>
      rw [List.all_cons, Bool.and_eq_true] at hrun
      obtain ⟨hback, hstarts⟩ := ih hrun.2
      have hc : (foldLetter c == 'w') = false := by
        rw [foldLetter_of_isBlank hrun.1, beq_eq_false_iff_ne]
        rintro rfl
        cases hrun.1
      refine ⟨fun back hsuffix => ?_, startsOutside_cons hc⟩
      rcases List.suffix_cons_iff.mp hsuffix with rfl | hsuffix
      · exact someBlanks_cons_of_none (hback _ List.suffix_rfl) (keyword_of_startsOutside hstarts)
      · exact hback back hsuffix

/-- An id holds no clause with its quote behind it either, for a quote ends no start of one. -/
theorem isClauseless_concat {quote : Char} (hquote : isQuote quote = true)
    (h : ¬ HoldsIdMark target) : IsClauseless (target ++ [quote]) := by
  intro back hsuffix
  rw [Option.eq_none_iff_forall_ne_some]
  intro line hline
  obtain ⟨gap, mark, hprefix⟩ := prefix_of_idClause? hline
  have hinfix : gap.chars ++ mark.chars <:+: target ++ [quote] :=
    List.infix_iff_prefix_suffix.mpr ⟨back, hprefix, hsuffix⟩
  rcases List.infix_concat_iff.mp hinfix with hlast | hinside
  · obtain ⟨front, hsplit⟩ := hlast
    have hlast := congrArg List.getLast? hsplit
    have hequals : '=' = quote := by simpa [IdMark.chars, List.getLast?_append] using hlast
    rw [← hequals] at hquote
    cases hquote
  · exact h ⟨gap, mark, hinside⟩

/-- Within the clause at the end of an update no further one starts. -/
theorem isClauseless_text (clause : IdClause) (h : ¬ HoldsIdMark target) :
    IsClauseless (clause.text target) := by
  have hquote := isBlank_eq_false_of_isQuote clause.isQuote
  have hnotw : (foldLetter clause.quote == 'w') = false := by
    rcases eq_of_isQuote clause.isQuote with hchar | hchar <;> rw [hchar] <;> rfl
  have hvalue : IsClauseless (clause.quote :: (target ++ [clause.quote])) :=
    (isClauseless_concat clause.isQuote h).cons hquote
  have hequals := (hvalue.blanks_append clause.afterEquals.all (startsOutside_cons hnotw)).1.cons
    (show isBlank '=' = false from rfl)
  have hbefore := hequals.blanks_append clause.beforeEquals.all (startsOutside_cons rfl)
  have hid := hbefore.1.append (clause.id.isBlank_eq_false (by decide))
  have hafter := hid.blanks_append
    clause.afterWhere.all (clause.id.startsOutside_fold (by decide) _)
  have hcondition := hafter.1.append (clause.condition.isBlank_eq_false (by decide))
  simpa only [IdClause.text, IdMark.chars, List.append_assoc, List.singleton_append]
    using hcondition

/-- The body of an update ends before the clause, with nothing but white space between. -/
theorem exists_longestRun (hclauseless : IsClauseless cs)
    (hclause : ∀ gap : Gap isBlank, Shape.idClause? (gap.chars ++ cs) = some line)
    {spaces : List Char} (hne : spaces ≠ []) (hspaces : spaces.all Json.isSpace = true)
    {run : List Char} (hrun : run ≠ []) (hfree : run.all (fun c => c ≠ '\n') = true) :
    ∃ front, front.all Json.isSpace = true ∧
      longestRun (fun c => c ≠ '\n') Shape.idClause? (run ++ (spaces ++ cs)) =
        some (run ++ front, line) := by
  induction spaces generalizing run with
  | nil => exact absurd rfl hne
  | cons c spaces ih =>
      have hblanks : (c :: spaces).all isBlank = true :=
        List.all_eq_true.mpr fun d hd =>
          Json.isBlank_of_isSpace (List.all_eq_true.mp hspaces d hd)
      have hnext := hclause ⟨c :: spaces, hne, hblanks⟩
      cases hlonger : longestRun (fun c => c ≠ '\n') Shape.idClause? (c :: spaces ++ cs) with
      | none =>
          refine ⟨[], rfl, ?_⟩
          rw [List.append_nil]
          exact longestRun_append_of_none hrun hfree hlonger hnext
      | some found =>
          -- the blank stands in the body, since the body may go on behind it
          rw [List.all_cons, Bool.and_eq_true] at hspaces
          rw [List.cons_append, longestRun] at hlonger
          split at hlonger
          · rename_i hc
            have hmore : spaces ≠ [] := by
              rintro rfl
              have hnone : longestRun (fun c => c ≠ '\n') Shape.idClause? cs = none :=
                longestRun_eq_none fun run back hsplit _ _ => hclauseless back ⟨run, hsplit.symm⟩
              rw [List.nil_append, hnone, hclauseless cs List.suffix_rfl] at hlonger
              cases hlonger
            have hrun' : run ++ [c] ≠ [] := by simp
            have hfree' : (run ++ [c]).all (fun c => c ≠ '\n') = true := by
              rw [List.all_append, hfree, Bool.true_and, List.all_cons, hc]
              rfl
            obtain ⟨front, hfront, hfound⟩ := ih hmore hspaces.2 hrun' hfree'
            refine ⟨c :: front, by simp [hspaces.1, hfront], ?_⟩
            simpa only [List.append_assoc, List.cons_append, List.nil_append] using hfound
          · cases hlonger

/-! ## First words -/

/-- Which word a statement starts with says as which shape alone it can be recognised. -/
theorem Shape.ofChars?_eq_delete? (w : Cased "delete") (rest : List Char) :
    ofChars? (w.chars ++ rest) = delete? (w.chars ++ rest) := by
  have hselect : select? (w.chars ++ rest) = none :=
    congrArg (Option.map _) (w.keyword_eq_none (by decide) rest)
  have hinsert : insert? (w.chars ++ rest) = none :=
    congrArg (Option.map _) (w.keyword_eq_none (by decide) rest)
  have hupdate : update? (w.chars ++ rest) = none :=
    congrArg (Option.map _) (w.keyword_eq_none (by decide) rest)
  rw [ofChars?, hselect, hinsert, hupdate]

theorem Shape.ofChars?_eq_update? (w : Cased "update") (rest : List Char) :
    ofChars? (w.chars ++ rest) = update? (w.chars ++ rest) := by
  have hselect : select? (w.chars ++ rest) = none :=
    congrArg (Option.map _) (w.keyword_eq_none (by decide) rest)
  have hinsert : insert? (w.chars ++ rest) = none :=
    congrArg (Option.map _) (w.keyword_eq_none (by decide) rest)
  have hdelete : delete? (w.chars ++ rest) = none :=
    congrArg (Option.map _) (w.keyword_eq_none (by decide) rest)
  rw [ofChars?, hselect, hinsert]
  cases update? (w.chars ++ rest) with
  | none => exact hdelete
  | some shape => rfl

theorem Shape.ofChars?_eq_insert? (w : Cased "insert") (rest : List Char) :
    ofChars? (w.chars ++ rest) = insert? (w.chars ++ rest) := by
  have hselect : select? (w.chars ++ rest) = none :=
    congrArg (Option.map _) (w.keyword_eq_none (by decide) rest)
  have hupdate : update? (w.chars ++ rest) = none :=
    congrArg (Option.map _) (w.keyword_eq_none (by decide) rest)
  have hdelete : delete? (w.chars ++ rest) = none :=
    congrArg (Option.map _) (w.keyword_eq_none (by decide) rest)
  rw [ofChars?, hselect]
  cases insert? (w.chars ++ rest) with
  | none =>
      rw [hupdate]
      exact hdelete
  | some shape => rfl

/-! ## Layouts -/

/-- The layout of a deletion up to its collection, and the white space behind that. -/
structure DeletionLayout where
  delete : Cased "delete"
  afterDelete : Gap isBlank
  source : Cased "from"
  afterSource : Gap isBlank
  beforeWhere : Gap isBlank

/-- The text of a deletion. -/
def DeletionLayout.body (layout : DeletionLayout) (clause : IdClause)
    (collection target : List Char) : List Char :=
  layout.delete.chars ++ (layout.afterDelete.chars ++ (layout.source.chars ++
    (layout.afterSource.chars ++ (collection ++ (layout.beforeWhere.chars ++ clause.text target)))))

/-- The layout of an update up to its clause.  Between the body and the clause stands what JSON
allows as white space. -/
structure UpdateLayout where
  update : Cased "update"
  afterUpdate : Gap isBlank
  beforeSet : Gap isBlank
  set : Cased "set"
  afterSet : Gap isBlank
  json : Cased "json"
  afterJson : Gap isBlank
  beforeWhere : Gap Json.isSpace

/-- An update on one line with its words in capitals. -/
def UpdateLayout.usual : UpdateLayout where
  update := ⟨"UPDATE".toList, by decide⟩
  afterUpdate := .space
  beforeSet := .space
  set := ⟨"SET".toList, by decide⟩
  afterSet := .space
  json := ⟨"JSON".toList, by decide⟩
  afterJson := .space
  beforeWhere := ⟨Gap.space.chars, Gap.space.nonempty, by decide⟩

/-- The text of an update. -/
def UpdateLayout.body (layout : UpdateLayout) (clause : IdClause)
    (collection payload target : List Char) : List Char :=
  layout.update.chars ++ (layout.afterUpdate.chars ++ (collection ++ (layout.beforeSet.chars ++
    (layout.set.chars ++ (layout.afterSet.chars ++ (layout.json.chars ++ (layout.afterJson.chars ++
      (payload ++ (layout.beforeWhere.chars ++ clause.text target)))))))))

variable {collection payload : List Char}

/-- The shape of a deletion in any layout. -/
theorem DeletionLayout.ofChars?_body (layout : DeletionLayout) (clause : IdClause)
    (hcollection : Shape.IsCollection collection) (hline : '\n' ∉ target) :
    Shape.ofChars? (layout.body clause collection target) =
      some (.delete collection (clause.quote :: (target ++ [clause.quote]))) := by
  have hclause := idClause?_text layout.beforeWhere clause hline
  have hname := hcollection.someBlanks_append layout.afterSource layout.beforeWhere hclause
  have hsource := layout.source.someBlanks_append layout.afterDelete (by decide) hname
  have hdelete := (keyword_append layout.delete.folds _).trans hsource
  exact (Shape.ofChars?_eq_delete? layout.delete _).trans (congrArg (Option.map _) hdelete)

/-- The shape of an update in any layout: its body ends with the payload, but for white space. -/
theorem UpdateLayout.ofChars?_body (layout : UpdateLayout) (clause : IdClause)
    (hcollection : Shape.IsCollection collection) (hline : '\n' ∉ target)
    (hmark : ¬ HoldsIdMark target) (hpayload : LeadsOutside isBlank payload)
    (hfree : '\n' ∉ payload) :
    ∃ spaces, spaces.all Json.isSpace = true ∧
      Shape.ofChars? (layout.body clause collection payload target) =
        some (.update collection (payload ++ spaces)
          (clause.quote :: (target ++ [clause.quote]))) := by
  have hne : payload ≠ [] := by
    rintro rfl
    cases hpayload
  have hall : payload.all (fun c => c ≠ '\n') = true := by
    refine List.all_eq_true.mpr fun c hc => decide_eq_true ?_
    rintro rfl
    exact hfree hc
  obtain ⟨spaces, hspaces, hfound⟩ := exists_longestRun (isClauseless_text clause hmark)
    (fun gap => idClause?_text gap clause hline) layout.beforeWhere.nonempty
    layout.beforeWhere.all hne hall
  have hbody := layout.afterJson.someBlanks_append (fun _ h => h) (hpayload.append _) hfound
  have hjson := layout.json.someBlanks_append layout.afterSet (by decide) hbody
  have hset := layout.set.someBlanks_append layout.beforeSet (by decide) hjson
  have hname := hcollection.someBlanks_append layout.afterUpdate layout.beforeSet hset
  have hupdate := (keyword_append layout.update.folds _).trans hname
  refine ⟨spaces, hspaces, ?_⟩
  exact (Shape.ofChars?_eq_update? layout.update _).trans (congrArg (Option.map _) hupdate)

/-! ## Reading a change -/

/-- The clause at its end makes a statement trimmed. -/
theorem IdClause.isTrimmed_append (clause : IdClause) {front : List Char}
    (hfront : LeadsOutside isBlank front) (middle target : List Char) :
    IsTrimmed (front ++ (middle ++ clause.text target)) := by
  refine ⟨hfront.append_right _, ?_⟩
  have hquote : LeadsOutside isBlank [clause.quote].reverse := by
    simpa [LeadsOutside] using isBlank_eq_false_of_isQuote clause.isQuote
  have hsplit : front ++ (middle ++ clause.text target) =
      (front ++ (middle ++ (clause.chars ++ (clause.afterEquals.chars ++
        clause.quote :: target)))) ++ [clause.quote] := by
    simp only [IdClause.text, List.append_assoc, List.cons_append]
  rw [hsplit]
  exact hquote.reverse_append _

/-- An update is trimmed, whatever its body. -/
theorem UpdateLayout.isTrimmed_body (layout : UpdateLayout) (clause : IdClause)
    (collection payload target : List Char) :
    IsTrimmed (layout.body clause collection payload target) := by
  have happend := clause.isTrimmed_append (layout.update.leadsOutside (by decide))
    (layout.afterUpdate.chars ++ (collection ++ (layout.beforeSet.chars ++ (layout.set.chars ++
      (layout.afterSet.chars ++ (layout.json.chars ++ (layout.afterJson.chars ++
        (payload ++ layout.beforeWhere.chars)))))))) target
  simpa only [UpdateLayout.body, List.append_assoc] using happend

/-- One pair of quotes goes, whatever stands between. -/
theorem stripQuotes_quoted {quote : Char} (hquote : isQuote quote = true) (target : List Char) :
    stripQuotes (String.ofList (quote :: (target ++ [quote]))) = String.ofList target := by
  rw [stripQuotes, String.toList_ofList, (isTrimmed_quoted hquote target).trim_eq,
    betweenQuotes?_pair quote hquote]
  rfl

/-- The JSON text of a record, with white space behind it or without, is read as the record. -/
theorem readBody_writeAt (kind : CommandKind) {payload : Fields}
    (hpayload : (Value.obj payload).isJson = true) {spaces : List Char}
    (hspaces : spaces.all Json.isSpace = true) :
    readBody kind (Json.writeAt .spaced 0 (.obj payload) ++ spaces) = .ok payload := by
  have hread : Json.read true
      (String.ofList (Json.writeAt .spaced 0 (.obj payload) ++ spaces)) = .ok (.obj payload) := by
    rw [Json.read_eq_ok_iff, String.toList_ofList]
    exact Json.readChars_writeAt Json.isNeutral_spaced hpayload hspaces
  rw [readBody, hread]

section Reading

variable {c t : String} (clause : IdClause) (hcollection : isCollectionName c = true)
  (hline : '\n' ∉ t.toList)

include hcollection hline

/-- A deletion is read as what it was written for. -/
theorem Command.read_deletion (layout : DeletionLayout) :
    Command.read (String.ofList (layout.body clause c.toList t.toList)) =
      .ok (.delete c (some t)) := by
  have htrimmed : IsTrimmed (layout.body clause c.toList t.toList) := by
    have happend := clause.isTrimmed_append (layout.delete.leadsOutside (by decide))
      (layout.afterDelete.chars ++ (layout.source.chars ++ (layout.afterSource.chars ++
        (c.toList ++ layout.beforeWhere.chars)))) t.toList
    simpa only [DeletionLayout.body, List.append_assoc] using happend
  have hshape := layout.ofChars?_body clause (isCollection_of_isCollectionName hcollection) hline
  have hchecked : Command.checked (.delete c (some t)) = .ok (.delete c (some t)) :=
    if_pos hcollection
  rw [Command.read, String.toList_ofList, htrimmed.trim_eq, hshape]
  simp only [Shape.command, stripQuotes_quoted clause.isQuote, String.ofList_toList, hchecked]

/-- An update is read as what it was written for. -/
theorem Command.read_update (layout : UpdateLayout) (hmark : ¬ HoldsIdMark t.toList)
    {payload : Fields} (hpayload : (Value.obj payload).isJson = true) :
    Command.read (String.ofList (layout.body clause c.toList
        (Json.write .spaced (.obj payload)).toList t.toList)) =
      .ok (.update c (some t) payload) := by
  rw [Json.write, String.toList_ofList]
  have htrimmed := layout.isTrimmed_body clause c.toList (Json.writeAt .spaced 0 (.obj payload))
    t.toList
  have hleads : LeadsOutside isBlank (Json.writeAt .spaced 0 (.obj payload)) := by
    cases payload <;> rfl
  have hfree := Json.newline_not_mem_writeAt Json.isOneLine_spaced (.obj payload) 0 hpayload
  obtain ⟨spaces, hspaces, hshape⟩ := layout.ofChars?_body clause
    (isCollection_of_isCollectionName hcollection) hline hmark hleads hfree
  have hchecked : Command.checked (.update c (some t) payload) = .ok (.update c (some t) payload) :=
    if_pos hcollection
  rw [Command.read, String.toList_ofList, htrimmed.trim_eq, hshape]
  simp only [Shape.command, readBody_writeAt .update hpayload hspaces,
    stripQuotes_quoted clause.isQuote, String.ofList_toList, hchecked]

/-- Changes are read back exactly, in any layout and with either kind of quotes.  A deletion names
the id between its quotes.  An update names it too, and carries the record that it was written for,
whatever texts and names stand in the record; only its id must not hold the start of a clause. -/
theorem changes_read_back (deletion : DeletionLayout) (update : UpdateLayout) :
    Command.read (String.ofList (deletion.body clause c.toList t.toList)) =
        .ok (.delete c (some t)) ∧
      (¬ HoldsIdMark t.toList → ∀ payload : Fields, (Value.obj payload).isJson = true →
        Command.read (String.ofList (update.body clause c.toList
            (Json.write .spaced (.obj payload)).toList t.toList)) =
          .ok (.update c (some t) payload)) :=
  ⟨Command.read_deletion clause hcollection hline deletion,
    fun hmark _ hpayload => Command.read_update clause hcollection hline update hmark hpayload⟩

end Reading

/-- A clause in capitals, with its id in double quotes. -/
def loudClause : IdClause where
  condition := whereInCapitals
  afterWhere := ⟨"\r\n".toList, by decide, by decide⟩
  id := ⟨"Id".toList, by decide⟩
  beforeEquals := .none
  afterEquals := .space
  quote := '"'
  isQuote := rfl

/-- A deletion with a tab before its clause. -/
def tabbedDeletion : DeletionLayout where
  delete := ⟨"DELETE".toList, by decide⟩
  afterDelete := .space
  source := ⟨"from".toList, by decide⟩
  afterSource := .space
  beforeWhere := ⟨"\t".toList, by decide, by decide⟩

/-- An update with its clause on a line of its own. -/
def brokenUpdate : UpdateLayout where
  update := ⟨"update".toList, by decide⟩
  afterUpdate := .space
  beforeSet := .space
  set := ⟨"SET".toList, by decide⟩
  afterSet := .space
  json := ⟨"Json".toList, by decide⟩
  afterJson := ⟨"\n\n".toList, by decide, by decide⟩
  beforeWhere := ⟨"  \n\t".toList, by decide, by decide⟩

/-- A record whose name and text look like clauses. -/
def clauseLikeRecord : Fields :=
  [(" WHERE id = 'x'", .str "\" where id=y\n"), ("n", .arr [.null, .int (-3), .bool true])]

/-- Neither the record nor the id is taken for the clause. -/
theorem clause_like_record_reads_back :
    String.ofList (brokenUpdate.body loudClause "a/b".toList
        (Json.write .spaced (.obj clauseLikeRecord)).toList "d where ID".toList) =
      "update a/b SET Json\n\n\x7b\" WHERE id = 'x'\": \"\\\" where id=y\\n\", " ++
        "\"n\": [null, -3, true]\x7d  \n\tWHERE\r\nId= \"d where ID\"" ∧
    Command.read (String.ofList (tabbedDeletion.body loudClause "a/b".toList
        "d where ID".toList)) = .ok (.delete "a/b" (some "d where ID")) ∧
      Command.read (String.ofList (brokenUpdate.body loudClause "a/b".toList
          (Json.write .spaced (.obj clauseLikeRecord)).toList "d where ID".toList)) =
        .ok (.update "a/b" (some "d where ID") clauseLikeRecord) :=
  have hmark : ¬ HoldsIdMark "d where ID".toList := fun h => absurd h.equals_mem (by decide)
  have hboth := changes_read_back loudClause (show isCollectionName "a/b" = true by decide)
    (show '\n' ∉ "d where ID".toList by decide) tabbedDeletion brokenUpdate
  ⟨by decide +kernel, hboth.1, hboth.2 hmark clauseLikeRecord (by decide +kernel)⟩

end DocConsole
