import DocConsole.Proofs.Json.Breaks
import DocConsole.Proofs.Statement.Whole

/-!
# Which bodies are read

The body of a change is cut out of the statement before it is read as JSON, and a body reaches over
no line feed.  Blanks around a record go to the white space of the statement.  A line feed between
two tokens of a record would have to go there too: but behind a line feed a token of JSON starts,
which no clause goes on with, so no other way to cut the statement is found.  Main statement: a
record in strict JSON is read from an insertion and from an update, in whatever layout JSON allows,
except that neither statement is recognised at all when a line feed stands within the record.
-/

set_option autoImplicit false

namespace DocConsole

open Text

/-! ## Texts cut in two ways -/

namespace Text

variable {front rest back post run run' rest' : List Char} {c : Char}

/-- A character of a text cut in two stands in front of the cut or behind it. -/
theorem append_eq_append_cons (h : front ++ rest = back ++ c :: post) :
    (∃ more, front = back ++ c :: more ∧ post = more ++ rest) ∨
      ∃ more, back = front ++ more ∧ rest = more ++ c :: post := by
  rcases List.append_eq_append_iff.mp h with hbehind | ⟨past, hfront, hpast⟩
  · exact .inr hbehind
  · cases past with
    | nil => exact .inr ⟨[], by simpa using hfront.symm, hpast.symm⟩
    | cons d past =>
        obtain ⟨rfl, rfl⟩ := List.cons.inj hpast
        exact .inl ⟨past, hfront, rfl⟩

/-- What is not in front of a cut stands behind it. -/
theorem exists_of_append_eq_cons (h : front ++ rest = back ++ c :: post) (hc : c ∉ front) :
    ∃ more, back = front ++ more ∧ rest = more ++ c :: post := by
  rcases append_eq_append_cons h with ⟨more, rfl, -⟩ | hbehind
  · exact absurd (List.mem_append_right _ List.mem_cons_self) hc
  · exact hbehind

/-- Blanks in front of what starts with none are the longest that stand there. -/
theorem exists_blanks_of_append_eq (hrun : run.all isBlank = true)
    (hrun' : run'.all isBlank = true) (hrest : StartsOutside isBlank rest)
    (h : run ++ rest = run' ++ rest') :
    ∃ blanks, blanks.all isBlank = true ∧ rest' = blanks ++ rest := by
  rcases List.append_eq_append_iff.mp h with ⟨past, rfl, hpast⟩ | ⟨blanks, rfl, hblanks⟩
  · cases past with
    | nil => exact ⟨[], rfl, hpast.symm⟩
    | cons c past =>
        rw [List.all_append, List.all_cons, Bool.and_eq_true, Bool.and_eq_true] at hrun'
        rw [hpast] at hrest
        rw [hrest c rfl] at hrun'
        exact absurd hrun'.2.1 Bool.false_ne_true
  · rw [List.all_append, Bool.and_eq_true] at hrun
    exact ⟨blanks, hrun.2, hblanks⟩

/-- What stands behind a line feed in a text without blanks around it is not all blank. -/
theorem IsTrimmed.exists_not_blank {cs : List Char} (h : IsTrimmed (cs ++ '\n' :: rest)) :
    rest.all isBlank = false := by
  rw [Bool.eq_false_iff]
  intro hall
  have hreverse : (cs ++ '\n' :: rest).reverse = ('\n' :: rest).reverse ++ cs.reverse :=
    List.reverse_append
  have hlast := h.last
  rw [hreverse] at hlast
  have hblank : ∀ d ∈ ('\n' :: rest).reverse, isBlank d = true := by
    intro d hd
    rcases List.mem_cons.mp (List.mem_reverse.mp hd) with rfl | hmem
    · rfl
    · exact List.all_eq_true.mp hall d hmem
  obtain ⟨d, more, hsplit⟩ :=
    List.exists_cons_of_ne_nil (List.reverse_ne_nil_iff.mpr (List.cons_ne_nil '\n' rest))
  rw [hsplit] at hlast hblank
  have hd := hblank d List.mem_cons_self
  simp [LeadsOutside, hd] at hlast

theorem Cased.exists_first {word : String} {first : Char} {others : List Char} (w : Cased word)
    (hword : word.toList = first :: others) :
    ∃ c more, w.chars = c :: more ∧ foldLetter c = first := by
  have hfolds := w.folds.trans hword
  obtain ⟨c, more, hchars, hc, -⟩ := List.map_eq_cons_iff.mp hfolds
  exact ⟨c, more, hchars, hc⟩

end Text

variable {collection collection' payload rest rest' target : List Char}

/-! ## The way to the body -/

section Lead

variable (hcollection : Shape.IsCollection collection)
  (hcollection' : Shape.IsCollection collection')

theorem startsOutside_collection (gap : Gap isBlank) (rest : List Char) :
    StartsOutside Shape.isCollectionLetter (gap.chars ++ rest) := by
  refine gap.startsOutside (fun c hc => ?_) rest
  rw [Bool.eq_false_iff]
  intro hletter
  rw [Shape.isBlank_of_isCollectionLetter hletter] at hc
  cases hc

include hcollection hcollection'

/-- Two ways to cut a body out of an insertion differ in blanks. -/
theorem InsertionLayout.exists_blanks {layout layout' : InsertionLayout}
    (hpayload : StartsOutside isBlank payload)
    (h : layout.body collection payload = layout'.body collection' rest') :
    ∃ blanks, blanks.all isBlank = true ∧ rest' = blanks ++ payload := by
  have hinsert := Cased.append_inj h
  have hinto := Gap.append_inj ((layout.into.leadsOutside (by decide)).append _)
    ((layout'.into.leadsOutside (by decide)).append _) hinsert
  have hgap := Cased.append_inj hinto
  have hname := Gap.append_inj (hcollection.leadsOutside.append _)
    (hcollection'.leadsOutside.append _) hgap
  have hbefore := append_inj_of_startsOutside hcollection.letters hcollection'.letters
    (startsOutside_collection _ _) (startsOutside_collection _ _) hname
  have hjson := Gap.append_inj ((layout.json.leadsOutside (by decide)).append _)
    ((layout'.json.leadsOutside (by decide)).append _) hbefore
  exact exists_blanks_of_append_eq layout.afterJson.all layout'.afterJson.all hpayload
    (Cased.append_inj hjson)

/-- Two ways to cut a body out of an update differ in blanks. -/
theorem UpdateLayout.exists_blanks {layout layout' : UpdateLayout}
    (hrest : StartsOutside isBlank rest)
    (h : layout.lead collection ++ rest = layout'.lead collection' ++ rest') :
    ∃ blanks, blanks.all isBlank = true ∧ rest' = blanks ++ rest := by
  simp only [UpdateLayout.lead, List.append_assoc] at h
  have hupdate := Cased.append_inj h
  have hname := Gap.append_inj (hcollection.leadsOutside.append _)
    (hcollection'.leadsOutside.append _) hupdate
  have hbefore := append_inj_of_startsOutside hcollection.letters hcollection'.letters
    (startsOutside_collection _ _) (startsOutside_collection _ _) hname
  have hset := Gap.append_inj ((layout.set.leadsOutside (by decide)).append _)
    ((layout'.set.leadsOutside (by decide)).append _) hbefore
  have hgap := Cased.append_inj hset
  have hjson := Gap.append_inj ((layout.json.leadsOutside (by decide)).append _)
    ((layout'.json.leadsOutside (by decide)).append _) hgap
  exact exists_blanks_of_append_eq layout.afterJson.all layout'.afterJson.all hrest
    (Cased.append_inj hjson)

end Lead

/-! ## Line feeds in a clause -/

/-- What goes on after a line feed with white space and the first letter of a clause's word. -/
theorem exists_of_word {run : List Char} {word : String} {first : Char} {others : List Char}
    (w : Cased word) (hrun : run.all isBlank = true) (hword : word.toList = first :: others)
    (hfirst : first = 'w' ∨ first = 'i') (rest : List Char) :
    ∃ run' c more, run'.all isBlank = true ∧ Json.startsToken c = false ∧ isBlank c = false ∧
      run ++ (w.chars ++ rest) = run' ++ c :: more := by
  obtain ⟨c, more, hchars, hfold⟩ := w.exists_first hword
  have hstarts : Json.startsToken c = false := by
    rw [Bool.eq_false_iff]
    intro hstarts
    obtain ⟨hw, hi⟩ := Json.foldLetter_of_startsToken hstarts
    rcases hfirst with rfl | rfl
    · exact hw hfold
    · exact hi hfold
  have hblank : isBlank c = false := by
    rw [Bool.eq_false_iff]
    intro hblank
    rw [foldLetter_of_isBlank hblank] at hfold
    rcases hfirst with rfl | rfl <;> (rw [hfold] at hblank; exact absurd hblank (by decide))
  exact ⟨run, c, more ++ rest, hrun, hstarts, hblank, by rw [hchars, List.cons_append]⟩

/-- In a clause that is read, each line feed stands in white space that comes before a word or an
equals sign or after the equals sign. -/
theorem exists_of_feed {gap : Gap isBlank} {mark : IdMark} {line front back : List Char}
    (hvalue : anyBlanks restOfLine rest = some line)
    (h : gap.chars ++ (mark.chars ++ rest) = front ++ '\n' :: back) :
    (∃ run c more, run.all isBlank = true ∧ Json.startsToken c = false ∧ isBlank c = false ∧
      back = run ++ c :: more) ∨
      ∃ before run, run.all isBlank = true ∧ front = before ++ '=' :: run := by
  have hword {word : String} (w : Cased word)
      (hnone : word.toList.all (fun c => !isBlank c) = true) : '\n' ∉ w.chars := fun hfeed =>
    absurd (w.isBlank_eq_false hnone '\n' hfeed) (by decide)
  have hall {blanks front run : List Char} (hblanks : blanks.all isBlank = true)
      (hsplit : blanks = front ++ '\n' :: run) :
      front.all isBlank = true ∧ run.all isBlank = true := by
    rw [hsplit, List.all_append, List.all_cons, Bool.and_eq_true, Bool.and_eq_true] at hblanks
    exact ⟨hblanks.1, hblanks.2.2⟩
  -- the line feed is looked for piece by piece; a word holds none
  rcases append_eq_append_cons h with ⟨run, hgap, rfl⟩ | ⟨front, rfl, hmark⟩
  · simp only [IdMark.chars, List.append_assoc]
    exact .inl (exists_of_word mark.condition (hall gap.all hgap).2 rfl (.inl rfl) _)
  · simp only [IdMark.chars, List.append_assoc] at hmark
    obtain ⟨front, rfl, hafter⟩ :=
      exists_of_append_eq_cons hmark (hword mark.condition (by decide))
    rcases append_eq_append_cons hafter with ⟨run, hgap, rfl⟩ | ⟨front, rfl, hid⟩
    · exact .inl (exists_of_word mark.id (hall mark.afterWhere.all hgap).2 rfl (.inr rfl) _)
    · obtain ⟨front, rfl, hbefore⟩ := exists_of_append_eq_cons hid (hword mark.id (by decide))
      rcases append_eq_append_cons hbefore with ⟨run, hblanks, rfl⟩ | ⟨front, rfl, hequals⟩
      · exact .inl ⟨run, '=', rest, (hall mark.beforeEquals.all hblanks).2, rfl, rfl, rfl⟩
      · obtain ⟨front, rfl, hrest⟩ := exists_of_append_eq_cons hequals (by decide)
        obtain ⟨blanks, line', rfl, hline⟩ := exists_of_anyBlanks hvalue
        obtain ⟨rfl, -, hfree⟩ := restOfLine_eq_some_iff.mp hline
        rcases append_eq_append_cons hrest with ⟨run, hblanks, -⟩ | ⟨more, -, hsplit⟩
        · refine .inr ⟨gap.chars ++ (mark.condition.chars ++ (mark.afterWhere.chars ++
            (mark.id.chars ++ mark.beforeEquals.chars))), front, (hall blanks.all hblanks).1, ?_⟩
          simp only [List.append_assoc, List.singleton_append]
        · rw [hsplit] at hfree
          exact absurd (List.mem_append_right _ List.mem_cons_self) hfree

/-! ## Records with line feeds -/

section Feed

variable {value : Value} (hcollection : Shape.IsCollection collection)
  (hfeed : '\n' ∈ payload)

include hcollection hfeed

/-- An insertion is not recognised with a line feed in its body. -/
theorem InsertionLayout.ofChars?_eq_none (layout : InsertionLayout)
    (hpayload : LeadsOutside isBlank payload) :
    Shape.ofChars? (layout.body collection payload) = none := by
  refine (Shape.ofChars?_eq_insert? layout.insert _).trans ?_
  rw [Option.eq_none_iff_forall_ne_some]
  intro shape hshape
  obtain ⟨layout', collection', body, -, hcollection', hsplit, hfree⟩ :=
    Shape.exists_of_insert? hshape
  obtain ⟨blanks, -, rfl⟩ :=
    InsertionLayout.exists_blanks hcollection hcollection' hpayload.startsOutside hsplit
  exact hfree (List.mem_append_right _ hfeed)

/-- An update is not recognised with a line feed in the JSON text of its body. -/
theorem UpdateLayout.ofChars?_eq_none (layout : UpdateLayout) (clause : IdClause)
    (hpayload : IsTrimmed payload) (haccepted : Json.readChars true payload = .ok value) :
    Shape.ofChars? (layout.body clause collection payload target) = none := by
  refine (Shape.ofChars?_eq_update? layout.update _).trans ?_
  rw [Option.eq_none_iff_forall_ne_some]
  intro shape hshape
  obtain ⟨layout', collection', body, line, tail, -, hcollection', hsplit, hfree, -, hclause⟩ :=
    Shape.exists_of_update? hshape
  obtain ⟨gap, mark, rest, rfl, hvalue⟩ := exists_of_idClause? hclause
  have hbodies := (layout.body_eq clause collection payload target).symm.trans hsplit
  obtain ⟨blanks, hblanks, hbody⟩ := UpdateLayout.exists_blanks hcollection hcollection'
    (hpayload.first.append _) hbodies
  -- the body ends before the line feed, so this one must stand in the clause
  obtain ⟨front, back, rfl⟩ := List.append_of_mem hfeed
  have hcut : body ++ (gap.chars ++ (mark.chars ++ rest)) = (blanks ++ front) ++
      '\n' :: (back ++ (layout.beforeWhere.chars ++ clause.text target)) := by
    simpa only [List.append_assoc, List.cons_append] using hbody
  obtain ⟨between, hfront, hfound⟩ := exists_of_append_eq_cons hcut hfree
  rcases exists_of_feed hvalue hfound with
    ⟨run, c, more, hrun, hstarts, hblank, hback⟩ | ⟨before, run, hrun, rfl⟩
  · rcases append_eq_append_cons hback with ⟨post, rfl, -⟩ | ⟨post, rfl, -⟩
    · have hspace : Json.isSpace c = false := by
        rw [Bool.eq_false_iff]
        intro hspace
        rw [Json.isBlank_of_isSpace hspace] at hblank
        cases hblank
      exact Json.readChars_feed_ne_ok hrun hstarts hspace front post haccepted
    · rw [List.all_append, Bool.and_eq_true] at hrun
      rw [hpayload.exists_not_blank] at hrun
      cases hrun.1
  · rw [← List.append_assoc] at hfront
    have hequals : '=' ∉ blanks := fun hmem =>
      absurd (List.all_eq_true.mp hblanks '=' hmem) (by decide)
    obtain ⟨before', -, rfl⟩ := exists_of_append_eq_cons hfront hequals
    rw [List.append_assoc, List.cons_append] at haccepted
    exact Json.readChars_equals_ne_ok hrun before' back haccepted

end Feed

/-! ## Reading bodies -/

section Reading

variable {c body : String} {before after core : List Char}

/-- An insertion whose body has blanks around it, in the layout that takes those in front. -/
theorem exists_insertion (c : String) (hbody : body.toList = before ++ (core ++ after))
    (hbefore : before.all isBlank = true) (hafter : after.all isBlank = true)
    (hcore : IsTrimmed core) :
    ∃ layout : InsertionLayout,
      trim ("INSERT INTO " ++ c ++ " JSON " ++ body).toList = layout.body c.toList core := by
  let layout : InsertionLayout := { InsertionLayout.usual with
    afterJson := ⟨' ' :: before, List.cons_ne_nil _ _, hbefore⟩ }
  have htext : ("INSERT INTO " ++ c ++ " JSON " ++ body).toList =
      [] ++ (layout.body c.toList core ++ after) := by
    simp only [String.toList_append, hbody, InsertionLayout.body, List.append_assoc]
    rfl
  refine ⟨layout, ?_⟩
  rw [htext, (layout.isTrimmed_body c.toList hcore).trim_append rfl hafter]

/-- An update whose body has white space of JSON around it, in the layout that takes it. -/
theorem exists_update (c : String) (hbody : body.toList = before ++ (core ++ after))
    (hbefore : before.all isBlank = true) (hafter : after.all Json.isSpace = true) :
    ∃ layout : UpdateLayout,
      trim ("UPDATE " ++ c ++ " SET JSON " ++ body ++ " WHERE id = 'x'").toList =
        layout.body .usual c.toList core "x".toList := by
  let layout : UpdateLayout := { UpdateLayout.usual with
    afterJson := ⟨' ' :: before, List.cons_ne_nil _ _, hbefore⟩
    beforeWhere := ⟨after ++ [' '], by simp, by rw [List.all_append, hafter]; rfl⟩ }
  have hwhere : layout.beforeWhere.chars ++ IdClause.usual.text "x".toList =
      after ++ " WHERE id = 'x'".toList := List.append_assoc after [' '] _
  have htext : ("UPDATE " ++ c ++ " SET JSON " ++ body ++ " WHERE id = 'x'").toList =
      layout.body .usual c.toList core "x".toList := by
    simp only [String.toList_append, hbody, UpdateLayout.body, hwhere, List.append_assoc]
    rfl
  refine ⟨layout, ?_⟩
  rw [htext, (layout.isTrimmed_body .usual c.toList core "x".toList).trim_eq]

theorem readBody_of_readChars {kind : CommandKind} {payload : Fields}
    (h : Json.readChars true core = .ok (.obj payload)) : readBody kind core = .ok payload := by
  rw [readBody, Json.read_eq_ok_iff.mpr (by rwa [String.toList_ofList])]

variable (hcollection : isCollectionName c = true)

include hcollection

/-- An insertion is read by its body, when this stands on one line. -/
theorem Command.read_of_insertion {layout : InsertionLayout} {text : String}
    (hcore : IsTrimmed core) (hfree : '\n' ∉ core)
    (htext : trim text.toList = layout.body c.toList core) :
    Command.read text = (readBody .insert core).map (.insert c) := by
  have hshape := layout.ofChars?_body (isCollection_of_isCollectionName hcollection) hcore.first
    hfree
  rw [Command.read, htext, hshape]
  cases hbody : readBody .insert core with
  | error fault => simp only [Shape.command, hbody, Except.map]
  | ok payload =>
      have hchecked : Command.checked (.insert c payload) = .ok (.insert c payload) :=
        if_pos hcollection
      simp only [Shape.command, hbody, String.ofList_toList, hchecked, Except.map]

/-- An update is read by its body, when this is a record on one line. -/
theorem Command.read_of_update {layout : UpdateLayout} {text : String} {payload : Fields}
    (hcore : IsTrimmed core) (hfree : '\n' ∉ core)
    (haccepted : ∀ spaces, spaces.all Json.isSpace = true →
      Json.readChars true (core ++ spaces) = .ok (.obj payload))
    (htext : trim text.toList = layout.body .usual c.toList core "x".toList) :
    Command.read text = .ok (.update c (some "x") payload) := by
  have hmark : ¬ HoldsIdMark "x".toList := fun h => absurd h.equals_mem (by decide)
  obtain ⟨spaces, hspaces, hshape⟩ := layout.ofChars?_body .usual
    (isCollection_of_isCollectionName hcollection) (by decide) hmark hcore.first hfree
  have hbody : readBody .update (core ++ spaces) = .ok payload :=
    readBody_of_readChars (haccepted spaces hspaces)
  have hchecked : Command.checked (.update c (some "x") payload) =
      .ok (.update c (some "x") payload) := if_pos hcollection
  rw [Command.read, htext, hshape]
  simp only [Shape.command, hbody, stripQuotes_quoted IdClause.usual.isQuote, String.ofList_toList,
    hchecked]

end Reading

/-- A record in strict JSON is the body of an insertion and of an update in whatever layout JSON
allows, unless a line feed stands within it: then neither statement is recognised.  An insertion
with another body, on one line and without blanks around it, fails for this body. -/
theorem record_is_read_on_one_line {c : String} (hcollection : isCollectionName c = true) :
    (∀ body payload, Json.read true body = .ok (.obj payload) →
      Command.read ("INSERT INTO " ++ c ++ " JSON " ++ body) =
          (if '\n' ∈ trim body.toList then .error .unrecognized else .ok (.insert c payload)) ∧
        Command.read ("UPDATE " ++ c ++ " SET JSON " ++ body ++ " WHERE id = 'x'") =
          if '\n' ∈ trim body.toList then .error .unrecognized
          else .ok (.update c (some "x") payload)) ∧
    ∀ body, body ≠ "" → '\n' ∉ body.toList → trimmed body = body →
      (∀ refusal, Json.read true body = .error refusal →
        Command.read ("INSERT INTO " ++ c ++ " JSON " ++ body) = .error (.bodyNotJson .insert)) ∧
      ∀ value, Json.read true body = .ok value → (∀ payload, value ≠ .obj payload) →
        Command.read ("INSERT INTO " ++ c ++ " JSON " ++ body) =
          .error (.bodyNotRecord .insert) := by
  have hname := isCollection_of_isCollectionName hcollection
  constructor
  · intro body payload hbody
    obtain ⟨htrimmed, before, after, hbefore, hafter, hsplit, haccepted⟩ :=
      Json.exists_of_readChars (Json.read_eq_ok_iff.mp hbody)
    have hread : Json.readChars true (trim body.toList) = .ok (.obj payload) := by
      have hspaces := haccepted [] rfl
      rwa [List.append_nil] at hspaces
    have hbefore' := Json.all_isBlank_of_all_isSpace hbefore
    obtain ⟨insertion, hinsertion⟩ := exists_insertion c hsplit hbefore'
      (Json.all_isBlank_of_all_isSpace hafter) htrimmed
    obtain ⟨update, hupdate⟩ := exists_update c hsplit hbefore' hafter
    by_cases hfeed : '\n' ∈ trim body.toList
    · rw [if_pos hfeed, if_pos hfeed, Command.read, Command.read, hinsertion, hupdate,
        insertion.ofChars?_eq_none hname hfeed htrimmed.first,
        update.ofChars?_eq_none hname hfeed .usual htrimmed hread]
      exact ⟨rfl, rfl⟩
    · rw [if_neg hfeed, if_neg hfeed,
        Command.read_of_insertion hcollection htrimmed hfeed hinsertion,
        readBody_of_readChars hread]
      exact ⟨rfl, Command.read_of_update hcollection htrimmed hfeed haccepted hupdate⟩
  · intro body hne hfree htrimmed
    have hsame : trim body.toList = body.toList :=
      String.toList_ofList.symm.trans (congrArg String.toList htrimmed)
    have hcore : IsTrimmed body.toList := by
      have hnil : trim body.toList ≠ [] := by
        rw [hsame]
        exact fun hnil => hne (String.toList_inj.mp hnil)
      rw [← hsame]
      exact (exists_of_trim hnil).1
    have hbody : body.toList = [] ++ (body.toList ++ []) := (List.append_nil _).symm
    obtain ⟨insertion, hinsertion⟩ := exists_insertion c hbody rfl rfl hcore
    rw [Command.read_of_insertion hcollection hcore hfree hinsertion, readBody,
      String.ofList_toList]
    refine ⟨fun refusal hread => ?_, fun value hread hvalue => ?_⟩
    · rw [hread]
      rfl
    · rw [hread]
      cases value with
      | obj payload => exact absurd rfl (hvalue payload)
      | _ => rfl

/-- A record with line feeds around it and other white space between its tokens. -/
def looseRecord : String :=
  "\n \x7b\"a\"\t:\r[1 ,\"WHERE id =\"]\x7d \n"

/-- Line feeds around a record do not matter; a list and a named number are refused. -/
theorem loose_record_is_read :
    Command.read ("INSERT INTO " ++ "a/b" ++ " JSON " ++ looseRecord) =
        .ok (.insert "a/b" [("a", .arr [.int 1, .str "WHERE id ="])]) ∧
      Command.read ("UPDATE " ++ "a/b" ++ " SET JSON " ++ looseRecord ++ " WHERE id = 'x'") =
        .ok (.update "a/b" (some "x") [("a", .arr [.int 1, .str "WHERE id ="])]) ∧
      Command.read ("INSERT INTO " ++ "a/b" ++ " JSON " ++ "[1, 2]") =
        .error (.bodyNotRecord .insert) ∧
      Command.read ("INSERT INTO " ++ "a/b" ++ " JSON " ++ "NaN") =
        .error (.bodyNotJson .insert) := by
  obtain ⟨hrecords, hothers⟩ :=
    record_is_read_on_one_line (show isCollectionName "a/b" = true by decide)
  obtain ⟨hinsert, hupdate⟩ := hrecords looseRecord [("a", .arr [.int 1, .str "WHERE id ="])]
    (by decide +kernel)
  have hfree : '\n' ∉ trim looseRecord.toList := by decide +kernel
  rw [if_neg hfree] at hinsert hupdate
  refine ⟨hinsert, hupdate, ?_, ?_⟩
  · exact (hothers "[1, 2]" (by decide) (by decide) (by decide +kernel)).2 (.arr [.int 1, .int 2])
      (by decide +kernel) nofun
  · exact (hothers "NaN" (by decide) (by decide) (by decide +kernel)).1 (.constant .nan)
      (by decide +kernel)

/-- A record on lines of its own, as JSON is usually printed. -/
def brokenRecord : String :=
  "\x7b\n  \"a\": 1\n\x7d"

/-- A record on lines of its own is strict JSON, but no statement with it is recognised. -/
theorem broken_record_is_not_read :
    Json.read true brokenRecord = .ok (.obj [("a", .int 1)]) ∧
      Command.read ("INSERT INTO items JSON " ++ brokenRecord) = .error .unrecognized ∧
      Command.read ("UPDATE items SET JSON " ++ brokenRecord ++ " WHERE id = 'x'") =
        .error .unrecognized := by
  decide +kernel

end DocConsole
