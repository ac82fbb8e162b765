import DocConsole.Proofs.Statement.Insertion
import DocConsole.Proofs.Statement.Spelling

/-!
# The whole of a statement

What a statement was made of when it was accepted.  The text falls apart, from its first character
to its last, into the words and the white space of its shape and the parts of its command; the parts
are read as they stand there.  Only an update could be cut in more than one way, and its body
reaches to the last start of a clause that has text behind it.  Main statement: nothing in a
statement that was accepted is dropped.
-/

set_option autoImplicit false

namespace DocConsole

open Text

/-! ## From a shape to a command -/

/-- How the parts of a shape are read as those of a command. -/
inductive Shape.Gives : Shape → Command → Prop where
  /-- A listing of all documents. -/
  | listing (collection : String) :
      Gives (.select collection.toList none) (.select collection none)
  /-- A listing with a filter, which the condition gives. -/
  | filtered (collection : String) {condition : ConditionText} {f : Filter}
      (hfilter : condition.filter = .ok f) :
      Gives (.select collection.toList (some condition)) (.select collection (some f))
  /-- An insertion, whose body is a record in strict JSON. -/
  | insertion (collection : String) {body : List Char} {payload : Fields}
      (hbody : Json.read true (String.ofList body) = .ok (.obj payload)) :
      Gives (.insert collection.toList body) (.insert collection payload)
  /-- An update, whose body is a record in strict JSON. -/
  | update (collection : String) {body target : List Char} {payload : Fields}
      (hbody : Json.read true (String.ofList body) = .ok (.obj payload)) :
      Gives (.update collection.toList body target)
        (.update collection (some (stripQuotes (String.ofList target))) payload)
  /-- A deletion. -/
  | deletion (collection : String) (target : List Char) :
      Gives (.delete collection.toList target)
        (.delete collection (some (stripQuotes (String.ofList target))))

theorem read_of_readBody {kind : CommandKind} {body : List Char} {payload : Fields}
    (h : readBody kind body = .ok payload) :
    Json.read true (String.ofList body) = .ok (.obj payload) := by
  unfold readBody at h
  split at h
  · cases h
  · rename_i hread
    rw [hread, Except.ok.inj h]
  · cases h

/-- A shape that has a command gives it. -/
theorem Shape.gives_of_command {shape : Shape} {command : Command}
    (h : shape.command = .ok command) : shape.Gives command := by
  have hname (collection : List Char) : collection = (String.ofList collection).toList :=
    String.toList_ofList.symm
  unfold Shape.command at h
  split at h
  · rename_i collection
    obtain ⟨rfl, -⟩ := Command.checked_eq_ok h
    rw [hname collection, String.ofList_toList]
    exact .listing _
  · rename_i collection condition
    split at h
    · cases h
    · rename_i f hfilter
      obtain ⟨rfl, -⟩ := Command.checked_eq_ok h
      rw [hname collection, String.ofList_toList]
      exact .filtered _ hfilter
  · rename_i collection body
    split at h
    · cases h
    · rename_i payload hbody
      obtain ⟨rfl, -⟩ := Command.checked_eq_ok h
      rw [hname collection, String.ofList_toList]
      exact .insertion _ (read_of_readBody hbody)
  · rename_i collection body target
    split at h
    · cases h
    · rename_i payload hbody
      obtain ⟨rfl, -⟩ := Command.checked_eq_ok h
      rw [hname collection, String.ofList_toList]
      exact .update _ (read_of_readBody hbody)
  · rename_i collection target
    obtain ⟨rfl, -⟩ := Command.checked_eq_ok h
    rw [hname collection, String.ofList_toList]
    exact .deletion _ _

/-- A statement that was accepted was recognised as a shape that gives its command. -/
theorem Command.exists_shape {text : String} {command : Command}
    (h : Command.read text = .ok command) :
    ∃ shape, Shape.ofChars? (trim text.toList) = some shape ∧ shape.Gives command := by
  unfold Command.read at h
  split at h
  · cases h
  · rename_i shape hshape
    exact ⟨shape, hshape, Shape.gives_of_command h⟩

/-! ## How a command stands in its statement -/

/-- The text of a listing up to its collection. -/
def ListingLayout.head (layout : ListingLayout) (collection : List Char) : List Char :=
  layout.select.chars ++ (layout.afterSelect.chars ++ (Cased.star.chars ++
    (layout.afterStar.chars ++ (layout.source.chars ++ (layout.afterSource.chars ++ collection)))))

/-- The text of an update up to its body. -/
def UpdateLayout.lead (layout : UpdateLayout) (collection : List Char) : List Char :=
  layout.update.chars ++ (layout.afterUpdate.chars ++ (collection ++ (layout.beforeSet.chars ++
    (layout.set.chars ++ (layout.afterSet.chars ++ (layout.json.chars ++
      layout.afterJson.chars))))))

theorem UpdateLayout.body_eq (layout : UpdateLayout) (clause : IdClause)
    (collection payload target : List Char) :
    layout.body clause collection payload target =
      layout.lead collection ++ (payload ++ (layout.beforeWhere.chars ++ clause.text target)) := by
  simp only [body, lead, List.append_assoc]

/-- The text of a deletion up to its clause. -/
def DeletionLayout.lead (layout : DeletionLayout) (collection : List Char) : List Char :=
  layout.delete.chars ++ (layout.afterDelete.chars ++ (layout.source.chars ++
    (layout.afterSource.chars ++ (collection ++ layout.beforeWhere.chars))))

/-- In a text the start of a clause stands behind a front of it, with white space before the clause
and some text after it. -/
def HasClauseBehind (front cs : List Char) : Prop :=
  ∃ (gap : Gap isBlank) (mark : IdMark) (rest : List Char),
    rest ≠ [] ∧ cs = front ++ (gap.chars ++ (mark.chars ++ rest))

/-- How a command stands in a statement without blanks around it: the words and the white space of
its form and its own parts between them, from the first character to the last. -/
inductive Command.Written : Command → List Char → Prop where
  /-- A listing of all documents ends with its collection. -/
  | listing (layout : ListingLayout) (collection : String) :
      Written (.select collection none) (layout.head collection.toList)
  /-- A filter stands behind the collection, with its field, a spelling of its operator and a text
  for its value. -/
  | filtered (layout : ListingLayout) (collection : String) {f : Filter}
      {spelling value : List Char} (hoperator : f.operator.Spells spelling)
      (hvalue : readLiteral (String.ofList (trim value)) = .ok f.value) :
      Written (.select collection (some f))
        (layout.body collection.toList f.field.toList spelling value)
  /-- The body of an insertion is all that follows its last word. -/
  | insertion (layout : InsertionLayout) (collection : String) {body : List Char}
      {payload : Fields} (hbody : Json.read true (String.ofList body) = .ok (.obj payload)) :
      Written (.insert collection payload) (layout.body collection.toList body)
  /-- The body of an update reaches to the start of a clause, to the last one if all stands on one
  line, and the id is all that follows that start. -/
  | update (layout : UpdateLayout) (collection : String) {body rest cs : List Char}
      {payload : Fields} (gap : Gap isBlank) (mark : IdMark)
      (hbody : Json.read true (String.ofList body) = .ok (.obj payload)) (hrest : rest ≠ [])
      (hcs : cs = layout.lead collection.toList ++
        (body ++ (gap.chars ++ (mark.chars ++ rest))))
      (hlast : '\n' ∉ cs → ∀ front, HasClauseBehind front cs →
        front.length ≤ (layout.lead collection.toList ++ body).length) :
      Written (.update collection (some (stripQuotes (String.ofList rest))) payload) cs
  /-- The id of a deletion is all that follows the start of its clause. -/
  | deletion (layout : DeletionLayout) (collection : String) {rest : List Char} (mark : IdMark)
      (hrest : rest ≠ []) :
      Written (.delete collection (some (stripQuotes (String.ofList rest))))
        (layout.lead collection.toList ++ (mark.chars ++ rest))

/-! ## Clauses -/

namespace Text

variable {β : Type} {p : Char → Bool} {next : List Char → Option β} {b : β}
  {cs run run' rest : List Char}

/-- No run that could be read is longer than the one that is. -/
theorem length_le_of_longestRun (h : longestRun p next cs = some (run, b))
    (hsplit : cs = run' ++ rest) (hall : run'.all p = true) (hnext : next rest ≠ none) :
    run'.length ≤ run.length := by
  induction cs generalizing run run' b with
  | nil => cases h
  | cons c cs ih =>
      cases run' with
      | nil => exact Nat.zero_le _
      | cons c' run' =>
          obtain ⟨rfl, rfl⟩ := List.cons.inj hsplit
          obtain ⟨hc, hall⟩ := Bool.and_eq_true_iff.mp hall
          rw [longestRun, if_pos hc] at h
          split at h
          · rename_i shorter b' hfound
            obtain ⟨rfl, -⟩ := Prod.mk.inj (Option.some.inj h)
            exact Nat.succ_le_succ (ih hfound rfl hall)
          · rename_i hnone
            -- the longer run would have been found before this one was tried
            obtain ⟨b', -, hrun⟩ := Option.map_eq_some_iff.mp h
            obtain ⟨rfl, -⟩ := Prod.mk.inj hrun
            cases run' with
            | nil => exact Nat.le_refl _
            | cons d run' =>
                exact absurd (longestRun_none hnone rfl (List.cons_ne_nil _ _) hall) hnext

/-- Blanks around a word between quotes, or without them, do not matter. -/
theorem stripQuotes_of_trim {cs cs' : List Char} (h : trim cs = trim cs') :
    stripQuotes (String.ofList cs) = stripQuotes (String.ofList cs') := by
  simp only [stripQuotes, String.toList_ofList, h]

theorem ne_nil_of_anyBlanks_restOfLine {line : List Char}
    (h : anyBlanks restOfLine rest = some line) : rest ≠ [] := by
  rintro rfl
  cases h

end Text

section Clause

variable {cs line rest : List Char}

/-- On one line, the start of a clause with text behind it is read. -/
theorem idClause?_ne_none (gap : Gap isBlank) (mark : IdMark) (hrest : rest ≠ [])
    (hline : '\n' ∉ rest) : Shape.idClause? (gap.chars ++ (mark.chars ++ rest)) ≠ none := by
  cases hvalue : anyBlanks restOfLine rest with
  | none => exact absurd (eq_nil_of_anyBlanks_restOfLine hvalue hline) hrest
  | some line =>
      rw [idClause?_mark gap mark hvalue]
      exact Option.some_ne_none line

/-- On one line no clause starts behind the body of an update but the one that was read. -/
theorem length_le_of_body {lead body tail front target : List Char}
    (hrun : longestRun (fun c => c ≠ '\n') Shape.idClause? (body ++ tail) = some (body, target))
    (hline : '\n' ∉ lead ++ (body ++ tail)) (h : HasClauseBehind front (lead ++ (body ++ tail))) :
    front.length ≤ (lead ++ body).length := by
  obtain ⟨gap, mark, rest, hrest, hsplit⟩ := h
  rw [List.length_append]
  rcases List.append_eq_append_iff.mp hsplit with ⟨run, rfl, hback⟩ | ⟨past, rfl, -⟩
  · have hfree : ∀ c ∈ run ++ (gap.chars ++ (mark.chars ++ rest)), c ≠ '\n' := by
      rintro c hc rfl
      rw [hback] at hline
      exact hline (List.mem_append_right _ hc)
    have hall : run.all (fun c => c ≠ '\n') = true :=
      List.all_eq_true.mpr fun c hc => decide_eq_true (hfree c (List.mem_append_left _ hc))
    have hclause : Shape.idClause? (gap.chars ++ (mark.chars ++ rest)) ≠ none := by
      refine idClause?_ne_none gap mark hrest fun hmem => hfree '\n' ?_ rfl
      simp [hmem]
    rw [List.length_append]
    exact Nat.add_le_add_left (length_le_of_longestRun hrun hback hall hclause) _
  · rw [List.length_append]
    omega

end Clause

/-! ## Statements taken apart -/

namespace Shape

variable {cs : List Char} {shape : Shape} {command : Command}

theorem written_of_select? (h : select? cs = some shape) (hgives : shape.Gives command) :
    command.Written cs := by
  obtain ⟨⟨collection, condition⟩, hselect, rfl⟩ := Option.map_eq_some_iff.mp h
  cases hgives with
  | listing collection =>
      obtain ⟨select, _, rfl, hblanks⟩ := exists_of_keyword hselect
      obtain ⟨afterSelect, _, rfl, hstar⟩ := exists_of_someBlanks hblanks
      obtain ⟨star, _, rfl, hspace⟩ := exists_of_keyword hstar
      obtain ⟨afterStar, _, rfl, hfrom⟩ := exists_of_someBlanks hspace
      obtain ⟨source, _, rfl, hgap⟩ := exists_of_keyword hfrom
      obtain ⟨afterSource, _, rfl, hname⟩ := exists_of_someBlanks hgap
      obtain ⟨rest, rfl, -, -, htail⟩ := longestRun_some hname
      have hnil : rest = [] := by
        unfold selectTail? at htail
        split at htail
        · cases htail
        · split at htail
          · rename_i hempty
            exact List.isEmpty_iff.mp hempty
          · cases htail
      have hwritten := Command.Written.listing ⟨.none, select, afterSelect, afterStar, source,
        afterSource, .space, whereInCapitals, .space, .none, .none, .none⟩ collection
      simpa only [ListingLayout.head, star.chars_eq_star, hnil, List.append_nil] using hwritten
  | @filtered collection condition f hfilter =>
      obtain ⟨layout, tail, rfl, hspelled⟩ := exists_lead h
      have hrecognised := (recognised_of_select? h).condition _ _ rfl
      obtain ⟨hfield, -, hoperator, hvalue⟩ := ConditionText.filter_eq_ok hrecognised hfilter
      obtain ⟨-, -, rest, -, rfl, hrest, -⟩ := exists_of_spelledOperator hspelled
      obtain ⟨afterOperator, line, rfl, hline⟩ := exists_of_anyBlanks hrest
      obtain ⟨rfl, -, -⟩ := restOfLine_eq_some_iff.mp hline
      have hwritten := Command.Written.filtered { layout with afterOperator := afterOperator }
        collection hoperator hvalue
      simpa only [ListingLayout.body, ListingLayout.clause, ListingLayout.lead, hfield,
        List.append_assoc] using hwritten

/-- What was read as an insertion, with its body on the rest of the line. -/
theorem exists_of_insert? (h : insert? cs = some shape) :
    ∃ (layout : InsertionLayout) (collection body : List Char), shape = .insert collection body ∧
      IsCollection collection ∧ cs = layout.body collection body ∧ '\n' ∉ body := by
  obtain ⟨⟨collection, body⟩, hinsert, rfl⟩ := Option.map_eq_some_iff.mp h
  obtain ⟨insert, _, rfl, hblanks⟩ := exists_of_keyword hinsert
  obtain ⟨afterInsert, _, rfl, hinto⟩ := exists_of_someBlanks hblanks
  obtain ⟨into, _, rfl, hspace⟩ := exists_of_keyword hinto
  obtain ⟨afterInto, _, rfl, hname⟩ := exists_of_someBlanks hspace
  obtain ⟨_, rfl, hne, hall, hgap⟩ := longestRun_some hname
  obtain ⟨beforeJson, _, rfl, hjson⟩ := exists_of_someBlanks hgap
  obtain ⟨json, _, rfl, hlast⟩ := exists_of_keyword hjson
  obtain ⟨afterJson, _, rfl, hline⟩ := exists_of_someBlanks hlast
  obtain ⟨rfl, -, hfree⟩ := restOfLine_eq_some_iff.mp hline
  exact ⟨⟨insert, afterInsert, into, afterInto, beforeJson, json, afterJson⟩, collection, body,
    rfl, ⟨hne, hall⟩, rfl, hfree⟩

/-- What was read as an update, with its body in front of the clause. -/
theorem exists_of_update? (h : update? cs = some shape) :
    ∃ (layout : UpdateLayout) (collection body target back : List Char),
      shape = .update collection body target ∧ IsCollection collection ∧
        cs = layout.lead collection ++ (body ++ back) ∧ '\n' ∉ body ∧
        longestRun (fun c => c ≠ '\n') idClause? (body ++ back) = some (body, target) ∧
        idClause? back = some target := by
  obtain ⟨⟨collection, body, target⟩, hupdate, rfl⟩ := Option.map_eq_some_iff.mp h
  obtain ⟨update, _, rfl, hblanks⟩ := exists_of_keyword hupdate
  obtain ⟨afterUpdate, _, rfl, hname⟩ := exists_of_someBlanks hblanks
  obtain ⟨_, rfl, hne, hall, hgap⟩ := longestRun_some hname
  obtain ⟨beforeSet, _, rfl, hset⟩ := exists_of_someBlanks hgap
  obtain ⟨set, _, rfl, hspace⟩ := exists_of_keyword hset
  obtain ⟨afterSet, _, rfl, hjson⟩ := exists_of_someBlanks hspace
  obtain ⟨json, _, rfl, hlast⟩ := exists_of_keyword hjson
  obtain ⟨afterJson, _, rfl, hrun⟩ := exists_of_someBlanks hlast
  obtain ⟨back, rfl, -, hline, hclause⟩ := longestRun_some hrun
  refine ⟨⟨update, afterUpdate, beforeSet, set, afterSet, json, afterJson,
    UpdateLayout.usual.beforeWhere⟩, collection, body, target, back, rfl, ⟨hne, hall⟩, ?_, ?_,
    hrun, hclause⟩
  · simp only [UpdateLayout.lead, List.append_assoc]
  · intro hfeed
    exact absurd (List.all_eq_true.mp hline _ hfeed) (by decide)

theorem written_of_insert? (h : insert? cs = some shape) (hgives : shape.Gives command) :
    command.Written cs := by
  obtain ⟨layout, _, body, rfl, -, rfl, -⟩ := exists_of_insert? h
  cases hgives with
  | insertion collection hbody => exact .insertion layout collection hbody

theorem written_of_update? (h : update? cs = some shape) (hgives : shape.Gives command) :
    command.Written cs := by
  obtain ⟨layout, _, body, target, back, rfl, -, rfl, -, hrun, hclause⟩ := exists_of_update? h
  cases hgives with
  | update collection hbody =>
      have hlast (hfree : '\n' ∉ layout.lead collection.toList ++ (body ++ back))
          (front : List Char)
          (h : HasClauseBehind front (layout.lead collection.toList ++ (body ++ back))) :
          front.length ≤ (layout.lead collection.toList ++ body).length :=
        length_le_of_body hrun hfree h
      obtain ⟨gap, mark, rest, rfl, hvalue⟩ := exists_of_idClause? hclause
      rw [stripQuotes_of_trim (trim_of_anyBlanks_restOfLine hvalue)]
      exact .update layout collection gap mark hbody (ne_nil_of_anyBlanks_restOfLine hvalue) rfl
        hlast

theorem written_of_delete? (h : delete? cs = some shape) (hgives : shape.Gives command) :
    command.Written cs := by
  obtain ⟨⟨collection, target⟩, hdelete, rfl⟩ := Option.map_eq_some_iff.mp h
  cases hgives with
  | deletion collection target =>
      obtain ⟨delete, _, rfl, hblanks⟩ := exists_of_keyword hdelete
      obtain ⟨afterDelete, _, rfl, hspace⟩ := exists_of_someBlanks hblanks
      obtain ⟨source, _, rfl, hgap⟩ := exists_of_keyword hspace
      obtain ⟨afterSource, _, rfl, hname⟩ := exists_of_someBlanks hgap
      obtain ⟨_, rfl, -, -, hclause⟩ := longestRun_some hname
      obtain ⟨gap, mark, rest, rfl, hvalue⟩ := exists_of_idClause? hclause
      rw [stripQuotes_of_trim (trim_of_anyBlanks_restOfLine hvalue)]
      have hwritten := Command.Written.deletion ⟨delete, afterDelete, source, afterSource, gap⟩
        collection mark (ne_nil_of_anyBlanks_restOfLine hvalue)
      simpa only [DeletionLayout.lead, List.append_assoc] using hwritten

theorem written_of_ofChars? (h : ofChars? cs = some shape) (hgives : shape.Gives command) :
    command.Written cs := by
  unfold ofChars? at h
  split at h
  · rename_i hselect
    exact written_of_select? (hselect.trans h) hgives
  · split at h
    · rename_i hinsert
      exact written_of_insert? (hinsert.trans h) hgives
    · split at h
      · rename_i hupdate
        exact written_of_update? (hupdate.trans h) hgives
      · exact written_of_delete? h hgives

end Shape

/-- Nothing in a statement that was accepted is dropped.  Without the blanks around it the text is
the words and the white space of the command's form with the command's own parts between them, and
nothing else: a listing without a filter ends with its collection, the value of a filter is the one
of all that follows the operator, a body is read whole, and so is an id. -/
theorem nothing_is_dropped {text : String} {command : Command}
    (h : Command.read text = .ok command) : command.Written (trim text.toList) := by
  obtain ⟨shape, hshape, hgives⟩ := Command.exists_shape h
  exact Shape.written_of_ofChars? hshape hgives

/-- An update with a clause in its record and another one at the end of its id. -/
def crowdedUpdate : String :=
  "\tupdate a/b SET json  \x7b\"q\": \" WHERE id = 7\"\x7d\twhere Id=x where id = \n"

/-- The last clause that has text behind it names the document. -/
theorem crowded_update_is_whole :
    Command.read crowdedUpdate =
        .ok (.update "a/b" (some "x where id =") [("q", .str " WHERE id = 7")]) ∧
      Command.Written (.update "a/b" (some "x where id =") [("q", .str " WHERE id = 7")])
        (trim crowdedUpdate.toList) := by
  have hread : Command.read crowdedUpdate =
      .ok (.update "a/b" (some "x where id =") [("q", .str " WHERE id = 7")]) := by
    decide +kernel
  exact ⟨hread, nothing_is_dropped hread⟩

end DocConsole
