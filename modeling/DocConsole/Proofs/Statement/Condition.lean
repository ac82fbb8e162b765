import DocConsole.Proofs.Statement.Recognition
import DocConsole.Proofs.Statement.Words
import DocConsole.Statement.Reader

/-!
# Reading a condition back

A listing with a condition may be laid out in many ways: its words and its operator in any case,
any white space between the words, and none at all around the operator.  A field takes as many
letters as it can, which matters before the one operator that starts with letters.  Main
statements: every value on one line has a word, and the listing with that word is read as exactly
the collection, the field, the operator and the value that it was written for.
-/

set_option autoImplicit false

namespace DocConsole

open Text

/-! ## Operators -/

namespace Text

/-- A character whose lower-case form is in ASCII is folded and lowered to that form. -/
theorem foldLetter_of_lowerAscii {c : Char} (h : (lowerAscii c).toNat < 0x80) :
    foldLetter c = lowerAscii c ∧ lowerOf c = [lowerAscii c] := by
  have hascii := lt_of_lowerAscii h
  refine ⟨foldLetter_of_ascii hascii, ?_⟩
  unfold lowerOf
  split
  · omega
  · omega
  · rfl

theorem map_foldLetter_of_lowerAscii {cs word : List Char} (h : cs.map lowerAscii = word)
    (hword : ∀ c ∈ word, c.toNat < 0x80) : cs.map foldLetter = word ∧ lowered cs = word := by
  induction cs generalizing word with
  | nil => exact ⟨h, h⟩
  | cons c cs ih =>
      subst h
      obtain ⟨hfold, hlower⟩ := foldLetter_of_lowerAscii (hword _ List.mem_cons_self)
      obtain ⟨hfolds, hlowers⟩ := ih rfl fun d hd => hword d (List.mem_cons_of_mem _ hd)
      refine ⟨by rw [List.map_cons, List.map_cons, hfold, hfolds], ?_⟩
      rw [lowered, List.flatMap_cons, hlower, ← lowered, hlowers, List.map_cons,
        List.singleton_append]

end Text

/-- The spellings of an operator: its symbol in any letter case, and for equality a single equals
sign too. -/
inductive Operator.Spells : Operator → List Char → Prop where
  | symbol (operator : Operator) (cs : List Char)
      (h : cs.map lowerAscii = operator.symbol.toList) : Spells operator cs
  | equals : Spells .equal ['=']

namespace Operator.Spells

variable {operator : Operator} {spelling : List Char}

/-- What an operator is spelled as, without regard to case. -/
theorem folded (h : operator.Spells spelling) :
    spelling.map foldLetter = lowered spelling ∧ lowered spelling ∈ Shape.operatorSpellings ∧
      ofSpelling? (String.ofList (lowered spelling)) = some operator := by
  cases h with
  | symbol operator cs h =>
      have hascii : ∀ c ∈ operator.symbol.toList, c.toNat < 0x80 := by
        cases operator <;> exact List.all_iff_forall_prop.mp (by decide)
      obtain ⟨hfold, hlower⟩ := map_foldLetter_of_lowerAscii h hascii
      rw [hfold, hlower, String.ofList_toList]
      refine ⟨rfl, ?_, ?_⟩
      · cases operator <;> decide
      · cases operator <;> decide
  | equals => decide

theorem mem_operatorSpellings (h : operator.Spells spelling) :
    spelling.map foldLetter ∈ Shape.operatorSpellings := by
  rw [h.folded.1]
  exact h.folded.2.1

end Operator.Spells

namespace Shape

variable {β : Type} {next : List Char → Option β} {b : β} {cs rest spelling : List Char}

/-! ## The operator of a condition -/

/-- A spelling comes behind those that it starts, and these go on with an equals sign. -/
theorem operatorSpellings_pairwise :
    operatorSpellings.Pairwise fun word other =>
      (¬ word <+: other ∧ ¬ other <+: word) ∨ word = other ++ ['='] := by
  decide

/-- Words that the text does not start with are passed over. -/
theorem spelledOperator_append_words {front words : List (List Char)}
    (h : ∀ word ∈ front, ¬ word <+: cs.map foldLetter) :
    spelledOperator next (front ++ words) cs = spelledOperator next words cs := by
  induction front with
  | nil => rfl
  | cons word front ih =>
      have hnone : keyword word next cs = none := by
        rw [Option.eq_none_iff_forall_ne_some]
        exact fun b hb => h word List.mem_cons_self (prefix_of_keyword hb)
      rw [List.cons_append, spelledOperator, hnone]
      exact ih fun w hw => h w (List.mem_cons_of_mem _ hw)

theorem spelledOperator_eq_none {words : List (List Char)}
    (h : ∀ word ∈ words, ¬ word <+: cs.map foldLetter) : spelledOperator next words cs = none := by
  have hpassed : spelledOperator next (words ++ []) cs = spelledOperator next [] cs :=
    spelledOperator_append_words h
  rw [List.append_nil] at hpassed
  exact hpassed

/-- An operator is read as it is spelled, when no equals sign follows that would make it longer. -/
theorem spelledOperator_append (hspelling : spelling.map foldLetter ∈ operatorSpellings)
    (hrest : StartsOutside (· == '=') rest) (hnext : next rest = some b) :
    spelledOperator next operatorSpellings (spelling ++ rest) = some (spelling, b) := by
  obtain ⟨front, others, hsplit⟩ := List.append_of_mem hspelling
  have hpairs := operatorSpellings_pairwise
  rw [hsplit, List.pairwise_append] at hpairs
  have hrefused : ∀ word ∈ front, ¬ word <+: (spelling ++ rest).map foldLetter := by
    intro word hword hprefix
    rw [List.map_append] at hprefix
    rcases hpairs.2.2 word hword _ List.mem_cons_self with hneither | rfl
    · exact not_prefix_append hneither _ hprefix
    · rw [List.prefix_append_right_inj] at hprefix
      cases rest with
      | nil => simp at hprefix
      | cons c rest =>
          have hc : '=' = foldLetter c := (List.cons_prefix_cons.mp hprefix).1
          have hequals := hrest c rfl
          rw [eq_of_foldLetter hc.symm rfl] at hequals
          cases hequals
  have htake : (spelling ++ rest).take (spelling.map foldLetter).length = spelling := by
    rw [List.length_map, List.take_left]
  rw [hsplit, spelledOperator_append_words hrefused, spelledOperator, keyword_append rfl, hnext,
    htake]

theorem isFieldLetter_of_isFieldPath {field : String} (h : isFieldPath field = true) :
    field.toList ≠ [] ∧ field.toList.all isFieldLetter = true := by
  simp only [isFieldPath, Bool.and_eq_true, Bool.not_eq_true', List.isEmpty_eq_false_iff] at h
  refine ⟨h.1, List.all_eq_true.mpr fun c hc => ?_⟩
  have hchar := List.all_eq_true.mp h.2 c hc
  simp only [isFieldChar, isFieldLetter, Bool.or_eq_true] at hchar ⊢
  exact hchar.imp_left isWord_of_isWordAscii

/-- What is read as a letter of a field folds to one. -/
theorem isFieldChar_foldLetter (c : Char) (h : isFieldLetter c = true) :
    isFieldChar (foldLetter c) = true := by
  rw [isFieldLetter, Bool.or_eq_true, isWord] at h
  rcases h with h | h
  · rw [isFieldChar, h, Bool.true_or]
  · rw [beq_iff_eq.mp h]
    decide

/-- Letters of a field reach into the operator that starts with letters no further than to its
hyphen, which is the sixth character. -/
theorem drop_contains {run back tail : List Char} (hall : run.all isFieldLetter = true)
    (hsplit : "array-contains".toList ++ tail = run.map foldLetter ++ back.map foldLetter) :
    run.length < 6 ∧
      back.map foldLetter = "array-contains".toList.drop run.length ++ tail := by
  have hlength : run.length < 6 := by
    refine Nat.lt_of_not_le fun hlong => ?_
    have hsixth : (run.map foldLetter)[5]? = some '-' := by
      rw [← List.getElem?_append_left (by rwa [List.length_map]), ← hsplit]
      rfl
    rw [List.getElem?_map, Option.map_eq_some_iff] at hsixth
    obtain ⟨c, hc, hhyphen⟩ := hsixth
    have hletter := isFieldChar_foldLetter c (List.all_eq_true.mp hall c (List.mem_of_getElem? hc))
    rw [hhyphen] at hletter
    cases hletter
  have hdrop := congrArg (List.drop run.length) hsplit
  rw [List.drop_append_of_le_length (Nat.le_of_lt (Nat.lt_trans hlength (by decide))),
    List.drop_left' (List.length_map _)] at hdrop
  exact ⟨hlength, hdrop.symm⟩

/-- A field does not take letters of the operator behind it: what is left of the operator then is
none. -/
theorem longestRun_contains (hspelling : spelling.map foldLetter = "array-contains".toList)
    (rest : List Char) :
    longestRun isFieldLetter (anyBlanks (spelledOperator next operatorSpellings))
      (spelling ++ rest) = none := by
  refine longestRun_eq_none fun run back hsplit hne hall => ?_
  have hfolded : "array-contains".toList ++ rest.map foldLetter =
      run.map foldLetter ++ back.map foldLetter := by
    rw [← List.map_append, ← hsplit, List.map_append, hspelling]
  obtain ⟨hlength, hback⟩ := drop_contains hall hfolded
  have hleft : ∀ n : Fin 6, 0 < n.val →
      LeadsOutside isBlank ("array-contains".toList.drop n) ∧
        ∀ word ∈ operatorSpellings, ¬ word <+: "array-contains".toList.drop n ∧
          ¬ "array-contains".toList.drop n <+: word := by decide
  obtain ⟨hblank, hnone⟩ := hleft ⟨run.length, hlength⟩ (List.length_pos_iff.mpr hne)
  have hleads : LeadsOutside isBlank back :=
    leadsOutside_of_map_foldLetter isBlank_foldLetter (hback ▸ hblank.append_right _)
  have hrefused : ∀ word ∈ operatorSpellings, ¬ word <+: back.map foldLetter := by
    intro word hword
    rw [hback]
    exact not_prefix_append (hnone word hword) _
  rw [anyBlanks_of_startsOutside hleads.startsOutside, spelledOperator_eq_none hrefused]

end Shape

/-- A field ends before its operator. -/
theorem Operator.Spells.longestRun_eq_none {operator : Operator} {spelling : List Char} {β : Type}
    {next : List Char → Option β} (h : operator.Spells spelling) (rest : List Char) :
    longestRun Shape.isFieldLetter (anyBlanks (Shape.spelledOperator next Shape.operatorSpellings))
      (spelling ++ rest) = none := by
  by_cases hcontains : spelling.map foldLetter = "array-contains".toList
  · exact Shape.longestRun_contains hcontains rest
  · have hall : ∀ word ∈ Shape.operatorSpellings,
        word ≠ "array-contains".toList → LeadsOutside isFieldChar word := by decide
    have hleads := leadsOutside_of_map_foldLetter Shape.isFieldChar_foldLetter
      (hall _ h.mem_operatorSpellings hcontains)
    exact longestRun_of_startsOutside (hleads.append rest)

/-- White space before the operator does not change that. -/
theorem Operator.Spells.longestRun_blanks {operator : Operator} {spelling : List Char} {β : Type}
    {next : List Char → Option β} (h : operator.Spells spelling) (blanks : Blanks)
    (rest : List Char) :
    longestRun Shape.isFieldLetter (anyBlanks (Shape.spelledOperator next Shape.operatorSpellings))
      (blanks.chars ++ (spelling ++ rest)) = none := by
  obtain ⟨chars, hall⟩ := blanks
  cases chars with
  | nil => exact h.longestRun_eq_none rest
  | cons c chars =>
      have hblank : isBlank c = true := List.all_eq_true.mp hall c List.mem_cons_self
      refine longestRun_of_startsOutside (startsOutside_cons ?_)
      rw [Bool.eq_false_iff]
      intro hletter
      rw [Shape.isBlank_of_isFieldLetter hletter] at hblank
      cases hblank

/-! ## Listings -/

/-- The layout of a listing with a condition: the case of its words, and the white space between
and around them. -/
structure ListingLayout where
  leading : Blanks
  select : Cased "select"
  afterSelect : Gap isBlank
  afterStar : Gap isBlank
  source : Cased "from"
  afterSource : Gap isBlank
  beforeWhere : Gap isBlank
  condition : Cased "where"
  afterWhere : Gap isBlank
  beforeOperator : Blanks
  afterOperator : Blanks
  trailing : Blanks

/-- A listing on one line with its words in capitals. -/
def ListingLayout.usual : ListingLayout where
  leading := .none
  select := ⟨"SELECT".toList, by decide⟩
  afterSelect := .space
  afterStar := .space
  source := ⟨"FROM".toList, by decide⟩
  afterSource := .space
  beforeWhere := .space
  condition := whereInCapitals
  afterWhere := .space
  beforeOperator := .space
  afterOperator := .space
  trailing := .none

namespace ListingLayout

variable (layout : ListingLayout)

/-- The condition as it is laid out. -/
def clause (field spelling word : List Char) : List Char :=
  layout.beforeWhere.chars ++ (layout.condition.chars ++ (layout.afterWhere.chars ++
    (field ++ (layout.beforeOperator.chars ++ (spelling ++ (layout.afterOperator.chars ++ word))))))

/-- The listing without the white space around it. -/
def body (collection field spelling word : List Char) : List Char :=
  layout.select.chars ++ (layout.afterSelect.chars ++ (Cased.star.chars ++
    (layout.afterStar.chars ++ (layout.source.chars ++ (layout.afterSource.chars ++
      (collection ++ layout.clause field spelling word))))))

/-- The text of the listing. -/
def statement (collection field : String) (spelling : List Char) (word : String) : String :=
  String.ofList (layout.leading.chars ++
    (layout.body collection.toList field.toList spelling word.toList ++ layout.trailing.chars))

variable {collection field spelling word : List Char} {operator : Operator}

/-- The condition of a listing in any layout. -/
theorem condition?_clause (hfield : field ≠ []) (hletters : field.all Shape.isFieldLetter = true)
    (hspelling : operator.Spells spelling) (htrimmed : LeadsOutside isBlank word)
    (hline : '\n' ∉ word) (hequals : LeadsOutside (· == '=') word) :
    Shape.condition? (layout.clause field spelling word) = some ⟨field, spelling, word⟩ := by
  have hvalue : anyBlanks restOfLine (layout.afterOperator.chars ++ word) = some word := by
    have hne : word ≠ [] := by
      rintro rfl
      cases htrimmed
    exact layout.afterOperator.anyBlanks_append htrimmed.startsOutside
      (restOfLine_eq_some_iff.mpr ⟨rfl, hne, hline⟩)
  have hrest : StartsOutside (· == '=') (layout.afterOperator.chars ++ word) := by
    refine startsOutside_append (fun c hc => ?_) hequals.startsOutside
    rw [beq_eq_false_iff_ne]
    rintro rfl
    cases List.all_eq_true.mp layout.afterOperator.all _ hc
  have hmem := hspelling.mem_operatorSpellings
  have hoperator := Shape.spelledOperator_append hmem hrest hvalue
  have hstarts : StartsOutside isBlank (spelling ++ (layout.afterOperator.chars ++ word)) := by
    have hall : ∀ w ∈ Shape.operatorSpellings, LeadsOutside isBlank w := by decide
    exact (leadsOutside_of_map_foldLetter isBlank_foldLetter (hall _ hmem)).append _
  have hcomparison := layout.beforeOperator.anyBlanks_append hstarts hoperator
  have hrun := layout.afterWhere.someBlanks_longestRun
    (fun _ hc => Shape.isBlank_of_isFieldLetter hc) hfield hletters
    (hspelling.longestRun_blanks layout.beforeOperator _) hcomparison
  have hclause := layout.condition.someBlanks_append layout.beforeWhere (by decide) hrun
  rw [Shape.condition?]
  exact congrArg (Option.map _) hclause

/-- The shape of a listing in any layout. -/
theorem ofChars?_body (hcollection : Shape.IsCollection collection)
    (hclause : Shape.condition? (layout.clause field spelling word) =
      some ⟨field, spelling, word⟩) :
    Shape.ofChars? (layout.body collection field spelling word) =
      some (.select collection (some ⟨field, spelling, word⟩)) := by
  have htail : Shape.selectTail? (layout.clause field spelling word) =
      some (some ⟨field, spelling, word⟩) := by
    rw [Shape.selectTail?, hclause]
  have hname := hcollection.someBlanks_append layout.afterSource layout.beforeWhere htail
  have hsource := layout.source.someBlanks_append layout.afterStar (by decide) hname
  have hstar := Cased.star.someBlanks_append layout.afterSelect (by decide) hsource
  have hselect := (keyword_append layout.select.folds _).trans hstar
  have hshape : Shape.select? (layout.body collection field spelling word) =
      some (.select collection (some ⟨field, spelling, word⟩)) :=
    congrArg (Option.map _) hselect
  rw [Shape.ofChars?, hshape]

theorem isTrimmed_body (hword : LeadsOutside isBlank word.reverse) :
    IsTrimmed (layout.body collection field spelling word) := by
  refine ⟨(layout.select.leadsOutside (by decide)).append_right _, ?_⟩
  simp only [body, clause, ← List.append_assoc]
  exact hword.reverse_append _

end ListingLayout

section Reading

variable {collection field : String} {operator : Operator} {spelling : List Char} {value : Value}
  {word : String}

/-- The filter of a condition: its field, its operator and the value of its word. -/
theorem filter_eq (hfield : isFieldPath field = true) (hspelling : operator.Spells spelling)
    (hword : Word value word) :
    ConditionText.filter ⟨field.toList, spelling, word.toList⟩ = .ok ⟨field, operator, value⟩ := by
  have hoperator := hspelling.folded.2.2
  have hvalue : readLiteral (String.ofList (trim word.toList)) = .ok value := by
    rw [hword.isTrimmed.1.trim_eq, String.ofList_toList, hword.readLiteral_eq]
  have hchecked : Filter.checked field operator value = .ok ⟨field, operator, value⟩ :=
    if_pos hfield
  simp only [ConditionText.filter, hoperator, hvalue, String.ofList_toList, hchecked]

/-- A listing with a condition is read as what it was written for. -/
theorem Command.read_listing (layout : ListingLayout)
    (hcollection : isCollectionName collection = true) (hfield : isFieldPath field = true)
    (hspelling : operator.Spells spelling) (hword : Word value word) :
    Command.read (layout.statement collection field spelling word) =
      .ok (.select collection (some ⟨field, operator, value⟩)) := by
  obtain ⟨htrimmed, hline, hequals⟩ := hword.isTrimmed
  obtain ⟨hne, hletters⟩ := Shape.isFieldLetter_of_isFieldPath hfield
  have hclause := layout.condition?_clause hne hletters hspelling htrimmed.first hline hequals
  have hshape := layout.ofChars?_body (isCollection_of_isCollectionName hcollection) hclause
  have hbody : IsTrimmed (layout.body collection.toList field.toList spelling word.toList) :=
    layout.isTrimmed_body htrimmed.last
  have hchecked : Command.checked (.select collection (some ⟨field, operator, value⟩)) =
      .ok (.select collection (some ⟨field, operator, value⟩)) := if_pos hcollection
  rw [Command.read, ListingLayout.statement, String.toList_ofList,
    hbody.trim_append layout.leading.all layout.trailing.all, hshape]
  simp only [Shape.command, filter_eq hfield hspelling hword, String.ofList_toList, hchecked]

/-- Every value on one line can be written into a listing with a condition, and the listing is read
back as exactly the collection, the field, the operator and the value with its type: in any letter
case, with any white space, and with any of the words that the value has. -/
theorem listing_reads_back (layout : ListingLayout)
    (hcollection : isCollectionName collection = true) (hfield : isFieldPath field = true)
    (hspelling : operator.Spells spelling) (hvalue : value.isOneLine = true) :
    (∃ word, Word value word) ∧ ∀ word, Word value word →
      Command.read (layout.statement collection field spelling word) =
        .ok (.select collection (some ⟨field, operator, value⟩)) :=
  ⟨Word.exists_of_isOneLine hvalue,
    fun _ hword => Command.read_listing layout hcollection hfield hspelling hword⟩

/-- A listing without a blank around its operator, which starts with letters. -/
def crampedLayout : ListingLayout where
  leading := ⟨"\n\t".toList, by decide⟩
  select := ⟨"Select".toList, by decide⟩
  afterSelect := ⟨"\t\r\n".toList, by decide, by decide⟩
  afterStar := .space
  source := ⟨"FROM".toList, by decide⟩
  afterSource := .space
  beforeWhere := ⟨"\u00a0".toList, by decide, by decide⟩
  condition := ⟨"wheRE".toList, by decide⟩
  afterWhere := .space
  beforeOperator := .none
  afterOperator := .none
  trailing := ⟨" \n".toList, by decide⟩

/-- The field ends before the operator, and the text between the quotes stays a text although it
looks like a number. -/
theorem cramped_listing_reads_back :
    crampedLayout.statement "a/b-1" "x.tags" "Array-CONTAINS".toList "'5'" =
        "\n\tSelect\t\r\n* FROM a/b-1\u00a0wheRE x.tagsArray-CONTAINS'5' \n" ∧
      Command.read
          (crampedLayout.statement "a/b-1" "x.tags" "Array-CONTAINS".toList "'5'") =
        .ok (.select "a/b-1" (some ⟨"x.tags", .contains, .str "5"⟩)) :=
  ⟨by decide +kernel, (listing_reads_back crampedLayout (by decide) (by decide)
    (.symbol .contains _ (by decide)) (by decide)).2 _ (.quoted '\'' rfl "5" (by decide))⟩

end Reading

end DocConsole
