import DocConsole.Proofs.Statement.Failures

/-!
# Which operator a listing is read with

Operators are tried longer ones first, and the text has to go on with a value.  So the longest
spelling that stands behind the field is the one that is read, with one exception: where the text
ends with it, there is no value, and the spelling is tried again without its equals sign, which
then is the value.  Main statement: what stands behind the field of a listing that was read is its
longest spelling and either a value, or nothing, and then the operator is a shorter one.
-/

set_option autoImplicit false

namespace DocConsole

open Text

/-! ## The way to the operator -/

namespace Text

variable {front front' rest rest' : List Char}

/-- Runs of a class that end where the class ends are the same in the same text. -/
theorem append_inj_of_startsOutside {p : Char → Bool} (hfront : front.all p = true)
    (hfront' : front'.all p = true) (hrest : StartsOutside p rest)
    (hrest' : StartsOutside p rest') (h : front ++ rest = front' ++ rest') : rest = rest' := by
  have hspan : (front, rest) = (front', rest') := by
    rw [← DecimalLiteral.spanOf_of_startsOutside hfront hrest, h,
      DecimalLiteral.spanOf_of_startsOutside hfront' hrest']
  exact (Prod.mk.inj hspan).2

theorem Gap.append_inj {gap gap' : Gap isBlank} (hrest : StartsOutside isBlank rest)
    (hrest' : StartsOutside isBlank rest') (h : gap.chars ++ rest = gap'.chars ++ rest') :
    rest = rest' :=
  append_inj_of_startsOutside gap.all gap'.all hrest hrest' h

theorem Cased.append_inj {word : String} {w w' : Cased word}
    (h : w.chars ++ rest = w'.chars ++ rest') : rest = rest' := by
  have hlength (w : Cased word) : w.chars.length = word.toList.length := by
    rw [← w.folds, List.length_map]
  exact (List.append_inj h ((hlength w).trans (hlength w').symm)).2

theorem lowered_of_ascii {cs : List Char} (h : ∀ c ∈ cs, c.toNat < 0x80) :
    lowered cs = cs.map lowerAscii := by
  induction cs with
  | nil => rfl
  | cons c cs ih =>
      obtain ⟨hc, hcs⟩ := List.forall_mem_cons.mp h
      have hlower : lowerOf c = [lowerAscii c] := by
        unfold lowerOf
        split
        · omega
        · omega
        · rfl
      rw [lowered, List.flatMap_cons, hlower, ← lowered, ih hcs]
      rfl

theorem Cased.chars_eq_star (w : Cased "*") : w.chars = star.chars :=
  eq_singleton_of_map_foldLetter w.folds rfl

/-- What is read to the end of a text behind blanks is the text, but for blanks in front. -/
theorem trim_of_anyBlanks_restOfLine {value : List Char}
    (h : anyBlanks restOfLine rest = some value) : trim value = trim rest := by
  obtain ⟨blanks, line, rfl, hline⟩ := exists_of_anyBlanks h
  obtain ⟨rfl, -, -⟩ := restOfLine_eq_some_iff.mp hline
  rw [trim, trim, trimStart, trimStart,
    List.dropWhile_append_of_pos (List.all_eq_true.mp blanks.all)]

/-- Where nothing is read although no line feed follows, the text is at its end. -/
theorem eq_nil_of_anyBlanks_restOfLine (h : anyBlanks restOfLine rest = none)
    (hline : '\n' ∉ rest) : rest = [] := by
  unfold anyBlanks at h
  split at h
  · cases h
  · by_contra hne
    rw [restOfLine_eq_some_iff.mpr ⟨rfl, hne, hline⟩] at h
    cases h

end Text

namespace ListingLayout

/-- The text of a listing up to its operator. -/
def lead (layout : ListingLayout) (collection field : List Char) : List Char :=
  layout.select.chars ++ (layout.afterSelect.chars ++ (Cased.star.chars ++
    (layout.afterStar.chars ++ (layout.source.chars ++ (layout.afterSource.chars ++
      (collection ++ (layout.beforeWhere.chars ++ (layout.condition.chars ++
        (layout.afterWhere.chars ++ (field ++ layout.beforeOperator.chars))))))))))

variable {layout layout' : ListingLayout} {collection field cs cs' : List Char}

/-- A text leads to its operator in one way. -/
theorem lead_append_inj (hcollection : LeadsOutside isBlank collection)
    (hfield : LeadsOutside isBlank field) (hcs : StartsOutside isBlank cs)
    (hcs' : StartsOutside isBlank cs')
    (h : layout.lead collection field ++ cs = layout'.lead collection field ++ cs') : cs = cs' := by
  have hword {word : String} (w : Cased word) (hword : LeadsOutside isBlank word.toList)
      (rest : List Char) : StartsOutside isBlank (w.chars ++ rest) :=
    (w.leadsOutside hword).append rest
  simp only [lead, List.append_assoc] at h
  have hstar := Cased.append_inj h
  have hsource := Cased.append_inj
    (Gap.append_inj (hword _ (by decide) _) (hword _ (by decide) _) hstar)
  have hname := Cased.append_inj
    (Gap.append_inj (hword _ (by decide) _) (hword _ (by decide) _) hsource)
  have hwhere := List.append_cancel_left
    (Gap.append_inj (hcollection.append _) (hcollection.append _) hname)
  have hpath := Cased.append_inj
    (Gap.append_inj (hword _ (by decide) _) (hword _ (by decide) _) hwhere)
  have hoperator := List.append_cancel_left
    (Gap.append_inj (hfield.append _) (hfield.append _) hpath)
  exact append_inj_of_startsOutside layout.beforeOperator.all layout'.beforeOperator.all hcs hcs'
    hoperator

end ListingLayout

namespace Shape

variable {cs spelling value : List Char}

/-- A listing with a condition that was recognised is laid out as one up to its operator. -/
theorem exists_lead {collection : List Char} {condition : ConditionText}
    (h : select? cs = some (.select collection (some condition))) :
    ∃ (layout : ListingLayout) (tail : List Char),
      cs = layout.lead collection condition.field ++ tail ∧
        spelledOperator (anyBlanks restOfLine) operatorSpellings tail =
          some (condition.operator, condition.value) := by
  obtain ⟨⟨_, _⟩, hselect, hshape⟩ := Option.map_eq_some_iff.mp h
  obtain ⟨rfl, rfl⟩ := Shape.select.inj hshape
  clear h
  obtain ⟨select, _, rfl, hblanks⟩ := exists_of_keyword hselect
  obtain ⟨afterSelect, _, rfl, hstar⟩ := exists_of_someBlanks hblanks
  obtain ⟨star, _, rfl, hspace⟩ := exists_of_keyword hstar
  obtain ⟨afterStar, _, rfl, hfrom⟩ := exists_of_someBlanks hspace
  obtain ⟨source, _, rfl, hgap⟩ := exists_of_keyword hfrom
  obtain ⟨afterSource, _, rfl, hname⟩ := exists_of_someBlanks hgap
  obtain ⟨rest, rfl, -, -, htail⟩ := longestRun_some hname
  have hcondition : condition? rest = some condition := by
    unfold selectTail? at htail
    split at htail
    · rename_i hfound
      rw [hfound, Option.some.inj htail]
    · split at htail <;> cases htail
  obtain ⟨⟨field, operator, value⟩, hclause, rfl⟩ := Option.map_eq_some_iff.mp hcondition
  obtain ⟨beforeWhere, _, rfl, hwhere⟩ := exists_of_someBlanks hclause
  obtain ⟨condition, _, rfl, hlast⟩ := exists_of_keyword hwhere
  obtain ⟨afterWhere, _, rfl, hpath⟩ := exists_of_someBlanks hlast
  obtain ⟨_, rfl, -, -, hcomparison⟩ := longestRun_some hpath
  obtain ⟨beforeOperator, tail, rfl, hoperator⟩ := exists_of_anyBlanks hcomparison
  refine ⟨⟨.none, select, afterSelect, afterStar, source, afterSource, beforeWhere, condition,
    afterWhere, beforeOperator, .none, .none⟩, tail, ?_, hoperator⟩
  simp only [ListingLayout.lead, star.chars_eq_star, List.append_assoc]

/-! ## The spelling that is read -/

/-- The longest spelling of an operator at the front of a text. -/
structure IsLongestSpelling (spelling cs : List Char) : Prop where
  stands : spelling <+: cs
  spells : spelling.map foldLetter ∈ operatorSpellings
  longest : ∀ other, other <+: cs → other.map foldLetter ∈ operatorSpellings →
    other.length ≤ spelling.length

/-- A spelling is the longest one when no word before its own stands there. -/
theorem isLongestSpelling_of_front {front others : List (List Char)} {rest : List Char}
    (hwords : operatorSpellings = front ++ spelling.map foldLetter :: others)
    (hfront : ∀ word ∈ front, ¬ word <+: (spelling ++ rest).map foldLetter) :
    IsLongestSpelling spelling (spelling ++ rest) := by
  refine ⟨List.prefix_append _ _, ?_, fun other hother hmem => ?_⟩
  · rw [hwords]
    exact List.mem_append_right _ List.mem_cons_self
  · have hpairs := operatorSpellings_pairwise
    rw [hwords, List.pairwise_append, List.pairwise_cons] at hpairs
    have hprefix : other.map foldLetter <+: (spelling ++ rest).map foldLetter := hother.map _
    rw [hwords, List.mem_append, List.mem_cons] at hmem
    rcases hmem with hmem | hmem | hmem
    · exact absurd hprefix (hfront _ hmem)
    · have hlength := congrArg List.length hmem
      rw [List.length_map, List.length_map] at hlength
      exact Nat.le_of_eq hlength
    · rcases hpairs.2.1.1 _ hmem with hneither | hlonger
      · rw [List.map_append] at hprefix
        exact absurd hprefix (not_prefix_append ⟨hneither.2, hneither.1⟩ _)
      · have hlength := congrArg List.length hlonger
        rw [List.length_map, List.length_append, List.length_map] at hlength
        exact Nat.le_trans (Nat.le_add_right _ _) (Nat.le_of_eq hlength.symm)

/-- What stands behind the field is the longest spelling with a value behind it; or the text ends
with the longest spelling, and what is read is this spelling without its equals sign. -/
theorem longest_or_cut
    (h : spelledOperator (anyBlanks restOfLine) operatorSpellings cs = some (spelling, value)) :
    (∃ rest, cs = spelling ++ rest ∧ rest ≠ [] ∧ IsLongestSpelling spelling cs ∧
        trim value = trim rest) ∨
      (cs = spelling ++ ['='] ∧ IsLongestSpelling cs cs ∧ value = ['=']) := by
  obtain ⟨front, others, rest, hwords, rfl, hvalue, hrefused⟩ := exists_of_spelledOperator h
  by_cases hlonger : ∃ word ∈ front, word <+: (spelling ++ rest).map foldLetter
  · -- A longer word stands there, and was refused for want of a value.
    obtain ⟨word, hword, hprefix⟩ := hlonger
    have hpairs := operatorSpellings_pairwise
    rw [hwords, List.pairwise_append] at hpairs
    rw [List.map_append] at hprefix
    obtain rfl : word = spelling.map foldLetter ++ ['='] :=
      (hpairs.2.2 word hword _ List.mem_cons_self).resolve_left
        fun hneither => not_prefix_append hneither _ hprefix
    rw [List.prefix_append_right_inj] at hprefix
    obtain ⟨c, tail, rfl⟩ : ∃ c tail, rest = c :: tail := by
      refine List.exists_cons_of_ne_nil ?_
      rintro rfl
      simp at hprefix
    obtain rfl : c = '=' := eq_of_foldLetter (List.cons_prefix_cons.mp hprefix).1.symm rfl
    have hequals : restOfLine ('=' :: tail) = some value := by
      rwa [anyBlanks_of_startsOutside (startsOutside_cons (by decide))] at hvalue
    obtain ⟨rfl, -, hline⟩ := restOfLine_eq_some_iff.mp hequals
    have hnone := hrefused _ hword
    have hwhole : spelling ++ '=' :: tail = (spelling ++ ['=']) ++ tail := by simp
    rw [hwhole, keyword_append (by rw [List.map_append]; rfl)] at hnone
    obtain rfl := eq_nil_of_anyBlanks_restOfLine hnone
      fun hmem => hline (List.mem_cons_of_mem _ hmem)
    refine .inr ⟨rfl, ⟨List.prefix_rfl, ?_, fun _ hother _ => hother.length_le⟩, rfl⟩
    rw [hwords, List.map_append]
    exact List.mem_append_left _ hword
  · refine .inl ⟨rest, rfl, ?_, ?_, trim_of_anyBlanks_restOfLine hvalue⟩
    · rintro rfl
      cases hvalue
    · exact isLongestSpelling_of_front hwords fun word hword hprefix =>
        hlonger ⟨word, hword, hprefix⟩

theorem IsLongestSpelling.startsOutside_isBlank {rest : List Char}
    (h : IsLongestSpelling spelling (spelling ++ rest)) :
    StartsOutside isBlank (spelling ++ rest) := by
  have hall : ∀ word ∈ operatorSpellings, LeadsOutside isBlank word := by decide
  exact (leadsOutside_of_map_foldLetter isBlank_foldLetter (hall _ h.spells)).append rest

/-- Behind the longest spelling stands no equals sign with which it would be longer. -/
theorem IsLongestSpelling.startsOutside {rest : List Char}
    (h : IsLongestSpelling spelling (spelling ++ rest))
    (hlonger : (spelling ++ ['=']).map foldLetter ∈ operatorSpellings) :
    StartsOutside (· == '=') rest := by
  intro c hc
  rw [beq_eq_false_iff_ne]
  rintro rfl
  obtain ⟨tail, rfl⟩ := List.head?_eq_some_iff.mp hc
  have hprefix : spelling ++ ['='] <+: spelling ++ '=' :: tail := by
    rw [List.prefix_append_right_inj]
    exact List.prefix_append ['='] tail
  have hlength := h.longest _ hprefix hlonger
  rw [List.length_append] at hlength
  exact Nat.not_succ_le_self _ hlength

end Shape

/-! ## The operator of a command -/

/-- A spelling that was recognised, and gave an operator, is a spelling of this operator. -/
theorem Operator.spells_of_ofSpelling? {operator : Operator} {spelling : List Char}
    (hascii : ¬ HoldsForeign spelling)
    (h : ofSpelling? (String.ofList (lowered spelling)) = some operator) :
    operator.Spells spelling := by
  have hlowered := lowered_of_ascii (not_holdsForeign_iff.mp hascii)
  unfold ofSpelling? at h
  split at h
  · rename_i hequals
    obtain rfl := Option.some.inj h
    have hmap : spelling.map lowerAscii = ['='] := by
      rw [← hlowered]
      exact (String.toList_ofList).symm.trans (congrArg String.toList hequals)
    have hfold := (map_foldLetter_of_lowerAscii hmap (List.forall_mem_singleton.mpr (by decide))).1
    rw [eq_singleton_of_map_foldLetter hfold rfl]
    exact .equals
  · have hsymbol : operator.symbol = String.ofList (lowered spelling) :=
      beq_iff_eq.mp (List.find?_some h :)
    refine .symbol operator spelling ?_
    rw [hsymbol, String.toList_ofList, hlowered]

/-- The parts of the filter that a condition gives. -/
theorem ConditionText.filter_eq_ok {condition : ConditionText} {f : Filter}
    (hrecognised : condition.Recognised) (h : condition.filter = .ok f) :
    f.field.toList = condition.field ∧ isFieldPath f.field = true ∧
      f.operator.Spells condition.operator ∧
      readLiteral (String.ofList (trim condition.value)) = .ok f.value := by
  unfold ConditionText.filter at h
  simp only at h
  split at h
  · cases h
  · rename_i operator hoperator
    split at h
    · cases h
    · rename_i value hvalue
      unfold Filter.checked at h
      split at h
      · rename_i hpath
        obtain rfl := Except.ok.inj h
        have hascii : ¬ HoldsForeign condition.operator := by
          rw [← hrecognised.ofSpelling?_eq_none_iff, hoperator]
          exact Option.some_ne_none _
        exact ⟨String.toList_ofList, hpath, Operator.spells_of_ofSpelling? hascii hoperator,
          hvalue⟩
      · cases h

/-- Only a listing is recognised as one. -/
theorem Shape.select?_of_ofChars? {cs collection : List Char} {condition : Option ConditionText}
    (h : ofChars? cs = some (.select collection condition)) :
    select? cs = some (.select collection condition) := by
  unfold ofChars? at h
  split at h
  · rename_i hselect
    rw [hselect, h]
  · split at h
    · rename_i hinsert
      obtain ⟨_, -, hshape⟩ := Option.map_eq_some_iff.mp hinsert
      rw [← hshape] at h
      cases h
    · split at h
      · rename_i hupdate
        obtain ⟨_, -, hshape⟩ := Option.map_eq_some_iff.mp hupdate
        rw [← hshape] at h
        cases h
      · obtain ⟨_, -, hshape⟩ := Option.map_eq_some_iff.mp h
        cases hshape

/-- A shape that gives a listing with a filter is one with a condition that gives the filter. -/
theorem Shape.exists_of_command_select {shape : Shape} {collection : String} {f : Filter}
    (h : shape.command = .ok (.select collection (some f))) :
    ∃ condition, shape = .select collection.toList (some condition) ∧
      condition.filter = .ok f := by
  have hchecked {command : Command}
      (hcommand : Command.checked command = .ok (.select collection (some f))) :
      command = .select collection (some f) :=
    (Command.checked_eq_ok hcommand).1.symm
  unfold Shape.command at h
  split at h
  · cases hchecked h
  · rename_i condition
    split at h
    · cases h
    · rename_i filter hfilter
      obtain ⟨rfl, hsome⟩ := Command.select.inj (hchecked h)
      obtain rfl := Option.some.inj hsome
      exact ⟨condition, by rw [String.toList_ofList], hfilter⟩
  · split at h
    · cases h
    · cases hchecked h
  · split at h
    · cases h
    · cases hchecked h
  · cases hchecked h

/-- A statement that is read as a listing with a filter was recognised as one with a condition that
gives the filter. -/
theorem Command.exists_of_read_select {text collection : String} {f : Filter}
    (h : Command.read text = .ok (.select collection (some f))) :
    ∃ condition, Shape.select? (trim text.toList) =
        some (.select collection.toList (some condition)) ∧ condition.filter = .ok f := by
  unfold Command.read at h
  split at h
  · cases h
  · rename_i shape hshape
    obtain ⟨condition, rfl, hfilter⟩ := Shape.exists_of_command_select h
    exact ⟨condition, Shape.select?_of_ofChars? hshape, hfilter⟩

/-- What stands in the text of a listing behind its field and the blanks that follow the field. -/
def BehindField (text collection field : String) (cs : List Char) : Prop :=
  ∃ layout : ListingLayout, StartsOutside isBlank cs ∧
    trim text.toList = layout.lead collection.toList field.toList ++ cs

/-- How a filter comes from the longest spelling behind its field and what follows the spelling. -/
inductive Filter.StemsFrom (f : Filter) : List Char → List Char → Prop where
  /-- The spelling is the one of the operator, no equals sign that would make it longer follows it,
  and what follows is the value. -/
  | value {spelling rest : List Char} (hrest : rest ≠ []) (hoperator : f.operator.Spells spelling)
      (hvalue : readLiteral (String.ofList (trim rest)) = .ok f.value)
      (hequals : (spelling ++ ['=']).map foldLetter ∈ Shape.operatorSpellings →
        StartsOutside (· == '=') rest) : StemsFrom f spelling rest
  /-- Nothing follows the spelling: its equals sign is the value, and what stands before it is the
  spelling of the operator. -/
  | cut {shorter : List Char} (hoperator : f.operator.Spells shorter)
      (hvalue : f.value = .str "=") : StemsFrom f (shorter ++ ['=']) []

section Spelling

variable {text collection : String} {f : Filter}

/-- Only one thing stands behind the field of a listing. -/
theorem BehindField.unique {cs cs' : List Char} {field : String}
    (hcollection : isCollectionName collection = true) (hfield : isFieldPath field = true)
    (h : BehindField text collection field cs) (h' : BehindField text collection field cs') :
    cs = cs' := by
  obtain ⟨layout, hcs, htext⟩ := h
  obtain ⟨layout', hcs', htext'⟩ := h'
  obtain ⟨hne, hletters⟩ := Shape.isFieldLetter_of_isFieldPath hfield
  have hleads : LeadsOutside isBlank field.toList := by
    obtain ⟨c, rest, hcons⟩ := List.exists_cons_of_ne_nil hne
    rw [hcons] at hletters ⊢
    have hc := List.all_eq_true.mp hletters c List.mem_cons_self
    simp [LeadsOutside, Shape.isBlank_of_isFieldLetter hc]
  exact ListingLayout.lead_append_inj
    (isCollection_of_isCollectionName hcollection).leadsOutside hleads hcs hcs'
    (htext.symm.trans htext')

/-- Behind the field of a listing that was read stands the longest spelling of an operator that
could stand there, and either a value, and then the operator is the one of this spelling, or
nothing, and then the spelling is cut before its equals sign. -/
theorem operator_is_longest_before_value
    (h : Command.read text = .ok (.select collection (some f))) :
    ∃ spelling rest, (∀ cs, BehindField text collection f.field cs ↔ cs = spelling ++ rest) ∧
      Shape.IsLongestSpelling spelling (spelling ++ rest) ∧ f.StemsFrom spelling rest := by
  obtain ⟨condition, hselect, hfilter⟩ := Command.exists_of_read_select h
  obtain ⟨layout, tail, htext, hspelled⟩ := Shape.exists_lead hselect
  have hrecognised := (Shape.recognised_of_select? hselect).condition _ _ rfl
  obtain ⟨hfield, hpath, hoperator, hvalue⟩ := ConditionText.filter_eq_ok hrecognised hfilter
  have hname : isCollectionName collection = true := Command.isCollectionName_of_read h
  have hplace {spelling rest : List Char} (htail : tail = spelling ++ rest)
      (hlongest : Shape.IsLongestSpelling spelling (spelling ++ rest)) (cs : List Char) :
      BehindField text collection f.field cs ↔ cs = spelling ++ rest := by
    have hbehind : BehindField text collection f.field (spelling ++ rest) :=
      ⟨layout, hlongest.startsOutside_isBlank, by rw [htext, hfield, htail]⟩
    constructor
    · exact fun hcs => hcs.unique hname hpath hbehind
    · rintro rfl
      exact hbehind
  rcases Shape.longest_or_cut hspelled with
    ⟨rest, rfl, hne, hlongest, htrim⟩ | ⟨htail, hlongest, hequals⟩
  · rw [htrim] at hvalue
    exact ⟨condition.operator, rest, hplace rfl hlongest, hlongest,
      .value hne hoperator hvalue hlongest.startsOutside⟩
  · rw [hequals] at hvalue
    rw [htail] at hlongest
    have hwhole : Shape.IsLongestSpelling (condition.operator ++ ['='])
        (condition.operator ++ ['='] ++ []) := by
      rwa [List.append_nil]
    exact ⟨_, [], hplace (by rw [htail, List.append_nil]) hwhole, hwhole,
      .cut hoperator (Except.ok.inj hvalue).symm⟩

/-- Without blanks too the two characters are one operator. -/
theorem cramped_operator_is_longest :
    Command.read "SELECT * FROM items WHERE n>=5" =
        .ok (.select "items" (some ⟨"n", .greaterOrEqual, .int 5⟩)) ∧
      ∃ spelling rest, (∀ cs, BehindField "SELECT * FROM items WHERE n>=5" "items" "n" cs ↔
          cs = spelling ++ rest) ∧
        Shape.IsLongestSpelling spelling (spelling ++ rest) ∧
        Filter.StemsFrom ⟨"n", .greaterOrEqual, .int 5⟩ spelling rest := by
  have hread : Command.read "SELECT * FROM items WHERE n>=5" =
      .ok (.select "items" (some ⟨"n", .greaterOrEqual, .int 5⟩)) := by
    decide +kernel
  have hlongest := operator_is_longest_before_value hread
  exact ⟨hread, hlongest⟩

/-- The two characters are parted where the text ends with them. -/
theorem operator_cut_at_end :
    Command.read "SELECT * FROM items WHERE n >=" =
        .ok (.select "items" (some ⟨"n", .greater, .str "="⟩)) ∧
      BehindField "SELECT * FROM items WHERE n >=" "items" "n" ">=".toList ∧
      Shape.IsLongestSpelling ">=".toList ">=".toList ∧ ¬ Operator.greater.Spells ">=".toList := by
  refine ⟨by decide +kernel, ⟨ListingLayout.usual, startsOutside_cons (by decide),
      by decide +kernel⟩,
    ⟨List.prefix_rfl, by decide, fun _ hother _ => hother.length_le⟩, ?_⟩
  intro hspells
  rcases hspells with ⟨_, _, hsymbol⟩
  revert hsymbol
  decide

end Spelling

end DocConsole
