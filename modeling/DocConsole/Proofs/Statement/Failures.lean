import DocConsole.Proofs.Number.LiteralText
import DocConsole.Proofs.Statement.Condition

/-!
# How reading a statement fails

A statement that cannot be read has none of the shapes, or a body that is no record in strict JSON,
and these are the only faults that reading promises.  But recognition lets through more than a
command can hold: names and operators are matched by folding, so that one of the four letters
outside ASCII may stand in them, and a condition may compare with a whole number of too many digits.
Main statement: reading ends properly unless one of these comes through, and then the fault is the
one of what came through first.
-/

set_option autoImplicit false

namespace DocConsole

open Text

/-! ## Letters outside ASCII -/

namespace Text

/-- Some character lies outside ASCII. -/
def HoldsForeign (cs : List Char) : Prop :=
  ∃ c ∈ cs, 0x80 ≤ c.toNat

theorem not_holdsForeign_iff {cs : List Char} : ¬ HoldsForeign cs ↔ ∀ c ∈ cs, c.toNat < 0x80 := by
  simp only [HoldsForeign, not_exists, not_and, Nat.not_le]

/-- What folds to a letter, a digit or an underscore is one, if it is in ASCII. -/
theorem isWordAscii_of_isWord {c : Char} (h : isWord c = true) (hascii : c.toNat < 0x80) :
    isWordAscii c = true := by
  have hlower : ∀ n : Fin 0x80, isWordAscii (lowerAscii (Char.ofNat n)) = true →
      isWordAscii (Char.ofNat n) = true := by decide
  rw [isWord, foldLetter_of_ascii hascii] at h
  have hc := hlower ⟨c.toNat, hascii⟩
  rw [Char.ofNat_toNat] at hc
  exact hc h

/-- Lower case keeps a letter outside ASCII there, except for the sign of kelvin. -/
theorem exists_foreign_of_lowerOf {c : Char} (h : 0x80 ≤ c.toNat) (hk : foldLetter c ≠ 'k') :
    ∃ d ∈ lowerOf c, 0x80 ≤ d.toNat := by
  unfold lowerOf
  split
  · exact ⟨Char.ofNat 0x307, by simp, by decide⟩
  · rename_i hkelvin
    exact absurd (by simp [foldLetter, hkelvin]) hk
  · refine ⟨lowerAscii c, List.mem_singleton.mpr rfl, ?_⟩
    rw [← Nat.not_lt]
    exact fun hlt => Nat.not_lt.mpr h (lt_of_lowerAscii hlt)

end Text

/-- A name whose letters fold to the letters of its alphabet is a proper one if it has no letter
outside ASCII. -/
theorem all_or_mark_iff {mark : Char → Bool} (hmark : ∀ c, mark c = true → c.toNat < 0x80)
    {cs : List Char} (hcs : ∀ c ∈ cs, (isWord c || mark c) = true) :
    (∀ c ∈ cs, (isWordAscii c || mark c) = true) ↔ ¬ HoldsForeign cs := by
  rw [not_holdsForeign_iff]
  refine forall₂_congr fun c hc => ⟨fun h => ?_, fun hascii => ?_⟩
  · exact ((Bool.or_eq_true _ _).mp h).elim lt_of_isWordAscii (hmark c)
  · rw [Bool.or_eq_true]
    exact ((Bool.or_eq_true _ _).mp (hcs c hc)).imp_left
      (fun hword => isWordAscii_of_isWord hword hascii)

/-- The name of a collection that was recognised is proper if it is in ASCII. -/
theorem Shape.IsCollection.isCollectionName_iff {cs : List Char} (h : Shape.IsCollection cs) :
    isCollectionName (String.ofList cs) = true ↔ ¬ HoldsForeign cs := by
  have hmark : ∀ c : Char, (c == '/' || c == '-') = true → c.toNat < 0x80 := by
    intro c hc
    rcases (Bool.or_eq_true _ _).mp hc with hc | hc <;> rw [beq_iff_eq.mp hc] <;> decide
  have hletters : ∀ c ∈ cs, (isWord c || (c == '/' || c == '-')) = true := by
    intro c hc
    rw [← Bool.or_assoc]
    exact List.all_eq_true.mp h.letters c hc
  rw [← all_or_mark_iff hmark hletters, isCollectionName, String.toList_ofList,
    List.isEmpty_eq_false_iff.mpr h.nonempty, Bool.not_false, Bool.true_and, List.all_eq_true]
  refine forall₂_congr fun c _ => ?_
  rw [isCollectionChar, Bool.or_assoc]

/-! ## Conditions that were recognised -/

/-- What recognition makes sure of in a condition. -/
structure ConditionText.Recognised (condition : ConditionText) : Prop where
  nonempty : condition.field ≠ []
  letters : condition.field.all Shape.isFieldLetter = true
  spelling : condition.operator.map foldLetter ∈ Shape.operatorSpellings

namespace ConditionText.Recognised

variable {condition : ConditionText}

/-- The field of a condition that was recognised is a path if it is in ASCII. -/
theorem isFieldPath_iff (h : condition.Recognised) :
    isFieldPath (String.ofList condition.field) = true ↔ ¬ HoldsForeign condition.field := by
  have hmark : ∀ c : Char, (c == '.') = true → c.toNat < 0x80 := by
    intro c hc
    rw [beq_iff_eq.mp hc]
    decide
  rw [← all_or_mark_iff hmark (List.all_eq_true.mp h.letters), isFieldPath, String.toList_ofList,
    List.isEmpty_eq_false_iff.mpr h.nonempty, Bool.not_false, Bool.true_and, List.all_eq_true]
  exact Iff.rfl

/-- The operator of a condition that was recognised is one of the operators if it is spelled in
ASCII. -/
theorem ofSpelling?_eq_none_iff (h : condition.Recognised) :
    Operator.ofSpelling? (String.ofList (lowered condition.operator)) = none ↔
      HoldsForeign condition.operator := by
  refine ⟨fun hnone => ?_, ?_⟩
  · by_contra hascii
    rw [not_holdsForeign_iff] at hascii
    have hlowered : lowered condition.operator = condition.operator.map foldLetter := by
      have hmap : condition.operator.map lowerAscii = condition.operator.map foldLetter :=
        List.map_congr_left fun c hc => (foldLetter_of_ascii (hascii c hc)).symm
      have hword : ∀ spelling ∈ Shape.operatorSpellings,
          (spelling.all fun c => decide (c.toNat < 0x80)) = true :=
        List.all_eq_true.mp (by decide)
      refine (map_foldLetter_of_lowerAscii hmap fun c hc => ?_).2
      exact of_decide_eq_true (List.all_eq_true.mp (hword _ h.spelling) c hc)
    have hknown : ∀ spelling ∈ Shape.operatorSpellings,
        (Operator.ofSpelling? (String.ofList spelling)).isSome = true :=
      List.all_eq_true.mp (by decide)
    have hsome := hknown _ h.spelling
    rw [← hlowered, hnone] at hsome
    cases hsome
  · rintro ⟨c, hc, hforeign⟩
    -- No spelling has the letter k, the only one whose lower case hides where it came from.
    have hspellings : ∀ spelling ∈ Shape.operatorSpellings, (spelling.all (· ≠ 'k')) = true :=
      List.all_eq_true.mp (by decide)
    have hk : foldLetter c ≠ 'k' := of_decide_eq_true
      (List.all_eq_true.mp (hspellings _ h.spelling) _ (List.mem_map_of_mem hc))
    obtain ⟨d, hd, hforeign⟩ := exists_foreign_of_lowerOf hforeign hk
    have hd' : d ∈ (String.ofList (lowered condition.operator)).toList := by
      rw [String.toList_ofList]
      exact List.mem_flatMap.mpr ⟨c, hc, hd⟩
    rw [Option.eq_none_iff_forall_ne_some]
    intro operator hoperator
    have hascii : ∀ e ∈ (String.ofList (lowered condition.operator)).toList, e.toNat < 0x80 := by
      unfold Operator.ofSpelling? at hoperator
      split at hoperator
      · rename_i hequals
        rw [hequals]
        exact List.all_iff_forall_prop.mp (by decide)
      · unfold Operator.ofSymbol? at hoperator
        have hsymbol : operator.symbol = _ := beq_iff_eq.mp (List.find?_some hoperator :)
        rw [← hsymbol]
        cases operator <;> exact List.all_iff_forall_prop.mp (by decide)
    exact Nat.not_lt.mpr hforeign (hascii d hd')

end ConditionText.Recognised

/-- A spelling that was read is one of the words, and those before it were not read. -/
theorem Shape.exists_of_spelledOperator {β : Type} {next : List Char → Option β} {b : β}
    {words : List (List Char)} {cs spelling : List Char}
    (h : spelledOperator next words cs = some (spelling, b)) :
    ∃ (front others : List (List Char)) (rest : List Char),
      words = front ++ spelling.map foldLetter :: others ∧ cs = spelling ++ rest ∧
        next rest = some b ∧ ∀ word ∈ front, keyword word next cs = none := by
  induction words with
  | nil => cases h
  | cons word others ih =>
      rw [spelledOperator] at h
      split at h
      · rename_i b' hkeyword
        obtain ⟨start, rest, rfl, rfl, hnext⟩ := keyword_some hkeyword
        obtain ⟨hspelling, rfl⟩ := Prod.mk.inj (Option.some.inj h)
        rw [List.length_map, List.take_left] at hspelling
        subst hspelling
        exact ⟨[], others, rest, rfl, rfl, hnext, fun _ hnone => absurd hnone List.not_mem_nil⟩
      · rename_i hnone
        obtain ⟨front, others, rest, rfl, hsplit, hnext, hfront⟩ := ih h
        exact ⟨word :: front, others, rest, rfl, hsplit, hnext,
          List.forall_mem_cons.mpr ⟨hnone, hfront⟩⟩

/-- A spelling that was read folds to one of the words. -/
theorem Shape.map_foldLetter_of_spelledOperator {β : Type} {next : List Char → Option β} {b : β}
    {words : List (List Char)} {cs spelling : List Char}
    (h : spelledOperator next words cs = some (spelling, b)) :
    spelling.map foldLetter ∈ words := by
  obtain ⟨front, others, rest, rfl, -⟩ := exists_of_spelledOperator h
  exact List.mem_append_right _ List.mem_cons_self

theorem Shape.recognised_of_condition? {cs : List Char} {condition : ConditionText}
    (h : condition? cs = some condition) : condition.Recognised := by
  obtain ⟨⟨field, operator, value⟩, hclause, rfl⟩ := Option.map_eq_some_iff.mp h
  obtain ⟨-, _, -, hclause⟩ := exists_of_someBlanks hclause
  obtain ⟨-, _, -, hclause⟩ := exists_of_keyword hclause
  obtain ⟨-, _, -, hclause⟩ := exists_of_someBlanks hclause
  obtain ⟨_, -, hnonempty, hletters, hcomparison⟩ := longestRun_some hclause
  obtain ⟨-, _, -, hoperator⟩ := exists_of_anyBlanks hcomparison
  exact ⟨hnonempty, hletters, map_foldLetter_of_spelledOperator hoperator⟩

/-- What recognition makes sure of in a statement. -/
structure Shape.Recognised (shape : Shape) : Prop where
  collection : Shape.IsCollection shape.collection
  condition : ∀ collection condition, shape = .select collection (some condition) →
    condition.Recognised

namespace Shape

variable {cs : List Char} {shape : Shape}

theorem recognised_of_select? (h : select? cs = some shape) : shape.Recognised := by
  obtain ⟨⟨collection, condition⟩, hstatement, rfl⟩ := Option.map_eq_some_iff.mp h
  obtain ⟨-, _, -, hstatement⟩ := exists_of_keyword hstatement
  obtain ⟨-, _, -, hstatement⟩ := exists_of_someBlanks hstatement
  obtain ⟨-, _, -, hstatement⟩ := exists_of_keyword hstatement
  obtain ⟨-, _, -, hstatement⟩ := exists_of_someBlanks hstatement
  obtain ⟨-, _, -, hstatement⟩ := exists_of_keyword hstatement
  obtain ⟨-, _, -, hstatement⟩ := exists_of_someBlanks hstatement
  obtain ⟨rest, -, hnonempty, hletters, htail⟩ := longestRun_some hstatement
  refine ⟨⟨hnonempty, hletters⟩, fun collection' condition' hshape => ?_⟩
  obtain ⟨-, rfl⟩ := Shape.select.inj hshape
  unfold selectTail? at htail
  split at htail
  · rename_i found hfound
    rw [← Option.some.inj (Option.some.inj htail)]
    exact recognised_of_condition? hfound
  · split at htail <;> cases htail

theorem recognised_of_insert? (h : insert? cs = some shape) : shape.Recognised := by
  obtain ⟨⟨collection, body⟩, hstatement, rfl⟩ := Option.map_eq_some_iff.mp h
  obtain ⟨-, _, -, hstatement⟩ := exists_of_keyword hstatement
  obtain ⟨-, _, -, hstatement⟩ := exists_of_someBlanks hstatement
  obtain ⟨-, _, -, hstatement⟩ := exists_of_keyword hstatement
  obtain ⟨-, _, -, hstatement⟩ := exists_of_someBlanks hstatement
  obtain ⟨_, -, hnonempty, hletters, -⟩ := longestRun_some hstatement
  exact ⟨⟨hnonempty, hletters⟩, fun _ _ hshape => by cases hshape⟩

theorem recognised_of_update? (h : update? cs = some shape) : shape.Recognised := by
  obtain ⟨⟨collection, body, target⟩, hstatement, rfl⟩ := Option.map_eq_some_iff.mp h
  obtain ⟨-, _, -, hstatement⟩ := exists_of_keyword hstatement
  obtain ⟨-, _, -, hstatement⟩ := exists_of_someBlanks hstatement
  obtain ⟨_, -, hnonempty, hletters, -⟩ := longestRun_some hstatement
  exact ⟨⟨hnonempty, hletters⟩, fun _ _ hshape => by cases hshape⟩

theorem recognised_of_delete? (h : delete? cs = some shape) : shape.Recognised := by
  obtain ⟨⟨collection, target⟩, hstatement, rfl⟩ := Option.map_eq_some_iff.mp h
  obtain ⟨-, _, -, hstatement⟩ := exists_of_keyword hstatement
  obtain ⟨-, _, -, hstatement⟩ := exists_of_someBlanks hstatement
  obtain ⟨-, _, -, hstatement⟩ := exists_of_keyword hstatement
  obtain ⟨-, _, -, hstatement⟩ := exists_of_someBlanks hstatement
  obtain ⟨_, -, hnonempty, hletters, -⟩ := longestRun_some hstatement
  exact ⟨⟨hnonempty, hletters⟩, fun _ _ hshape => by cases hshape⟩

theorem recognised_of_ofChars? (h : ofChars? cs = some shape) : shape.Recognised := by
  unfold ofChars? at h
  split at h
  · rename_i found hfound
    exact Option.some.inj h ▸ recognised_of_select? hfound
  · split at h
    · rename_i found hfound
      exact Option.some.inj h ▸ recognised_of_insert? hfound
    · split at h
      · rename_i found hfound
        exact Option.some.inj h ▸ recognised_of_update? hfound
      · exact recognised_of_delete? h

end Shape

/-! ## Whole numbers that are too long -/

namespace DecimalLiteral

variable {cs digits : List Char}

/-- The digits of a whole number with an optional sign in front; a line feed may end the text. -/
def WritesInteger (cs digits : List Char) : Prop :=
  digits.all isDigit = true ∧
    ∃ sign ∈ [[], ['+'], ['-']], ∃ ending ∈ [[], ['\n']], cs = sign ++ (digits ++ ending)

theorem exists_isSign_iff {sign : List Char} :
    (∃ negative, IsSign negative sign) ↔ sign ∈ [[], ['+'], ['-']] := by
  rw [List.mem_cons, List.mem_pair]
  constructor
  · rintro ⟨_, _ | _ | _⟩
    · exact .inl rfl
    · exact .inr (.inl rfl)
    · exact .inr (.inr rfl)
  · rintro (rfl | rfl | rfl)
    · exact ⟨false, .absent⟩
    · exact ⟨false, .plus⟩
    · exact ⟨true, .minus⟩

theorem isEnding_iff_mem {ending : List Char} : IsEnding ending ↔ ending ∈ [[], ['\n']] := by
  rw [List.mem_pair, isEnding_iff, Bool.or_eq_true, List.isEmpty_iff, beq_iff_eq]

theorem WritesInteger.exists_literal (h : WritesInteger cs digits) (hne : digits ≠ []) :
    ∃ l, read? cs = some l ∧ l.isInteger = true ∧ l.whole = digits := by
  obtain ⟨hdigits, sign, hsign, ending, hending, rfl⟩ := h
  obtain ⟨negative, hsign⟩ := exists_isSign_iff.mpr hsign
  refine ⟨⟨negative, digits, none, none⟩, ?_, rfl, rfl⟩
  have hread := (Writes.intro hsign (.whole ⟨hne, hdigits⟩) .absent).read?_append
    (isEnding_iff_mem.mpr hending)
  rwa [List.append_nil, List.append_assoc] at hread

theorem writesInteger_of_read? {l : DecimalLiteral} (h : read? cs = some l)
    (hinteger : l.isInteger = true) : WritesInteger cs l.whole := by
  obtain ⟨_, ending, rfl, hending, hsign, hmantissa, hexponent⟩ := read?_eq_some_iff.mp h
  obtain ⟨rfl, rfl⟩ : _ = none ∧ _ = none := by simpa [isInteger] using hinteger
  -- Without a point and an exponent there is only a sign in front of the digits.
  cases hmantissa with
  | whole hds =>
      cases hexponent
      refine ⟨hds.2, _, exists_isSign_iff.mp ⟨_, hsign⟩, ending, isEnding_iff_mem.mp hending, ?_⟩
      rw [List.append_nil, List.append_assoc]

end DecimalLiteral

/-- A whole number of so many digits, which are more than a whole number may be written with. -/
def IsOverlong (cs : List Char) (count : Nat) : Prop :=
  maxIntegerDigits < count ∧
    ∃ digits, DecimalLiteral.WritesInteger cs digits ∧ digits.length = count

/-- A word is refused as a number just if it writes a whole number of too many digits. -/
theorem readNumber_eq_error_iff {word : String} {fault : Fault} :
    readNumber word = .error fault ↔
      ∃ count, fault = .tooManyDigits count ∧ IsOverlong word.toList count := by
  constructor
  · intro h
    unfold readNumber at h
    split at h
    · cases h
    · rename_i l hread
      split at h
      · rename_i hinteger
        split at h
        · rename_i hlong
          exact ⟨l.whole.length, (Except.error.inj h).symm, hlong, l.whole,
            DecimalLiteral.writesInteger_of_read? hread hinteger, rfl⟩
        · cases h
      · cases h
  · rintro ⟨count, rfl, hlong, digits, hwrites, rfl⟩
    have hne : digits ≠ [] := List.ne_nil_of_length_pos (Nat.zero_lt_of_lt hlong)
    obtain ⟨l, hread, hinteger, rfl⟩ := hwrites.exists_literal hne
    rw [readNumber, hread]
    simp only [hinteger, hlong, if_true]

theorem readLiteral_eq_error_iff {word : String} {fault : Fault} :
    readLiteral word = .error fault ↔
      ∃ count, fault = .tooManyDigits count ∧ IsOverlong word.toList count := by
  have hconstant (constant : String) (hnone : readNumber constant = .ok none) :
      ¬ ∃ count, fault = .tooManyDigits count ∧ IsOverlong constant.toList count := by
    rw [← readNumber_eq_error_iff, hnone]
    exact fun h => by cases h
  unfold readLiteral
  split
  · rename_i htrue
    subst htrue
    exact ⟨fun h => (by cases h), fun h => absurd h (hconstant "true" (by decide))⟩
  · split
    · rename_i hfalse
      subst hfalse
      exact ⟨fun h => (by cases h), fun h => absurd h (hconstant "false" (by decide))⟩
    · rw [← readNumber_eq_error_iff]
      split
      · rename_i hread
        rw [hread]
        exact ⟨fun h => Except.error.inj h ▸ rfl, fun h => Except.error.inj h ▸ rfl⟩
      · rename_i hread
        rw [hread]
        exact ⟨fun h => (by cases h), fun h => (by cases h)⟩
      · rename_i hread
        rw [hread]
        refine ⟨fun h => ?_, fun h => (by cases h)⟩
        split at h <;> cases h

/-- A word is read as a value just if it writes no whole number of too many digits. -/
theorem exists_literal_iff {cs : List Char} :
    (∃ value, readLiteral (String.ofList cs) = .ok value) ↔ ∀ count, ¬ IsOverlong cs count := by
  have herror {fault : Fault} : readLiteral (String.ofList cs) = .error fault ↔
      ∃ count, fault = .tooManyDigits count ∧ IsOverlong cs count := by
    rw [readLiteral_eq_error_iff, String.toList_ofList]
  constructor
  · rintro ⟨value, hread⟩ count hlong
    rw [herror.mpr ⟨count, rfl, hlong⟩] at hread
    cases hread
  · intro hshort
    cases hread : readLiteral (String.ofList cs) with
    | ok value => exact ⟨value, rfl⟩
    | error fault =>
        obtain ⟨count, -, hlong⟩ := herror.mp hread
        exact absurd hlong (hshort count)

/-! ## Faults that are promised -/

/-- The faults of statements: no shape fits, or the body is no record in strict JSON. -/
def Fault.isOfStatement : Fault → Bool
  | .unrecognized => true
  | .bodyNotJson _ => true
  | .bodyNotRecord _ => true
  | _ => false

/-- The names in a command have the form of names. -/
def Command.isWellNamed (command : Command) : Bool :=
  isCollectionName command.collection && command.filter?.all (fun f => isFieldPath f.field)

/-- A statement gave a command with proper names or a fault of statements. -/
def endsProperly : Except Fault Command → Bool
  | .ok command => command.isWellNamed
  | .error fault => fault.isOfStatement

theorem readBody_eq_error {kind : CommandKind} {body : List Char} {fault : Fault}
    (h : readBody kind body = .error fault) : fault.isOfStatement = true := by
  unfold readBody at h
  split at h
  · exact Except.error.inj h ▸ rfl
  · cases h
  · exact Except.error.inj h ▸ rfl

/-! ## Faults that escape -/

/-- The parts of a condition, in the order in which they are checked, that recognition lets through
and that no filter can hold, each with its fault. -/
inductive ConditionText.Escapes (condition : ConditionText) : Fault → Prop where
  | operator (h : HoldsForeign condition.operator) :
      Escapes condition (.unknownOperator (String.ofList (lowered condition.operator)))
  | number {count : Nat} (hoperator : ¬ HoldsForeign condition.operator)
      (h : IsOverlong (trim condition.value) count) : Escapes condition (.tooManyDigits count)
  | field (hoperator : ¬ HoldsForeign condition.operator)
      (hvalue : ∀ count, ¬ IsOverlong (trim condition.value) count)
      (h : HoldsForeign condition.field) : Escapes condition (.invalid [.at "field" .isName])

/-- What stands beside the collection of a statement is read without a fault. -/
def Shape.RestIsRead : Shape → Prop
  | .select _ none => True
  | .select _ (some condition) => ∀ fault, ¬ condition.Escapes fault
  | .insert _ body => ∃ payload, readBody .insert body = .ok payload
  | .update _ body _ => ∃ payload, readBody .update body = .ok payload
  | .delete _ _ => True

/-- The parts of a statement that recognition lets through and that no command can hold, each with
its fault: the condition, and after everything else the collection. -/
inductive Shape.Escapes : Shape → Fault → Prop where
  | condition {collection : List Char} {condition : ConditionText} {fault : Fault}
      (h : condition.Escapes fault) : Escapes (.select collection (some condition)) fault
  | collection {shape : Shape} (hrest : shape.RestIsRead) (h : HoldsForeign shape.collection) :
      Escapes shape (.invalid [.at "collection" .isName])

theorem Shape.Escapes.isOfStatement {shape : Shape} {fault : Fault} (h : shape.Escapes fault) :
    fault.isOfStatement = false := by
  cases h with
  | condition h => cases h <;> rfl
  | collection _ _ => rfl

/-! ## Conditions -/

namespace ConditionText.Recognised

variable {condition : ConditionText}

theorem exists_operator (h : condition.Recognised) (hascii : ¬ HoldsForeign condition.operator) :
    ∃ operator,
      Operator.ofSpelling? (String.ofList (lowered condition.operator)) = some operator := by
  rwa [← h.ofSpelling?_eq_none_iff, ← ne_eq, Option.ne_none_iff_exists'] at hascii

/-- A condition that was recognised gives the fault of its first part that escapes. -/
theorem filter_of_escapes (h : condition.Recognised) {fault : Fault}
    (hescapes : condition.Escapes fault) : condition.filter = .error fault := by
  cases hescapes with
  | operator hforeign =>
      simp only [ConditionText.filter, h.ofSpelling?_eq_none_iff.mpr hforeign]
  | @number count hascii hlong =>
      obtain ⟨operator, hknown⟩ := h.exists_operator hascii
      have hread : readLiteral (String.ofList (trim condition.value)) =
          .error (.tooManyDigits count) := by
        rw [readLiteral_eq_error_iff, String.toList_ofList]
        exact ⟨count, rfl, hlong⟩
      simp only [ConditionText.filter, hknown, hread]
  | field hascii hshort hforeign =>
      obtain ⟨operator, hknown⟩ := h.exists_operator hascii
      obtain ⟨value, hread⟩ := exists_literal_iff.mpr hshort
      have hpath : ¬ isFieldPath (String.ofList condition.field) = true := by
        rwa [h.isFieldPath_iff, not_not]
      simp only [ConditionText.filter, hknown, hread, Filter.checked, if_neg hpath]

/-- A condition that was recognised and of which nothing escapes gives a filter on a field path. -/
theorem exists_filter (h : condition.Recognised) (hnone : ∀ fault, ¬ condition.Escapes fault) :
    ∃ f, condition.filter = .ok f ∧ isFieldPath f.field = true := by
  have hascii : ¬ HoldsForeign condition.operator := fun hforeign => hnone _ (.operator hforeign)
  have hshort : ∀ count, ¬ IsOverlong (trim condition.value) count :=
    fun count hlong => hnone _ (.number hascii hlong)
  have hfield : ¬ HoldsForeign condition.field :=
    fun hforeign => hnone _ (.field hascii hshort hforeign)
  obtain ⟨operator, hknown⟩ := h.exists_operator hascii
  obtain ⟨value, hread⟩ := exists_literal_iff.mpr hshort
  have hpath : isFieldPath (String.ofList condition.field) = true := h.isFieldPath_iff.mpr hfield
  refine ⟨⟨String.ofList condition.field, operator, value⟩, ?_, hpath⟩
  simp only [ConditionText.filter, hknown, hread, Filter.checked, if_pos hpath]

end ConditionText.Recognised

/-! ## Statements -/

namespace Shape.Recognised

variable {shape : Shape}

/-- Where everything beside the collection was read, only its name is left to be checked. -/
theorem exists_checked (h : shape.Recognised) (hrest : shape.RestIsRead) :
    ∃ command, shape.command = Command.checked command ∧
      command.collection = String.ofList shape.collection ∧
      command.filter?.all (fun f => isFieldPath f.field) = true := by
  cases shape with
  | select collection condition =>
      cases condition with
      | none => exact ⟨_, rfl, rfl, rfl⟩
      | some condition =>
          obtain ⟨f, hfilter, hpath⟩ := (h.condition _ _ rfl).exists_filter hrest
          exact ⟨.select (String.ofList collection) (some f),
            by simp only [Shape.command, hfilter], rfl, hpath⟩
  | insert collection body =>
      obtain ⟨payload, hbody⟩ := hrest
      exact ⟨.insert (String.ofList collection) payload, by simp only [Shape.command, hbody], rfl,
        rfl⟩
  | update collection body target =>
      obtain ⟨payload, hbody⟩ := hrest
      exact ⟨.update (String.ofList collection) (some (stripQuotes (String.ofList target))) payload,
        by simp only [Shape.command, hbody], rfl, rfl⟩
  | delete collection target => exact ⟨_, rfl, rfl, rfl⟩

/-- A statement that was recognised gives the fault of its first part that escapes. -/
theorem command_of_escapes (h : shape.Recognised) {fault : Fault} (hescapes : shape.Escapes fault) :
    shape.command = .error fault := by
  cases hescapes with
  | condition hcondition =>
      rw [Shape.command, (h.condition _ _ rfl).filter_of_escapes hcondition]
  | collection hrest hforeign =>
      obtain ⟨command, hcommand, hcollection, -⟩ := h.exists_checked hrest
      have hname : ¬ isCollectionName command.collection = true := by
        rwa [hcollection, h.collection.isCollectionName_iff, not_not]
      rw [hcommand, Command.checked, if_neg hname]

/-- What lies beside the collection of a statement is refused with a fault of statements, or one of
its parts escapes. -/
theorem ends_of_not_restIsRead (hrest : ¬ shape.RestIsRead) :
    endsProperly shape.command = true ∨ ∃ fault, shape.Escapes fault := by
  have hbody {kind : CommandKind} {body : List Char}
      (h : ¬ ∃ payload, readBody kind body = .ok payload) :
      ∃ fault, readBody kind body = .error fault ∧ fault.isOfStatement = true := by
    cases hread : readBody kind body with
    | ok payload => exact absurd ⟨payload, hread⟩ h
    | error fault => exact ⟨fault, rfl, readBody_eq_error hread⟩
  cases shape with
  | select collection condition =>
      cases condition with
      | none => exact absurd trivial hrest
      | some condition =>
          simp only [Shape.RestIsRead, not_forall, not_not] at hrest
          obtain ⟨fault, hescapes⟩ := hrest
          exact .inr ⟨fault, .condition hescapes⟩
  | insert collection body =>
      obtain ⟨fault, hread, hfault⟩ := hbody hrest
      left
      rwa [Shape.command, hread]
  | update collection body target =>
      obtain ⟨fault, hread, hfault⟩ := hbody hrest
      left
      rwa [Shape.command, hread]
  | delete collection target => exact absurd trivial hrest

/-- A statement that was recognised ends properly unless one of its parts escapes. -/
theorem ends_or_escapes (h : shape.Recognised) :
    endsProperly shape.command = true ∨ ∃ fault, shape.Escapes fault := by
  by_cases hrest : shape.RestIsRead
  · by_cases hforeign : HoldsForeign shape.collection
    · exact .inr ⟨_, .collection hrest hforeign⟩
    · left
      obtain ⟨command, hcommand, hcollection, hfilter⟩ := h.exists_checked hrest
      have hname : isCollectionName command.collection = true := by
        rwa [hcollection, h.collection.isCollectionName_iff]
      rw [hcommand, Command.checked, if_pos hname, endsProperly, Command.isWellNamed, hname,
        hfilter, Bool.and_self]
  · exact ends_of_not_restIsRead hrest

end Shape.Recognised

/-- For every text: reading it ends properly, with a command of proper names or a fault of
statements, unless a part of what was recognised escapes, and then it ends with the fault of that
part, which is none of statements.  And a word always has a value as a literal, but for a whole
number of too many digits. -/
theorem reading_ends_properly_or_escapes (statement : String) :
    (endsProperly (Command.read statement) = true ∨
      ∃ shape ∈ Shape.ofChars? (trim statement.toList), ∃ fault, shape.Escapes fault) ∧
    (∀ shape ∈ Shape.ofChars? (trim statement.toList), ∀ fault, shape.Escapes fault →
      Command.read statement = .error fault ∧ fault.isOfStatement = false) ∧
    ∀ cs, (∃ value, readLiteral (String.ofList cs) = .ok value) ↔
      ∀ count, ¬ IsOverlong cs count := by
  refine ⟨?_, fun shape hshape fault hescapes => ⟨?_, hescapes.isOfStatement⟩,
    fun cs => exists_literal_iff⟩
  · unfold Command.read
    split
    · exact .inl rfl
    · rename_i shape hshape
      have hrecognised := Shape.recognised_of_ofChars? hshape
      exact hrecognised.ends_or_escapes.imp_right fun hescapes => ⟨shape, hshape, hescapes⟩
  · have hrecognised := Shape.recognised_of_ofChars? hshape
    rw [Command.read, hshape]
    exact hrecognised.command_of_escapes hescapes

/-- An operator with a dotless i is recognised and unknown, and a whole number of one digit too many
is no value. -/
theorem folded_operator_escapes :
    Command.read "SELECT * FROM users WHERE tags array-conta\u0131ns 'x'" =
      .error (.unknownOperator "array-conta\u0131ns") ∧
    endsProperly (Command.read "SELECT * FROM users WHERE tags array-conta\u0131ns 'x'") = false ∧
    ¬ ∃ value, readLiteral (String.ofList (List.replicate (maxIntegerDigits + 1) '9')) =
      .ok value := by
  refine ⟨by decide, by decide, fun hread => ?_⟩
  have hlong : IsOverlong (List.replicate (maxIntegerDigits + 1) '9') (maxIntegerDigits + 1) := by
    refine ⟨Nat.lt_succ_self _, _, ⟨?_, [], by simp, [], by simp, (List.append_nil _).symm⟩,
      List.length_replicate⟩
    rw [List.all_replicate]
    decide
  exact exists_literal_iff.mp hread _ hlong

end DocConsole
