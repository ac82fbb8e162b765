import DocConsole.Json.Reader
import DocConsole.Proofs.Json.Texts
import DocConsole.Proofs.Statement.Words

/-!
# JSON read back

The JSON text of a value is read from the state in which a value must follow, and leaves the reader
in the state after that value, with whatever is still open.  The layout does not matter: what stands
between the tokens is white space.  Main statement: a value that JSON has is read back from its
text, every list and record with the same items in the same order, with white space behind it or
without.  Texts are texts of characters here: an escape of half a character that comes from
elsewhere is read as U+FFFD, and names that differ only in such halves become one name.
-/

set_option autoImplicit false

namespace DocConsole

open Text

/-! ## Values that JSON has -/

mutual

/-- Whether JSON has a value: numbers are finite and not too long, and no name comes twice in one
record. -/
def Value.isJson : Value → Bool
  | .null => true
  | .str _ => true
  | .arr items => Value.areJson items
  | .obj fields => (Fields.names fields).Nodup && Value.fieldsAreJson fields
  | value => value.isBare

/-- Whether JSON has all items of a list. -/
def Value.areJson : List Value → Bool
  | [] => true
  | item :: items => item.isJson && Value.areJson items

/-- Whether JSON has the values of all fields. -/
def Value.fieldsAreJson : List (String × Value) → Bool
  | [] => true
  | (_, value) :: fields => value.isJson && Value.fieldsAreJson fields

end

/-- Whether a value holds no others. -/
def Value.isScalar : Value → Bool
  | .arr _ => false
  | .obj _ => false
  | _ => true

namespace Fields

/-- A field that is not there yet comes last. -/
theorem set_of_not_mem {fields : Fields} {name : String} (h : name ∉ names fields)
    (value : Value) : set fields name value = fields ++ [(name, value)] := by
  induction fields with
  | nil => rfl
  | cons field fields ih =>
      obtain ⟨key, old⟩ := field
      simp only [names, List.map_cons, List.mem_cons, not_or] at h
      rw [set, if_neg (Ne.symm h.1), ih h.2, List.cons_append]

theorem merge_of_nodup {fields changes : Fields} (h : (names (fields ++ changes)).Nodup) :
    merge fields changes = fields ++ changes := by
  induction changes generalizing fields with
  | nil => rw [List.append_nil]; rfl
  | cons change changes ih =>
      obtain ⟨name, value⟩ := change
      have hnew : name ∉ names fields := by
        have hparts := h
        simp only [names, List.map_append, List.map_cons, List.nodup_append] at hparts
        exact fun hmem => hparts.2.2 name hmem name List.mem_cons_self rfl
      have hmoved : fields ++ (name, value) :: changes =
          (fields ++ [(name, value)]) ++ changes := by
        rw [List.append_assoc, List.singleton_append]
      rw [hmoved] at h ⊢
      show merge (set fields name value) changes = _
      rw [set_of_not_mem hnew]
      exact ih h

/-- Names that are all different make a record as they stand. -/
theorem ofPairs_of_nodup {fields : Fields} (h : (names fields).Nodup) : ofPairs fields = fields :=
  merge_of_nodup h

end Fields

namespace Json

/-! ## Layouts -/

/-- Between the tokens of a text stands white space. -/
structure Layout.IsNeutral (layout : Layout) : Prop where
  item : ∃ spaces, layout.itemSeparator.toList = ',' :: spaces ∧ spaces.all isSpace = true
  name : ∃ spaces, layout.nameSeparator.toList = ':' :: spaces ∧ spaces.all isSpace = true

theorem isNeutral_spaced : Layout.spaced.IsNeutral :=
  ⟨⟨[' '], rfl, rfl⟩, ⟨[' '], rfl, rfl⟩⟩

theorem isNeutral_indented : Layout.indented.IsNeutral :=
  ⟨⟨[], rfl, rfl⟩, ⟨[' '], rfl, rfl⟩⟩

theorem Layout.all_newLine (layout : Layout) (depth : Nat) :
    (layout.newLine depth).all isSpace = true := by
  unfold Layout.newLine
  split
  · rfl
  · rw [List.all_cons, Bool.and_eq_true]
    exact ⟨rfl, List.all_eq_true.mpr fun c hc => by rw [List.eq_of_mem_replicate hc]; rfl⟩

theorem isBlank_of_isSpace {c : Char} (h : isSpace c = true) : isBlank c = true := by
  simp only [isSpace, Bool.or_eq_true, beq_iff_eq] at h
  rcases h with ((rfl | rfl) | rfl) | rfl <;> rfl

/-- No number goes on with white space. -/
theorem startsOutside_spaces {spaces cs : List Char} (hspaces : spaces.all isSpace = true)
    (h : StartsOutside goesOnNumber cs) : StartsOutside goesOnNumber (spaces ++ cs) := by
  refine startsOutside_append (fun c hc => ?_) h
  have hspace := List.all_eq_true.mp hspaces c hc
  simp only [isSpace, Bool.or_eq_true, beq_iff_eq] at hspace
  rcases hspace with ((rfl | rfl) | rfl) | rfl <;> rfl

theorem Layout.startsOutside_newLine (layout : Layout) (depth : Nat) {cs : List Char}
    (h : StartsOutside goesOnNumber cs) :
    StartsOutside goesOnNumber (layout.newLine depth ++ cs) :=
  startsOutside_spaces (layout.all_newLine depth) h

/-! ## Tokens -/

variable {strict : Bool} {stack : List Frame} {rest tail : List Char} {layout : Layout}
  {depth : Nat} {value : Value} {done : List Value} {fields : List (String × Value)}

/-- A number is one token. -/
theorem tokens_text {l : DecimalLiteral} (h : l.IsPlain)
    (hrest : StartsOutside goesOnNumber rest) :
    tokens (l.text ++ rest) = ⟨.number l, l.text ++ rest⟩ :: tokens rest := by
  have hread := readNumber?_text h hrest
  obtain ⟨c, more, htext⟩ := List.exists_cons_of_ne_nil h.text_ne_nil
  have hc : DecimalLiteral.isLiteralChar c = true := by
    refine List.all_eq_true.mp h.all_isLiteralChar c ?_
    rw [htext]
    exact List.mem_cons_self
  have hspecial : ∀ d ∈ [' ', '\t', '\n', '\r', '[', ']', '\x7b', '\x7d', ',', ':', '"'],
      c ≠ d := by
    rintro d hd rfl
    have hnone : ∀ d ∈ [' ', '\t', '\n', '\r', '[', ']', '\x7b', '\x7d', ',', ':', '"'],
        DecimalLiteral.isLiteralChar d = false := List.all_iff_forall_prop.mp (by decide)
    rw [hnone c hd] at hc
    cases hc
  rw [htext, List.cons_append] at hread ⊢
  have hspace : isSpace c = false := by
    simp [isSpace, hspecial]
  have htoken : readToken c (more ++ rest) = (.number l, rest) := by
    unfold readToken
    split
    all_goals first
      | exact absurd rfl (hspecial _ (by decide))
      | rw [hread]
  rw [tokens_cons hspace, htoken]

/-- A whole number that is not too long is taken for itself. -/
theorem numberValue_ofInt {n : Int} (hshort : (naturalText n.natAbs).length ≤ maxIntegerDigits) :
    numberValue (.ofInt n) = .ok (.int n) := by
  have hlength : ¬ maxIntegerDigits < (DecimalLiteral.ofInt n).whole.length := Nat.not_lt.mpr hshort
  unfold numberValue
  rw [if_neg hlength, DecimalLiteral.toInt_ofInt]
  rfl

/-- A value without others inside is one token, and the token is taken for that value. -/
theorem tokens_writeScalar (hvalue : value.isJson = true) (hscalar : value.isScalar = true)
    (hrest : StartsOutside goesOnNumber rest) :
    ∃ token,
      tokens (writeScalar value ++ rest) = ⟨token, writeScalar value ++ rest⟩ :: tokens rest ∧
      ∀ strict stack place,
        stepValue strict stack ⟨token, place⟩ = .ok (.afterValue value stack) := by
  cases value with
  | null => exact ⟨.null, tokens_cons rfl _, fun _ _ _ => rfl⟩
  | str s => exact ⟨.text s, tokens_writeText s rest, fun _ _ _ => rfl⟩
  | bool b =>
      cases b with
      | true => exact ⟨.bool true, tokens_cons rfl _, fun _ _ _ => rfl⟩
      | false => exact ⟨.bool false, tokens_cons rfl _, fun _ _ _ => rfl⟩
  | int n =>
      have htext : writeScalar (.int n) = (DecimalLiteral.ofInt n).text :=
        (DecimalLiteral.text_ofInt n).symm
      refine ⟨.number (.ofInt n), ?_, fun strict stack place => ?_⟩
      · rw [htext, tokens_text (DecimalLiteral.isPlain_ofInt n) hrest]
      · simp only [stepValue, numberValue_ofInt (of_decide_eq_true hvalue)]
  | float x =>
      cases x with
      | finite negative size =>
          obtain ⟨l, hplain, hinteger, htext, hvalue⟩ :=
            FloatNotation.json.exists_literal negative size
          have htext' : writeScalar (.float (.finite negative size)) = l.text := htext
          refine ⟨.number l, ?_, fun strict stack place => ?_⟩
          · rw [htext', tokens_text hplain hrest]
          · simp only [stepValue, numberValue, hinteger, hvalue]
            rfl
      | nan => cases hvalue
      | infinity negative => cases hvalue
  | arr items => cases hscalar
  | obj fields => cases hscalar
  | _ => cases hvalue

/-! ## Reading a text -/

theorem run_cons {state state' : State} {t : PlacedToken} (h : step strict state t = .ok state')
    (ts : List PlacedToken) : run strict state (t :: ts) = run strict state' ts := by
  rw [run, h]

/-- A mark and the white space behind it. -/
theorem run_mark {state state' : State} {c : Char} {spaces : List Char} (hc : isSpace c = false)
    (htoken : ∀ cs, (readToken c cs).2 = cs)
    (hstep : ∀ cs, step strict state ⟨(readToken c cs).1, c :: cs⟩ = .ok state')
    (hspaces : spaces.all isSpace = true) (rest : List Char) :
    run strict state (tokens (c :: (spaces ++ rest))) = run strict state' (tokens rest) := by
  rw [tokens_cons hc, run_cons (hstep _), htoken, tokens_append_spaces hspaces]

/-- The name of a field and the colon behind it. -/
theorem run_name (hlayout : layout.IsNeutral) (first : Bool) (name : String) (rest : List Char) :
    run strict (.fieldName first fields stack)
        (tokens (writeText name ++ (layout.nameSeparator.toList ++ rest))) =
      run strict (.value (.field fields name :: stack)) (tokens rest) := by
  obtain ⟨spaces, hname, hspaces⟩ := hlayout.name
  have hcolon : run strict (.fieldColon name fields stack)
      (tokens (layout.nameSeparator.toList ++ rest)) =
        run strict (.value (.field fields name :: stack)) (tokens rest) := by
    rw [hname]
    exact run_mark rfl (fun _ => rfl) (fun _ => rfl) hspaces rest
  rw [tokens_writeText]
  exact (run_cons rfl _).trans hcolon

/-- The comma before a further item or field, and the start of its line. -/
theorem run_comma (hlayout : layout.IsNeutral) {state state' : State}
    (hstep : ∀ place, step strict state ⟨.comma, place⟩ = .ok state') (rest : List Char) :
    run strict state (tokens (layout.itemSeparator.toList ++ (layout.newLine depth ++ rest))) =
      run strict state' (tokens rest) := by
  obtain ⟨spaces, hitem, hspaces⟩ := hlayout.item
  have hmark : run strict state (tokens (',' :: (spaces ++ (layout.newLine depth ++ rest)))) =
      run strict state' (tokens (layout.newLine depth ++ rest)) :=
    run_mark rfl (fun _ => rfl) (fun _ => hstep _) hspaces _
  rw [hitem, List.cons_append, hmark, tokens_append_spaces (layout.all_newLine depth)]

/-- A bracket that opens a list or a record, and the start of the line behind it. -/
theorem run_open {state state' : State} {c : Char} (hc : isSpace c = false)
    (htoken : ∀ cs, (readToken c cs).2 = cs)
    (hstep : ∀ cs, step strict state ⟨(readToken c cs).1, c :: cs⟩ = .ok state')
    (rest : List Char) :
    run strict state (tokens (c :: (layout.newLine depth ++ rest))) =
      run strict state' (tokens rest) :=
  run_mark hc htoken hstep (layout.all_newLine depth) rest

/-- A bracket that closes a list or a record, on a line of its own or not. -/
theorem run_close {state state' : State} {c : Char} (hc : isSpace c = false)
    (htoken : ∀ cs, (readToken c cs).2 = cs)
    (hstep : ∀ cs, step strict state ⟨(readToken c cs).1, c :: cs⟩ = .ok state')
    (rest : List Char) :
    run strict state (tokens (layout.newLine depth ++ c :: rest)) =
      run strict state' (tokens rest) := by
  have hmark : run strict state (tokens (c :: ([] ++ rest))) = run strict state' (tokens rest) :=
    run_mark hc htoken hstep rfl rest
  rw [tokens_append_spaces (layout.all_newLine depth)]
  exact hmark

theorem startsOutside_writeItems (hlayout : layout.IsNeutral) (items : List Value)
    (htail : StartsOutside goesOnNumber tail) :
    StartsOutside goesOnNumber (writeItems layout depth items ++ tail) := by
  cases items with
  | nil => exact htail
  | cons item items =>
      obtain ⟨spaces, hitem, -⟩ := hlayout.item
      rw [writeItems, hitem]
      exact startsOutside_cons rfl

theorem startsOutside_writeFields (hlayout : layout.IsNeutral) (fields : List (String × Value))
    (htail : StartsOutside goesOnNumber tail) :
    StartsOutside goesOnNumber (writeFields layout depth fields ++ tail) := by
  cases fields with
  | nil => exact htail
  | cons field fields =>
      obtain ⟨spaces, hitem, -⟩ := hlayout.item
      obtain ⟨name, value⟩ := field
      rw [writeFields, hitem]
      exact startsOutside_cons rfl

/-- No value starts with the end of a list. -/
theorem exists_token (hvalue : value.isJson = true) (hrest : StartsOutside goesOnNumber rest) :
    ∃ t more, tokens (writeAt layout depth value ++ rest) = t :: more ∧ t.token ≠ .closeList := by
  have hfirst : ∀ (c : Char) (cs : List Char) (token : Token), isSpace c = false →
      (readToken c cs).1 = token → token ≠ .closeList →
      ∃ t more, tokens (c :: cs) = t :: more ∧ t.token ≠ .closeList := by
    rintro c cs _ hc rfl htoken
    exact ⟨_, _, tokens_cons hc cs, htoken⟩
  have hone (hscalar : value.isScalar = true) : ∃ t more,
      tokens (writeScalar value ++ rest) = t :: more ∧ t.token ≠ .closeList := by
    obtain ⟨token, htokens, hstep⟩ := tokens_writeScalar hvalue hscalar hrest
    refine ⟨_, _, htokens, ?_⟩
    rintro rfl
    cases hstep true [] []
  cases value with
  | arr items => cases items <;> exact hfirst _ _ .openList rfl rfl (by decide)
  | obj fields => cases fields <;> exact hfirst _ _ .openRecord rfl rfl (by decide)
  | _ => exact hone rfl

/-- The first item of a list is read like a further one. -/
theorem run_firstItem (hvalue : value.isJson = true) (hrest : StartsOutside goesOnNumber rest) :
    run strict (.firstItem stack) (tokens (writeAt layout depth value ++ rest)) =
      run strict (.value (.list [] :: stack)) (tokens (writeAt layout depth value ++ rest)) := by
  obtain ⟨⟨token, place⟩, more, htokens, htoken⟩ := exists_token hvalue hrest
  have hstep : step strict (.firstItem stack) ⟨token, place⟩ =
      step strict (.value (.list [] :: stack)) ⟨token, place⟩ := by
    cases token with
    | closeList => exact absurd rfl htoken
    | _ => rfl
  rw [htokens, run, run, hstep]

theorem run_writeScalar (hvalue : value.isJson = true) (hscalar : value.isScalar = true)
    (hrest : StartsOutside goesOnNumber rest) :
    run strict (.value stack) (tokens (writeScalar value ++ rest)) =
      run strict (.afterValue value stack) (tokens rest) := by
  obtain ⟨token, htokens, hstep⟩ := tokens_writeScalar hvalue hscalar hrest
  have hread : step strict (.value stack) ⟨token, writeScalar value ++ rest⟩ =
      .ok (.afterValue value stack) := hstep strict stack _
  rw [htokens, run_cons hread]

mutual

/-- The text of a value is read as that value. -/
theorem run_writeAt (hlayout : layout.IsNeutral) : ∀ (value : Value) (depth : Nat)
    (stack : List Frame) (rest : List Char), value.isJson = true →
    StartsOutside goesOnNumber rest →
    run strict (.value stack) (tokens (writeAt layout depth value ++ rest)) =
      run strict (.afterValue value stack) (tokens rest)
  | .arr [], depth, stack, rest, _, _ => by
      have hopen : run strict (.value stack) (tokens ('[' :: ([] ++ ']' :: rest))) =
          run strict (.firstItem stack) (tokens (']' :: rest)) :=
        run_mark rfl (fun _ => rfl) (fun _ => rfl) rfl _
      have hclose : run strict (.firstItem stack) (tokens (']' :: ([] ++ rest))) =
          run strict (.afterValue (.arr []) stack) (tokens rest) :=
        run_mark rfl (fun _ => rfl) (fun _ => rfl) rfl _
      exact hopen.trans hclose
  | .arr (item :: items), depth, stack, rest, hvalue, hrest => by
      obtain ⟨hitem, hitems⟩ := Bool.and_eq_true_iff.mp hvalue
      have htail : StartsOutside goesOnNumber
          (writeItems layout (depth + 1) items ++ (layout.newLine depth ++ ']' :: rest)) :=
        startsOutside_writeItems hlayout items
          (layout.startsOutside_newLine depth (startsOutside_cons rfl))
      have hopen : run strict (.value stack) (tokens ('[' :: (layout.newLine (depth + 1) ++
          (writeAt layout (depth + 1) item ++ (writeItems layout (depth + 1) items ++
            (layout.newLine depth ++ ']' :: rest)))))) = _ :=
        run_open rfl (fun _ => rfl) (fun _ => rfl) _
      have hall := run_writeItems hlayout items (depth + 1) depth [item] stack rest hitems
      simp only [writeAt, List.append_assoc, List.cons_append, List.nil_append]
      rw [hopen, run_firstItem hitem htail, run_writeAt hlayout item _ _ _ hitem htail]
      exact hall
  | .obj [], depth, stack, rest, _, _ => by
      have hopen : run strict (.value stack) (tokens ('\x7b' :: ([] ++ '\x7d' :: rest))) =
          run strict (.fieldName true [] stack) (tokens ('\x7d' :: rest)) :=
        run_mark rfl (fun _ => rfl) (fun _ => rfl) rfl _
      have hclose : run strict (.fieldName true [] stack) (tokens ('\x7d' :: ([] ++ rest))) =
          run strict (.afterValue (.obj []) stack) (tokens rest) :=
        run_mark rfl (fun _ => rfl) (fun _ => rfl) rfl _
      exact hopen.trans hclose
  | .obj ((name, value) :: fields), depth, stack, rest, hvalue, hrest => by
      obtain ⟨hnames, hjson⟩ := Bool.and_eq_true_iff.mp hvalue
      obtain ⟨hfirst, hfields⟩ := Bool.and_eq_true_iff.mp hjson
      have htail : StartsOutside goesOnNumber
          (writeFields layout (depth + 1) fields ++ (layout.newLine depth ++ '\x7d' :: rest)) :=
        startsOutside_writeFields hlayout fields
          (layout.startsOutside_newLine depth (startsOutside_cons rfl))
      have hopen : run strict (.value stack) (tokens ('\x7b' :: (layout.newLine (depth + 1) ++
          (writeText name ++ (layout.nameSeparator.toList ++ (writeAt layout (depth + 1) value ++
            (writeFields layout (depth + 1) fields ++
              (layout.newLine depth ++ '\x7d' :: rest)))))))) = _ :=
        run_open rfl (fun _ => rfl) (fun _ => rfl) _
      have hall :=
        run_writeFields hlayout fields (depth + 1) depth [(name, value)] stack rest hfields
        (of_decide_eq_true hnames)
      simp only [writeAt, List.append_assoc, List.cons_append, List.nil_append]
      rw [hopen, run_name hlayout, run_writeAt hlayout value _ _ _ hfirst htail]
      exact hall
  | .null, _, _, _, hvalue, hrest => run_writeScalar hvalue rfl hrest
  | .str _, _, _, _, hvalue, hrest => run_writeScalar hvalue rfl hrest
  | .bool _, _, _, _, hvalue, hrest => run_writeScalar hvalue rfl hrest
  | .int _, _, _, _, hvalue, hrest => run_writeScalar hvalue rfl hrest
  | .float _, _, _, _, hvalue, hrest => run_writeScalar hvalue rfl hrest

/-- The items of a list behind the first are read one after the other. -/
theorem run_writeItems (hlayout : layout.IsNeutral) : ∀ (items : List Value) (depth depth' : Nat)
    (done : List Value) (stack : List Frame) (rest : List Char), Value.areJson items = true →
    run strict (.nextItem done stack)
        (tokens (writeItems layout depth items ++ (layout.newLine depth' ++ ']' :: rest))) =
      run strict (.afterValue (.arr (done.reverse ++ items)) stack) (tokens rest)
  | [], depth, depth', done, stack, rest, _ => by
      rw [List.append_nil]
      exact run_close rfl (fun _ => rfl) (fun _ => rfl) rest
  | item :: items, depth, depth', done, stack, rest, hitems => by
      obtain ⟨hitem, hmore⟩ := Bool.and_eq_true_iff.mp hitems
      have htail : StartsOutside goesOnNumber
          (writeItems layout depth items ++ (layout.newLine depth' ++ ']' :: rest)) :=
        startsOutside_writeItems hlayout items
          (layout.startsOutside_newLine depth' (startsOutside_cons rfl))
      have hall := run_writeItems hlayout items depth depth' (item :: done) stack rest hmore
      have hreverse : (item :: done).reverse ++ items = done.reverse ++ item :: items := by
        rw [List.reverse_cons, List.append_assoc, List.singleton_append]
      rw [hreverse] at hall
      simp only [writeItems, List.append_assoc]
      rw [run_comma hlayout (fun _ => rfl), run_writeAt hlayout item _ _ _ hitem htail]
      exact hall

/-- The fields of a record behind the first are read one after the other. -/
theorem run_writeFields (hlayout : layout.IsNeutral) : ∀ (fields : List (String × Value))
    (depth depth' : Nat) (done : List (String × Value)) (stack : List Frame) (rest : List Char),
    Value.fieldsAreJson fields = true → (Fields.names (done.reverse ++ fields)).Nodup →
    run strict (.nextField done stack)
        (tokens (writeFields layout depth fields ++ (layout.newLine depth' ++ '\x7d' :: rest))) =
      run strict (.afterValue (.obj (done.reverse ++ fields)) stack) (tokens rest)
  | [], depth, depth', done, stack, rest, _, hnames => by
      rw [List.append_nil] at hnames ⊢
      have hclose : run strict (.nextField done stack)
          (tokens (layout.newLine depth' ++ '\x7d' :: rest)) =
            run strict (.afterValue (.obj (Fields.ofPairs done.reverse)) stack) (tokens rest) :=
        run_close rfl (fun _ => rfl) (fun _ => rfl) rest
      rw [Fields.ofPairs_of_nodup hnames] at hclose
      exact hclose
  | (name, value) :: fields, depth, depth', done, stack, rest, hfields, hnames => by
      obtain ⟨hfirst, hmore⟩ := Bool.and_eq_true_iff.mp hfields
      have htail : StartsOutside goesOnNumber
          (writeFields layout depth fields ++ (layout.newLine depth' ++ '\x7d' :: rest)) :=
        startsOutside_writeFields hlayout fields
          (layout.startsOutside_newLine depth' (startsOutside_cons rfl))
      have hreverse : ((name, value) :: done).reverse ++ fields =
          done.reverse ++ (name, value) :: fields := by
        rw [List.reverse_cons, List.append_assoc, List.singleton_append]
      have hall := run_writeFields hlayout fields depth depth' ((name, value) :: done) stack rest
        hmore (hreverse ▸ hnames)
      rw [hreverse] at hall
      simp only [writeFields, List.append_assoc]
      rw [run_comma hlayout (fun _ => rfl), run_name hlayout,
        run_writeAt hlayout value _ _ _ hfirst htail]
      exact hall

end

/-! ## Whole texts -/

/-- A text that starts with a byte order mark is no value anyway. -/
theorem readChars_of_run {cs : List Char} (h : run strict (.value []) (tokens cs) = .ok value) :
    readChars strict cs = .ok value := by
  cases cs with
  | nil => rwa [tokens] at h
  | cons c cs =>
      rw [readChars]
      split
      · rename_i hmark
        subst hmark
        rw [tokens_cons rfl] at h
        cases h
      · exact h

/-- A value that JSON has is read back from its text, with white space behind it or without. -/
theorem readChars_writeAt (hlayout : layout.IsNeutral) (hvalue : value.isJson = true)
    {spaces : List Char} (hspaces : spaces.all isSpace = true) :
    readChars strict (writeAt layout depth value ++ spaces) = .ok value := by
  have hrest : StartsOutside goesOnNumber spaces := by
    have happend := startsOutside_spaces hspaces (startsOutside_nil goesOnNumber)
    rwa [List.append_nil] at happend
  have htokens : tokens spaces = [] := by
    have happend := tokens_append_spaces hspaces []
    rwa [List.append_nil, tokens] at happend
  refine readChars_of_run ?_
  rw [run_writeAt hlayout value depth [] spaces hvalue hrest, htokens]
  rfl

theorem read_write (hlayout : layout.IsNeutral) (hvalue : value.isJson = true) :
    read strict (write layout value) = .ok value := by
  have hchars : readChars strict (writeAt layout 0 value ++ []) = .ok value :=
    readChars_writeAt hlayout hvalue rfl
  rw [List.append_nil] at hchars
  rwa [read_eq_ok_iff, write, String.toList_ofList]

/-! ## One line -/

/-- A layout that starts no new line. -/
structure Layout.IsOneLine (layout : Layout) : Prop where
  indent : layout.indent = none
  item : '\n' ∉ layout.itemSeparator.toList
  name : '\n' ∉ layout.nameSeparator.toList

theorem isOneLine_spaced : Layout.spaced.IsOneLine :=
  ⟨rfl, by decide, by decide⟩

theorem newline_not_mem_text {l : DecimalLiteral} (h : l.IsPlain) : '\n' ∉ l.text := by
  intro hmem
  cases List.all_eq_true.mp h.all_isLiteralChar _ hmem

theorem newline_not_mem_writeScalar (hvalue : value.isJson = true)
    (hscalar : value.isScalar = true) : '\n' ∉ writeScalar value := by
  cases value with
  | null => decide
  | str s => exact newline_not_mem_writeText s
  | bool b => cases b <;> decide
  | int n =>
      have htext := newline_not_mem_text (DecimalLiteral.isPlain_ofInt n)
      rwa [DecimalLiteral.text_ofInt] at htext
  | float x =>
      cases x with
      | finite negative size =>
          obtain ⟨l, hplain, -, htext, -⟩ := FloatNotation.json.exists_literal negative size
          have htext' : writeScalar (.float (.finite negative size)) = l.text := htext
          rw [htext']
          exact newline_not_mem_text hplain
      | nan => cases hvalue
      | infinity negative => cases hvalue
  | arr items => cases hscalar
  | obj fields => cases hscalar
  | _ => cases hvalue

mutual

/-- The text of a value on one line holds no line feed. -/
theorem newline_not_mem_writeAt (hlayout : layout.IsOneLine) : ∀ (value : Value) (depth : Nat),
    value.isJson = true → '\n' ∉ writeAt layout depth value
  | .arr [], _, _ => by simp [writeAt]
  | .arr (item :: items), depth, hvalue => by
      obtain ⟨hitem, hitems⟩ := Bool.and_eq_true_iff.mp hvalue
      have hfirst := newline_not_mem_writeAt hlayout item (depth + 1) hitem
      have hmore := newline_not_mem_writeItems hlayout items (depth + 1) hitems
      simp [writeAt, Layout.newLine, hlayout.indent, hfirst, hmore]
  | .obj [], _, _ => by simp [writeAt]
  | .obj ((name, value) :: fields), depth, hvalue => by
      obtain ⟨hitem, hitems⟩ := Bool.and_eq_true_iff.mp (Bool.and_eq_true_iff.mp hvalue).2
      have hfirst := newline_not_mem_writeAt hlayout value (depth + 1) hitem
      have hmore := newline_not_mem_writeFields hlayout fields (depth + 1) hitems
      have hname := newline_not_mem_writeText name
      simp [writeAt, Layout.newLine, hlayout.indent, hlayout.name, hname, hfirst, hmore]
  | .null, _, hvalue => newline_not_mem_writeScalar hvalue rfl
  | .str _, _, hvalue => newline_not_mem_writeScalar hvalue rfl
  | .bool _, _, hvalue => newline_not_mem_writeScalar hvalue rfl
  | .int _, _, hvalue => newline_not_mem_writeScalar hvalue rfl
  | .float _, _, hvalue => newline_not_mem_writeScalar hvalue rfl

theorem newline_not_mem_writeItems (hlayout : layout.IsOneLine) : ∀ (items : List Value)
    (depth : Nat), Value.areJson items = true → '\n' ∉ writeItems layout depth items
  | [], _, _ => by simp [writeItems]
  | item :: items, depth, hitems => by
      obtain ⟨hitem, hitems⟩ := Bool.and_eq_true_iff.mp hitems
      have hfirst := newline_not_mem_writeAt hlayout item depth hitem
      have hmore := newline_not_mem_writeItems hlayout items depth hitems
      simp [writeItems, Layout.newLine, hlayout.indent, hlayout.item, hfirst, hmore]

theorem newline_not_mem_writeFields (hlayout : layout.IsOneLine) :
    ∀ (fields : List (String × Value)) (depth : Nat), Value.fieldsAreJson fields = true →
      '\n' ∉ writeFields layout depth fields
  | [], _, _ => by simp [writeFields]
  | (name, value) :: fields, depth, hfields => by
      obtain ⟨hitem, hitems⟩ := Bool.and_eq_true_iff.mp hfields
      have hfirst := newline_not_mem_writeAt hlayout value depth hitem
      have hmore := newline_not_mem_writeFields hlayout fields depth hitems
      have hname := newline_not_mem_writeText name
      simp [writeFields, Layout.newLine, hlayout.indent, hlayout.item, hlayout.name, hname, hfirst,
        hmore]

end

end Json

end DocConsole
