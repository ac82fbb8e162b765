import DocConsole.Json.Reader
import Mathlib.Data.List.Basic

/-!
# The numbers of a JSON text

A reader takes binary64 numbers from the literals of its text alone: what it holds between two
tokens, open or complete, was written by tokens before.  A record that names a field twice loses
one of its values, so not every literal need be in the value.  Main statement: every binary64
number in a value that was read strictly, at any depth, is the one nearest to a literal of the text,
and none is NaN.
-/

set_option autoImplicit false

namespace DocConsole

/-! ## The numbers in a value -/

mutual

/-- The binary64 numbers in a value, at any depth. -/
def Value.numbers : Value → List Binary64
  | .float x => [x]
  | .arr items => Value.numbersOfItems items
  | .obj fields => Value.numbersOfFields fields
  | _ => []

/-- The binary64 numbers in the items of a list. -/
def Value.numbersOfItems : List Value → List Binary64
  | [] => []
  | item :: items => item.numbers ++ Value.numbersOfItems items

/-- The binary64 numbers in the fields of a record. -/
def Value.numbersOfFields : List (String × Value) → List Binary64
  | [] => []
  | (_, value) :: fields => value.numbers ++ Value.numbersOfFields fields

end

/-- No number in a value, at any depth, is NaN or infinite. -/
def Value.IsFinite (value : Value) : Prop :=
  ∀ x ∈ value.numbers, x.isFinite = true

namespace Value

variable {x : Binary64} {value : Value} {fields : Fields}

theorem mem_numbersOfItems {items : List Value} :
    x ∈ numbersOfItems items ↔ ∃ item ∈ items, x ∈ item.numbers := by
  induction items with
  | nil => simp [numbersOfItems]
  | cons item items ih => simp [numbersOfItems, ih]

theorem mem_numbersOfFields :
    x ∈ numbersOfFields fields ↔ ∃ field ∈ fields, x ∈ field.2.numbers := by
  induction fields with
  | nil => simp [numbersOfFields]
  | cons field fields ih => simp [numbersOfFields, ih]

theorem mem_numbersOfFields_merge {changes : Fields}
    (h : x ∈ numbersOfFields (Fields.merge fields changes)) :
    x ∈ numbersOfFields fields ∨ x ∈ numbersOfFields changes := by
  obtain ⟨field, hfield, hx⟩ := mem_numbersOfFields.mp h
  exact (Fields.mem_of_mem_merge hfield).imp (fun hold => mem_numbersOfFields.mpr ⟨field, hold, hx⟩)
    fun hnew => mem_numbersOfFields.mpr ⟨field, hnew, hx⟩

/-- Setting a field brings in no numbers but those of its value. -/
theorem mem_numbersOfFields_set {name : String} {value : Value}
    (h : x ∈ numbersOfFields (Fields.set fields name value)) :
    x ∈ numbersOfFields fields ∨ x ∈ value.numbers := by
  obtain ⟨field, hfield, hx⟩ := mem_numbersOfFields.mp h
  rcases Fields.mem_of_mem_set hfield with hold | rfl
  · exact .inl (mem_numbersOfFields.mpr ⟨field, hold, hx⟩)
  · exact .inr hx

/-- A record keeps no numbers but those of the fields that it was made from. -/
theorem mem_numbersOfFields_ofPairs (h : x ∈ numbersOfFields (Fields.ofPairs fields)) :
    x ∈ numbersOfFields fields := by
  rcases mem_numbersOfFields_merge h with hnone | hfields
  · cases hnone
  · exact hfields

end Value

/-! ## The literals of a text -/

theorem Binary64.ofUnits_ne_nan (negative : Bool) (num den : Nat) :
    ofUnits negative num den ≠ .nan := by
  unfold ofUnits
  split <;> exact Binary64.noConfusion

theorem Binary64.ofDecimal_ne_nan (negative : Bool) (digits : Nat) (exponent : Int) :
    ofDecimal negative digits exponent ≠ .nan := by
  unfold ofDecimal
  repeat' split
  · exact Binary64.noConfusion
  · exact Binary64.noConfusion
  · exact Binary64.noConfusion
  · exact ofUnits_ne_nan _ _ _
  · exact ofUnits_ne_nan _ _ _

/-- The number nearest to a literal is some number, if perhaps an infinite one. -/
theorem DecimalLiteral.toBinary64_ne_nan (l : DecimalLiteral) : l.toBinary64 ≠ .nan :=
  Binary64.ofDecimal_ne_nan _ _ _

namespace Json

/-- The literal of a token. -/
def Token.literal? : Token → Option DecimalLiteral
  | .number literal => some literal
  | _ => none

/-- The literals in a JSON text. -/
def literals (cs : List Char) : List DecimalLiteral :=
  (tokens cs).filterMap (fun t => t.token.literal?)

/-- A text holds a literal that stands for no whole number and lies beyond the binary64 format. -/
def HoldsOverflow (cs : List Char) : Prop :=
  ∃ literal ∈ literals cs, literal.isInteger = false ∧ literal.toBinary64.isFinite = false

/-- A number is the one nearest to a literal that stands for no whole number. -/
def Token.Writes (x : Binary64) (token : Token) : Prop :=
  ∃ literal ∈ token.literal?, literal.isInteger = false ∧ x = literal.toBinary64

/-! ## The numbers that the reader holds -/

/-- The numbers in a list or record that is still open. -/
def Frame.numbers : Frame → List Binary64
  | .list done => Value.numbersOfItems done
  | .field done _ => Value.numbersOfFields done

/-- The numbers that the reader holds between two tokens. -/
def State.numbers : State → List Binary64
  | .value stack => stack.flatMap Frame.numbers
  | .firstItem stack => stack.flatMap Frame.numbers
  | .nextItem done stack => Value.numbersOfItems done ++ stack.flatMap Frame.numbers
  | .fieldName _ done stack => Value.numbersOfFields done ++ stack.flatMap Frame.numbers
  | .fieldColon _ done stack => Value.numbersOfFields done ++ stack.flatMap Frame.numbers
  | .nextField done stack => Value.numbersOfFields done ++ stack.flatMap Frame.numbers
  | .finished v => v.numbers

variable {x : Binary64} {value : Value} {stack : List Frame} {state state' : State}
  {t : PlacedToken} {ts : List PlacedToken}

/-- A complete value goes where the innermost open list or record is, with its numbers. -/
theorem mem_numbers_afterValue (h : x ∈ (State.afterValue value stack).numbers) :
    x ∈ value.numbers ∨ x ∈ stack.flatMap Frame.numbers := by
  cases stack with
  | nil => exact .inl h
  | cons frame stack =>
      cases frame with
      | list done =>
          simp only [State.afterValue, State.numbers, Value.numbersOfItems, List.mem_append] at h
          simp only [List.flatMap_cons, Frame.numbers, List.mem_append]
          tauto
      | field done name =>
          simp only [State.afterValue, State.numbers, Value.numbersOfFields, List.mem_append] at h
          simp only [List.flatMap_cons, Frame.numbers, List.mem_append]
          tauto

/-- The value of a number that is not too long has no number but the one that is written. -/
theorem writes_of_numberValue {literal : DecimalLiteral}
    (hvalue : numberValue literal = .ok value) (h : x ∈ value.numbers) :
    literal.isInteger = false ∧ x = literal.toBinary64 := by
  unfold numberValue at hvalue
  split at hvalue
  · split at hvalue
    · cases hvalue
    · obtain rfl := Except.ok.inj hvalue
      cases h
  · rename_i hinteger
    obtain rfl := Except.ok.inj hvalue
    exact ⟨Bool.eq_false_iff.mpr hinteger, List.mem_singleton.mp h⟩

/-- A token where a value must follow brings in no number but the one that it writes. -/
theorem mem_numbers_stepValue (hstep : stepValue true stack t = .ok state')
    (h : x ∈ state'.numbers) : x ∈ stack.flatMap Frame.numbers ∨ t.token.Writes x := by
  obtain ⟨token, place⟩ := t
  have hafter {value : Value} (hnone : value.numbers = [])
      (hvalue : state' = .afterValue value stack) : x ∈ stack.flatMap Frame.numbers := by
    rw [hvalue] at h
    exact (mem_numbers_afterValue h).resolve_left (by simp [hnone])
  cases token with
  | openList =>
      obtain rfl := Except.ok.inj hstep
      exact .inl h
  | openRecord =>
      obtain rfl := Except.ok.inj hstep
      exact .inl h
  | text s => exact .inl (hafter rfl (Except.ok.inj hstep).symm)
  | null => exact .inl (hafter rfl (Except.ok.inj hstep).symm)
  | bool b => exact .inl (hafter rfl (Except.ok.inj hstep).symm)
  | number literal =>
      simp only [stepValue] at hstep
      split at hstep
      · cases hstep
      · rename_i value hvalue
        obtain rfl := Except.ok.inj hstep
        rcases mem_numbers_afterValue h with hx | hx
        · exact .inr ⟨literal, rfl, writes_of_numberValue hvalue hx⟩
        · exact .inl hx
  | closeList => cases hstep
  | closeRecord => cases hstep
  | comma => cases hstep
  | colon => cases hstep
  | constant c => cases hstep
  | badText problem place => cases hstep
  | unknown => cases hstep

/-- A token from any state brings in no number but the one that it writes. -/
theorem mem_numbers_step (hstep : step true state t = .ok state') (h : x ∈ state'.numbers) :
    x ∈ state.numbers ∨ t.token.Writes x := by
  cases state with
  | value stack => exact mem_numbers_stepValue hstep h
  | firstItem stack =>
      simp only [step] at hstep
      split at hstep
      · obtain rfl := Except.ok.inj hstep
        exact .inl ((mem_numbers_afterValue h).resolve_left nofun)
      · have hvalue : stepValue true (.list [] :: stack) t = .ok state' := hstep
        simpa only [State.numbers, List.flatMap_cons, Frame.numbers, Value.numbersOfItems,
          List.nil_append] using mem_numbers_stepValue hvalue h
  | nextItem done stack =>
      simp only [step] at hstep
      split at hstep
      · obtain rfl := Except.ok.inj hstep
        exact .inl h
      · obtain rfl := Except.ok.inj hstep
        refine .inl (List.mem_append.mpr ((mem_numbers_afterValue h).imp_left fun hx => ?_))
        obtain ⟨item, hitem, hx⟩ := Value.mem_numbersOfItems.mp hx
        exact Value.mem_numbersOfItems.mpr ⟨item, List.mem_reverse.mp hitem, hx⟩
      · cases hstep
  | fieldName first done stack =>
      simp only [step] at hstep
      split at hstep
      · obtain rfl := Except.ok.inj hstep
        exact .inl h
      · cases hstep
      · split at hstep
        · obtain rfl := Except.ok.inj hstep
          exact .inl (List.mem_append_right _ ((mem_numbers_afterValue h).resolve_left nofun))
        · cases hstep
      · cases hstep
  | fieldColon name done stack =>
      simp only [step] at hstep
      split at hstep
      · obtain rfl := Except.ok.inj hstep
        exact .inl h
      · cases hstep
  | nextField done stack =>
      simp only [step] at hstep
      split at hstep
      · obtain rfl := Except.ok.inj hstep
        exact .inl h
      · obtain rfl := Except.ok.inj hstep
        refine .inl (List.mem_append.mpr ((mem_numbers_afterValue h).imp_left fun hx => ?_))
        have hpairs : x ∈ Value.numbersOfFields done.reverse :=
          Value.mem_numbersOfFields_ofPairs hx
        obtain ⟨field, hfield, hx⟩ := Value.mem_numbersOfFields.mp hpairs
        exact Value.mem_numbersOfFields.mpr ⟨field, List.mem_reverse.mp hfield, hx⟩
      · cases hstep
  | finished v => cases hstep

/-- What the reader ends with holds what it had and what the tokens wrote. -/
theorem mem_numbers_run (hrun : run true state ts = .ok value) (h : x ∈ value.numbers) :
    x ∈ state.numbers ∨ ∃ t ∈ ts, t.token.Writes x := by
  induction ts generalizing state with
  | nil =>
      cases state with
      | finished v =>
          obtain rfl := Except.ok.inj hrun
          exact .inl h
      | _ => cases hrun
  | cons t ts ih =>
      rw [run] at hrun
      split at hrun
      · cases hrun
      · rename_i state' hstep
        rcases ih hrun with hx | ⟨t', ht', hwrites⟩
        · exact (mem_numbers_step hstep hx).imp_right fun hwrites =>
            ⟨t, List.mem_cons_self, hwrites⟩
        · exact .inr ⟨t', List.mem_cons_of_mem _ ht', hwrites⟩

/-- Every number in a value that was read is the one nearest to a literal of the text. -/
theorem exists_literal_of_read {text : String} (hread : read true text = .ok value)
    (h : x ∈ value.numbers) :
    ∃ literal ∈ literals text.toList, literal.isInteger = false ∧ x = literal.toBinary64 := by
  rw [read_eq_ok_iff] at hread
  have hrun : run true (.value []) (tokens text.toList) = .ok value := by
    generalize text.toList = cs at hread
    cases cs with
    | nil =>
        rw [tokens]
        exact hread
    | cons c cs =>
        rw [readChars] at hread
        split at hread
        · cases hread
        · exact hread
  rcases mem_numbers_run hrun h with hnone | ⟨t, ht, literal, hliteral, hwrites⟩
  · cases hnone
  · exact ⟨literal, List.mem_filterMap.mpr ⟨t, ht, hliteral⟩, hwrites⟩

theorem nan_not_mem_of_read {text : String} (hread : read true text = .ok value) :
    .nan ∉ value.numbers := by
  intro hnan
  obtain ⟨literal, -, -, heq⟩ := exists_literal_of_read hread hnan
  exact literal.toBinary64_ne_nan heq.symm

/-- Without a literal beyond the format all numbers in the value are finite. -/
theorem isFinite_of_read {text : String} (hread : read true text = .ok value)
    (h : ¬ HoldsOverflow text.toList) : value.IsFinite := by
  intro x hx
  obtain ⟨literal, hliteral, hinteger, rfl⟩ := exists_literal_of_read hread hx
  by_contra hinfinite
  exact h ⟨literal, hliteral, hinteger, Bool.eq_false_iff.mpr hinfinite⟩

end Json

end DocConsole
