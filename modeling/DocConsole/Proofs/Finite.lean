import DocConsole.Edit.Row
import DocConsole.Proofs.Json.Numbers
import DocConsole.Proofs.Statement.Whole

/-!
# Numbers that come in

Numbers come in as literals: the value of a condition and an edited number are refused as numbers
beyond the binary64 format, and JSON names no number that is not finite.  But a JSON text may write
a literal beyond the format, and that is read as infinity.  Main statement: NaN never comes in, and
infinity comes in only by such a literal.
-/

set_option autoImplicit false

namespace DocConsole

open Text

instance (cs : List Char) : Decidable (Json.HoldsOverflow cs) :=
  inferInstanceAs (Decidable (∃ literal ∈ Json.literals cs, _))

namespace Value.IsFinite

theorem of_numbers_eq_nil {value : Value} (h : value.numbers = []) : value.IsFinite := by
  intro x hx
  rw [h] at hx
  cases hx

theorem nan_not_mem {value : Value} (h : value.IsFinite) : .nan ∉ value.numbers := by
  intro hnan
  cases h _ hnan

end Value.IsFinite

/-! ## Words -/

variable {word text : String} {value : Value} {x : Binary64}

/-- A word is a number only if this is finite. -/
theorem isFinite_of_readNumber (h : readNumber word = .ok (some value)) : value.IsFinite := by
  unfold readNumber at h
  split at h
  · cases h
  · rename_i literal hread
    split at h
    · split at h
      · cases h
      · obtain rfl := Option.some.inj (Except.ok.inj h)
        exact .of_numbers_eq_nil rfl
    · simp only [Except.ok.injEq] at h
      split at h
      · rename_i hfinite
        obtain rfl := Option.some.inj h
        intro x hx
        rwa [List.mem_singleton.mp hx]
      · cases h

/-- The value that a word stands for is finite. -/
theorem isFinite_of_readLiteral (h : readLiteral word = .ok value) : value.IsFinite := by
  unfold readLiteral at h
  split at h
  · obtain rfl := Except.ok.inj h
    exact .of_numbers_eq_nil rfl
  · split at h
    · obtain rfl := Except.ok.inj h
      exact .of_numbers_eq_nil rfl
    · split at h
      · cases h
      · rename_i number hnumber
        obtain rfl := Except.ok.inj h
        exact isFinite_of_readNumber hnumber
      · split at h
        · obtain rfl := Except.ok.inj h
          exact .of_numbers_eq_nil rfl
        · obtain rfl := Except.ok.inj h
          exact .of_numbers_eq_nil rfl

/-! ## Edited values -/

theorem isFinite_of_readEditedNumber (h : readEditedNumber text = .ok value) : value.IsFinite := by
  unfold readEditedNumber at h
  split at h
  · obtain rfl := Except.ok.inj h
    exact .of_numbers_eq_nil rfl
  · split at h
    · rename_i number hnumber
      obtain rfl := Except.ok.inj h
      exact isFinite_of_readNumber hnumber
    · cases h
    · cases h
    · cases h

/-- An edited value is finite, or it was edited as JSON. -/
theorem isFinite_or_read_of_readEdited {type : EditType} (h : readEdited text type = .ok value) :
    value.IsFinite ∨ type = .json ∧ Json.read true text = .ok value := by
  cases type <;> rw [readEdited] at h
  case string =>
      obtain rfl := Except.ok.inj h
      exact .inl (.of_numbers_eq_nil rfl)
  case number => exact .inl (isFinite_of_readEditedNumber h)
  case boolean =>
      obtain rfl := Except.ok.inj h
      exact .inl (.of_numbers_eq_nil rfl)
  case json =>
      split at h
      · rename_i hread
        obtain rfl := Except.ok.inj h
        exact .inr ⟨rfl, hread⟩
      · cases h
  case null =>
      obtain rfl := Except.ok.inj h
      exact .inl (.of_numbers_eq_nil rfl)

theorem nan_not_mem_of_readEdited {type : EditType} (h : readEdited text type = .ok value) :
    .nan ∉ value.numbers := by
  rcases isFinite_or_read_of_readEdited h with hfinite | ⟨-, hread⟩
  · exact hfinite.nan_not_mem
  · exact Json.nan_not_mem_of_read hread

theorem isFinite_of_readEdited {type : EditType} (h : readEdited text type = .ok value)
    (hjson : type = .json → ¬ Json.HoldsOverflow text.toList) : value.IsFinite := by
  rcases isFinite_or_read_of_readEdited h with hfinite | ⟨htype, hread⟩
  · exact hfinite
  · exact Json.isFinite_of_read hread (hjson htype)

/-! ## New rows -/

namespace InsertField

variable {fields : List InsertField}

theorem readEdited_of_read {field : InsertField} (h : field.read = .ok value) :
    readEdited field.value field.type = .ok value := by
  unfold read at h
  split at h
  · rename_i hread
    exact hread.trans h
  · cases h

/-- Every number in a new row was there before or stands in the value of a field with a name. -/
theorem mem_numbers_go {done row : Fields} (h : payload.go fields done = .ok row)
    (hx : x ∈ Value.numbersOfFields row) :
    x ∈ Value.numbersOfFields done ∨ ∃ field ∈ fields, trimmed field.key ≠ "" ∧
      ∃ value, readEdited field.value field.type = .ok value ∧ x ∈ value.numbers := by
  induction fields generalizing done with
  | nil =>
      obtain rfl := Except.ok.inj h
      exact .inl hx
  | cons field fields ih =>
      have hmore {done : Fields} (hgo : payload.go fields done = .ok row) :
          x ∈ Value.numbersOfFields done ∨ ∃ field' ∈ field :: fields, trimmed field'.key ≠ "" ∧
            ∃ value, readEdited field'.value field'.type = .ok value ∧ x ∈ value.numbers :=
        (ih hgo).imp_right fun ⟨field', hmem, hfield'⟩ =>
          ⟨field', List.mem_cons_of_mem _ hmem, hfield'⟩
      rw [payload.go] at h
      split at h
      · exact hmore h
      · rename_i hkey
        split at h
        · rename_i value hread
          rcases hmore h with hset | hlater
          · rcases Value.mem_numbersOfFields_set hset with hdone | hvalue
            · exact .inl hdone
            · exact .inr ⟨field, List.mem_cons_self, hkey, value, readEdited_of_read hread, hvalue⟩
          · exact .inr hlater
        · cases h

/-- Every number in a new row stands in the value of a field with a name. -/
theorem exists_field_of_payload {row : Fields} (h : payload fields = .ok row)
    (hx : x ∈ (Value.obj row).numbers) :
    ∃ field ∈ fields, trimmed field.key ≠ "" ∧
      ∃ value, readEdited field.value field.type = .ok value ∧ x ∈ value.numbers :=
  (mem_numbers_go h hx).resolve_left nofun

end InsertField

/-! ## Statements -/

/-- The JSON text in a shape. -/
def Shape.body? : Shape → Option (List Char)
  | .insert _ body => some body
  | .update _ body _ => some body
  | _ => none

/-- What a statement that was accepted holds: the value of its filter is finite, and its record was
read from the body. -/
theorem Shape.Gives.numbers {shape : Shape} {command : Command} (h : shape.Gives command) :
    (∀ f ∈ command.filter?, f.value.IsFinite) ∧
      ∀ payload ∈ command.payload?, ∃ body ∈ shape.body?,
        Json.read true (String.ofList body) = .ok (.obj payload) := by
  cases h with
  | listing collection => exact ⟨nofun, nofun⟩
  | @filtered collection condition f hfilter =>
      refine ⟨fun f' hf => ?_, nofun⟩
      obtain rfl := Option.some.inj hf
      unfold ConditionText.filter at hfilter
      simp only at hfilter
      split at hfilter
      · cases hfilter
      · split at hfilter
        · cases hfilter
        · rename_i value hvalue
          unfold Filter.checked at hfilter
          split at hfilter
          · obtain rfl := Except.ok.inj hfilter
            exact isFinite_of_readLiteral hvalue
          · cases hfilter
  | insertion collection hbody =>
      refine ⟨nofun, fun payload hpayload => ?_⟩
      obtain rfl := Option.some.inj hpayload
      exact ⟨_, rfl, hbody⟩
  | update collection hbody =>
      refine ⟨nofun, fun payload hpayload => ?_⟩
      obtain rfl := Option.some.inj hpayload
      exact ⟨_, rfl, hbody⟩
  | deletion collection target => exact ⟨nofun, nofun⟩

/-! ## Everything that comes in -/

/-- NaN never comes in, and infinity only by a literal beyond the format in a JSON text.  What is
edited as anything but JSON, and the value of every filter, is finite; and so is a value edited as
JSON, a new row and the record of a statement, at every depth, when the JSON texts that they were
read from hold no such literal. -/
theorem numbers_are_finite_without_overflow (text : String) (fields : List InsertField)
    (statement : String) :
    (∀ type value, readEdited text type = .ok value →
      .nan ∉ value.numbers ∧
        ((type = .json → ¬ Json.HoldsOverflow text.toList) → value.IsFinite)) ∧
    (∀ row, InsertField.payload fields = .ok row →
      .nan ∉ (Value.obj row).numbers ∧
        ((∀ field ∈ fields, trimmed field.key ≠ "" → field.type = .json →
            ¬ Json.HoldsOverflow field.value.toList) → (Value.obj row).IsFinite)) ∧
    ∀ command, Command.read statement = .ok command →
      (∀ f ∈ command.filter?, f.value.IsFinite) ∧
      ∀ payload ∈ command.payload?,
        .nan ∉ (Value.obj payload).numbers ∧
          ((∀ shape ∈ Shape.ofChars? (trim statement.toList), ∀ body ∈ shape.body?,
              ¬ Json.HoldsOverflow body) → (Value.obj payload).IsFinite) := by
  refine ⟨fun type value hread => ?_, fun row hrow => ⟨?_, ?_⟩, fun command hread => ?_⟩
  · exact ⟨nan_not_mem_of_readEdited hread, isFinite_of_readEdited hread⟩
  · intro hnan
    obtain ⟨field, -, -, value, hread, hx⟩ := InsertField.exists_field_of_payload hrow hnan
    exact nan_not_mem_of_readEdited hread hx
  · intro hjson x hx
    obtain ⟨field, hfield, hkey, value, hread, hx⟩ := InsertField.exists_field_of_payload hrow hx
    exact isFinite_of_readEdited hread (hjson field hfield hkey) x hx
  · obtain ⟨shape, hshape, hgives⟩ := Command.exists_shape hread
    obtain ⟨hfilter, hpayload⟩ := hgives.numbers
    refine ⟨hfilter, fun payload hmem => ?_⟩
    obtain ⟨body, hbody, hjson⟩ := hpayload payload hmem
    refine ⟨Json.nan_not_mem_of_read hjson, fun hnone => Json.isFinite_of_read hjson ?_⟩
    rw [String.toList_ofList]
    exact hnone shape hshape body hbody

/-- A row with a field that has no name and holds a literal beyond the format, a large number and
JSON with a large number in it. -/
def largeRow : List InsertField :=
  [⟨" ", "1e400", .json⟩, ⟨"n", " -1e308", .number⟩, ⟨"ns", "[[1E+308], 1]", .json⟩]

/-- What is made from the row. -/
def largeFields : Fields :=
  [("n", .float (Binary64.ofDecimal true 1 308)),
    ("ns", .arr [.arr [.float (Binary64.ofDecimal false 1 308)], .int 1])]

/-- An update with a large number in a list, and an id that is no number. -/
def largeUpdate : String :=
  "UPDATE c SET JSON \x7b\"n\": [1e308]\x7d WHERE id = 1e400"

/-- Large numbers come in at any depth and stay finite. -/
theorem large_numbers_stay_finite :
    (readEdited "[-0.0, 1e308]" .json =
        .ok (.arr [.float (.finite true .zero), .float (Binary64.ofDecimal false 1 308)]) ∧
      (Value.arr [.float (.finite true .zero),
        .float (Binary64.ofDecimal false 1 308)]).IsFinite) ∧
    (InsertField.payload largeRow = .ok largeFields ∧ (Value.obj largeFields).IsFinite) ∧
    (Command.read largeUpdate =
        .ok (.update "c" (some "1e400") [("n", .arr [.float (Binary64.ofDecimal false 1 308)])]) ∧
      (Value.obj [("n", .arr [.float (Binary64.ofDecimal false 1 308)])]).IsFinite) := by
  obtain ⟨hedited, hrow, hstatement⟩ :=
    numbers_are_finite_without_overflow "[-0.0, 1e308]" largeRow largeUpdate
  have hread : readEdited "[-0.0, 1e308]" .json =
      .ok (.arr [.float (.finite true .zero), .float (Binary64.ofDecimal false 1 308)]) := by
    decide +kernel
  have hpayload : InsertField.payload largeRow = .ok largeFields := by decide +kernel
  have hcommand : Command.read largeUpdate =
      .ok (.update "c" (some "1e400")
        [("n", .arr [.float (Binary64.ofDecimal false 1 308)])]) := by
    decide +kernel
  refine ⟨⟨hread, (hedited _ _ hread).2 fun _ => by decide +kernel⟩,
    ⟨hpayload, (hrow _ hpayload).2 (by decide +kernel)⟩,
    hcommand, ((hstatement _ hcommand).2 _ rfl).2 (by decide +kernel)⟩

/-- A literal beyond the format comes in as infinity, as an edited value and in a record. -/
theorem overflow_comes_in :
    readEdited "1e400" .json = .ok (.float (.infinity false)) ∧
      Command.read "INSERT INTO items JSON \x7b\"n\": 1e400\x7d" =
        .ok (.insert "items" [("n", .float (.infinity false))]) ∧
      ¬ (Value.obj [("n", .float (.infinity false))]).IsFinite := by
  refine ⟨by decide +kernel, by decide +kernel, fun hfinite => ?_⟩
  cases hfinite (.infinity false) (List.mem_singleton.mpr rfl)

end DocConsole
