import DocConsole.Database.Snapshot
import Mathlib.Data.List.Basic

/-!
# Documents without the kinds of a database

A document of a database is shown with plain values only: null, truth values, numbers, texts,
moments, lists and records.  Every such value is a value of the database too, so what is shown can
be shown again.  Main statement: the fields of a document come out plain at every depth, without the
field of the id and otherwise with their names in order; lists and records keep their shape, plain
values stay as they are, and showing the result again changes nothing.

A calendar day is no value of a database.  It is shown as its text all the same, but not in a
reference, where it is left as it is.
-/

set_option autoImplicit false

namespace DocConsole

/-! ## Plain values -/

/-- Null, truth values, numbers, texts and moments, and lists and records of plain values. -/
inductive Value.IsPlain : Value → Prop where
  | null : IsPlain .null
  | bool (b : Bool) : IsPlain (.bool b)
  | int (n : Int) : IsPlain (.int n)
  | float (x : Binary64) : IsPlain (.float x)
  | str (s : String) : IsPlain (.str s)
  | moment (m : Moment) : IsPlain (.moment m)
  | arr {items : List Value} (h : ∀ item ∈ items, IsPlain item) : IsPlain (.arr items)
  | obj {fields : Fields} (h : ∀ field ∈ fields, IsPlain field.2) : IsPlain (.obj fields)

mutual

/-- A value of a document as a value of a database. -/
def Value.stored : Value → Bson
  | .null => .null
  | .bool b => .bool b
  | .int n => .int n
  | .float x => .float x
  | .str s => .str s
  | .moment m => .moment m
  | .day d => .day d
  | .objectId hex => .objectId hex
  | .arr items => .arr (Value.storedItems items)
  | .obj fields => .obj (Value.storedFields fields)

/-- The items of a list as values of a database. -/
def Value.storedItems : List Value → List Bson
  | [] => []
  | item :: items => item.stored :: Value.storedItems items

/-- The fields of a record as values of a database. -/
def Value.storedFields : Fields → List (String × Bson)
  | [] => []
  | (name, value) :: fields => (name, value.stored) :: Value.storedFields fields

end

theorem Value.storedItems_eq_map (items : List Value) :
    Value.storedItems items = items.map Value.stored := by
  induction items with
  | nil => rfl
  | cons item items ih => rw [Value.storedItems, ih, List.map_cons]

theorem Value.storedFields_eq_map (fields : Fields) :
    Value.storedFields fields = fields.map (fun field => (field.1, field.2.stored)) := by
  induction fields with
  | nil => rfl
  | cons field fields ih => rw [Value.storedFields, ih, List.map_cons]

namespace Bson

/-- A kind that only databases have and that is neither a list nor a record.  Code is a text. -/
def isForeign : Bson → Bool
  | .day _ | .objectId _ | .decimal _ | .bytes _ | .binary _ _ | .timestamp _ _ | .regex _
  | .minKey | .maxKey | .reference _ _ _ _ => true
  | _ => false

/-- How a value of a database may be shown: a plain one and code as they are, a list item by item, a
record field by field under the same names, and any other kind by something plain. -/
inductive ShownAs : Bson → Value → Prop where
  | null : ShownAs .null .null
  | bool (b : Bool) : ShownAs (.bool b) (.bool b)
  | int (n : Int) : ShownAs (.int n) (.int n)
  | float (x : Binary64) : ShownAs (.float x) (.float x)
  | str (s : String) : ShownAs (.str s) (.str s)
  | moment (m : Moment) : ShownAs (.moment m) (.moment m)
  | code (s : String) : ShownAs (.code s) (.str s)
  | arr {items : List Bson} {shown : List Value} (hlength : shown.length = items.length)
      (h : ∀ pair ∈ items.zip shown, ShownAs pair.1 pair.2) : ShownAs (.arr items) (.arr shown)
  | obj {fields : List (String × Bson)} {shown : Fields}
      (hnames : shown.names = fields.map (·.1))
      (h : ∀ pair ∈ fields.zip shown, ShownAs pair.1.2 pair.2.2) :
      ShownAs (.obj fields) (.obj shown)
  | foreign {b : Bson} {v : Value} (hb : b.isForeign = true) (hv : v.IsPlain) : ShownAs b v

/-- A calendar day in a value, at any depth. -/
inductive HoldsDay : Bson → Prop where
  | day (d : Day) : HoldsDay (.day d)
  | referred {collection : String} {id : Bson} {database : Option String}
      {fields : List (String × Bson)} (h : HoldsDay id) :
      HoldsDay (.reference collection id database fields)
  | referring {collection : String} {id : Bson} {database : Option String}
      {fields : List (String × Bson)} {field : String × Bson} (hmem : field ∈ fields)
      (h : HoldsDay field.2) : HoldsDay (.reference collection id database fields)
  | item {items : List Bson} {item : Bson} (hmem : item ∈ items) (h : HoldsDay item) :
      HoldsDay (.arr items)
  | field {fields : List (String × Bson)} {field : String × Bson} (hmem : field ∈ fields)
      (h : HoldsDay field.2) : HoldsDay (.obj fields)

/-- A reference to a document, at any depth, that holds a calendar day in the id or in a further
field. -/
inductive RefersToDay : Bson → Prop where
  | reference {collection : String} {id : Bson} {database : Option String}
      {fields : List (String × Bson)} (h : HoldsDay (.reference collection id database fields)) :
      RefersToDay (.reference collection id database fields)
  | item {items : List Bson} {item : Bson} (hmem : item ∈ items) (h : RefersToDay item) :
      RefersToDay (.arr items)
  | field {fields : List (String × Bson)} {field : String × Bson} (hmem : field ∈ fields)
      (h : RefersToDay field.2) : RefersToDay (.obj fields)

/-! ## Induction -/

/-- A value that holds no other values. -/
def isSingle : Bson → Bool
  | .reference _ _ _ _ | .arr _ | .obj _ => false
  | _ => true

theorem sizeOf_snd_lt {fields : List (String × Bson)} {field : String × Bson}
    (h : field ∈ fields) : sizeOf field.2 < sizeOf fields := by
  refine Nat.lt_trans ?_ (List.sizeOf_lt_of_mem h)
  obtain ⟨name, value⟩ := field
  show sizeOf value < sizeOf (name, value)
  rw [Prod.mk.sizeOf_spec]
  omega

/-- Induction on the values of a database: for a list all items are given, for a record all fields,
and for a reference its id and its further fields. -/
theorem induction {motive : Bson → Prop} (single : ∀ b, b.isSingle = true → motive b)
    (reference : ∀ collection id database fields, motive id → (∀ field ∈ fields, motive field.2) →
      motive (.reference collection id database fields))
    (arr : ∀ items, (∀ item ∈ items, motive item) → motive (.arr items))
    (obj : ∀ fields, (∀ field ∈ fields, motive field.2) → motive (.obj fields)) (b : Bson) :
    motive b := by
  cases b with
  | reference collection id database fields =>
      exact reference collection id database fields (induction single reference arr obj id)
        fun field _ => induction single reference arr obj field.2
  | arr items => exact arr items fun item _ => induction single reference arr obj item
  | obj fields => exact obj fields fun field _ => induction single reference arr obj field.2
  | _ => exact single _ rfl
termination_by sizeOf b
decreasing_by
  · rw [Bson.reference.sizeOf_spec]
    omega
  · have hfield := sizeOf_snd_lt ‹field ∈ fields›
    rw [Bson.reference.sizeOf_spec]
    omega
  · have hitem := List.sizeOf_lt_of_mem ‹item ∈ items›
    rw [Bson.arr.sizeOf_spec]
    omega
  · have hfield := sizeOf_snd_lt ‹field ∈ fields›
    rw [Bson.obj.sizeOf_spec]
    omega

/-! ## What extended JSON is made of -/

theorem isPlain_single (name : String) {v : Value} (h : v.IsPlain) :
    (Value.obj [(name, v)]).IsPlain := by
  refine .obj fun field hfield => ?_
  rw [List.mem_singleton.1 hfield]
  exact h

theorem isPlain_pair (name name' : String) {v w : Value} (hv : v.IsPlain) (hw : w.IsPlain) :
    (Value.obj [(name, v), (name', w)]).IsPlain := by
  refine .obj fun field hfield => ?_
  rcases List.mem_pair.1 hfield with rfl | rfl
  · exact hv
  · exact hw

theorem isPlain_binaryRecord (data : List UInt8) (subtype : Nat) :
    (binaryRecord data subtype).IsPlain :=
  isPlain_single _ (isPlain_pair _ _ (.str _) (.str _))

theorem isPlain_regexRecord (r : Regex) : (regexRecord r).IsPlain :=
  isPlain_single _ (isPlain_pair _ _ (.str _) (.str _))

theorem isPlain_timestampRecord (time increment : Nat) :
    (timestampRecord time increment).IsPlain :=
  isPlain_single _ (isPlain_pair _ _ (.int _) (.int _))

theorem isPlain_momentRecord (m : Moment) : (momentRecord m).IsPlain := by
  unfold momentRecord
  dsimp only
  split
  · exact isPlain_single _ (isPlain_single _ (.str _))
  · exact isPlain_single _ (.str _)

theorem isPlain_floatRecord (x : Binary64) : (floatRecord x).IsPlain := by
  unfold floatRecord
  split
  · exact .float x
  · exact isPlain_single _ (.str _)

/-- A reference is plain when its id and its further fields are. -/
theorem isPlain_referenceRecord (collection : String) {id : Value} (hid : id.IsPlain)
    (database : Option String) {fields : Fields} (hfields : (Value.obj fields).IsPlain) :
    (referenceRecord collection id database fields).IsPlain := by
  refine .obj fun field hfield => ?_
  rcases Fields.mem_of_mem_merge hfield with hown | hfurther
  · rcases List.mem_append.1 hown with hnamed | hdatabase
    · rcases List.mem_pair.1 hnamed with rfl | rfl
      · exact .str collection
      · exact hid
    · obtain ⟨name, -, rfl⟩ := Option.map_eq_some_iff.1 (Option.mem_toList.1 hdatabase)
      exact .str name
  · cases hfields with
    | obj h => exact h field hfurther

theorem extendedItems_eq_map (items : List Bson) : extendedItems items = items.map extended := by
  induction items with
  | nil => rfl
  | cons item items ih => rw [extendedItems, ih, List.map_cons]

theorem extendedFields_eq_map (fields : List (String × Bson)) :
    extendedFields fields = fields.map (fun field => (field.1, extended field.2)) := by
  induction fields with
  | nil => rfl
  | cons field fields ih => rw [extendedFields, ih, List.map_cons]

/-- Extended JSON is plain, whatever is written, calendar days apart. -/
theorem isPlain_extended (b : Bson) (h : ¬ b.HoldsDay) : (extended b).IsPlain := by
  induction b using induction with
  | single b hb =>
      cases b with
      | null => exact .null
      | bool b => exact .bool b
      | int n => exact .int n
      | float x => exact isPlain_floatRecord x
      | str s => exact .str s
      | moment m => exact isPlain_momentRecord m
      | day d => exact absurd (.day d) h
      | bytes data => exact isPlain_binaryRecord data 0
      | binary data subtype => exact isPlain_binaryRecord data subtype
      | timestamp time increment => exact isPlain_timestampRecord time increment
      | regex r => exact isPlain_regexRecord r
      | objectId hex => exact isPlain_single _ (.str hex)
      | decimal d => exact isPlain_single _ (.str _)
      | code s => exact isPlain_single _ (.str s)
      | minKey => exact isPlain_single _ (.int 1)
      | maxKey => exact isPlain_single _ (.int 1)
      | reference collection id database fields => cases hb
      | arr items => cases hb
      | obj fields => cases hb
  | reference collection id database fields ihid ihfields =>
      rw [extended, extendedFields_eq_map]
      refine isPlain_referenceRecord collection (ihid fun hid => h (.referred hid)) database ?_
      refine .obj fun shown hshown => ?_
      obtain ⟨field, hfield, rfl⟩ := List.mem_map.1 hshown
      exact ihfields field hfield fun hday => h (.referring hfield hday)
  | arr items ih =>
      rw [extended, extendedItems_eq_map]
      refine .arr fun shown hshown => ?_
      obtain ⟨item, hitem, rfl⟩ := List.mem_map.1 hshown
      exact ih item hitem fun hday => h (.item hitem hday)
  | obj fields ih =>
      rw [extended, extendedFields_eq_map]
      refine .obj fun shown hshown => ?_
      obtain ⟨field, hfield, rfl⟩ := List.mem_map.1 hshown
      exact ih field hfield fun hday => h (.field hfield hday)

/-! ## How values are shown -/

theorem of_mem_zip_map {α β : Type} {f : α → β} {l : List α} {pair : α × β}
    (h : pair ∈ l.zip (l.map f)) : pair.1 ∈ l ∧ pair.2 = f pair.1 := by
  have hzip : l.zip (l.map f) = l.map fun a => (a, f a) := by
    simpa using List.zip_map' (f := id) (g := f) (l := l)
  rw [hzip] at h
  obtain ⟨a, ha, rfl⟩ := List.mem_map.1 h
  exact ⟨ha, rfl⟩

/-- A value that holds no other values is shown as it is or by something plain. -/
theorem shownAs_toPlain_single {b : Bson} (hb : b.isSingle = true) : b.ShownAs b.toPlain := by
  cases b with
  | null => exact .null
  | bool b => exact .bool b
  | int n => exact .int n
  | float x => exact .float x
  | str s => exact .str s
  | moment m => exact .moment m
  | code s => exact .code s
  | day d => exact .foreign rfl (.str _)
  | objectId hex => exact .foreign rfl (.str hex)
  | decimal d => exact .foreign rfl (.str _)
  | bytes data => exact .foreign rfl (isPlain_binaryRecord data 0)
  | binary data subtype => exact .foreign rfl (isPlain_binaryRecord data subtype)
  | timestamp time increment => exact .foreign rfl (isPlain_timestampRecord time increment)
  | regex r => exact .foreign rfl (isPlain_regexRecord r)
  | minKey => exact .foreign rfl (isPlain_single _ (.int 1))
  | maxKey => exact .foreign rfl (isPlain_single _ (.int 1))
  | reference collection id database fields => cases hb
  | arr items => cases hb
  | obj fields => cases hb

/-- Every value is shown in one of these ways, if no reference in it has a day for its id. -/
theorem shownAs_toPlain (b : Bson) (h : ¬ b.RefersToDay) : b.ShownAs b.toPlain := by
  induction b using induction with
  | single b hb => exact shownAs_toPlain_single hb
  | reference collection id database fields _ _ =>
      exact .foreign rfl (isPlain_extended _ fun hday => h (.reference hday))
  | arr items ih =>
      rw [toPlain, toPlainItems_eq_map]
      refine .arr (List.length_map _) fun pair hpair => ?_
      obtain ⟨hitem, hshown⟩ := of_mem_zip_map hpair
      rw [hshown]
      exact ih pair.1 hitem fun hday => h (.item hitem hday)
  | obj fields ih =>
      rw [toPlain]
      refine .obj (names_toPlainFields fields) fun pair hpair => ?_
      rw [toPlainFields_eq_map] at hpair
      obtain ⟨hfield, hshown⟩ := of_mem_zip_map hpair
      rw [hshown]
      exact ih pair.1 hfield fun hday => h (.field hfield hday)

theorem exists_mem_zip {α β : Type} {l : List α} {l' : List β} (hlength : l'.length ≤ l.length)
    {b : β} (hb : b ∈ l') : ∃ pair ∈ l.zip l', pair.2 = b := by
  rw [← List.map_snd_zip hlength] at hb
  exact List.mem_map.1 hb

/-- Two lists of one length are equal when what they have in the same places is. -/
theorem eq_of_mem_zip {α : Type} {l l' : List α} (hlength : l'.length = l.length)
    (h : ∀ pair ∈ l.zip l', pair.2 = pair.1) : l' = l :=
  calc l' = (l.zip l').map Prod.snd := (List.map_snd_zip (Nat.le_of_eq hlength)).symm
    _ = (l.zip l').map Prod.fst := List.map_congr_left h
    _ = l := List.map_fst_zip (Nat.le_of_eq hlength.symm)

/-- Two records under the same names have the same name in the same place. -/
theorem name_eq_of_mem_zip {fields shown : Fields} (hlength : shown.length = fields.length)
    (hnames : shown.names = fields.names) : ∀ pair ∈ fields.zip shown, pair.2.1 = pair.1.1 := by
  have hshown : ((fields.zip shown).map Prod.snd).map Prod.fst = shown.names := by
    rw [List.map_snd_zip (Nat.le_of_eq hlength), Fields.names]
  have hfields : ((fields.zip shown).map Prod.fst).map Prod.fst = fields.names := by
    rw [List.map_fst_zip (Nat.le_of_eq hlength.symm), Fields.names]
  rw [← hshown, ← hfields, List.map_map, List.map_map] at hnames
  exact List.map_inj_left.1 hnames

namespace ShownAs

/-- What is shown is plain at every depth. -/
theorem isPlain {b : Bson} {v : Value} (h : b.ShownAs v) : v.IsPlain := by
  induction h with
  | null => exact .null
  | bool b => exact .bool b
  | int n => exact .int n
  | float x => exact .float x
  | str s => exact .str s
  | moment m => exact .moment m
  | code s => exact .str s
  | arr hlength _ ih =>
      refine .arr fun item hitem => ?_
      obtain ⟨pair, hpair, rfl⟩ := exists_mem_zip (Nat.le_of_eq hlength) hitem
      exact ih pair hpair
  | @obj fields shown hnames _ ih =>
      refine .obj fun field hfield => ?_
      -- Both records have the same names, hence as many fields.
      have hlength : shown.length ≤ fields.length := by
        have hlength := congrArg List.length hnames
        rw [Fields.names, List.length_map, List.length_map] at hlength
        exact Nat.le_of_eq hlength
      obtain ⟨pair, hpair, rfl⟩ := exists_mem_zip hlength hfield
      exact ih pair hpair
  | foreign _ hv => exact hv

/-- A plain value of the database is shown as it is. -/
theorem eq_of_stored {v w : Value} (hv : v.IsPlain) (h : v.stored.ShownAs w) : w = v := by
  induction hv generalizing w with
  | null => cases h with
    | null => rfl
    | foreign hb _ => cases hb
  | bool b => cases h with
    | bool => rfl
    | foreign hb _ => cases hb
  | int n => cases h with
    | int => rfl
    | foreign hb _ => cases hb
  | float x => cases h with
    | float => rfl
    | foreign hb _ => cases hb
  | str s => cases h with
    | str => rfl
    | foreign hb _ => cases hb
  | moment m => cases h with
    | moment => rfl
    | foreign hb _ => cases hb
  | @arr items _ ih => cases h with
    | @arr _ shown hlength h =>
        rw [Value.storedItems_eq_map] at hlength h
        -- What is shown for an item is that item, so the two lists agree place by place.
        refine congrArg Value.arr (eq_of_mem_zip (by simpa using hlength) fun pair hpair => ?_)
        refine ih pair.1 (List.of_mem_zip hpair).1 (h (pair.1.stored, pair.2) ?_)
        rw [List.zip_map_left]
        exact List.mem_map.2 ⟨pair, hpair, rfl⟩
    | foreign hb _ => cases hb
  | @obj fields _ ih => cases h with
    | @obj _ shown hnames h =>
        rw [Value.storedFields_eq_map] at hnames h
        rw [List.map_map] at hnames
        have hlength : shown.length = fields.length := by
          simpa [Fields.names] using congrArg List.length hnames
        refine congrArg Value.obj (eq_of_mem_zip hlength fun pair hpair => ?_)
        refine Prod.ext (name_eq_of_mem_zip hlength hnames pair hpair) ?_
        refine ih pair.1 (List.of_mem_zip hpair).1 (h ((pair.1.1, pair.1.2.stored), pair.2) ?_)
        rw [List.zip_map_left]
        exact List.mem_map.2 ⟨pair, hpair, rfl⟩
    | foreign hb _ => cases hb

end ShownAs

/-! ## Showing again -/

theorem allHavePlain_iff (items : List Bson) :
    allHavePlain items = true ↔ ∀ item ∈ items, item.hasPlain = true := by
  induction items with
  | nil => simp [allHavePlain]
  | cons item items ih => simp [allHavePlain, ih]

theorem fieldsHavePlain_iff (fields : List (String × Bson)) :
    fieldsHavePlain fields = true ↔ ∀ field ∈ fields, field.2.hasPlain = true := by
  induction fields with
  | nil => simp [fieldsHavePlain]
  | cons field fields ih => simp [fieldsHavePlain, ih]

/-- A plain value of the database always has a plain form. -/
theorem hasPlain_stored {v : Value} (h : v.IsPlain) : v.stored.hasPlain = true := by
  induction h with
  | arr _ ih =>
      rw [Value.stored, hasPlain, allHavePlain_iff, Value.storedItems_eq_map]
      exact List.forall_mem_map.2 ih
  | obj _ ih =>
      rw [Value.stored, hasPlain, fieldsHavePlain_iff, Value.storedFields_eq_map]
      exact List.forall_mem_map.2 ih
  | _ => rfl

/-- That form is the value itself. -/
theorem toPlain_stored {v : Value} (h : v.IsPlain) : v.stored.toPlain = v := by
  induction h with
  | @arr items _ ih =>
      rw [Value.stored, toPlain, Value.storedItems_eq_map, toPlainItems_eq_map, List.map_map]
      exact congrArg Value.arr ((List.map_congr_left ih).trans (List.map_id' items))
  | @obj fields _ ih =>
      rw [Value.stored, toPlain, Value.storedFields_eq_map, toPlainFields_eq_map, List.map_map]
      have hfields : ∀ field ∈ fields, (field.1, field.2.stored.toPlain) = field :=
        fun field hfield => Prod.ext rfl (ih field hfield)
      exact congrArg Value.obj ((List.map_congr_left hfields).trans (List.map_id' fields))
  | _ => rfl

end Bson

/-! ## Documents -/

namespace StoredDocument

/-- The fields of a document but that of its id. -/
def content (d : StoredDocument) : List (String × Bson) :=
  d.filter (fun field => field.1 ≠ storedIdField)

theorem toDocument_eq {d : StoredDocument} {id : Bson} (hid : d.id? = some id)
    (hplain : Bson.fieldsHavePlain d.content = true) :
    d.toDocument = .ok ⟨id.display, Bson.toPlainFields d.content⟩ := by
  unfold toDocument
  rw [hid]
  exact if_pos hplain

theorem map_fst_content (d : StoredDocument) :
    d.content.map (·.1) = (d.map (·.1)).filter (· ≠ storedIdField) := by
  rw [List.filter_map]
  rfl

/-- An id in front of fields that do not have it leaves them as the content. -/
theorem content_cons_id (id : Bson) {fields : List (String × Bson)}
    (h : storedIdField ∉ fields.map (·.1)) : content ((storedIdField, id) :: fields) = fields := by
  have hcontent : content fields = fields := List.filter_eq_self.2 fun field hfield =>
    decide_eq_true fun heq => h (heq ▸ List.mem_map_of_mem hfield)
  rw [content, List.filter_cons_of_neg (by simp)]
  exact hcontent

/-- A document of plain fields is shown as it is. -/
theorem toDocument_stored (id : Bson) {fields : Fields} (hfields : (Value.obj fields).IsPlain)
    (hid : storedIdField ∉ Fields.names fields) :
    toDocument ((storedIdField, id) :: Value.storedFields fields) = .ok ⟨id.display, fields⟩ := by
  have hcontent : content ((storedIdField, id) :: Value.storedFields fields) =
      Value.storedFields fields := by
    refine content_cons_id id ?_
    rw [Value.storedFields_eq_map, List.map_map]
    exact hid
  have hplain : Bson.fieldsHavePlain (Value.storedFields fields) = true :=
    Bson.hasPlain_stored hfields
  have hagain : Bson.toPlainFields (Value.storedFields fields) = fields :=
    Value.obj.inj (Bson.toPlain_stored hfields)
  rw [toDocument_eq rfl (hcontent.symm ▸ hplain), hcontent, hagain]

end StoredDocument

/-- The fields of a document come out plain at every depth.  They are those of the document under
their names in order, without the field of the id; lists keep their length and order, records their
names, and what was plain stays as it is.  Showing the result again, on its own or as a document
under the same id, gives it back. -/
theorem fields_come_out_plain (d : StoredDocument) (id : Bson) (hid : d.id? = some id)
    (hplain : Bson.fieldsHavePlain d.content = true)
    (hdays : ¬ (Bson.obj d.content).RefersToDay) :
    ∃ document, d.toDocument = .ok document ∧ document.id = id.display ∧
      (Value.obj document.fields).IsPlain ∧
      (Bson.obj d.content).ShownAs (.obj document.fields) ∧
      Fields.names document.fields = (d.map (·.1)).filter (· ≠ storedIdField) ∧
      (∀ v w : Value, v.IsPlain → v.stored.ShownAs w → w = v) ∧
      (Bson.obj (Value.storedFields document.fields)).toPlain = .obj document.fields ∧
      StoredDocument.toDocument ((storedIdField, id) :: Value.storedFields document.fields) =
        .ok document := by
  have hshown := Bson.shownAs_toPlain _ hdays
  have hnames : Fields.names (Bson.toPlainFields d.content) =
      (d.map (·.1)).filter (· ≠ storedIdField) :=
    (Bson.names_toPlainFields _).trans d.map_fst_content
  have hid' : storedIdField ∉ Fields.names (Bson.toPlainFields d.content) := by
    rw [hnames]
    simp
  exact ⟨_, StoredDocument.toDocument_eq hid hplain, rfl, hshown.isPlain, hshown, hnames,
    fun _ _ hv => Bson.ShownAs.eq_of_stored hv, Bson.toPlain_stored hshown.isPlain,
    StoredDocument.toDocument_stored id hshown.isPlain hid'⟩

/-- A document with an object id, code and bytes in a list inside a record, a moment, and a
reference to another document. -/
theorem visit_comes_out_plain :
    ∃ document, StoredDocument.toDocument
        [("_id", .objectId "0123456789abcdef01234567"), ("count", .int 3),
          ("seen", .obj [("by", .arr [.code "f()", .binary [1, 2] 5, .null])]),
          ("at", .moment ⟨⟨2024, 5, 6⟩, 3600, 0, none⟩),
          ("host", .reference "people" (.objectId "76543210fedcba9876543210") (some "staff")
            [("since", .timestamp 7 1)])] = .ok document ∧
      (Value.obj document.fields).IsPlain ∧
      Fields.names document.fields = ["count", "seen", "at", "host"] := by
  obtain ⟨document, hdocument, -, hplain, -, hnames, -⟩ := fields_come_out_plain
    [("_id", .objectId "0123456789abcdef01234567"), ("count", .int 3),
      ("seen", .obj [("by", .arr [.code "f()", .binary [1, 2] 5, .null])]),
      ("at", .moment ⟨⟨2024, 5, 6⟩, 3600, 0, none⟩),
      ("host", .reference "people" (.objectId "76543210fedcba9876543210") (some "staff")
        [("since", .timestamp 7 1)])]
    _ rfl rfl (by
      rintro (_ | _ | ⟨hfield, h⟩)
      obtain rfl | rfl | rfl | rfl := by
        simpa [StoredDocument.content, storedIdField] using hfield
      · cases h
      · obtain _ | _ | ⟨hlist, h⟩ := h
        obtain rfl := List.mem_singleton.1 hlist
        obtain _ | ⟨hitem, h⟩ := h
        obtain rfl | rfl | rfl := by simpa using hitem
        all_goals cases h
      · cases h
      · obtain ⟨hday⟩ := h
        obtain _ | hid | ⟨hmem, hfield⟩ := hday
        · cases hid
        · obtain rfl := List.mem_singleton.1 hmem
          cases hfield)
  exact ⟨document, hdocument, hplain, hnames⟩

end DocConsole
