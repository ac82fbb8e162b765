import DocConsole.Proofs.Database.Addressing
import DocConsole.Proofs.Finding
import DocConsole.Proofs.Json.Numbers
import DocConsole.Proofs.Store.Operators

/-!
# Conditions as a database judges them

A store judges a condition on its own documents, and a database judges the filter document that the
condition is turned into.  What a database takes a filter document to mean is not part of the
program, so it is a parameter here, with the documented meaning of the few operators that are used
as its laws.  Main statement: a database selects the documents that the store accepts, and with a
cursor as well those of them that lie behind it.  The one exception is a condition on the field of
the stored ids with a text that its library takes for an object id: it is asked for the object id.
-/

set_option autoImplicit false

namespace DocConsole

/-! ## Paths -/

/-- One step of a path: a name that is not empty and has no point. -/
def IsSegment (name : String) : Prop :=
  name ≠ "" ∧ '.' ∉ name.toList

/-- The names that a path with points leads along. -/
inductive IsPath : String → List String → Prop where
  | last {name : String} (h : IsSegment name) : IsPath name [name]
  | step {name path : String} {names : List String} (h : IsSegment name)
      (hrest : IsPath path names) : IsPath (name ++ "." ++ path) (name :: names)

theorem splitChars_append {separator : Char} {front : List Char} (h : separator ∉ front)
    (rest : List Char) :
    splitChars separator (front ++ separator :: rest) = front :: splitChars separator rest := by
  induction front with
  | nil => rw [List.nil_append, splitChars, if_pos rfl]
  | cons c front ih =>
      rw [List.mem_cons, not_or] at h
      rw [List.cons_append, splitChars, if_neg (Ne.symm h.1), ih h.2]

theorem pathSegments_of_not_mem {name : String} (h : '.' ∉ name.toList) :
    pathSegments name = [name] := by
  rw [pathSegments, splitChars_of_not_mem h, List.map_singleton, String.ofList_toList]

theorem pathSegments_step {name : String} (h : '.' ∉ name.toList) (path : String) :
    pathSegments (name ++ "." ++ path) = name :: pathSegments path := by
  have htoList : (name ++ "." ++ path).toList = name.toList ++ '.' :: path.toList := by
    rw [String.toList_append, String.toList_append, List.append_assoc]
    rfl
  rw [pathSegments, htoList, splitChars_append h, List.map_cons, String.ofList_toList, pathSegments]

theorem IsPath.pathSegments_eq {path : String} {names : List String} (h : IsPath path names) :
    pathSegments path = names := by
  induction h with
  | last h => exact pathSegments_of_not_mem h.2
  | step h _ ih => rw [pathSegments_step h.2, ih]

/-- A path is cut at its points, if none of them lies at an end or next to another one. -/
theorem isPath_pathSegments (path : String) (h : "" ∉ pathSegments path) :
    IsPath path (pathSegments path) := by
  -- The path is cut at its first point, and what lies behind it is shorter.
  by_cases hpoint : '.' ∈ path.toList
  · obtain ⟨front, rest, hsplit, hfront⟩ := List.eq_append_cons_of_mem hpoint
    have hpath : path = String.ofList front ++ "." ++ String.ofList rest := by
      rw [← String.toList_inj, hsplit]
      simp
    have hname : '.' ∉ (String.ofList front).toList := by
      rw [String.toList_ofList]
      exact hfront
    rw [hpath, pathSegments_step hname, List.mem_cons, not_or] at h
    rw [hpath, pathSegments_step hname]
    have hshorter : (String.ofList rest).toList.length < path.toList.length := by
      rw [String.toList_ofList, hsplit, List.length_append, List.length_cons]
      omega
    exact .step ⟨Ne.symm h.1, hname⟩ (isPath_pathSegments (String.ofList rest) h.2)
  · rw [pathSegments_of_not_mem hpoint, List.mem_singleton] at h
    rw [pathSegments_of_not_mem hpoint]
    exact .last ⟨Ne.symm h, hpoint⟩
termination_by path.toList.length

/-! ## Ways through records -/

namespace Value

mutual

/-- The names of the fields in a value, at any depth. -/
def allNames : Value → List String
  | .arr items => allNamesOfItems items
  | .obj fields => allNamesOfFields fields
  | _ => []

/-- The names of the fields in the items of a list. -/
def allNamesOfItems : List Value → List String
  | [] => []
  | item :: items => item.allNames ++ allNamesOfItems items

/-- The names of fields, and of those in their values. -/
def allNamesOfFields : List (String × Value) → List String
  | [] => []
  | (name, value) :: fields => name :: value.allNames ++ allNamesOfFields fields

end

/-- From a value, names lead through nested records to another value. -/
inductive LeadsTo : Value → List String → Value → Prop where
  | here (v : Value) : LeadsTo v [] v
  | field {fields : Fields} {name : String} {value found : Value} {names : List String}
      (h : Fields.get? fields name = some value) (hrest : LeadsTo value names found) :
      LeadsTo (.obj fields) (name :: names) found

/-- On a way through records a list is met before the end. -/
def MeetsList (v : Value) (names : List String) : Prop :=
  ∃ front name rest items, names = front ++ name :: rest ∧ v.LeadsTo front (.arr items)

/-- A value that is judged by itself: neither a list nor NaN. -/
def IsSingle (v : Value) : Prop :=
  v ≠ .float .nan ∧ ∀ items, v ≠ .arr items

/-- What a path leads to is what the names lead to. -/
theorem along?_eq_some_iff {v found : Value} {names : List String} :
    v.along? names = some found ↔ v.LeadsTo names found := by
  induction names generalizing v with
  | nil =>
      rw [along?, Option.some.injEq]
      constructor
      · rintro rfl
        exact .here v
      · intro h
        cases h
        rfl
  | cons name names ih =>
      constructor
      · intro h
        unfold along? at h
        split at h
        · rename_i hnames
          cases hnames
        · rename_i hnames
          cases hnames
          split at h
          · rename_i hget
            exact .field hget (ih.mp h)
          · cases h
        · cases h
      · intro h
        cases h with
        | field hget hrest =>
            rw [along?, hget]
            exact ih.mpr hrest

/-- The numbers of what a path leads to are numbers of the whole value. -/
theorem LeadsTo.mem_numbers {v found : Value} {names : List String} (h : v.LeadsTo names found)
    {x : Binary64} (hx : x ∈ found.numbers) : x ∈ v.numbers := by
  induction h with
  | here => exact hx
  | @field fields name value _ _ hget _ ih =>
      obtain ⟨front, rest, hfields, -⟩ := List.lookup_eq_some_iff.mp hget
      rw [numbers, mem_numbersOfFields]
      exact ⟨(name, value), by rw [hfields]; simp, ih hx⟩

end Value

/-! ## Databases -/

/-- What a database takes filter documents to mean.  The laws are about documents whose names have
no points and about paths that meet no list before their end, and about the operators that
conditions are turned into, with a truth value, a number, a text or an object id to compare with. -/
structure QueryEngine where
  /-- The document of the given fields is selected by a filter document. -/
  Selects : Fields → Fields → Prop
  /-- What a path leads to, if there is anything, passes a test: an operator with its operand. -/
  Passes : Option Value → String → Value → Prop
  /-- A clause looks up what its path leads to through nested records and puts it to all tests. -/
  clause_iff {document : Fields} {path : String} {names : List String} {tests : Fields}
    {found : Option Value} (hfield : isFieldPath path = true) (hpath : IsPath path names)
    (hnames : ∀ name ∈ (Value.obj document).allNames, '.' ∉ name.toList)
    (hlist : ¬ (Value.obj document).MeetsList names)
    (hfound : ∀ v, found = some v ↔ (Value.obj document).LeadsTo names v) :
    Selects document [(path, .obj tests)] ↔ ∀ test ∈ tests, Passes found test.1 test.2
  /-- Two filter documents joined select what both of them select. -/
  and_iff {document query query' : Fields} :
    Selects document [("$and", .arr [.obj query, .obj query'])] ↔
      Selects document query ∧ Selects document query'
  /-- The path is there. -/
  exists_iff {found : Option Value} :
    Passes found "$exists" (.bool true) ↔ ∃ v, found = some v
  /-- Values are equal when they stand for the same. -/
  eq_iff {found : Option Value} {expected : Value} (hfound : ∀ v, found = some v → v.IsSingle)
    (h : expected.IsScalar) :
    Passes found "$eq" expected ↔ ∃ v, found = some v ∧ v.Same expected
  /-- Differing is not being equal. -/
  ne_iff {found : Option Value} {expected : Value} :
    Passes found "$ne" expected ↔ ¬ Passes found "$eq" expected
  /-- The order is that of numbers or that of texts. -/
  gt_iff {found : Option Value} {expected : Value} (hfound : ∀ v, found = some v → v.IsSingle)
    (h : expected.Comparable expected) :
    Passes found "$gt" expected ↔ ∃ v, found = some v ∧ expected.Lt v
  lt_iff {found : Option Value} {expected : Value} (hfound : ∀ v, found = some v → v.IsSingle)
    (h : expected.Comparable expected) :
    Passes found "$lt" expected ↔ ∃ v, found = some v ∧ v.Lt expected
  gte_iff {found : Option Value} {expected : Value} (hfound : ∀ v, found = some v → v.IsSingle)
    (h : expected.Comparable expected) :
    Passes found "$gte" expected ↔ ∃ v, found = some v ∧ expected.Le v
  lte_iff {found : Option Value} {expected : Value} (hfound : ∀ v, found = some v → v.IsSingle)
    (h : expected.Comparable expected) :
    Passes found "$lte" expected ↔ ∃ v, found = some v ∧ v.Le expected
  /-- A list has an item that is equal to a value. -/
  elemMatch_iff {found : Option Value} {expected : Value}
    (hfound : ∀ items, found = some (.arr items) → ∀ item ∈ items, item.IsSingle)
    (h : expected.IsScalar) :
    Passes found "$elemMatch" (.obj [("$eq", expected)]) ↔
      ∃ items, found = some (.arr items) ∧ ∃ item ∈ items, item.Same expected

namespace QueryEngine

/-- What the documentation says about each operator. -/
def documentedTest (found : Option Value) (operator : String) (operand : Value) : Prop :=
  match operator with
  | "$exists" => operand = .bool true ∧ ∃ v, found = some v
  | "$eq" => ∃ v, found = some v ∧ v.Same operand
  | "$ne" => ¬ ∃ v, found = some v ∧ v.Same operand
  | "$gt" => ∃ v, found = some v ∧ operand.Lt v
  | "$lt" => ∃ v, found = some v ∧ v.Lt operand
  | "$gte" => ∃ v, found = some v ∧ operand.Le v
  | "$lte" => ∃ v, found = some v ∧ v.Le operand
  | "$elemMatch" => ∃ expected, operand = .obj [("$eq", expected)] ∧
      ∃ items, found = some (.arr items) ∧ ∃ item ∈ items, item.Same expected
  | _ => False

/-- The documents that a filter document selects by what the documentation says. -/
inductive Documented (document : Fields) : Fields → Prop where
  | clause {path : String} {names : List String} {tests : Fields} {found : Option Value}
      (hpath : IsPath path names)
      (hfound : ∀ v, found = some v ↔ (Value.obj document).LeadsTo names v)
      (h : ∀ test ∈ tests, documentedTest found test.1 test.2) :
      Documented document [(path, .obj tests)]
  | both {query query' : Fields} (h : Documented document query) (h' : Documented document query') :
      Documented document [("$and", .arr [.obj query, .obj query'])]

/-- A database that does what the documentation says. -/
def documented : QueryEngine where
  Selects := Documented
  Passes := documentedTest
  clause_iff := by
    intro document path names tests found _ hpath _ _ hfound
    constructor
    · intro h
      cases h with
      | @clause _ names' _ found' hpath' hfound' h =>
          -- A path has only one way to be cut, and its names lead to one value at most.
          obtain rfl : names' = names := hpath'.pathSegments_eq.symm.trans hpath.pathSegments_eq
          obtain rfl : found' = found := Option.ext fun v => (hfound' v).trans (hfound v).symm
          exact h
    · exact .clause hpath hfound
  and_iff := by
    intro document query query'
    constructor
    · intro h
      cases h with
      | both h h' => exact ⟨h, h'⟩
    · rintro ⟨h, h'⟩
      exact .both h h'
  exists_iff := and_iff_right rfl
  eq_iff _ _ := Iff.rfl
  ne_iff := Iff.rfl
  gt_iff _ _ := Iff.rfl
  lt_iff _ _ := Iff.rfl
  gte_iff _ _ := Iff.rfl
  lte_iff _ _ := Iff.rfl
  elemMatch_iff := by
    intro found expected _ _
    constructor
    · rintro ⟨expected', hoperand, h⟩
      cases hoperand
      exact h
    · intro h
      exact ⟨expected, rfl, h⟩

end QueryEngine

/-! ## Conditions -/

/-- The values that a condition may compare with: truth values, finite numbers and texts, for the
orders only numbers and texts. -/
inductive Operator.Takes : Operator → Value → Prop where
  | bool {operator : Operator} (h : operator ∈ [.equal, .notEqual, .contains]) (b : Bool) :
      Takes operator (.bool b)
  | int (operator : Operator) (n : Int) : Takes operator (.int n)
  | float (operator : Operator) {x : Binary64} (h : x.isFinite = true) : Takes operator (.float x)
  | text (operator : Operator) (s : String) : Takes operator (.str s)

/-- What is found at the path of a condition is neither NaN nor a list, except that there may be a
list of such values to look for an item in. -/
structure Operator.Judges (operator : Operator) (found : Value) : Prop where
  notNaN : found ≠ .float .nan
  list : ∀ items, found = .arr items → operator = .contains ∧ ∀ item ∈ items, item.IsSingle

/-- A condition on a field other than the id of the document, with no empty name on its path, and
with a value that its operator takes. -/
structure Filter.IsProper (f : Filter) : Prop where
  isFieldPath : isFieldPath f.field = true
  notId : f.field ≠ "id"
  segments : "" ∉ pathSegments f.field
  takes : f.operator.Takes f.value

/-- A document that a condition can be put to: no name in it has a point, no number in it is NaN,
and no list lies on the path of the condition, except that there may be a list at its end to look
for an item in, with no lists for items. -/
structure Filter.Suits (f : Filter) (d : Document) : Prop where
  names : ∀ name ∈ (Value.obj d.fields).allNames, '.' ∉ name.toList
  numbers : Binary64.nan ∉ (Value.obj d.fields).numbers
  way : ¬ (Value.obj d.fields).MeetsList (pathSegments f.field)
  last : ∀ items, (Value.obj d.fields).LeadsTo (pathSegments f.field) (.arr items) →
    f.operator = .contains ∧ ∀ item ∈ items, ∀ inner, item ≠ .arr inner

theorem Filter.Suits.judges {f : Filter} {d : Document} (h : f.Suits d) {found : Value}
    (hfound : (Value.obj d.fields).LeadsTo (pathSegments f.field) found) :
    f.operator.Judges found where
  notNaN := by
    rintro rfl
    exact h.numbers (hfound.mem_numbers (List.mem_singleton_self _))
  list := by
    rintro items rfl
    refine ⟨(h.last items hfound).1, fun item hitem => ⟨?_, (h.last items hfound).2 item hitem⟩⟩
    rintro rfl
    refine h.numbers (hfound.mem_numbers (Value.mem_numbersOfItems.mpr ⟨_, hitem, ?_⟩))
    exact List.mem_singleton_self _

namespace Operator

variable {operator : Operator} {found expected : Value}

theorem Takes.isScalar (h : operator.Takes expected) : expected.IsScalar := by
  cases h with
  | bool _ b => exact .bool b
  | int n => exact .number rfl
  | @float x hx =>
      cases x with
      | finite negative size => exact .number rfl
      | _ => cases hx
  | text s => exact .text s

/-- A value that an order takes is comparable. -/
theorem Takes.comparable (h : operator.Takes expected)
    (horder : operator ∉ [.equal, .notEqual, .contains]) : expected.Comparable expected := by
  cases h with
  | bool hequality b => exact absurd hequality horder
  | int n => exact .numbers (.int n) (.int n)
  | @float x hx =>
      have hnumber : (Value.float x).IsNumber := by
        refine .float ?_
        rintro rfl
        cases hx
      exact .numbers hnumber hnumber
  | text s => exact .texts s s

theorem Judges.isSingle (h : operator.Judges found) (hother : operator ≠ .contains) :
    found.IsSingle :=
  ⟨h.notNaN, fun items hitems => hother (h.list items hitems).1⟩

end Operator

namespace QueryEngine

variable (engine : QueryEngine) {operator : Operator} {found : Option Value} {expected : Value}

/-- What is found passes the test of an operator just if the operator holds for it. -/
theorem passes_test_iff (htakes : operator.Takes expected)
    (hjudges : ∀ v, found = some v → operator.Judges v) :
    (∀ test ∈ operator.test expected, engine.Passes found test.1 test.2) ↔
      ∃ v, found = some v ∧ operator.holds v expected = true := by
  have hscalar := htakes.isScalar
  have hsingle (hother : operator ≠ .contains) : ∀ v, found = some v → v.IsSingle :=
    fun v hv => (hjudges v hv).isSingle hother
  -- On the side of the store the operator is read as its relation.
  have heach {holds : Value → Prop} (h : ∀ v, operator.holds v expected = true ↔ holds v) :
      (∃ v, found = some v ∧ operator.holds v expected = true) ↔ ∃ v, found = some v ∧ holds v :=
    exists_congr fun v => and_congr_right fun _ => h v
  cases operator with
  | equal =>
      rw [Operator.test, List.forall_mem_singleton, heach fun _ => Operator.holds_equal_iff hscalar]
      exact engine.eq_iff (hsingle (by decide)) hscalar
  | notEqual =>
      rw [Operator.test, List.forall_mem_cons, List.forall_mem_singleton, engine.exists_iff,
        engine.ne_iff, engine.eq_iff (hsingle (by decide)) hscalar, heach fun _ =>
        Operator.holds_notEqual_iff.trans (not_congr (Operator.holds_equal_iff hscalar))]
      constructor
      · rintro ⟨⟨v, hv⟩, hnot⟩
        exact ⟨v, hv, fun hsame => hnot ⟨v, hv, hsame⟩⟩
      · rintro ⟨v, hv, hnot⟩
        -- The path leads to one value at most, so there is no other one that could be equal.
        refine ⟨⟨v, hv⟩, ?_⟩
        rintro ⟨w, hw, hsame⟩
        obtain rfl := Option.some.inj (hv.symm.trans hw)
        exact hnot hsame
  | greater =>
      rw [Operator.test, List.forall_mem_singleton, heach fun _ => Operator.holds_greater_iff]
      exact engine.gt_iff (hsingle (by decide)) (htakes.comparable (by decide))
  | less =>
      rw [Operator.test, List.forall_mem_singleton, heach fun _ => Operator.holds_less_iff]
      exact engine.lt_iff (hsingle (by decide)) (htakes.comparable (by decide))
  | greaterOrEqual =>
      rw [Operator.test, List.forall_mem_singleton,
        heach fun _ => Operator.holds_greaterOrEqual_iff]
      exact engine.gte_iff (hsingle (by decide)) (htakes.comparable (by decide))
  | lessOrEqual =>
      rw [Operator.test, List.forall_mem_singleton, heach fun _ => Operator.holds_lessOrEqual_iff]
      exact engine.lte_iff (hsingle (by decide)) (htakes.comparable (by decide))
  | contains =>
      have hitems : ∀ items, found = some (.arr items) → ∀ item ∈ items, item.IsSingle :=
        fun items hfound => ((hjudges _ hfound).list items rfl).2
      rw [Operator.test, List.forall_mem_singleton, engine.elemMatch_iff hitems hscalar,
        heach fun _ => Operator.holds_contains_iff hscalar]
      constructor
      · rintro ⟨items, hfound, hitem⟩
        exact ⟨_, hfound, items, rfl, hitem⟩
      · rintro ⟨_, hfound, items, rfl, hitem⟩
        exact ⟨items, hfound, hitem⟩

/-- A clause on the path of a condition selects the documents that the store accepts for it. -/
theorem selects_clause_iff {f : Filter} {d : Document} (hf : f.IsProper) (hd : f.Suits d) :
    engine.Selects d.fields [(f.field, .obj (f.operator.test f.value))] ↔ f.accepts d = true := by
  have hfound (v : Value) : (Value.obj d.fields).along? (pathSegments f.field) = some v ↔
      (Value.obj d.fields).LeadsTo (pathSegments f.field) v := Value.along?_eq_some_iff
  rw [engine.clause_iff hf.isFieldPath (isPath_pathSegments f.field hf.segments) hd.names hd.way
    hfound, engine.passes_test_iff hf.takes fun v hv => hd.judges ((hfound v).mp hv),
    Filter.accepts, Document.valueAt?, if_neg hf.notId]
  cases (Value.obj d.fields).along? (pathSegments f.field) with
  | none => simp
  | some v => simp

end QueryEngine

/-! ## Listings -/

theorem Value.asStoredId_eq {reading : ObjectId.Reading} {v : Value}
    (h : ∀ s, v = .str s → reading.read? s = none) : v.asStoredId reading = v := by
  cases v with
  | str s => exact asStoredId_of_read?_eq_none (h s rfl)
  | _ => rfl

/-- A condition is turned into a clause on its own path and with its own value, unless it is about
the id of the document, or about the field of the stored ids and a text that is taken for an object
id. -/
theorem Filter.clause_eq {reading : ObjectId.Reading} {f : Filter} (hnotId : f.field ≠ "id")
    (hid : f.field = storedIdField → ∀ s, f.value = .str s → reading.read? s = none) :
    f.clause reading = [(f.field, .obj (f.operator.test f.value))] := by
  have hfield : f.storedField = f.field := if_neg hnotId
  have hvalue : f.storedValue reading = f.value := by
    rw [Filter.storedValue, hfield]
    split
    · rename_i h
      exact Value.asStoredId_eq (hid h)
    · rfl
  rw [Filter.clause, hfield, hvalue]

/-- Whatever texts its library takes for object ids, a database selects the documents that the store
accepts.  With a cursor as well it is asked for both, and of those documents it selects the ones
that lie behind the cursor.  The condition must not be about the field of the stored ids and a text
that is taken for an object id. -/
theorem database_selects_accepted (reading : ObjectId.Reading) (engine : QueryEngine) (f : Filter)
    (d : Document) (hf : f.IsProper) (hd : f.Suits d)
    (hid : f.field = storedIdField → ∀ s, f.value = .str s → reading.read? s = none) :
    (engine.Selects d.fields (listingQuery reading (some f) none) ↔ f.accepts d = true) ∧
    ∀ cursor, listingQuery reading (some f) (some cursor) =
        [("$and", .arr [.obj (listingQuery reading (some f) none),
          .obj [(storedIdField, .obj [("$gt", cursor.asStoredId reading)])]])] ∧
      (engine.Selects d.fields (listingQuery reading (some f) (some cursor)) ↔
        f.accepts d = true ∧
          engine.Selects d.fields (listingQuery reading none (some cursor))) := by
  have hquery : engine.Selects d.fields (listingQuery reading (some f) none) ↔
      f.accepts d = true := by
    rw [listingQuery_filter, f.clause_eq hf.notId hid]
    exact engine.selects_clause_iff hf hd
  refine ⟨hquery, fun cursor => ⟨rfl, ?_⟩⟩
  rw [← hquery]
  exact engine.and_iff

/-- A document with a list inside a record, under a number. -/
def taggedOrder : Document :=
  ⟨"8", [("_id", .int 8), ("order", .obj [("tags", .arr [.str "new", .str "paid"])])]⟩

/-- A condition on the items of that list. -/
def paidFilter : Filter :=
  ⟨"order.tags", .contains, .str "paid"⟩

/-- The document is selected for an item of its list, and behind a lesser number as well. -/
theorem tagged_order_is_selected :
    QueryEngine.documented.Selects taggedOrder.fields
        (listingQuery .loose (some paidFilter) none) ∧
      QueryEngine.documented.Selects taggedOrder.fields
        (listingQuery .loose (some paidFilter) (some (.int 7))) := by
  have hsegments : pathSegments paidFilter.field = ["order", "tags"] := by decide +kernel
  have haccepted : paidFilter.accepts taggedOrder = true := by decide +kernel
  have hproper : paidFilter.IsProper := ⟨by decide +kernel, by decide, by decide +kernel, .text _ _⟩
  have hsuits : paidFilter.Suits taggedOrder := by
    refine ⟨by decide +kernel, by decide +kernel, ?_, ?_⟩
    · rw [hsegments]
      rintro ⟨front, name, rest, items, hnames, hlist⟩
      rw [← Value.along?_eq_some_iff] at hlist
      rcases front with _ | ⟨first, _ | ⟨second, more⟩⟩
      · cases hlist
      · obtain rfl : "order" = first := (List.cons.inj hnames).1
        cases hlist
      · simp at hnames
    · intro items hlist
      rw [hsegments, ← Value.along?_eq_some_iff] at hlist
      cases hlist
      refine ⟨rfl, ?_⟩
      rintro item hitem inner rfl
      simp at hitem
  have hbehind : QueryEngine.documented.Selects taggedOrder.fields
      (listingQuery .loose none (some (.int 7))) := by
    refine @QueryEngine.Documented.clause _ _ _ _ (some (.int 8))
      (.last ⟨by decide, by decide +kernel⟩) (fun v => ?_) ?_
    · rw [← Value.along?_eq_some_iff]
      rfl
    · exact List.forall_mem_singleton.mpr ⟨_, rfl, Value.less_eq_true_iff.mp (by decide +kernel)⟩
  obtain ⟨hselected, hcursor⟩ := database_selects_accepted .loose .documented paidFilter
    taggedOrder hproper hsuits fun h => absurd h (by decide)
  exact ⟨hselected.mpr haccepted, (hcursor (.int 7)).2.mpr ⟨haccepted, hbehind⟩⟩

/-- A condition on the field of the stored ids with a text that names an object id. -/
def idTextFilter : Filter :=
  ⟨"_id", .equal, .str "0123456789abcdef01234567"⟩

/-- A document with just that text there. -/
def idTextDocument : Document :=
  ⟨"n1", [("_id", .str "0123456789abcdef01234567")]⟩

/-- The store accepts the document, and no database selects it: it is asked for the object id,
whatever else its library takes for one. -/
theorem id_text_is_not_selected :
    idTextFilter.IsProper ∧ idTextFilter.Suits idTextDocument ∧
      idTextFilter.accepts idTextDocument = true ∧
      ∀ (reading : ObjectId.Reading) (engine : QueryEngine),
        ¬ engine.Selects idTextDocument.fields (listingQuery reading (some idTextFilter) none) := by
  have hsegments : pathSegments idTextFilter.field = ["_id"] := by decide +kernel
  have hproper : idTextFilter.IsProper :=
    ⟨by decide +kernel, by decide, by decide +kernel, .text _ _⟩
  have hsuits : idTextFilter.Suits idTextDocument := by
    refine ⟨by decide +kernel, by decide +kernel, ?_, ?_⟩
    · rw [hsegments]
      rintro ⟨front, name, rest, items, hnames, hlist⟩
      rw [← Value.along?_eq_some_iff] at hlist
      rcases front with _ | ⟨first, more⟩
      · cases hlist
      · simp at hnames
    · intro items hlist
      rw [hsegments, ← Value.along?_eq_some_iff] at hlist
      cases hlist
  refine ⟨hproper, hsuits, by decide +kernel, fun reading engine hselected => ?_⟩
  have hstored : idTextFilter.storedValue reading = .objectId "0123456789abcdef01234567" :=
    Value.asStoredId_of_read? (ObjectId.IsWritten.read?_eq (by decide +kernel) reading)
  have hclause : idTextFilter.clause reading =
      [(idTextFilter.field, .obj [("$eq", .objectId "0123456789abcdef01234567")])] := by
    rw [Filter.clause, hstored]
    rfl
  have hfound (v : Value) : some (Value.str "0123456789abcdef01234567") = some v ↔
      (Value.obj idTextDocument.fields).LeadsTo (pathSegments idTextFilter.field) v := by
    rw [hsegments, ← Value.along?_eq_some_iff]
    rfl
  have hsingle : ∀ v, some (Value.str "0123456789abcdef01234567") = some v → v.IsSingle := by
    rintro v ⟨⟩
    exact ⟨Value.noConfusion, fun _ => Value.noConfusion⟩
  rw [listingQuery_filter, hclause, engine.clause_iff hproper.isFieldPath
    (isPath_pathSegments _ hproper.segments) hsuits.names hsuits.way hfound,
    List.forall_mem_singleton, engine.eq_iff hsingle (.objectId _)] at hselected
  obtain ⟨v, hv, hsame⟩ := hselected
  cases hv
  cases hsame with
  | numbers hplace => cases hplace

end DocConsole
