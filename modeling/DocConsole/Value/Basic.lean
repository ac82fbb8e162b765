import DocConsole.Number.Binary64
import DocConsole.Value.Moment

/-!
# Values of a document

A document is a record of named fields, in order, whose values nest to any depth.  Whole numbers
and binary64 numbers are different values.  Main statements: setting a field gives exactly that
value back, leaves every other field as it was, and keeps the order of the names; merging records
sets every name of the second one and leaves the others.
-/

set_option autoImplicit false

namespace DocConsole

/-- A value that a document field can hold. -/
inductive Value where
  /-- The empty value. -/
  | null
  /-- A truth value. -/
  | bool (b : Bool)
  /-- A whole number of any size. -/
  | int (n : Int)
  /-- A binary64 number. -/
  | float (x : Binary64)
  /-- A text. -/
  | str (s : String)
  /-- A point in time. -/
  | moment (m : Moment)
  /-- A calendar day. -/
  | day (d : Day)
  /-- An object id, as its lower-case hexadecimal digits. -/
  | objectId (hex : String)
  /-- A list of values. -/
  | arr (items : List Value)
  /-- A record: names with their values, in order. -/
  | obj (fields : List (String × Value))

/-- The fields of a record: names with their values, in order. -/
abbrev Fields := List (String × Value)

/-! ## Equality of representations -/

mutual

/-- Whether two values are written the same. -/
def Value.decEq : (a b : Value) → Decidable (a = b)
  | .null, .null => isTrue rfl
  | .bool a, .bool b => decidable_of_iff (a = b) (by simp)
  | .int a, .int b => decidable_of_iff (a = b) (by simp)
  | .float a, .float b => decidable_of_iff (a = b) (by simp)
  | .str a, .str b => decidable_of_iff (a = b) (by simp)
  | .moment a, .moment b => decidable_of_iff (a = b) (by simp)
  | .day a, .day b => decidable_of_iff (a = b) (by simp)
  | .objectId a, .objectId b => decidable_of_iff (a = b) (by simp)
  | .arr a, .arr b =>
      match Value.decEqItems a b with
      | isTrue h => isTrue (by rw [h])
      | isFalse h => isFalse (by simpa using h)
  | .obj a, .obj b =>
      match Value.decEqFields a b with
      | isTrue h => isTrue (by rw [h])
      | isFalse h => isFalse (by simpa using h)
  | .null, .bool _ | .null, .int _ | .null, .float _ | .null, .str _ | .null, .moment _
  | .null, .day _ | .null, .objectId _ | .null, .arr _ | .null, .obj _
  | .bool _, .null | .bool _, .int _ | .bool _, .float _ | .bool _, .str _ | .bool _, .moment _
  | .bool _, .day _ | .bool _, .objectId _ | .bool _, .arr _ | .bool _, .obj _
  | .int _, .null | .int _, .bool _ | .int _, .float _ | .int _, .str _ | .int _, .moment _
  | .int _, .day _ | .int _, .objectId _ | .int _, .arr _ | .int _, .obj _
  | .float _, .null | .float _, .bool _ | .float _, .int _ | .float _, .str _
  | .float _, .moment _ | .float _, .day _ | .float _, .objectId _ | .float _, .arr _
  | .float _, .obj _
  | .str _, .null | .str _, .bool _ | .str _, .int _ | .str _, .float _ | .str _, .moment _
  | .str _, .day _ | .str _, .objectId _ | .str _, .arr _ | .str _, .obj _
  | .moment _, .null | .moment _, .bool _ | .moment _, .int _ | .moment _, .float _
  | .moment _, .str _ | .moment _, .day _ | .moment _, .objectId _ | .moment _, .arr _
  | .moment _, .obj _
  | .day _, .null | .day _, .bool _ | .day _, .int _ | .day _, .float _ | .day _, .str _
  | .day _, .moment _ | .day _, .objectId _ | .day _, .arr _ | .day _, .obj _
  | .objectId _, .null | .objectId _, .bool _ | .objectId _, .int _ | .objectId _, .float _
  | .objectId _, .str _ | .objectId _, .moment _ | .objectId _, .day _ | .objectId _, .arr _
  | .objectId _, .obj _
  | .arr _, .null | .arr _, .bool _ | .arr _, .int _ | .arr _, .float _ | .arr _, .str _
  | .arr _, .moment _ | .arr _, .day _ | .arr _, .objectId _ | .arr _, .obj _
  | .obj _, .null | .obj _, .bool _ | .obj _, .int _ | .obj _, .float _ | .obj _, .str _
  | .obj _, .moment _ | .obj _, .day _ | .obj _, .objectId _ | .obj _, .arr _ =>
      isFalse (by simp)

/-- Whether two lists of values are written the same. -/
def Value.decEqItems : (a b : List Value) → Decidable (a = b)
  | [], [] => isTrue rfl
  | [], _ :: _ | _ :: _, [] => isFalse (by simp)
  | x :: xs, y :: ys =>
      match Value.decEq x y, Value.decEqItems xs ys with
      | isTrue hx, isTrue hxs => isTrue (by rw [hx, hxs])
      | isFalse h, _ => isFalse (by simp [h])
      | _, isFalse h => isFalse (by simp [h])

/-- Whether two lists of fields are written the same. -/
def Value.decEqFields : (a b : List (String × Value)) → Decidable (a = b)
  | [], [] => isTrue rfl
  | [], _ :: _ | _ :: _, [] => isFalse (by simp)
  | (name, x) :: xs, (name', y) :: ys =>
      match Value.decEq x y, Value.decEqFields xs ys with
      | isTrue hx, isTrue hxs =>
          if h : name = name' then isTrue (by rw [hx, hxs, h]) else isFalse (by simp [h])
      | isFalse h, _ => isFalse (by simp [h])
      | _, isFalse h => isFalse (by simp [h])

end

instance : DecidableEq Value := Value.decEq

/-! ## Fields of a record -/

namespace Fields

/-- The value of a field. -/
def get? (fields : Fields) (name : String) : Option Value :=
  fields.lookup name

/-- The names in order. -/
def names (fields : Fields) : List String :=
  fields.map (·.1)

/-- A field set to a value: in its place when there is one of the name, at the end otherwise. -/
def set : Fields → String → Value → Fields
  | [], name, value => [(name, value)]
  | (name', value') :: rest, name, value =>
      if name' = name then (name, value) :: rest else (name', value') :: set rest name value

/-- All fields of a second record set one after the other. -/
def merge (fields changes : Fields) : Fields :=
  changes.foldl (fun acc change => set acc change.1 change.2) fields

/-- A record from names with values: a name that comes again keeps its first place and takes the
last value. -/
def ofPairs (pairs : List (String × Value)) : Fields :=
  merge [] pairs

theorem get?_set (fields : Fields) (name : String) (value : Value) (name' : String) :
    get? (set fields name value) name' =
      if name' = name then some value else get? fields name' := by
  induction fields with
  | nil => simp only [set, get?, List.lookup_cons, List.lookup_nil]; split <;> split <;> simp_all
  | cons field rest ih =>
    obtain ⟨key, old⟩ := field
    simp only [set]
    split
    · rename_i h
      subst h
      simp only [get?, List.lookup_cons]
      by_cases h : name' = key
      · simp [h]
      · have : (name' == key) = false := by simpa using h
        simp [this, h]
    · rename_i h
      simp only [get?, List.lookup_cons] at ih ⊢
      by_cases h' : name' = key
      · subst h'
        simp [h]
      · have : (name' == key) = false := by simpa using h'
        simp only [this]
        exact ih

theorem names_set (fields : Fields) (name : String) (value : Value) :
    names (set fields name value) =
      if name ∈ names fields then names fields else names fields ++ [name] := by
  induction fields with
  | nil => simp [set, names]
  | cons field rest ih =>
    obtain ⟨key, old⟩ := field
    simp only [set]
    split
    · rename_i h
      simp [names, h]
    · rename_i h
      simp only [names, List.map_cons, List.mem_cons] at ih ⊢
      rw [ih]
      have hdiffers : name ≠ key := fun e => h e.symm
      by_cases hknown : name ∈ List.map (fun field => field.1) rest <;> simp [hdiffers, hknown]

/-- A field that is set is the only new one. -/
theorem mem_of_mem_set {fields : Fields} {name : String} {value : Value} {field : String × Value}
    (h : field ∈ set fields name value) : field ∈ fields ∨ field = (name, value) := by
  induction fields with
  | nil => exact .inr (List.mem_singleton.mp h)
  | cons first rest ih =>
    rw [set] at h
    split at h
    · rcases List.mem_cons.mp h with rfl | hrest
      · exact .inr rfl
      · exact .inl (List.mem_cons_of_mem first hrest)
    · rcases List.mem_cons.mp h with rfl | hrest
      · exact .inl List.mem_cons_self
      · exact (ih hrest).imp_left (List.mem_cons_of_mem first)

/-- The fields of a merged record come from one of the two records. -/
theorem mem_of_mem_merge {fields changes : Fields} {field : String × Value}
    (h : field ∈ merge fields changes) : field ∈ fields ∨ field ∈ changes := by
  induction changes generalizing fields with
  | nil => exact .inl h
  | cons change rest ih =>
    rcases ih h with hset | hrest
    · rcases mem_of_mem_set hset with hold | rfl
      · exact .inl hold
      · exact .inr List.mem_cons_self
    · exact .inr (List.mem_cons_of_mem change hrest)

/-- A name has the last of the values that the changes give it, and otherwise the one it had. -/
theorem get?_merge (fields changes : Fields) (name : String) :
    get? (merge fields changes) name = (get? changes.reverse name).or (get? fields name) := by
  induction changes generalizing fields with
  | nil => rfl
  | cons change rest ih =>
    have hlast : get? [change] name = if name = change.1 then some change.2 else none := by
      rw [get?, List.lookup_cons, List.lookup_nil]
      by_cases hname : name = change.1
      · rw [if_pos hname, hname, beq_self_eq_true]
      · rw [if_neg hname, beq_false_of_ne hname]
    have hreverse : get? (change :: rest).reverse name =
        (get? rest.reverse name).or (get? [change] name) := by
      rw [List.reverse_cons, get?, List.lookup_append]
      rfl
    have hmerge : merge fields (change :: rest) = merge (set fields change.1 change.2) rest := rfl
    rw [hmerge, ih, get?_set, hreverse, hlast, Option.or_assoc]
    split
    · rfl
    · rfl

end Fields

end DocConsole
