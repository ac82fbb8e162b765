import DocConsole.Proofs.Number.Rounding
import DocConsole.Value.Comparison
import Mathlib.Algebra.Order.Field.Rat
import Mathlib.Algebra.Order.Ring.Cast
import Mathlib.Data.String.Basic
import Mathlib.Order.WithBot

/-!
# The order of numbers and texts

Numbers are compared by where they lie: a whole number or a finite binary64 number at an exact
fraction, the infinities beyond all fractions, and NaN nowhere.  Texts are compared by code points.
Between any other two values there is no order.  Main statements: the strict comparison and the one
with equality are these orders, without any rounding, and equality with a truth value, a number, a
text or an object id is equality of what the two values stand for.
-/

set_option autoImplicit false

namespace DocConsole

/-! ## Places of numbers -/

/-- The places of numbers: all fractions, and one place beyond them on either side. -/
abbrev Place := WithBot (WithTop ℚ)

namespace Binary64

/-- The place of a number; NaN has none. -/
def place? : Binary64 → Option Place
  | .nan => none
  | .infinity negative => some (if negative then ⊥ else ⊤)
  | .finite negative size =>
      let distance : ℚ := size.units / unitsPerOne
      some ((if negative then -distance else distance : ℚ) : WithTop ℚ)

/-- The place that an extent stands for. -/
def Extent.place : Extent → Place
  | .bottom => ⊥
  | .point units => ((units / unitsPerOne : ℚ) : WithTop ℚ)
  | .top => ⊤

theorem cast_unitsPerOne_pos : (0 : ℚ) < unitsPerOne :=
  Nat.cast_pos.mpr unitsPerOne_pos

/-- An extent is less than another just if it lies at a lower place. -/
theorem Extent.less_iff {x y : Extent} : x.less y = true ↔ x.place < y.place := by
  cases x with
  | bottom =>
      cases y with
      | bottom => exact iff_of_false Bool.false_ne_true (lt_irrefl _)
      | point units => exact iff_of_true rfl (WithBot.bot_lt_coe _)
      | top => exact iff_of_true rfl (WithBot.bot_lt_coe _)
  | point units =>
      cases y with
      | bottom => exact iff_of_false Bool.false_ne_true not_lt_bot
      | point units' =>
          simp only [less, place, decide_eq_true_eq, WithBot.coe_lt_coe, WithTop.coe_lt_coe]
          rw [div_lt_div_iff_of_pos_right cast_unitsPerOne_pos, Int.cast_lt]
      | top => exact iff_of_true rfl (WithBot.coe_lt_coe.mpr (WithTop.coe_lt_top _))
  | top =>
      refine iff_of_false ?_ not_top_lt
      cases y <;> exact Bool.false_ne_true

theorem Extent.place_injective : Function.Injective Extent.place := by
  intro x y h
  have hless : x.less y = false ∧ y.less x = false := by
    rw [← Bool.not_eq_true, ← Bool.not_eq_true, less_iff, less_iff, h]
    exact ⟨lt_irrefl _, lt_irrefl _⟩
  cases x <;> cases y <;> simp_all [less]
  omega

theorem place?_eq_map (x : Binary64) : x.place? = x.extent?.map Extent.place := by
  cases x with
  | nan => rfl
  | infinity negative => cases negative <;> rfl
  | finite negative size =>
      have hunits :
          (if negative then -(size.units / unitsPerOne : ℚ) else size.units / unitsPerOne) =
          ((if negative then -size.units else size.units : Int) : ℚ) / unitsPerOne := by
        split
        · rw [Int.cast_neg, Int.cast_natCast, neg_div]
        · rw [Int.cast_natCast]
      exact congrArg (fun q : ℚ => some ((q : WithTop ℚ) : Place)) hunits

theorem place_extentOfInt (n : Int) : (extentOfInt n).place = ((n : ℚ) : WithTop ℚ) := by
  rw [extentOfInt, Extent.place, Int.cast_mul, Int.cast_natCast,
    mul_div_cancel_right₀ _ (ne_of_gt cast_unitsPerOne_pos)]

theorem extentOfInt_injective : Function.Injective extentOfInt := by
  intro n m h
  injection h with hunits
  exact Int.eq_of_mul_eq_mul_right (Int.natCast_ne_zero.mpr (Nat.ne_of_gt unitsPerOne_pos)) hunits

end Binary64

namespace Value

open Binary64

/-- The place of a number; no other value has one. -/
def place? : Value → Option Place
  | .int n => some ((n : ℚ) : WithTop ℚ)
  | .float x => x.place?
  | _ => none

/-! ## The orders -/

/-- One value comes before another: both are numbers or both are texts. -/
inductive Lt : Value → Value → Prop where
  /-- A number lies at a lower place than another one. -/
  | numbers {a b : Value} {x y : Place} (ha : a.place? = some x) (hb : b.place? = some y)
      (h : x < y) : Lt a b
  /-- A text comes before another one, by code points. -/
  | texts {s t : String} (h : s < t) : Lt (.str s) (.str t)

/-- One value comes before another or stands for the same: both are numbers or both are texts. -/
inductive Le : Value → Value → Prop where
  /-- A number does not lie at a higher place than another one. -/
  | numbers {a b : Value} {x y : Place} (ha : a.place? = some x) (hb : b.place? = some y)
      (h : x ≤ y) : Le a b
  /-- A text does not come behind another one, by code points. -/
  | texts {s t : String} (h : s ≤ t) : Le (.str s) (.str t)

/-- Two values of one kind stand for the same: two numbers at one place, or the same truth value,
text or object id. -/
inductive Same : Value → Value → Prop where
  | bool (b : Bool) : Same (.bool b) (.bool b)
  | numbers {a b : Value} {x : Place} (ha : a.place? = some x) (hb : b.place? = some x) : Same a b
  | text (s : String) : Same (.str s) (.str s)
  | objectId (hex : String) : Same (.objectId hex) (.objectId hex)

/-- A whole number, or a binary64 number other than NaN. -/
inductive IsNumber : Value → Prop where
  | int (n : Int) : IsNumber (.int n)
  | float {x : Binary64} (h : x ≠ .nan) : IsNumber (.float x)

/-- Two values with an order between them: two numbers other than NaN, or two texts. -/
inductive Comparable : Value → Value → Prop where
  | numbers {a b : Value} (ha : a.IsNumber) (hb : b.IsNumber) : Comparable a b
  | texts (s t : String) : Comparable (.str s) (.str t)

/-- A value that is compared as what it stands for: a truth value, a number other than NaN, a text
or an object id. -/
inductive IsScalar : Value → Prop where
  | bool (b : Bool) : IsScalar (.bool b)
  | number {a : Value} {x : Place} (h : a.place? = some x) : IsScalar a
  | text (s : String) : IsScalar (.str s)
  | objectId (hex : String) : IsScalar (.objectId hex)

variable {a b c : Value} {x y : Place}

theorem kind_of_place? (h : a.place? = some x) : a.kind = .number := by
  cases a <;> first | rfl | cases h

/-- Numbers lie where their extents are. -/
theorem place?_eq_map (h : a.kind = .number) : a.place? = a.extent?.map Extent.place := by
  cases a with
  | int n => exact congrArg some (place_extentOfInt n).symm
  | float x => exact x.place?_eq_map
  | _ => cases h

theorem exists_extent_of_place? (h : a.place? = some x) :
    ∃ e, a.extent? = some e ∧ e.place = x := by
  rw [place?_eq_map (kind_of_place? h), Option.map_eq_some_iff] at h
  exact h

theorem place?_of_extent? {e : Extent} (hkind : a.kind = .number) (h : a.extent? = some e) :
    a.place? = some e.place := by
  rw [place?_eq_map hkind, h, Option.map_some]

theorem kind_of_extent? {e : Extent} (h : a.extent? = some e) :
    a.kind = .boolean ∨ a.kind = .number := by
  cases a with
  | bool b => exact .inl rfl
  | int n => exact .inr rfl
  | float x => exact .inr rfl
  | _ => cases h

/-! ## The comparisons -/

theorem less_eq_of_kind (ha : a.kind = .number) (hb : b.kind = .number) :
    a.less b = match a.extent?, b.extent? with
      | some x, some y => x.less y
      | _, _ => false := by
  cases a <;> cases ha <;> cases b <;> cases hb <;> rfl

theorem less_eq_true_iff : a.less b = true ↔ a.Lt b := by
  constructor
  · intro h
    unfold less at h
    split at h
    · exact .texts (of_decide_eq_true h)
    · cases h
    · cases h
    · rename_i hbool hbool' _
      split at h
      · rename_i e e' he he'
        have ha : a.kind = .number := (kind_of_extent? he).resolve_left fun hkind => by
          cases a <;> first | exact absurd rfl (hbool _) | cases hkind
        have hb : b.kind = .number := (kind_of_extent? he').resolve_left fun hkind => by
          cases b <;> first | exact absurd rfl (hbool' _) | cases hkind
        exact .numbers (place?_of_extent? ha he) (place?_of_extent? hb he') (Extent.less_iff.mp h)
      · cases h
  · intro h
    cases h with
    | texts h => exact decide_eq_true h
    | numbers ha hb h =>
        obtain ⟨e, he, rfl⟩ := exists_extent_of_place? ha
        obtain ⟨e', he', rfl⟩ := exists_extent_of_place? hb
        rw [less_eq_of_kind (kind_of_place? ha) (kind_of_place? hb), he, he']
        exact Extent.less_iff.mpr h

theorem sameExtent_eq_true_iff :
    sameExtent a b = true ↔ ∃ e, a.extent? = some e ∧ b.extent? = some e := by
  unfold sameExtent
  constructor
  · intro h
    split at h
    · rename_i e e' he he'
      exact ⟨e, he, he'.trans (congrArg some (beq_iff_eq.mp h).symm)⟩
    · cases h
  · rintro ⟨e, he, he'⟩
    rw [he, he']
    exact beq_self_eq_true e

theorem alike_eq_of_kind (ha : a.kind = .number) : a.alike b = sameExtent a b := by
  cases a <;> cases ha <;> cases b <;> rfl

theorem equal_numbers_iff (ha : a.kind = .number) :
    a.equal b = true ↔ ∃ x, a.place? = some x ∧ b.place? = some x := by
  rw [equal, Bool.and_eq_true, beq_iff_eq, alike_eq_of_kind ha, sameExtent_eq_true_iff, ha]
  constructor
  · rintro ⟨hb, e, he, he'⟩
    exact ⟨e.place, place?_of_extent? ha he, place?_of_extent? hb.symm he'⟩
  · rintro ⟨x, hx, hx'⟩
    obtain ⟨e, he, rfl⟩ := exists_extent_of_place? hx
    obtain ⟨e', he', hplace⟩ := exists_extent_of_place? hx'
    obtain rfl := Extent.place_injective hplace
    exact ⟨(kind_of_place? hx').symm, e', he, he'⟩

theorem equal_bool_iff {v : Bool} : a.equal (.bool v) = true ↔ a = .bool v := by
  constructor
  · intro h
    rw [equal, Bool.and_eq_true, beq_iff_eq] at h
    obtain ⟨hkind, halike⟩ := h
    cases a with
    | bool u =>
        have hsame : sameExtent (.bool u) (.bool v) = true := halike
        obtain ⟨e, hu, hv⟩ := sameExtent_eq_true_iff.mp hsame
        have hint := extentOfInt_injective (Option.some.inj (hu.trans hv.symm))
        cases u <;> cases v <;> first | rfl | cases hint
    | _ => cases hkind
  · rintro rfl
    have hsame : sameExtent (.bool v) (.bool v) = true := sameExtent_eq_true_iff.mpr ⟨_, rfl, rfl⟩
    rw [equal, beq_self_eq_true, Bool.true_and]
    exact hsame

theorem equal_str_iff {s : String} : a.equal (.str s) = true ↔ a = .str s := by
  cases a <;> simp [equal, kind, alike]

theorem equal_objectId_iff {hex : String} : a.equal (.objectId hex) = true ↔ a = .objectId hex := by
  cases a <;> simp [equal, kind, alike]

/-- A value that is no number stands for the same only as itself. -/
theorem same_iff_eq (hb : b.IsScalar) (hplace : b.place? = none) : a.Same b ↔ a = b := by
  constructor
  · intro h
    cases h with
    | numbers _ hb' => cases hplace.symm.trans hb'
    | _ => rfl
  · rintro rfl
    cases hb with
    | bool v => exact .bool v
    | number hb' => cases hplace.symm.trans hb'
    | text s => exact .text s
    | objectId hex => exact .objectId hex

/-- Equality with a truth value, a number, a text or an object id is equality of what the two values
stand for. -/
theorem equal_eq_true_iff (hb : b.IsScalar) : a.equal b = true ↔ a.Same b := by
  cases hb with
  | bool v => rw [equal_bool_iff, same_iff_eq (.bool v) rfl]
  | text s => rw [equal_str_iff, same_iff_eq (.text s) rfl]
  | objectId hex => rw [equal_objectId_iff, same_iff_eq (.objectId hex) rfl]
  | number hb =>
      have hkind := kind_of_place? hb
      constructor
      · intro h
        have ha : a.kind = .number := by
          rw [equal, Bool.and_eq_true, beq_iff_eq, hkind] at h
          exact h.1
        obtain ⟨x, hx, hx'⟩ := (equal_numbers_iff ha).mp h
        exact .numbers hx hx'
      · intro h
        cases h with
        | numbers hx hx' => exact (equal_numbers_iff (kind_of_place? hx)).mpr ⟨_, hx, hx'⟩
        | _ => cases hkind

theorem Lt.le (h : a.Lt b) : a.Le b := by
  cases h with
  | numbers ha hb hxy => exact .numbers ha hb (le_of_lt hxy)
  | texts hst => exact .texts (le_of_lt hst)

theorem Le.lt_or_same (h : a.Le b) : a.Lt b ∨ a.Same b := by
  cases h with
  | numbers ha hb hxy =>
      rcases lt_or_eq_of_le hxy with hxy | rfl
      · exact .inl (.numbers ha hb hxy)
      · exact .inr (.numbers ha hb)
  | texts hst =>
      rcases lt_or_eq_of_le hst with hst | rfl
      · exact .inl (.texts hst)
      · exact .inr (.text _)

theorem Le.kind (h : a.Le b) : a.kind = .number ∨ a.kind = .text := by
  cases h with
  | numbers ha _ _ => exact .inl (kind_of_place? ha)
  | texts _ => exact .inr rfl

theorem Same.isScalar (h : a.Same b) : b.IsScalar := by
  cases h with
  | bool v => exact .bool v
  | numbers _ hb => exact .number hb
  | text s => exact .text s
  | objectId hex => exact .objectId hex

/-- Equal numbers and equal texts are in order. -/
theorem le_of_equal (hkind : a.kind = .number ∨ a.kind = .text) (h : a.equal b = true) :
    a.Le b := by
  rcases hkind with hkind | hkind
  · obtain ⟨x, ha, hb⟩ := (equal_numbers_iff hkind).mp h
    exact .numbers ha hb le_rfl
  · cases a with
    | str s =>
        have hb : b = .str s := by
          cases b <;> simp_all [equal, Value.kind, alike]
        subst hb
        exact .texts le_rfl
    | _ => cases hkind

/-- Comparing with equality is the order with equality. -/
theorem lessOrEqual_eq_true_iff : a.lessOrEqual b = true ↔ a.Le b := by
  rw [lessOrEqual, Bool.and_eq_true, Bool.or_eq_true, Bool.or_eq_true, beq_iff_eq, beq_iff_eq,
    less_eq_true_iff]
  constructor
  · rintro ⟨hkind, hlt | hequal⟩
    · exact hlt.le
    · exact le_of_equal hkind hequal
  · intro h
    exact ⟨h.kind, h.lt_or_same.imp_right fun hsame =>
      (equal_eq_true_iff hsame.isScalar).mpr hsame⟩

/-! ## Laws of the orders -/

theorem isNumber_iff : a.IsNumber ↔ ∃ x, a.place? = some x := by
  constructor
  · intro h
    cases h with
    | int n => exact ⟨_, rfl⟩
    | @float x hx =>
        cases x with
        | nan => exact absurd rfl hx
        | infinity negative => exact ⟨_, rfl⟩
        | finite negative size => exact ⟨_, rfl⟩
  · rintro ⟨x, hx⟩
    cases a with
    | int n => exact .int n
    | float y =>
        refine .float ?_
        rintro rfl
        cases hx
    | _ => cases hx

theorem Comparable.symm (h : a.Comparable b) : b.Comparable a := by
  cases h with
  | numbers ha hb => exact .numbers hb ha
  | texts s t => exact .texts t s

theorem Comparable.isScalar (h : a.Comparable b) : b.IsScalar := by
  cases h with
  | numbers _ hb =>
      obtain ⟨y, hy⟩ := isNumber_iff.mp hb
      exact .number hy
  | texts s t => exact .text t

theorem Comparable.kind (h : a.Comparable b) : a.kind = .number ∨ a.kind = .text := by
  cases h with
  | numbers ha _ =>
      obtain ⟨x, hx⟩ := isNumber_iff.mp ha
      exact .inl (kind_of_place? hx)
  | texts _ _ => exact .inr rfl

theorem Le.comparable (h : a.Le b) : a.Comparable b := by
  cases h with
  | numbers ha hb _ => exact .numbers (isNumber_iff.mpr ⟨_, ha⟩) (isNumber_iff.mpr ⟨_, hb⟩)
  | texts _ => exact .texts _ _

theorem Lt.comparable (h : a.Lt b) : a.Comparable b :=
  h.le.comparable

/-- Behind a number in the order there are only numbers. -/
theorem lt_iff_of_place? (ha : a.place? = some x) :
    a.Lt b ↔ ∃ y, b.place? = some y ∧ x < y := by
  constructor
  · intro h
    cases h with
    | numbers ha' hb hxy =>
        obtain rfl := Option.some.inj (ha.symm.trans ha')
        exact ⟨_, hb, hxy⟩
    | texts _ => cases ha
  · rintro ⟨y, hb, hxy⟩
    exact .numbers ha hb hxy

/-- Behind a text in the order there are only texts. -/
theorem str_lt_iff {s : String} : (Value.str s).Lt b ↔ ∃ t, b = .str t ∧ s < t := by
  constructor
  · intro h
    cases h with
    | numbers hs _ _ => cases hs
    | texts hst => exact ⟨_, rfl, hst⟩
  · rintro ⟨t, rfl, hst⟩
    exact .texts hst

theorem Lt.trans (hab : a.Lt b) (hbc : b.Lt c) : a.Lt c := by
  cases hab with
  | numbers ha hb hxy =>
      obtain ⟨z, hc, hyz⟩ := (lt_iff_of_place? hb).mp hbc
      exact .numbers ha hc (lt_trans hxy hyz)
  | texts hst =>
      obtain ⟨u, rfl, htu⟩ := str_lt_iff.mp hbc
      exact .texts (lt_trans hst htu)

theorem Lt.irrefl (a : Value) : ¬ a.Lt a := by
  intro h
  cases h with
  | numbers ha hb hxy =>
      obtain rfl := Option.some.inj (ha.symm.trans hb)
      exact lt_irrefl _ hxy
  | texts hst => exact lt_irrefl _ hst

theorem Lt.asymm (h : a.Lt b) : ¬ b.Lt a :=
  fun h' => Lt.irrefl a (h.trans h')

theorem Same.symm (h : a.Same b) : b.Same a := by
  cases h with
  | bool v => exact .bool v
  | numbers ha hb => exact .numbers hb ha
  | text s => exact .text s
  | objectId hex => exact .objectId hex

theorem Lt.not_same (h : a.Lt b) : ¬ a.Same b := by
  intro hsame
  cases hsame with
  | numbers ha hb =>
      obtain ⟨y, hy, hxy⟩ := (lt_iff_of_place? ha).mp h
      obtain rfl := Option.some.inj (hb.symm.trans hy)
      exact lt_irrefl _ hxy
  | _ => exact Lt.irrefl _ h

/-- Of two comparable values one comes before the other, or they stand for the same. -/
theorem Comparable.trichotomy (h : a.Comparable b) : a.Lt b ∨ a.Same b ∨ b.Lt a := by
  cases h with
  | numbers ha hb =>
      obtain ⟨x, hx⟩ := isNumber_iff.mp ha
      obtain ⟨y, hy⟩ := isNumber_iff.mp hb
      rcases lt_trichotomy x y with hxy | rfl | hyx
      · exact .inl (.numbers hx hy hxy)
      · exact .inr (.inl (.numbers hx hy))
      · exact .inr (.inr (.numbers hy hx hyx))
  | texts s t =>
      rcases lt_trichotomy s t with hst | rfl | hts
      · exact .inl (.texts hst)
      · exact .inr (.inl (.text s))
      · exact .inr (.inr (.texts hts))

theorem Comparable.le_iff (h : a.Comparable b) : a.Le b ↔ a.Lt b ∨ a.Same b := by
  constructor
  · exact Le.lt_or_same
  · rintro (hlt | hsame)
    · exact hlt.le
    · exact le_of_equal h.kind ((equal_eq_true_iff h.isScalar).mpr hsame)

end Value

end DocConsole
