import DocConsole.Proofs.Value.Order
import DocConsole.Store.Condition

/-!
# The operators of a condition

Each operator of a condition is an order between what is found at the path and the value of the
condition, or an equality.  The operators are judged one by one, so that they agree with each other
is nothing that the definition says.  Main statement: a field that is not there meets no operator; a
field that is there meets exactly one of equality and its opposite, and exactly one of less, equal
and greater if it is comparable with the value, where the operators with equality are those without
it or equality; and it meets none of the orders otherwise.  The order is transitive, so a condition
on a lesser value takes no document that the same condition on a greater one leaves out.
-/

set_option autoImplicit false

namespace DocConsole

namespace Operator

variable {actual expected a b c : Value}

/-! ## One operator -/

theorem holds_less_iff : less.holds actual expected = true ↔ actual.Lt expected :=
  Value.less_eq_true_iff

theorem holds_greater_iff : greater.holds actual expected = true ↔ expected.Lt actual :=
  Value.less_eq_true_iff

theorem holds_lessOrEqual_iff : lessOrEqual.holds actual expected = true ↔ actual.Le expected :=
  Value.lessOrEqual_eq_true_iff

theorem holds_greaterOrEqual_iff :
    greaterOrEqual.holds actual expected = true ↔ expected.Le actual :=
  Value.lessOrEqual_eq_true_iff

theorem holds_equal_iff (h : expected.IsScalar) :
    equal.holds actual expected = true ↔ actual.Same expected :=
  Value.equal_eq_true_iff h

theorem holds_notEqual_iff :
    notEqual.holds actual expected = true ↔ ¬ equal.holds actual expected = true := by
  rw [holds, holds, Bool.not_eq_true', Bool.not_eq_true]

theorem holds_contains_iff (h : expected.IsScalar) :
    contains.holds actual expected = true ↔
      ∃ items, actual = .arr items ∧ ∃ item ∈ items, item.Same expected := by
  rw [holds]
  cases actual with
  | arr items =>
      rw [Value.containsItem, List.any_eq_true]
      constructor
      · rintro ⟨item, hitem, hequal⟩
        exact ⟨items, rfl, item, hitem, (Value.equal_eq_true_iff h).mp hequal⟩
      · rintro ⟨items', hitems, item, hitem, hsame⟩
        obtain rfl := Value.arr.inj hitems
        exact ⟨item, hitem, (Value.equal_eq_true_iff h).mpr hsame⟩
  | _ =>
      refine iff_of_false Bool.false_ne_true ?_
      rintro ⟨items, hitems, -⟩
      cases hitems

/-! ## The operators together -/

/-- Exactly one of some operators is met. -/
def ExactlyOne (operators : List Operator) (met : Operator → Prop) : Prop :=
  ∃! operator, operator ∈ operators ∧ met operator

/-- The operators that are met agree with each other and, where there is an order, with that. -/
structure Agree (met : Operator → Prop) (actual expected : Value) : Prop where
  less_iff : met less ↔ actual.Lt expected
  equality : ExactlyOne [equal, notEqual] met
  trichotomy : actual.Comparable expected → ExactlyOne [less, equal, greater] met
  greaterOrEqual_iff : actual.Comparable expected →
    (met greaterOrEqual ↔ met greater ∨ met equal)
  lessOrEqual_iff : actual.Comparable expected → (met lessOrEqual ↔ met less ∨ met equal)
  unordered : ¬ actual.Comparable expected →
    ∀ operator ∈ [less, greater, lessOrEqual, greaterOrEqual], ¬ met operator

theorem exactlyOne_equality : ExactlyOne [equal, notEqual] (·.holds actual expected = true) := by
  by_cases h : equal.holds actual expected = true
  · refine ⟨equal, ⟨List.mem_cons_self, h⟩, ?_⟩
    rintro operator ⟨hmem, hmet⟩
    rcases List.mem_pair.mp hmem with rfl | rfl
    · rfl
    · exact absurd h (holds_notEqual_iff.mp hmet)
  · refine ⟨notEqual, ⟨by simp, holds_notEqual_iff.mpr h⟩, ?_⟩
    rintro operator ⟨hmem, hmet⟩
    rcases List.mem_pair.mp hmem with rfl | rfl
    · exact absurd hmet h
    · rfl

/-- Of less, equal and greater one is met, and its order excludes the other two. -/
theorem exactlyOne_trichotomy (h : actual.Comparable expected) :
    ExactlyOne [less, equal, greater] (·.holds actual expected = true) := by
  have hequal : equal.holds actual expected = true ↔ actual.Same expected :=
    holds_equal_iff h.isScalar
  rcases h.trichotomy with hless | hsame | hgreater
  · refine ⟨less, ⟨by simp, holds_less_iff.mpr hless⟩, ?_⟩
    rintro operator ⟨hmem, hmet⟩
    simp only [List.mem_cons, List.not_mem_nil, or_false] at hmem
    rcases hmem with rfl | rfl | rfl
    · rfl
    · exact absurd (hequal.mp hmet) hless.not_same
    · exact absurd (holds_greater_iff.mp hmet) hless.asymm
  · refine ⟨equal, ⟨by simp, hequal.mpr hsame⟩, ?_⟩
    rintro operator ⟨hmem, hmet⟩
    simp only [List.mem_cons, List.not_mem_nil, or_false] at hmem
    rcases hmem with rfl | rfl | rfl
    · exact absurd hsame (holds_less_iff.mp hmet).not_same
    · rfl
    · exact absurd hsame.symm (holds_greater_iff.mp hmet).not_same
  · refine ⟨greater, ⟨by simp, holds_greater_iff.mpr hgreater⟩, ?_⟩
    rintro operator ⟨hmem, hmet⟩
    simp only [List.mem_cons, List.not_mem_nil, or_false] at hmem
    rcases hmem with rfl | rfl | rfl
    · exact absurd (holds_less_iff.mp hmet) hgreater.asymm
    · exact absurd (hequal.mp hmet).symm hgreater.not_same
    · rfl

theorem agree_holds (actual expected : Value) :
    Agree (·.holds actual expected = true) actual expected where
  less_iff := holds_less_iff
  equality := exactlyOne_equality
  trichotomy := exactlyOne_trichotomy
  greaterOrEqual_iff h := by
    rw [holds_greaterOrEqual_iff, holds_greater_iff, holds_equal_iff h.isScalar, h.symm.le_iff]
    exact or_congr_right ⟨Value.Same.symm, Value.Same.symm⟩
  lessOrEqual_iff h := by
    rw [holds_lessOrEqual_iff, holds_less_iff, holds_equal_iff h.isScalar, h.le_iff]
  unordered h operator hmem hmet := by
    simp only [List.mem_cons, List.not_mem_nil, or_false] at hmem
    rcases hmem with rfl | rfl | rfl | rfl
    · exact h (holds_less_iff.mp hmet).comparable
    · exact h (holds_greater_iff.mp hmet).comparable.symm
    · exact h (holds_lessOrEqual_iff.mp hmet).comparable
    · exact h (holds_greaterOrEqual_iff.mp hmet).comparable.symm

theorem holds_less_trans (hab : less.holds a b = true) (hbc : less.holds b c = true) :
    less.holds a c = true :=
  holds_less_iff.mpr ((holds_less_iff.mp hab).trans (holds_less_iff.mp hbc))

end Operator

/-! ## Documents -/

/-- The operators that a document meets with a field and a value. -/
def Document.Meets (d : Document) (path : String) (value : Value) (operator : Operator) : Prop :=
  (⟨path, operator, value⟩ : Filter).accepts d = true

theorem Document.meets_eq {d : Document} {path : String} {actual : Value}
    (h : d.valueAt? path = some actual) (value : Value) :
    d.Meets path value = fun operator => operator.holds actual value = true := by
  funext operator
  rw [Meets, Filter.accepts, h]

/-- The operators of a condition on one field form an order.  Without the field a document meets
none of them; with it, those that it meets agree with each other.  Less is transitive, also from a
document to the value of one condition and on to that of another. -/
theorem operators_form_order (path : String) (v : Value) :
    (∀ d : Document, match d.valueAt? path with
      | none => ∀ operator, ¬ d.Meets path v operator
      | some actual => Operator.Agree (d.Meets path v) actual v) ∧
    (∀ a b c : Value, Operator.less.holds a b = true → Operator.less.holds b c = true →
      Operator.less.holds a c = true) ∧
    ∀ w, Operator.less.holds v w = true →
      ∀ d : Document, d.Meets path v .less → d.Meets path w .less := by
  refine ⟨fun d => ?_, fun a b c => Operator.holds_less_trans, fun w hvw d hmet => ?_⟩
  · cases hfound : d.valueAt? path with
    | none =>
        intro operator hmet
        rw [Document.Meets, Filter.accepts_of_missing hfound] at hmet
        cases hmet
    | some actual =>
        rw [d.meets_eq hfound v]
        exact Operator.agree_holds actual v
  · cases hfound : d.valueAt? path with
    | none =>
        rw [Document.Meets, Filter.accepts_of_missing hfound] at hmet
        cases hmet
    | some actual =>
        rw [d.meets_eq hfound] at hmet ⊢
        exact Operator.holds_less_trans hmet hvw

/-- A document with a whole number, inside a record, that no binary64 number is equal to. -/
def oddOrder : Document :=
  ⟨"o1", [("total", .obj [("cents", .int 9007199254740993)])]⟩

/-- The binary64 number next to it. -/
def nearbyFloat : Value :=
  .float (.ofDecimal false 9007199254740992 0)

/-- The whole number is greater and nothing else, and it stays above every lesser value. -/
theorem odd_order_is_greater :
    oddOrder.valueAt? "total.cents" = some (.int 9007199254740993) ∧
      (Value.int 9007199254740993).Comparable nearbyFloat ∧
      oddOrder.Meets "total.cents" nearbyFloat .greater ∧
      ¬ oddOrder.Meets "total.cents" nearbyFloat .equal ∧
      oddOrder.Meets "total.cents" nearbyFloat .greaterOrEqual ∧
      Operator.less.holds (.int 3) nearbyFloat = true ∧
      ¬ oddOrder.Meets "total.cents" (.int 3) .less := by
  have hfound : oddOrder.valueAt? "total.cents" = some (.int 9007199254740993) := by
    decide +kernel
  have hcomparable : (Value.int 9007199254740993).Comparable nearbyFloat :=
    .numbers (.int _) (.float (by decide +kernel))
  have hgreater : oddOrder.Meets "total.cents" nearbyFloat .greater := by
    show Filter.accepts _ _ = true
    decide +kernel
  have hbelow : Operator.less.holds (.int 3) nearbyFloat = true := by decide +kernel
  obtain ⟨hdocument, -, hsubset⟩ := operators_form_order "total.cents" nearbyFloat
  have hagree := hdocument oddOrder
  rw [hfound] at hagree
  have honly : ∀ operator ∈ [Operator.less, .equal, .greater],
      oddOrder.Meets "total.cents" nearbyFloat operator → operator = .greater :=
    fun operator hmem hmet =>
      (hagree.trichotomy hcomparable).unique ⟨hmem, hmet⟩ ⟨by simp, hgreater⟩
  refine ⟨hfound, hcomparable, hgreater, ?_, ?_, hbelow, ?_⟩
  · intro hequal
    cases honly .equal (by simp) hequal
  · exact (hagree.greaterOrEqual_iff hcomparable).mpr (.inl hgreater)
  · intro hless
    have hmore := (operators_form_order "total.cents" (.int 3)).2.2 nearbyFloat hbelow oddOrder
      hless
    cases honly .less (by simp) hmore

end DocConsole
