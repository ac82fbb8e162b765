import DocConsole.Value.Basic

/-!
# Comparing values

Values are compared within a kind: truth values, numbers, texts and so on never equal or order
across kinds.  Whole and binary64 numbers are one kind and compare exactly.  Inside lists and
records the comparison is looser, for there a truth value counts as the number zero or one.
Main statement: values of different kinds are never equal.
-/

set_option autoImplicit false

namespace DocConsole

open Binary64

/-- The kinds within which values are compared. -/
inductive Kind where
  /-- The empty value. -/
  | null
  /-- Truth values. -/
  | boolean
  /-- Whole and binary64 numbers. -/
  | number
  /-- Texts. -/
  | text
  /-- Points in time. -/
  | moment
  /-- Calendar days. -/
  | day
  /-- Object ids. -/
  | objectId
  /-- Lists. -/
  | list
  /-- Records. -/
  | record
  deriving DecidableEq, Repr

namespace Value

/-- The kind of a value. -/
def kind : Value → Kind
  | .null => .null
  | .bool _ => .boolean
  | .int _ => .number
  | .float _ => .number
  | .str _ => .text
  | .moment _ => .moment
  | .day _ => .day
  | .objectId _ => .objectId
  | .arr _ => .list
  | .obj _ => .record

/-- Where a value lies among the numbers, a truth value counting as zero or one. -/
def extent? : Value → Option Extent
  | .bool b => some (extentOfInt (if b then 1 else 0))
  | .int n => some (extentOfInt n)
  | .float x => x.extent?
  | _ => none

/-- Whether two values lie at the same place among the numbers. -/
def sameExtent (a b : Value) : Bool :=
  match a.extent?, b.extent? with
  | some x, some y => x == y
  | _, _ => false

mutual

/-- Equality as it holds inside lists and records: numbers by their value, a truth value as zero
or one, records without regard to the order of their fields. -/
def alike : Value → Value → Bool
  | .null, .null => true
  | .str a, .str b => a == b
  | .moment a, .moment b => a.same b
  | .day a, .day b => a == b
  | .objectId a, .objectId b => a == b
  | .arr a, .arr b => alikeItems a b
  | .obj a, .obj b => a.length == b.length && alikeFields a b
  | .bool a, b => sameExtent (.bool a) b
  | .int a, b => sameExtent (.int a) b
  | .float a, b => sameExtent (.float a) b
  | _, _ => false

/-- Lists are alike when they are alike item by item. -/
def alikeItems : List Value → List Value → Bool
  | [], [] => true
  | a :: as, b :: bs => alike a b && alikeItems as bs
  | _, _ => false

/-- Every field of the first record is alike the field of that name in the second. -/
def alikeFields : List (String × Value) → Fields → Bool
  | [], _ => true
  | (name, a) :: rest, other =>
      (match other.get? name with
        | some b => alike a b
        | none => false) && alikeFields rest other

end

/-- Equality of values of one kind. -/
def equal (a b : Value) : Bool :=
  a.kind == b.kind && a.alike b

/-- Strict order: between two numbers or between two texts, the latter by code points. -/
def less : Value → Value → Bool
  | .str a, .str b => decide (a < b)
  | .bool _, _ | _, .bool _ => false
  | a, b =>
      match a.extent?, b.extent? with
      | some x, some y => x.less y
      | _, _ => false

/-- Strict order or equality, between two numbers or between two texts. -/
def lessOrEqual (a b : Value) : Bool :=
  (a.kind == .number || a.kind == .text) && (a.less b || a.equal b)

theorem equal_of_kind_ne {a b : Value} (h : a.kind ≠ b.kind) : a.equal b = false := by
  simp [equal, h]

end Value

end DocConsole
