import DocConsole.Fault

/-!
# Taking in data

Reading a record that comes from outside.  Every entry is checked by its own rule; a record is
read when no rule is broken, and otherwise all broken rules are told, in the order of the entries.
Main statement: two entries are read together exactly when each is.
-/

set_option autoImplicit false

namespace DocConsole

/-- Data from outside once read, or the rules that it breaks. -/
abbrev Intake (α : Type) := Except (List Violation) α

namespace Intake

variable {α β : Type}

/-- Data that breaks a rule as a whole. -/
def refuse (rule : Rule) : Intake α :=
  .error [⟨[], rule⟩]

/-- Two readings together, with what is wrong with either. -/
def both : Intake α → Intake β → Intake (α × β)
  | .ok a, .ok b => .ok (a, b)
  | .ok _, .error second => .error second
  | .error first, .ok _ => .error first
  | .error first, .error second => .error (first ++ second)

/-- A reading of an entry one step further in. -/
def within (step : PathStep) : Intake α → Intake α
  | .ok a => .ok a
  | .error violations => .error (violations.map (fun v => ⟨step :: v.path, v.rule⟩))

/-- Broken rules as a fault. -/
def orFault : Intake α → Except Fault α
  | .ok a => .ok a
  | .error violations => .error (.invalid violations)

/-! ## Entries -/

/-- An entry that must be there. -/
def required (fields : Fields) (name : String) (read : Value → Intake α) : Intake α :=
  within (.name name)
    (match Fields.get? fields name with
    | some value => read value
    | none => refuse .required)

/-- An entry that has a value of its own when it is not there. -/
def optional (fields : Fields) (name : String) (missing : α) (read : Value → Intake α) :
    Intake α :=
  match Fields.get? fields name with
  | some value => within (.name name) (read value)
  | none => .ok missing

/-! ## Values -/

/-- A text. -/
def text : Value → Intake String
  | .str s => .ok s
  | _ => refuse .isText

/-- One of a fixed set of texts, looked up by `find?`. -/
def oneOf (find? : String → Option α) : Value → Intake α
  | .str s =>
      match find? s with
      | some a => .ok a
      | none => refuse .isOneOf
  | _ => refuse .isOneOf

/-- The items of a list, the first of them with the given index. -/
def items (read : Value → Intake α) : Nat → List Value → Intake (List α)
  | _, [] => .ok []
  | index, value :: values =>
      (both (within (.index index) (read value)) (items read (index + 1) values)).map
        (fun (first, rest) => first :: rest)

/-- A list of which every item is read. -/
def list (read : Value → Intake α) : Value → Intake (List α)
  | .arr values => items read 0 values
  | _ => refuse .isList

/-- A record. -/
def record (read : Fields → Intake α) : Value → Intake α
  | .obj fields => read fields
  | _ => refuse .isRecord

/-! ## What was read -/

theorem both_eq_ok_iff {first : Intake α} {second : Intake β} {a : α} {b : β} :
    both first second = .ok (a, b) ↔ first = .ok a ∧ second = .ok b := by
  cases first <;> cases second <;> simp [both]

@[simp] theorem within_ok (step : PathStep) (a : α) : within step (.ok a) = .ok a := rfl

end Intake

end DocConsole
