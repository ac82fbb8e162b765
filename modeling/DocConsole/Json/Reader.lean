import DocConsole.Json.Token
import DocConsole.Value.Basic

/-!
# Reading JSON

A reader walks over the tokens of a text with the lists and records that are still open.  Each
token either moves it on or is refused where it starts; at the end of the text the reader must
have one value and nothing open.  A refusal tells the line, the column and the offset.  Main
statement: a text is read exactly as its characters are.
-/

set_option autoImplicit false

namespace DocConsole.Json

open Text

/-! ## The reader -/

/-- A list or record that is still open, with what it holds so far, latest first. -/
inductive Frame where
  /-- A list that waits for an item. -/
  | list (done : List Value)
  /-- A record that waits for the value of a field. -/
  | field (done : List (String × Value)) (name : String)

/-- Where the reader stands between two tokens. -/
inductive State where
  /-- A value must follow. -/
  | value (stack : List Frame)
  /-- A list was opened: its first item or its end must follow. -/
  | firstItem (stack : List Frame)
  /-- An item was read: a comma or the end of the list must follow. -/
  | nextItem (done : List Value) (stack : List Frame)
  /-- A name must follow; right after the record was opened also its end. -/
  | fieldName (first : Bool) (done : List (String × Value)) (stack : List Frame)
  /-- A name was read: a colon must follow. -/
  | fieldColon (name : String) (done : List (String × Value)) (stack : List Frame)
  /-- A field was read: a comma or the end of the record must follow. -/
  | nextField (done : List (String × Value)) (stack : List Frame)
  /-- The value is complete and nothing may follow. -/
  | finished (v : Value)

/-- Why the reader stops. -/
inductive Stop where
  /-- The text is not well formed, with the text from the place of the problem on. -/
  | malformed (problem : Problem) (place : List Char)
  /-- A whole number has more digits than are allowed. -/
  | tooManyDigits (count : Nat)
  /-- A named number stands where only JSON numbers are allowed. -/
  | constant (c : Constant)

/-- The state after a complete value. -/
def State.afterValue (v : Value) : List Frame → State
  | [] => .finished v
  | .list done :: stack => .nextItem (v :: done) stack
  | .field done name :: stack => .nextField ((name, v) :: done) stack

/-- The value of a number that is not too long. -/
def numberValue (literal : DecimalLiteral) : Except Stop Value :=
  if literal.isInteger then
    if maxIntegerDigits < literal.whole.length then .error (.tooManyDigits literal.whole.length)
    else .ok (.int literal.toInt)
  else .ok (.float literal.toBinary64)

/-- One token where a value must follow. -/
def stepValue (strict : Bool) (stack : List Frame) (t : PlacedToken) : Except Stop State :=
  match t.token with
  | .openList => .ok (.firstItem stack)
  | .openRecord => .ok (.fieldName true [] stack)
  | .text s => .ok (.afterValue (.str s) stack)
  | .null => .ok (.afterValue .null stack)
  | .bool b => .ok (.afterValue (.bool b) stack)
  | .number literal =>
      match numberValue literal with
      | .error stop => .error stop
      | .ok v => .ok (.afterValue v stack)
  | .constant c =>
      if strict then .error (.constant c)
      else .ok (.afterValue (.float c.toBinary64) stack)
  | .badText problem place => .error (.malformed problem place)
  | _ => .error (.malformed .expectedValue t.place)

/-- One token from any state. -/
def step (strict : Bool) : State → PlacedToken → Except Stop State
  | .value stack, t => stepValue strict stack t
  | .firstItem stack, t =>
      match t.token with
      | .closeList => .ok (.afterValue (.arr []) stack)
      | _ => stepValue strict (.list [] :: stack) t
  | .nextItem done stack, t =>
      match t.token with
      | .comma => .ok (.value (.list done :: stack))
      | .closeList => .ok (.afterValue (.arr done.reverse) stack)
      | _ => .error (.malformed .expectedComma t.place)
  | .fieldName first done stack, t =>
      match t.token with
      | .text s => .ok (.fieldColon s done stack)
      | .badText problem place => .error (.malformed problem place)
      | .closeRecord =>
          if first then .ok (.afterValue (.obj []) stack)
          else .error (.malformed .expectedName t.place)
      | _ => .error (.malformed .expectedName t.place)
  | .fieldColon name done stack, t =>
      match t.token with
      | .colon => .ok (.value (.field done name :: stack))
      | _ => .error (.malformed .expectedColon t.place)
  | .nextField done stack, t =>
      match t.token with
      | .comma => .ok (.fieldName false done stack)
      | .closeRecord => .ok (.afterValue (.obj (Fields.ofPairs done.reverse)) stack)
      | _ => .error (.malformed .expectedComma t.place)
  | .finished _, t => .error (.malformed .extraData t.place)

/-- The value at the end of the text. -/
def State.close : State → Except Stop Value
  | .value _ => .error (.malformed .expectedValue [])
  | .firstItem _ => .error (.malformed .expectedValue [])
  | .nextItem _ _ => .error (.malformed .expectedComma [])
  | .fieldName _ _ _ => .error (.malformed .expectedName [])
  | .fieldColon _ _ _ => .error (.malformed .expectedColon [])
  | .nextField _ _ => .error (.malformed .expectedComma [])
  | .finished v => .ok v

/-- The reader over tokens, from a state to the end of the text. -/
def run (strict : Bool) : State → List PlacedToken → Except Stop Value
  | state, [] => state.close
  | state, t :: ts =>
      match step strict state t with
      | .error stop => .error stop
      | .ok state' => run strict state' ts

/-- The value of a text. -/
def readChars (strict : Bool) (cs : List Char) : Except Stop Value :=
  match cs with
  | c :: _ =>
      if c = Char.ofNat 0xFEFF then .error (.malformed .byteOrderMark cs)
      else run strict (.value []) (tokens cs)
  | [] => run strict (.value []) []

/-! ## Refusals -/

/-- A place in a text, counted in characters. -/
structure Place where
  /-- The line, from one. -/
  line : Nat
  /-- The column in the line, from one. -/
  column : Nat
  /-- The number of characters before. -/
  offset : Nat
  deriving DecidableEq, Repr

/-- The place after the given characters. -/
def Place.after (before : List Char) : Place :=
  ⟨before.count '\n' + 1, (before.reverse.takeWhile (· ≠ '\n')).length + 1, before.length⟩

/-- Why a text is refused. -/
inductive Refusal where
  /-- It is not well formed. -/
  | malformed (problem : Problem) (place : Place)
  /-- A whole number has more digits than are allowed. -/
  | tooManyDigits (count : Nat)
  /-- A named number stands where only JSON numbers are allowed. -/
  | constant (c : Constant)
  deriving DecidableEq, Repr

/-- The refusal of a text at the point where the reader stopped. -/
def Stop.refusal (cs : List Char) : Stop → Refusal
  | .malformed problem place =>
      .malformed problem (.after (cs.take (cs.length - place.length)))
  | .tooManyDigits count => .tooManyDigits count
  | .constant c => .constant c

/-- The wording for a whole number with too many digits. -/
def tooManyDigitsMessage (count : Nat) : String :=
  "Exceeds the limit (" ++ decimalOfNat maxIntegerDigits ++
    " digits) for integer string conversion: value has " ++ decimalOfNat count ++
    " digits; use sys.set_int_max_str_digits() to increase the limit"

/-- The wording of a refusal. -/
def Refusal.message : Refusal → String
  | .malformed problem place =>
      problem.message ++ ": line " ++ decimalOfNat place.line ++ " column " ++
        decimalOfNat place.column ++ " (char " ++ decimalOfNat place.offset ++ ")"
  | .tooManyDigits count => tooManyDigitsMessage count
  | .constant c => c.name ++ " is not valid JSON"

/-- The value that a JSON text stands for.  A strict reading refuses the named numbers. -/
def read (strict : Bool) (text : String) : Except Refusal Value :=
  match readChars strict text.toList with
  | .error stop => .error (stop.refusal text.toList)
  | .ok v => .ok v

/-- A text is accepted in the reading of its characters exactly when it is accepted. -/
theorem read_eq_ok_iff {strict : Bool} {text : String} {v : Value} :
    read strict text = .ok v ↔ readChars strict text.toList = .ok v := by
  unfold read
  split
  · rename_i stop h
    simp [h]
  · rename_i v' h
    simp [h]

end DocConsole.Json
