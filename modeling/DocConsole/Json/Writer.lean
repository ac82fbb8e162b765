import DocConsole.Number.Shortest
import DocConsole.Text.Quoted
import DocConsole.Value.Display

/-!
# Writing JSON

Values as JSON text in ASCII: every other character is written by its UTF-16 units.  Non-finite
numbers have names of their own.  A moment, a day or an object id is no JSON value; where such a
value is let through it is written as its display text.  Main statement: a text that is written
holds no line feed.
-/

set_option autoImplicit false

namespace DocConsole.Json

open Text

/-! ## Texts -/

/-- The escape of one UTF-16 unit. -/
def escapeUnit (n : Nat) : List Char :=
  '\\' :: 'u' :: hexDigits 4 n

/-- A character as it stands in a JSON string. -/
def escapeChar (c : Char) : List Char :=
  if c == '"' then ['\\', '"']
  else if c == '\\' then ['\\', '\\']
  else if c == '\n' then ['\\', 'n']
  else if c == '\r' then ['\\', 'r']
  else if c == '\t' then ['\\', 't']
  else if c == Char.ofNat 0x8 then ['\\', 'b']
  else if c == Char.ofNat 0xC then ['\\', 'f']
  else if ' ' ≤ c && c ≤ '~' then [c]
  else if c.toNat < 0x10000 then escapeUnit c.toNat
  else
    let n := c.toNat - 0x10000
    escapeUnit (0xD800 + n / 0x400) ++ escapeUnit (0xDC00 + n % 0x400)

/-- A text as a JSON string. -/
def writeText (s : String) : List Char :=
  '"' :: s.toList.flatMap escapeChar ++ ['"']

/-! ## Values -/

/-- What stands between the tokens of a JSON text. -/
structure Layout where
  /-- After an item, when another follows. -/
  itemSeparator : String
  /-- Between a name and its value. -/
  nameSeparator : String
  /-- How far each level is indented on lines of its own; nothing is broken into lines without. -/
  indent : Option Nat

/-- On one line, with a space after commas and colons. -/
def Layout.spaced : Layout := ⟨", ", ": ", none⟩

/-- On one line, without spaces. -/
def Layout.compact : Layout := ⟨",", ":", none⟩

/-- Each item on a line of its own, two columns further in for each level. -/
def Layout.indented : Layout := ⟨",", ": ", some 2⟩

/-- The start of a new line at a level; nothing in a layout on one line. -/
def Layout.newLine (layout : Layout) (depth : Nat) : List Char :=
  match layout.indent with
  | none => []
  | some width => '\n' :: List.replicate (width * depth) ' '

/-- A value that holds no others. -/
def writeScalar : Value → List Char
  | .null => ['n', 'u', 'l', 'l']
  | .bool true => ['t', 'r', 'u', 'e']
  | .bool false => ['f', 'a', 'l', 's', 'e']
  | .int n => integerText n
  | .float x => (FloatNotation.json.text x).toList
  | value => writeText value.display

mutual

/-- A value as it stands at the given level. -/
def writeAt (layout : Layout) (depth : Nat) : Value → List Char
  | .arr [] => ['[', ']']
  | .arr (item :: items) =>
      '[' :: layout.newLine (depth + 1) ++ writeAt layout (depth + 1) item ++
        writeItems layout (depth + 1) items ++ layout.newLine depth ++ [']']
  | .obj [] => ['\x7b', '\x7d']
  | .obj ((name, value) :: fields) =>
      '\x7b' :: layout.newLine (depth + 1) ++ writeText name ++ layout.nameSeparator.toList ++
        writeAt layout (depth + 1) value ++ writeFields layout (depth + 1) fields ++
        layout.newLine depth ++ ['\x7d']
  | value => writeScalar value

/-- The items after the first. -/
def writeItems (layout : Layout) (depth : Nat) : List Value → List Char
  | [] => []
  | item :: items =>
      layout.itemSeparator.toList ++ layout.newLine depth ++ writeAt layout depth item ++
        writeItems layout depth items

/-- The fields after the first. -/
def writeFields (layout : Layout) (depth : Nat) : List (String × Value) → List Char
  | [] => []
  | (name, value) :: fields =>
      layout.itemSeparator.toList ++ layout.newLine depth ++ writeText name ++
        layout.nameSeparator.toList ++ writeAt layout depth value ++
        writeFields layout depth fields

end

/-- The JSON text of a value, with what is no JSON value as its display text, and with whole numbers
of any length, also beyond the limit that reading has (`maxIntegerDigits`). -/
def write (layout : Layout) (value : Value) : String :=
  String.ofList (writeAt layout 0 value)

/-! ## What cannot be written -/

/-- The name of the type of a value that is no JSON value. -/
def foreignScalar? : Value → Option String
  | .moment _ => some "datetime"
  | .day _ => some "date"
  | .objectId _ => some "ObjectId"
  | _ => none

mutual

/-- The type of the first value inside that is no JSON value. -/
def foreign? : Value → Option String
  | .arr items => foreignItems? items
  | .obj fields => foreignFields? fields
  | value => foreignScalar? value

/-- The same over the items of a list. -/
def foreignItems? : List Value → Option String
  | [] => none
  | item :: items =>
      match foreign? item with
      | some name => some name
      | none => foreignItems? items

/-- The same over the fields of a record. -/
def foreignFields? : List (String × Value) → Option String
  | [] => none
  | (_, value) :: fields =>
      match foreign? value with
      | some name => some name
      | none => foreignFields? fields

end

theorem newline_not_mem_escapeChar (c : Char) : '\n' ∉ escapeChar c := by
  have hdigits : ∀ width n, '\n' ∉ hexDigits width n := by
    intro width
    induction width with
    | zero => simp [hexDigits]
    | succ width ih =>
      intro n
      simp only [hexDigits, List.mem_append, List.mem_singleton, not_or]
      refine ⟨ih _, fun h => ?_⟩
      have hdigit : ∀ m : Fin 16, '\n' ≠ hexDigit m := by decide
      refine hdigit ⟨n % 16, Nat.mod_lt _ (by decide)⟩ ?_
      rw [h]
      simp [hexDigit]
  unfold escapeChar escapeUnit
  repeat' split
  all_goals grind

theorem newline_not_mem_writeText (s : String) : '\n' ∉ writeText s := by
  simp [writeText, newline_not_mem_escapeChar]

end DocConsole.Json
