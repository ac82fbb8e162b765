import DocConsole.Number.Shortest
import DocConsole.Text.Joined
import DocConsole.Text.Quoted
import DocConsole.Value.Basic

/-!
# The display text of a value

How a value reads when it stands for an id, a cursor or a cell: a text as it is, a moment with a
space between day and time, numbers in plain notation.  Values inside lists and records are shown
in a notation of their own, with texts in quotes.
-/

set_option autoImplicit false

namespace DocConsole

open Text

namespace Moment

/-- An offset inside a nested moment: whole days and what is above them. -/
def nestedOffset (offset : Int) : String :=
  if offset = 0 then "datetime.timezone.utc"
  else
    let seconds := offset.fdiv microsPerSecond
    let parts := [("days=", seconds.fdiv 86400), ("seconds=", seconds.fmod 86400),
      ("microseconds=", offset.fmod microsPerSecond)].filterMap (fun (name, n) =>
        if n = 0 then none else some (name ++ decimalOfInt n))
    "datetime.timezone(datetime.timedelta(" ++ joined ", " parts ++ "))"

/-- A moment inside a list or record. -/
def nested (m : Moment) : String :=
  let seconds := m.second % 60
  let parts := [m.day.year, m.day.month, m.day.day, m.second / 3600, m.second / 60 % 60] ++
    (if m.micro ≠ 0 then [seconds, m.micro] else if seconds ≠ 0 then [seconds] else [])
  "datetime.datetime(" ++ joined ", " (parts.map decimalOfNat ++
    (match m.offset with
      | none => []
      | some offset => ["tzinfo=" ++ nestedOffset offset])) ++ ")"

end Moment

/-- A day inside a list or record. -/
def Day.nested (d : Day) : String :=
  "datetime.date(" ++ joined ", " ([d.year, d.month, d.day].map decimalOfNat) ++ ")"

namespace Value

mutual

/-- A value as it is shown inside a list or record. -/
def nested : Value → String
  | .null => "None"
  | .bool b => if b then "True" else "False"
  | .int n => decimalOfInt n
  | .float x => FloatNotation.plain.text x
  | .str s => quoted s
  | .moment m => m.nested
  | .day d => d.nested
  | .objectId hex => "ObjectId('" ++ hex ++ "')"
  | .arr items => "[" ++ joined ", " (nestedItems items) ++ "]"
  | .obj fields => "\x7b" ++ joined ", " (nestedFields fields) ++ "\x7d"

/-- The items of a list as they are shown. -/
def nestedItems : List Value → List String
  | [] => []
  | item :: items => nested item :: nestedItems items

/-- The fields of a record as they are shown. -/
def nestedFields : List (String × Value) → List String
  | [] => []
  | (name, value) :: rest => (quoted name ++ ": " ++ nested value) :: nestedFields rest

end

/-- The text that a value stands for.  A whole number has one whatever its length: the limit on the
digits of a number that is read (`maxIntegerDigits`) is not applied here. -/
def display : Value → String
  | .str s => s
  | .moment m => m.text ' '
  | .day d => d.text
  | .objectId hex => hex
  | value => value.nested

end Value

end DocConsole
