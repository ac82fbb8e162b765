import DocConsole.Database.Regex
import DocConsole.Number.Decimal128
import DocConsole.Text.Base64
import DocConsole.Value.Display

/-!
# Values of a database

The values that a database keeps, and what becomes of them in a document.  A document has only
plain values: an object id becomes its digits, a decimal number its text, code its text, and the
kinds that have no plain counterpart a record in extended JSON.  There a moment before the start of
the count of milliseconds needs its universal time, which the calendar may not have.  Main
statements: lists and records keep their shape.
-/

set_option autoImplicit false

namespace DocConsole

open Text

/-! ## The values -/

/-- A value that a database keeps. -/
inductive Bson where
  /-- The empty value. -/
  | null
  /-- A truth value. -/
  | bool (b : Bool)
  /-- A whole number. -/
  | int (n : Int)
  /-- A binary64 number. -/
  | float (x : Binary64)
  /-- A text. -/
  | str (s : String)
  /-- A point in time. -/
  | moment (m : Moment)
  /-- A calendar day. -/
  | day (d : Day)
  /-- An object id, as its lower-case hexadecimal digits. -/
  | objectId (hex : String)
  /-- A decimal number. -/
  | decimal (d : Decimal128)
  /-- Bytes. -/
  | bytes (data : List UInt8)
  /-- Bytes of a subtype. -/
  | binary (data : List UInt8) (subtype : Nat)
  /-- A time with a counter, as databases use it among themselves. -/
  | timestamp (time increment : Nat)
  /-- A regular expression. -/
  | regex (r : Regex)
  /-- The least value of all. -/
  | minKey
  /-- The greatest value of all. -/
  | maxKey
  /-- A program text. -/
  | code (s : String)
  /-- A reference to the document of an id in a collection, of the given database if it names one,
  with further fields. -/
  | reference (collection : String) (id : Bson) (database : Option String)
      (fields : List (String × Bson))
  /-- A list of values. -/
  | arr (items : List Bson)
  /-- A record: names with their values, in order. -/
  | obj (fields : List (String × Bson))

namespace Bson

/-! ## Extended JSON -/

/-- Bytes in extended JSON. -/
def binaryRecord (data : List UInt8) (subtype : Nat) : Value :=
  .obj [("$binary", .obj [("base64", .str (String.ofList (base64 data))),
    ("subType", .str (String.ofList (hexDigits 2 subtype)))])]

/-- A regular expression in extended JSON. -/
def regexRecord (r : Regex) : Value :=
  .obj [("$regularExpression", .obj [("pattern", .str r.pattern), ("options", .str r.options)])]

/-- A timestamp in extended JSON. -/
def timestampRecord (time increment : Nat) : Value :=
  .obj [("$timestamp", .obj [("t", .int time), ("i", .int increment)])]

/-- The first day of the count of milliseconds. -/
def epoch : Day := ⟨1970, 1, 1⟩

/-- Microseconds since the start of the count of milliseconds; a moment without offset counts as
universal time. -/
def sinceEpoch (m : Moment) : Int :=
  m.localMicros - m.offset.getD 0 - epoch.ordinal * 86400000000

/-- The first day of the calendar. -/
def firstDay : Day := ⟨1, 1, 1⟩

/-- Whether the universal time of a moment does not lie before the calendar. -/
def hasUniversalTime (m : Moment) : Bool :=
  (firstDay.ordinal - epoch.ordinal) * 86400000000 ≤ sinceEpoch m

/-- An offset without colons, or the letter Z for none. -/
def compactOffset (offset : Int) : List Char :=
  if offset = 0 then ['Z'] else (Moment.offsetText offset).filter (· ≠ ':')

/-- A moment in extended JSON: its text to the millisecond, or the count of milliseconds when it
lies before the start of the count. -/
def momentRecord (m : Moment) : Value :=
  let micros := sinceEpoch m
  if micros < 0 then
    .obj [("$date", .obj [("$numberLong", .str (decimalOfInt (micros.fdiv 1000)))])]
  else
    let millis := m.micro / 1000
    .obj [("$date", .str (m.day.text ++ String.ofList ('T' :: Moment.clockText m.second ++
      (if millis = 0 then [] else '.' :: paddedText 3 millis) ++
      compactOffset (m.offset.getD 0))))]

/-- A binary64 number in extended JSON: only those that JSON cannot write are records. -/
def floatRecord (x : Binary64) : Value :=
  if x.isFinite then .float x
  else .obj [("$numberDouble", .str (match x with
    | .nan => "NaN"
    | .infinity true => "-Infinity"
    | _ => "Infinity"))]

/-- A reference in extended JSON; a further field takes the place of one that has its name. -/
def referenceRecord (collection : String) (id : Value) (database : Option String)
    (fields : Fields) : Value :=
  .obj (Fields.merge ([("$ref", .str collection), ("$id", id)] ++
    (database.map (fun name => ("$db", Value.str name))).toList) fields)

/-- The text of a decimal number on its own: NaN has neither sign nor kind. -/
def decimalText : Decimal128 → String
  | .nan _ _ => "NaN"
  | d => d.text

mutual

/-- A value in extended JSON. -/
def extended : Bson → Value
  | .null => .null
  | .bool b => .bool b
  | .int n => .int n
  | .float x => floatRecord x
  | .str s => .str s
  | .moment m => momentRecord m
  | .day d => .day d
  | .objectId hex => .obj [("$oid", .str hex)]
  | .decimal d => .obj [("$numberDecimal", .str (decimalText d))]
  | .bytes data => binaryRecord data 0
  | .binary data subtype => binaryRecord data subtype
  | .timestamp time increment => timestampRecord time increment
  | .regex r => regexRecord r
  | .minKey => .obj [("$minKey", .int 1)]
  | .maxKey => .obj [("$maxKey", .int 1)]
  | .code s => .obj [("$code", .str s)]
  | .reference collection id database fields =>
      referenceRecord collection (extended id) database (extendedFields fields)
  | .arr items => .arr (extendedItems items)
  | .obj fields => .obj (extendedFields fields)

/-- The items of a list in extended JSON. -/
def extendedItems : List Bson → List Value
  | [] => []
  | item :: items => extended item :: extendedItems items

/-- The fields of a record in extended JSON. -/
def extendedFields : List (String × Bson) → List (String × Value)
  | [] => []
  | (name, value) :: rest => (name, extended value) :: extendedFields rest

end

mutual

/-- Whether every moment in a value can be written in extended JSON. -/
def isExtendable : Bson → Bool
  | .moment m => hasUniversalTime m
  | .reference _ id _ fields => isExtendable id && fieldsExtendable fields
  | .arr items => areExtendable items
  | .obj fields => fieldsExtendable fields
  | _ => true

/-- Whether every moment in the items of a list can be written. -/
def areExtendable : List Bson → Bool
  | [] => true
  | item :: items => isExtendable item && areExtendable items

/-- Whether every moment in the fields of a record can be written. -/
def fieldsExtendable : List (String × Bson) → Bool
  | [] => true
  | (_, value) :: rest => isExtendable value && fieldsExtendable rest

end

/-! ## Plain values -/

mutual

/-- A value as a document shows it. -/
def toPlain : Bson → Value
  | .null => .null
  | .bool b => .bool b
  | .int n => .int n
  | .float x => .float x
  | .str s => .str s
  | .moment m => .moment m
  | .day d => .str d.text
  | .objectId hex => .str hex
  | .decimal d => .str d.text
  | .bytes data => binaryRecord data 0
  | .binary data subtype => binaryRecord data subtype
  | .timestamp time increment => timestampRecord time increment
  | .regex r => regexRecord r
  | .minKey => .obj [("$minKey", .int 1)]
  | .maxKey => .obj [("$maxKey", .int 1)]
  | .code s => .str s
  | .reference collection id database fields =>
      referenceRecord collection (extended id) database (extendedFields fields)
  | .arr items => .arr (toPlainItems items)
  | .obj fields => .obj (toPlainFields fields)

/-- The items of a list as a document shows them. -/
def toPlainItems : List Bson → List Value
  | [] => []
  | item :: items => toPlain item :: toPlainItems items

/-- The fields of a record as a document shows them. -/
def toPlainFields : List (String × Bson) → List (String × Value)
  | [] => []
  | (name, value) :: rest => (name, toPlain value) :: toPlainFields rest

end

mutual

/-- Whether a value has a plain form: every reference in it can be written in extended JSON. -/
def hasPlain : Bson → Bool
  | .reference _ id _ fields => isExtendable id && fieldsExtendable fields
  | .arr items => allHavePlain items
  | .obj fields => fieldsHavePlain fields
  | _ => true

/-- Whether the items of a list have a plain form. -/
def allHavePlain : List Bson → Bool
  | [] => true
  | item :: items => hasPlain item && allHavePlain items

/-- Whether the fields of a record have a plain form. -/
def fieldsHavePlain : List (String × Bson) → Bool
  | [] => true
  | (_, value) :: rest => hasPlain value && fieldsHavePlain rest

end

/-! ## Display texts -/

/-- A byte between the given quotes. -/
def shownByte (quote : Char) (byte : UInt8) : List Char :=
  let c := Char.ofNat byte.toNat
  if c == '\\' || c == quote then ['\\', c]
  else if c == '\n' then ['\\', 'n']
  else if c == '\r' then ['\\', 'r']
  else if c == '\t' then ['\\', 't']
  else if ' ' ≤ c && c ≤ '~' then [c]
  else '\\' :: 'x' :: hexDigits 2 byte.toNat

/-- Bytes in quotes, after the letter b. -/
def shownBytes (data : List UInt8) : String :=
  let quote := quoteFor (data.map (fun byte => Char.ofNat byte.toNat))
  String.ofList ('b' :: quote :: data.flatMap (shownByte quote) ++ [quote])

/-- The subtype of bytes that are to be kept secret. -/
def sensitiveSubtype : Nat := 8

/-- Bytes of a subtype inside a list or record; those to be kept secret are not told. -/
def shownBinary (data : List UInt8) (subtype : Nat) : String :=
  if subtype = sensitiveSubtype then "<Binary(REDACTED, " ++ decimalOfNat subtype ++ ")>"
  else "Binary(" ++ shownBytes data ++ ", " ++ decimalOfNat subtype ++ ")"

mutual

/-- A value as it is shown inside a list or record. -/
def nested : Bson → String
  | .null => Value.nested .null
  | .bool b => Value.nested (.bool b)
  | .int n => Value.nested (.int n)
  | .float x => Value.nested (.float x)
  | .str s => Value.nested (.str s)
  | .moment m => Value.nested (.moment m)
  | .day d => Value.nested (.day d)
  | .objectId hex => Value.nested (.objectId hex)
  | .decimal d => "Decimal128('" ++ decimalText d ++ "')"
  | .bytes data => shownBytes data
  | .binary data subtype => shownBinary data subtype
  | .timestamp time increment =>
      "Timestamp(" ++ decimalOfNat time ++ ", " ++ decimalOfNat increment ++ ")"
  | .regex r => r.shown
  | .minKey => "MinKey()"
  | .maxKey => "MaxKey()"
  | .code s => "Code(" ++ quoted s ++ ", None)"
  | .reference collection id database fields =>
      "DBRef(" ++ quoted collection ++ ", " ++ nested id ++
        (database.map (fun name => ", " ++ quoted name)).getD "" ++ nestedArguments fields ++ ")"
  | .arr items => "[" ++ joined ", " (nestedItems items) ++ "]"
  | .obj fields => "\x7b" ++ joined ", " (nestedFields fields) ++ "\x7d"

/-- The items of a list as they are shown. -/
def nestedItems : List Bson → List String
  | [] => []
  | item :: items => nested item :: nestedItems items

/-- The fields of a record as they are shown. -/
def nestedFields : List (String × Bson) → List String
  | [] => []
  | (name, value) :: rest => (quoted name ++ ": " ++ nested value) :: nestedFields rest

/-- The further fields of a reference as they are shown. -/
def nestedArguments : List (String × Bson) → String
  | [] => ""
  | (name, value) :: rest => ", " ++ name ++ "=" ++ nested value ++ nestedArguments rest

end

/-- The text that a value stands for. -/
def display : Bson → String
  | .str s => s
  | .code s => s
  | .moment m => (Value.moment m).display
  | .day d => (Value.day d).display
  | .objectId hex => hex
  | .decimal d => decimalText d
  | .binary data _ => shownBytes data
  | value => value.nested

/-! ## Shape -/

theorem toPlainItems_eq_map (items : List Bson) : toPlainItems items = items.map toPlain := by
  induction items with
  | nil => rfl
  | cons item items ih => simp [toPlainItems, ih]

theorem toPlainFields_eq_map (fields : List (String × Bson)) :
    toPlainFields fields = fields.map (fun field => (field.1, toPlain field.2)) := by
  induction fields with
  | nil => rfl
  | cons field fields ih => simp [toPlainFields, ih]

/-- A record keeps its names in order. -/
theorem names_toPlainFields (fields : List (String × Bson)) :
    Fields.names (toPlainFields fields) = fields.map (·.1) := by
  simp [toPlainFields_eq_map, Fields.names]

end Bson

end DocConsole
