import DocConsole.Fault
import DocConsole.Json.Writer
import DocConsole.Number.Literal
import DocConsole.Text.Blank
import DocConsole.Value.Display

/-!
# Literals in statements

How a word of a statement becomes a value, and how a value is written as such a word: `true` and
`false` are truth values, decimal literals are numbers, one pair of quotes around a text is taken
off, and anything else is a text as it stands.  Main statement: a text within quotes that is not
read as a number loses exactly that pair.
-/

set_option autoImplicit false

namespace DocConsole

open Text

/-! ## Quotes -/

/-- A quote that can stand around a text. -/
def isQuote (c : Char) : Bool :=
  c == '\'' || c == '"'

/-- The characters between a matching pair of quotes; none without such a pair. -/
def betweenQuotes? : List Char → Option (List Char)
  | [] => none
  | opening :: rest =>
      if isQuote opening && rest.getLast? == some opening then some rest.dropLast else none

/-- A word without blanks around it and without one pair of quotes inside of those. -/
def stripQuotes (word : String) : String :=
  let cs := trim word.toList
  String.ofList ((betweenQuotes? cs).getD cs)

/-! ## Numbers -/

/-- The number that a word writes: nothing for any other word and for a number beyond the
binary64 format.  A whole number with too many digits is a fault. -/
def readNumber (word : String) : Except Fault (Option Value) :=
  match DecimalLiteral.read? word.toList with
  | none => .ok none
  | some literal =>
      if literal.isInteger then
        if maxIntegerDigits < literal.whole.length then
          .error (.tooManyDigits literal.whole.length)
        else .ok (some (.int literal.toInt))
      else
        let x := literal.toBinary64
        .ok (if x.isFinite then some (.float x) else none)

/-! ## Words and values -/

/-- The value that a word of a statement stands for. -/
def readLiteral (word : String) : Except Fault Value :=
  if word = "true" then .ok (.bool true)
  else if word = "false" then .ok (.bool false)
  else
    match readNumber word with
    | .error fault => .error fault
    | .ok (some number) => .ok number
    | .ok none =>
        match betweenQuotes? word.toList with
        | some inner => .ok (.str (String.ofList inner))
        | none => .ok (.str word)

/-- A value as a word of a statement, lists and records as JSON. -/
def writeLiteral : Value → Except Fault String
  | .bool b => .ok (if b then "true" else "false")
  | .null => .ok "null"
  | .arr items => writeNested (.arr items)
  | .obj fields => writeNested (.obj fields)
  | value => .ok value.display
where
  /-- A list or record as JSON on one line. -/
  writeNested (value : Value) : Except Fault String :=
    match Json.foreign? value with
    | some typeName => .error (.notWritable typeName)
    | none => .ok (Json.write .spaced value)

theorem betweenQuotes?_pair (quote : Char) (h : isQuote quote = true) (cs : List Char) :
    betweenQuotes? (quote :: (cs ++ [quote])) = some cs := by
  simp [betweenQuotes?, h]

/-- A word in quotes that writes no number loses the pair and nothing else. -/
theorem readLiteral_quoted {word : String} {quote : Char} {cs : List Char}
    (hquote : isQuote quote = true) (hword : word.toList = quote :: (cs ++ [quote]))
    (hnumber : readNumber word = .ok none) :
    readLiteral word = .ok (.str (String.ofList cs)) := by
  have htrue : word ≠ "true" := by
    rintro rfl
    have hhead : quote = 't' := by simpa using (congrArg List.head? hword).symm
    subst hhead
    simp [isQuote] at hquote
  have hfalse : word ≠ "false" := by
    rintro rfl
    have hhead : quote = 'f' := by simpa using (congrArg List.head? hword).symm
    subst hhead
    simp [isQuote] at hquote
  simp [readLiteral, htrue, hfalse, hnumber, hword, betweenQuotes?_pair quote hquote]

end DocConsole
