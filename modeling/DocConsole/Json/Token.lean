import DocConsole.Number.Literal
import DocConsole.Text.Quoted

/-!
# The tokens of a JSON text

A JSON text is cut into punctuation, strings, numbers and words.  What cannot start or complete a
token becomes a last token of its own, so that a reader refuses it only when it gets that far.
Each token remembers the text from its start on.  Main statement: a token takes at least one
character.
-/

set_option autoImplicit false

namespace DocConsole.Json

open Text

/-! ## Problems -/

/-- What is wrong with a JSON text at some place. -/
inductive Problem where
  /-- A value should stand here. -/
  | expectedValue
  /-- The name of a field should stand here. -/
  | expectedName
  /-- A colon should stand here. -/
  | expectedColon
  /-- A comma or the end of the list or record should stand here. -/
  | expectedComma
  /-- The string that starts here does not end. -/
  | unterminatedText
  /-- A string holds a control character. -/
  | controlCharacter
  /-- A backslash is followed by a character that makes no escape. -/
  | badEscape
  /-- An escape lacks its four hexadecimal digits. -/
  | badUnitEscape
  /-- The text goes on after its value. -/
  | extraData
  /-- The text starts with a byte order mark. -/
  | byteOrderMark
  deriving DecidableEq, Repr

/-- The wording of a problem. -/
def Problem.message : Problem → String
  | .expectedValue => "Expecting value"
  | .expectedName => "Expecting property name enclosed in double quotes"
  | .expectedColon => "Expecting ':' delimiter"
  | .expectedComma => "Expecting ',' delimiter"
  | .unterminatedText => "Unterminated string starting at"
  | .controlCharacter => "Invalid control character at"
  | .badEscape => "Invalid \\escape"
  | .badUnitEscape => "Invalid \\uXXXX escape"
  | .extraData => "Extra data"
  | .byteOrderMark => "Unexpected UTF-8 BOM (decode using utf-8-sig)"

/-! ## Tokens -/

/-- A number that is no JSON number but has a name. -/
inductive Constant where
  /-- No number. -/
  | nan
  /-- Positive or negative infinity. -/
  | infinity (negative : Bool)
  deriving DecidableEq, Repr

/-- The name of a constant. -/
def Constant.name : Constant → String
  | .nan => "NaN"
  | .infinity false => "Infinity"
  | .infinity true => "-Infinity"

/-- The number that a constant names. -/
def Constant.toBinary64 : Constant → Binary64
  | .nan => .nan
  | .infinity negative => .infinity negative

/-- A token of a JSON text. -/
inductive Token where
  /-- An opening square bracket. -/
  | openList
  /-- A closing square bracket. -/
  | closeList
  /-- An opening curly bracket. -/
  | openRecord
  /-- A closing curly bracket. -/
  | closeRecord
  /-- A comma. -/
  | comma
  /-- A colon. -/
  | colon
  /-- A string. -/
  | text (s : String)
  /-- A number. -/
  | number (literal : DecimalLiteral)
  /-- The word null. -/
  | null
  /-- The word true or false. -/
  | bool (b : Bool)
  /-- A named number. -/
  | constant (c : Constant)
  /-- A string that is not well formed, with the place of the fault. -/
  | badText (problem : Problem) (place : List Char)
  /-- A character that starts no token. -/
  | unknown
  deriving DecidableEq, Repr

/-- A token and the text from its start on. -/
structure PlacedToken where
  /-- The token. -/
  token : Token
  /-- The text from the start of the token on. -/
  place : List Char

/-! ## Strings -/

/-- The unit that four hexadecimal digits name. -/
def unitOf? (a b c d : Char) : Option Nat :=
  match hexValue? a, hexValue? b, hexValue? c, hexValue? d with
  | some a, some b, some c, some d => some (((a * 16 + b) * 16 + c) * 16 + d)
  | _, _, _, _ => none

/-- The character that a one-letter escape stands for. -/
def simpleEscape? (c : Char) : Option Nat :=
  match c with
  | '"' => some 0x22
  | '\\' => some 0x5C
  | '/' => some 0x2F
  | 'b' => some 0x8
  | 'f' => some 0xC
  | 'n' => some 0xA
  | 'r' => some 0xD
  | 't' => some 0x9
  | _ => none

/-- The code points and escaped UTF-16 units of a string up to its closing quote, and what follows
the quote.  `start` is the text from the opening quote on; an escape with digits must be followed
by a further character. -/
def readUnits (start : List Char) : List Char → Except (Problem × List Char) (List Nat × List Char)
  | [] => .error (.unterminatedText, start)
  | '"' :: cs => .ok ([], cs)
  | ['\\'] => .error (.unterminatedText, start)
  | '\\' :: 'u' :: a :: b :: c :: d :: e :: cs =>
      match unitOf? a b c d with
      | none => .error (.badUnitEscape, 'u' :: a :: b :: c :: d :: e :: cs)
      | some unit =>
          match readUnits start (e :: cs) with
          | .error fault => .error fault
          | .ok (units, rest) => .ok (unit :: units, rest)
  | '\\' :: c :: cs =>
      if c = 'u' then .error (.badUnitEscape, c :: cs)
      else
        match simpleEscape? c with
        | none => .error (.badEscape, '\\' :: c :: cs)
        | some unit =>
            match readUnits start cs with
            | .error fault => .error fault
            | .ok (units, rest) => .ok (unit :: units, rest)
  | c :: cs =>
      if c.toNat < 0x20 then .error (.controlCharacter, c :: cs)
      else
        match readUnits start cs with
        | .error fault => .error fault
        | .ok (units, rest) => .ok (c.toNat :: units, rest)

/-- The characters of code points and units: a high unit and the low one after it make one
character.  A half without its partner is no character, and no text holds one: it is replaced by
U+FFFD, so that texts which differ only in such halves are read as the same. -/
def joinUnits : List Nat → List Char
  | [] => []
  | [unit] => [single unit]
  | high :: low :: rest =>
      if 0xD800 ≤ high && high < 0xDC00 && 0xDC00 ≤ low && low < 0xE000 then
        Char.ofNat (0x10000 + (high - 0xD800) * 0x400 + (low - 0xDC00)) :: joinUnits rest
      else single high :: joinUnits (low :: rest)
where
  /-- The character of a code point, or the replacement character. -/
  single (unit : Nat) : Char :=
    if 0xD800 ≤ unit && unit < 0xE000 then Char.ofNat 0xFFFD else Char.ofNat unit

/-! ## Numbers -/

/-- An ASCII digit. -/
def isAsciiDigit (c : Char) : Bool :=
  '0' ≤ c && c ≤ '9'

/-- The digits before the point: a zero that stands alone, or digits that do not start with
zero. -/
def readWhole : List Char → List Char × List Char
  | '0' :: cs => (['0'], cs)
  | cs => DecimalLiteral.spanOf isAsciiDigit cs

/-- The digits after a point; a point without digits is not part of the number. -/
def readFraction : List Char → Option (List Char) × List Char
  | '.' :: cs =>
      let (digits, rest) := DecimalLiteral.spanOf isAsciiDigit cs
      if digits.isEmpty then (none, '.' :: cs) else (some digits, rest)
  | cs => (none, cs)

/-- A minus sign at the front. -/
def readMinus : List Char → Bool × List Char
  | '-' :: cs => (true, cs)
  | cs => (false, cs)

/-- A number at the front, as long as possible. -/
def readNumber? (cs : List Char) : Option (DecimalLiteral × List Char) :=
  let (negative, unsigned) := readMinus cs
  let (whole, afterWhole) := readWhole unsigned
  if whole.isEmpty then none
  else
    let (fraction, afterFraction) := readFraction afterWhole
    let (exponent, rest) := DecimalLiteral.readExponent isAsciiDigit afterFraction
    some (⟨negative, whole, fraction, exponent⟩, rest)

/-! ## Cutting the text -/

/-- White space between tokens. -/
def isSpace (c : Char) : Bool :=
  c == ' ' || c == '\t' || c == '\n' || c == '\r'

/-- What follows a given word at the front. -/
def afterWord? : List Char → List Char → Option (List Char)
  | [], cs => some cs
  | w :: ws, c :: cs => if w = c then afterWord? ws cs else none
  | _ :: _, [] => none

/-- The words of JSON and the named numbers. -/
def words : List (List Char × Token) :=
  [("null".toList, .null), ("true".toList, .bool true), ("false".toList, .bool false),
   ("NaN".toList, .constant .nan), ("Infinity".toList, .constant (.infinity false)),
   ("-Infinity".toList, .constant (.infinity true))]

/-- The first word of a list that stands at the front, and what follows it. -/
def readWord? (cs : List Char) : List (List Char × Token) → Option (Token × List Char)
  | [] => none
  | (word, token) :: others =>
      match afterWord? word cs with
      | some rest => some (token, rest)
      | none => readWord? cs others

/-- The token that starts with `c`, and what follows it. -/
def readToken (c : Char) (cs : List Char) : Token × List Char :=
  match c with
  | '[' => (.openList, cs)
  | ']' => (.closeList, cs)
  | '\x7b' => (.openRecord, cs)
  | '\x7d' => (.closeRecord, cs)
  | ',' => (.comma, cs)
  | ':' => (.colon, cs)
  | '"' =>
      match readUnits (c :: cs) cs with
      | .ok (units, rest) => (.text (String.ofList (joinUnits units)), rest)
      | .error (problem, place) => (.badText problem place, [])
  | _ =>
      match readNumber? (c :: cs) with
      | some (literal, rest) => (.number literal, rest)
      | none =>
          match readWord? (c :: cs) words with
          | some (token, rest) => (token, rest)
          | none => (.unknown, [])

/-! ### A token takes at least one character -/

theorem readUnits_length {start cs rest : List Char} {units : List Nat}
    (h : readUnits start cs = .ok (units, rest)) : rest.length < cs.length := by
  fun_induction readUnits start cs generalizing units rest with
  | case1 => simp at h
  | case2 => simp_all
  | case3 => simp at h
  | case4 => simp at h
  | case5 => simp at h
  | case6 a b c d e cs unit found units' rest' hread ih =>
    simp only [Except.ok.injEq, Prod.mk.injEq] at h
    obtain ⟨_, rfl⟩ := h
    have hshorter := ih hread
    simp only [List.length_cons] at hshorter ⊢
    omega
  | case7 => simp at h
  | case8 => simp at h
  | case9 => simp at h
  | case10 c cs _ _ unit found units' rest' hread ih =>
    simp only [Except.ok.injEq, Prod.mk.injEq] at h
    obtain ⟨_, rfl⟩ := h
    have hshorter := ih hread
    simp only [List.length_cons] at hshorter ⊢
    omega
  | case11 => simp at h
  | case12 => simp at h
  | case13 =>
    rename_i units' rest' hread ih
    simp only [Except.ok.injEq, Prod.mk.injEq] at h
    obtain ⟨_, rfl⟩ := h
    have hshorter := ih hread
    simp only [List.length_cons] at hshorter ⊢
    omega

theorem length_spanOf_le (p : Char → Bool) (cs : List Char) :
    (DecimalLiteral.spanOf p cs).2.length ≤ cs.length := by
  simpa [DecimalLiteral.spanOf] using (List.dropWhile_sublist p).length_le

theorem length_readExponent_le (p : Char → Bool) (cs : List Char) :
    (DecimalLiteral.readExponent p cs).2.length ≤ cs.length := by
  unfold DecimalLiteral.readExponent
  split
  · rename_i c cs
    split
    · have hsign : (DecimalLiteral.readSign cs).2.length ≤ cs.length := by
        unfold DecimalLiteral.readSign
        split <;> simp
      have hdigits := length_spanOf_le p (DecimalLiteral.readSign cs).2
      simp only
      split <;> simp
      omega
    · simp
  · simp

theorem length_readFraction_le (cs : List Char) : (readFraction cs).2.length ≤ cs.length := by
  unfold readFraction
  split
  · rename_i cs
    have hdigits := length_spanOf_le isAsciiDigit cs
    simp only
    split <;> simp
    omega
  · simp

theorem length_readWhole (cs : List Char) :
    (readWhole cs).1.length + (readWhole cs).2.length = cs.length := by
  unfold readWhole
  split
  · simp [Nat.add_comm]
  · rw [← List.length_append, DecimalLiteral.spanOf_append]

theorem length_readMinus_le (cs : List Char) : (readMinus cs).2.length ≤ cs.length := by
  unfold readMinus
  split <;> simp

theorem readNumber?_length {cs rest : List Char} {literal : DecimalLiteral}
    (h : readNumber? cs = some (literal, rest)) : rest.length < cs.length := by
  unfold readNumber? at h
  simp only at h
  split at h
  · simp at h
  · rename_i hnonempty
    simp only [Option.some.injEq, Prod.mk.injEq] at h
    obtain ⟨_, rfl⟩ := h
    have hminus := length_readMinus_le cs
    have hwhole := length_readWhole (readMinus cs).2
    have hfraction := length_readFraction_le (readWhole (readMinus cs).2).2
    have hexponent := length_readExponent_le isAsciiDigit
      (readFraction (readWhole (readMinus cs).2).2).2
    have : (readWhole (readMinus cs).2).1.length ≠ 0 := by
      simpa [List.isEmpty_iff] using hnonempty
    omega

theorem afterWord?_length {word cs rest : List Char} (h : afterWord? word cs = some rest) :
    rest.length + word.length = cs.length := by
  fun_induction afterWord? word cs with
  | case1 => simp_all
  | case2 => grind
  | case3 => simp at h
  | case4 => simp at h

theorem readWord?_length {cs rest : List Char} {token : Token} {list : List (List Char × Token)}
    (hnonempty : ∀ entry ∈ list, entry.1 ≠ []) (h : readWord? cs list = some (token, rest)) :
    rest.length < cs.length := by
  induction list with
  | nil => simp [readWord?] at h
  | cons entry others ih =>
    unfold readWord? at h
    split at h
    · rename_i rest' hfound
      simp only [Option.some.injEq, Prod.mk.injEq] at h
      obtain ⟨_, rfl⟩ := h
      have hlonger := afterWord?_length hfound
      have : entry.1.length ≠ 0 := by simpa using hnonempty entry (by simp)
      omega
    · exact ih (fun e he => hnonempty e (by simp [he])) h

theorem length_readToken_le (c : Char) (cs : List Char) :
    (readToken c cs).2.length ≤ cs.length := by
  unfold readToken
  split
  · simp
  · simp
  · simp
  · simp
  · simp
  · simp
  · split
    · rename_i hread
      exact Nat.le_of_lt (readUnits_length hread)
    · simp
  · split
    · rename_i hread
      exact Nat.le_of_lt_succ (readNumber?_length hread)
    · split
      · rename_i hread
        exact Nat.le_of_lt_succ (readWord?_length (by decide) hread)
      · simp

/-- The tokens of a text. -/
def tokens : List Char → List PlacedToken
  | [] => []
  | c :: cs =>
      if isSpace c then tokens cs
      else ⟨(readToken c cs).1, c :: cs⟩ :: tokens (readToken c cs).2
  termination_by cs => cs.length
  decreasing_by
    · simp
    · exact Nat.lt_succ_of_le (length_readToken_le c cs)

end DocConsole.Json
